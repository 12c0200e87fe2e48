import CWriter.Build.Maker
import CWriter.Session.Classes
import CWriter.Session.Store

/-!
Sessions: objects under names, and commands on them. Entities are shared; an edit of one
shows wherever it sits, and in every list that was taken from one of its fields. What a
command answers is plain data, in which an entity stands as the name under which it is known.
-/
namespace CWriter

structure Session where
  /-- The named objects, in the order in which their names were first used. -/
  handles : List (String × Held) := []
  ledger : Ledger := {}
  store : Store := {}
  /-- How many answers there have been. -/
  answers : Nat := 0

inductive Action where
  /-- Builds an object of a class from its fields. -/
  | new (className : String) (members : Members)
  /-- Puts data to the check of a class. -/
  | read (className : String) (data : Value)
  | make (maker : Maker) (args : List Value)
  /-- Asks for what has a name, if it is asked for as its arguments demand. -/
  | call (handle name : String) (request : Option (Verb × List Value))
  /-- Looks at an attribute, and from there at attributes and positions. -/
  | look (handle : String) (path : List Value)
  | assign (handle attr : String) (value : Value)
  | equal (one other : String)
  | identical (one other : String)
  | dump (handle : String)
  | text (handle : String) (style : Value)

namespace Action

/-- Whether an action answers with a description, which cannot be given a name. -/
def describes : Action → Bool
  | dump _ | text .. => true
  | _ => false

/-- What an action takes that may refer to objects. -/
def inputs : Action → Value
  | new _ members => .object members
  | read _ data => data
  | make _ args => .list args
  | call _ _ request => .list (request.elim [] Prod.snd)
  | assign _ _ value => value
  | look .. | equal .. | identical .. | dump _ | text .. => .null

end Action

structure Command where
  action : Action
  /-- The name that the answer is bound to. -/
  bind : Option String := none

/-- What became of a command, and what was warned of on the way. -/
structure Outcome where
  result : Except Fault Value
  warnings : List Warning

namespace Session

/-- A named object as it is now. -/
def held (s : Session) (handle : String) : Except Fault Held :=
  match s.handles.lookup handle with
  | some h => .ok (s.store.heldNow h)
  | none => .error (.unknown handle)

def get (s : Session) (handle : String) : Except Fault Value := (·.value) <$> s.held handle

/-- Binds a name. A name that is in use keeps its place. -/
def bound (name : String) (h : Held) : List (String × Held) → List (String × Held)
  | [] => [(name, h)]
  | (other, g) :: rest =>
    if other = name then (name, h) :: rest else (other, g) :: bound name h rest

def bind (s : Session) (name : String) (h : Held) : Session :=
  { s with handles := bound name h s.handles }

/-- A value that stands nowhere, as the answer to the present command. -/
def answered (s : Session) (v : Value) : Held := ⟨v, .answer s.answers⟩

mutual

/-- Puts the objects in the place of the references to them. -/
def resolve (s : Session) : Value → Except Fault Value
  | .list items => .list <$> s.resolveItems items
  | .object [("ref", .str handle)] => s.get handle
  | .object members => .object <$> s.resolveMembers members
  | v => .ok v

def resolveItems (s : Session) : List Value → Except Fault (List Value)
  | [] => .ok []
  | v :: rest => do
    let v ← s.resolve v
    return v :: (← s.resolveItems rest)

def resolveMembers (s : Session) : Members → Except Fault Members
  | [] => .ok []
  | (name, v) :: rest => do
    let v ← s.resolve v
    return (name, v) :: (← s.resolveMembers rest)

end

mutual

/-- The names that a value refers to. -/
def references : Value → List String
  | .list items => referencesOfItems items
  | .object [("ref", .str handle)] => [handle]
  | .object members => referencesOfMembers members
  | _ => []

def referencesOfItems : List Value → List String
  | [] => []
  | v :: rest => references v ++ referencesOfItems rest

def referencesOfMembers : Members → List String
  | [] => []
  | (_, v) :: rest => references v ++ referencesOfMembers rest

end

/-- The texts and numbers that are handed over by name, with their places. -/
def atoms (s : Session) (inputs : Value) : List Held :=
  (references inputs).flatMap fun handle => (s.held handle).toOption.elim [] s.store.heldAtoms

/-- The first name of an object. -/
def nameOf? (s : Session) (h : Held) : Option String :=
  (s.handles.find? fun (_, other) => other.same h).map Prod.fst

mutual

/-- What stands at a place, as plain data. -/
def describe (s : Session) (place : Place) : Value → Value
  | .type t => .object [("obj", .str t.className), ("text", .str t.text)]
  | .expr e => .object [("obj", .str e.className), ("text", .str e.text)]
  | .word w => .str w.text
  | .list items | .tuple items => .list (s.describeItems place 0 items)
  | v@(.entity _) | v@(.float _) | v@(.object _) =>
    .object [("obj", .str v.className), ("is", Value.ofOption .str (s.nameOf? ⟨v, place⟩))]
  | v => v

def describeItems (s : Session) (place : Place) (position : Nat) : List Value → List Value
  | [] => []
  | v :: rest =>
    s.describe (s.store.itemPlace place position) v :: s.describeItems place (position + 1) rest

end

/-- Takes in a value that a command made: its new objects, and where the texts and numbers in
them come from. -/
def made (s : Session) (oldest : Id) (atoms : List Held) (v : Value) : Held × Session :=
  let store := (s.store.keepNew oldest v).adopt atoms (s.store.newAtoms oldest v)
  (s.answered v, { s with store })

/-- The result of a check. -/
def checked (s : Session) (atoms : List Held) (x : Check Value) : Except Fault Held × Session :=
  match x.alone s.ledger with
  | (.ok v, ledger) =>
    let (h, after) := { s with ledger }.made s.ledger.next atoms v
    (.ok h, after)
  | (.error ps, ledger) => (.error (.invalid ps), { s with ledger })

/-- The result of a check, if `what` names one. -/
def checkedNamed (s : Session) (atoms : List Held) (what : String) (x : Option (Check Value)) :
    Except Fault Held × Session :=
  match x with
  | some x => s.checked atoms x
  | none => (.error (.unknown what), s)

/-- The text of an object on its own, unless it has no end. -/
def textOf (style : Style) : Value → Except Fault Value
  | .entity (.baseClass b) => .ok (.str b.text)
  | v =>
    if v.isEndless Entity.written then .error .endless
    else (v.print style).mapError .layout |>.map .str

/-- Whether a verb asks a type or an expression for a text. -/
def asksForText : Verb → Bool
  | .text | .declare => true
  | _ => false

/-- What is wrong with the numbers of a text that a verb asks for. -/
def misspelt? (verb : Verb) (numerals : List Int) : Option Fault :=
  if asksForText verb then (LayoutFault.ofNumbers? numerals).map .layout else none

/-- The field that a verb gives a new value. -/
def replacedBy? : Verb → Option String
  | .setBody => some "body"
  | .setBase => some "bases"
  | .setValue => some "value"
  | .setComment => some "comment"
  | .setDefault => some "default"
  | .setBitWidth => some "width"
  | .setFilename => some "filename"
  | _ => none

/-- Whether a verb hands on the name of what it is asked of. -/
def handsOnName : Verb → Bool
  | .newConstructor | .newDestructor | .toType => true
  | _ => false

/-- A field of an object with its place. -/
def fieldOf? (s : Session) (v : Value) (name : String) : Option Held := do
  let w ← v.fields.lookup name
  return s.store.heldNow ⟨w, v.id?.elim (.answer s.answers) (s.store.fieldPlace · name w)⟩

/-- Notes that a qualified type is a copy of the type that it was made from. -/
def copied (s : Session) (original : CType) (result : Except Fault Held) : Session :=
  match original.id?, result with
  | some id, .ok ⟨.type t, _⟩ =>
    { s with store := t.id?.elim s.store (s.store.copied id · t.fields) }
  | _, _ => s

/-- Asks an entity for something. -/
def callOn (s : Session) (e : Entity) (verb : Verb) (atoms : List Held)
    (edit : StateM Ledger (Except Fault Reply × Entity)) : Except Fault Held × Session :=
  let oldest := s.ledger.next
  match edit s.ledger with
  | ((result, after), ledger) =>
    let replaced := if result.toBool then replacedBy? verb else none
    let store := replaced.elim s.store (s.store.replace e.id)
    let store := store.settle oldest after
    let names := if handsOnName verb then (s.fieldOf? (.entity e) "name").toList else []
    let atoms := names ++ atoms
    let store := store.adopt atoms (store.editedAtoms oldest replaced e after)
    let s := { s with ledger, store }
    match result with
    | .error fault => (.error fault, s)
    | .ok .itself => (.ok (s.answered (.entity after)), s)
    | .ok (.value v) =>
      let (h, s) := s.made oldest atoms v
      let copies := if verb = .toDecl then Store.newObjects oldest Value.mostLevels v else []
      (.ok h, { s with store := s.store.copiedDeeply oldest copies })

/-- Whether an object writes itself as a word that is the same for all of its kind. -/
def writesFixedWord (v : Value) : Bool :=
  let has (name : String) (p : Value → Bool) : Bool := (v.fields.lookup name).any p
  match v with
  | .type _ =>
    has "kind" (fun | .word (.builtin (some _)) => true | _ => false) &&
      has "is_const" (!·.countsAsTrue) && has "is_volatile" (!·.countsAsTrue)
  | .expr _ => has "value" fun | .bool _ => true | _ => false
  | _ => false

/-- The text of a type or an expression that was asked for it. Where it is nothing but a field,
it is the text of that field. -/
def ownText (s : Session) (v : Value) : Held → Held
  | ⟨.str text, place⟩ =>
    let field? := v.fields.find? fun (name, w) =>
      ["name", "text"].contains name && w.equal (.str text)
    match field? with
    | some (name, w) => (s.fieldOf? v name).getD ⟨w, place⟩
    | none => ⟨.str text, if writesFixedWord v then .constant text else place⟩
  | h => h

/-- Asks an object for something; for its text, whatever has one. -/
def call (s : Session) (receiver : Value) (name : String) (verb : Verb) (args : List Value)
    (atoms : List Held) : Except Fault Held × Session :=
  let missing : Except Fault Held × Session :=
    (.error (.noAttribute receiver.className name), s)
  match receiver with
  | .type t =>
    match t.derive verb args, misspelt? verb t.numerals with
    | none, _ => missing
    | _, some fault => (.error fault, s)
    | some x, none =>
      let (result, s) := s.checked atoms x
      match verb with
      | .const | .volatile => (result, s.copied t result)
      | .text | .declare => (s.ownText receiver <$> result, s)
      | _ => (result, s)
  | .expr e =>
    match e.derive verb args, misspelt? verb e.numerals with
    | none, _ => missing
    | _, some fault => (.error fault, s)
    | some x, none =>
      let (result, s) := s.checked atoms x
      (if verb = .text then s.ownText receiver <$> result else result, s)
  | .entity e =>
    match verb, args, e with
    | .text, _, .sheet _ | .text, _, .branch _ | .text, _, .case _ => missing
    | .text, style :: _, _ => (s.answered <$> textOf style.style receiver, s)
    | verb, args, e => (e.call? verb args).elim missing (s.callOn e verb atoms)
  | _ => missing

/-- Names that start with an underscore are free for anyone's use, on any object. -/
def isPrivate (name : String) : Bool := name.startsWith "_"

/-- What the members of enumerations show beside their text. -/
def wordProperty? (w : Word) : String → Option String
  | "value" => some w.text
  | "name" => some w.text.toUpper
  | _ => none

/-- What an object shows under a name, and where it stands. -/
def attributeOf? (s : Session) (v : Value) (name : String) : Option (Except Fault Held) :=
  let constant (text : String) : Except Fault Held := .ok ⟨.str text, .constant text⟩
  match s.fieldOf? v name, v with
  | some h, _ => some (.ok h)
  | none, .word w => constant <$> wordProperty? w name
  | none, v =>
    ((v.id?.bind (s.store.private? · name)).map fun h => .ok (s.store.heldNow h)).or <|
      match v with
      | .entity e =>
        ((e.property? name).map (·.map s.answered)).or ((e.common? name).map constant)
      | _ => none

/-- The item of a sequence at a position counted from either end. -/
def itemAt (s : Session) (sequence : String) (place : Place) (items : List Value) (n : Int) :
    Except Fault Held :=
  let position := if 0 ≤ n then n.toNat else (items.length + n).toNat
  match if -n ≤ items.length then items[position]? else none with
  | some v => .ok (s.store.heldNow ⟨v, s.store.itemPlace place position⟩)
  | none => .error (.outOfRange sequence)

/-- An attribute of an object, or an item of a sequence. -/
def lookAt (s : Session) (h : Held) : Value → Except Fault Held
  | .int n =>
    match h.value with
    | .list items => s.itemAt "list" h.place items n
    | .tuple items => s.itemAt "tuple" h.place items n
    | .str text => s.itemAt "string" h.place (text.toList.map fun c => .str c.toString) n
    | v => .error (.noPositions v.className)
  | key =>
    let name := key.plainText
    match s.attributeOf? h.value name with
    | some found => found
    | none => .error (.noAttribute h.value.className name)

/-- Follows a path from a named object. -/
def look (s : Session) (handle : String) (path : List Value) : Except Fault Held := do
  path.foldlM s.lookAt (← s.held handle)

/-- The constructors and destructors of a class follow its name. -/
def nameHandedOn (store : Store) (attr : String) : Entity → Store
  | .cls c =>
    if attr ≠ "name" then store
    else
      c.members.foldl (fun store m =>
        match m with
        | .constructor _ | .destructor _ =>
          let store := store.replace m.entity.id "name"
          store.derive (store.fieldPlace m.entity.id "name" (.str c.name.text))
            (store.fieldPlace c.id "name" (.str c.name.text))
        | _ => store) store
  | _ => store

/-- Assigns to a field of an entity. -/
def assignToEntity (s : Session) (e : Entity) (attr : String) (atoms : List Held) (v : Value) :
    Except Fault Held × Session :=
  let oldest := s.ledger.next
  match e.assignTo attr v s.ledger with
  | ((.ok (), after), ledger) =>
    let store := (s.store.replace e.id attr).settle oldest after
    let store := store.adopt atoms (store.editedAtoms oldest (some attr) e after)
    (.ok (s.answered .null), { s with ledger, store := nameHandedOn store attr after })
  | ((.error fault, after), ledger) =>
    (.error fault, { s with ledger, store := s.store.settle oldest after })

/-- Types and expressions are never changed, their private names apart. -/
def assignTo (s : Session) (receiver : Value) (attr : String) (atoms : List Held) (h : Held) :
    Except Fault Held × Session :=
  match receiver.id?, isPrivate attr, receiver with
  | some id, true, _ =>
    (.ok (s.answered .null),
      { s with store := { s.store with privates := ((id, attr), h) :: s.store.privates } })
  | _, _, .entity e => s.assignToEntity e attr atoms h.value
  | some _, _, _ => (.error (.invalid [⟨[attr], .frozen⟩]), s)
  | none, _, v => (.error (.noAttribute v.className attr), s)

/-- Compares two objects by name. -/
def both (s : Session) (one other : String) (f : Held → Held → Except Fault Bool) :
    Except Fault Held := do
  return s.answered (.bool (← f (← s.held one) (← s.held other)))

/-- Whether two objects are equal. The comparison of two that lead back to themselves has no end
where they do not differ, unless they are one object. -/
def equal (a b : Held) : Except Fault Bool :=
  let endless (h : Held) := h.value.isEndless Entity.parts
  if !a.value.equal b.value then .ok false
  else if a.same b || (!endless a && !endless b) then .ok true
  else if endless a && endless b then .error .endless
  else .ok false

/-- A value with the objects in it, and where it stands if it is an object itself. -/
def resolveHeld (s : Session) : Value → Except Fault Held
  | .object [("ref", .str handle)] => s.held handle
  | v => s.answered <$> s.resolve v

/-- Goes on with what was resolved, or fails. -/
def withResolved (s : Session) (x : Except Fault α) (f : α → Except Fault Held × Session) :
    Except Fault Held × Session :=
  match x with
  | .ok a => f a
  | .error e => (.error e, s)

def act (s : Session) (action : Action) : Except Fault Held × Session :=
  let atoms := s.atoms action.inputs
  match action with
  | .new className members =>
    s.withResolved (s.resolveMembers members) fun members =>
      s.checkedNamed atoms className (acceptNamed className (.object members))
  | .read className data =>
    s.withResolved (s.resolve data) fun data =>
      s.checkedNamed atoms className (acceptNamed className data)
  | .make maker args =>
    s.withResolved (s.resolveItems args) fun args =>
      let own := maker.ownText?.toList.map fun text => ⟨.str text, .constant text⟩
      s.checkedNamed (own ++ atoms) "" (maker.make args)
  | .call handle name request =>
    let (verb?, args) := (request.map Prod.fst, request.elim [] Prod.snd)
    s.withResolved (return (← s.get handle, ← s.resolveItems args)) fun (receiver, args) =>
      match verb? with
      | some verb => s.call receiver name verb args atoms
      | none => (.error (.noAttribute receiver.className name), s)
  | .look handle path => (s.look handle path, s)
  | .assign handle attr value =>
    s.withResolved (return (← s.get handle, ← s.resolveHeld value)) fun (receiver, h) =>
      s.assignTo receiver attr atoms h
  | .equal one other => (s.both one other equal, s)
  | .identical one other => (s.both one other fun a b => .ok (one == other || a.same b), s)
  | .dump handle =>
    s.withResolved (s.get handle) fun v => (s.answered <$> v.dump.mapError .dump, s)
  | .text handle style =>
    s.withResolved (return (← s.get handle, ← s.resolve style)) fun (v, style) =>
      match style with
      | .object members =>
        match (StyleSheet.schema.build members).alone s.ledger with
        | (.ok sheet, ledger) => (s.answered <$> textOf sheet.style v, { s with ledger })
        | (.error ps, ledger) => (.error (.invalid ps), { s with ledger })
      | style => (s.answered <$> textOf style.style v, s)

/-- Runs a command. The answer is described before it is bound to a name. -/
def run (s : Session) (c : Command) : Outcome × Session :=
  let s := { s with ledger := { s.ledger with warnings := [] }, answers := s.answers + 1 }
  match s.act c.action with
  | (.error e, after) => (⟨.error e, after.ledger.warnings⟩, after)
  | (.ok h, after) =>
    let describes := c.action.describes
    let shown := if describes then h.value else after.describe h.place h.value
    let name := if describes then none else c.bind
    (⟨.ok shown, after.ledger.warnings⟩, name.elim after (after.bind · h))

/-- The text of a watched object, in any style, once its name is bound. -/
def watched (s : Session) (handle : String) : Option (Style → Except Fault Value) :=
  (s.handles.lookup handle).map fun h style => textOf style (s.store.heldNow h).value

end Session

end CWriter

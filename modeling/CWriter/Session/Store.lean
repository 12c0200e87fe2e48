import CWriter.Session.Held
import Std.Data.HashMap

/-!
The objects of a session. Entities are kept by their identities, each as it is now; of the
parts that stand in a kept entity only the identities count. Beside them stands what is known
of the places of plain data.
-/
namespace CWriter

structure Store where
  entities : Std.HashMap Id Entity := {}
  /-- The fields that were given new values, with what they held before, newest first. -/
  replaced : List ((Id × String) × Value) := []
  /-- What has been put under the private names of objects, newest first. -/
  privates : List ((Id × String) × Held) := []
  /-- Places whose values come from other places. -/
  origins : List (Place × Place) := []

namespace Store

/-- An entity as it is kept. -/
def latest (s : Store) (e : Entity) : Entity := (s.entities.get? e.id).getD e

/-- A block or scope without what stands in it. -/
def hollow : Entity → Entity
  | .block b => .block { b with stmts := [] }
  | .scope s => .scope { s with doc := none, items := [] }
  | e => e

/-- An entity with its parts as they are now, down to a level. Of a block or scope that stands in
itself only the identity is put there. Whoever reads on meets that identity again, and answers with
a fault in the place of what has no end. -/
def assembled (s : Store) : Nat → List Id → Entity → Entity
  | 0, _, e => e
  | levels + 1, holders, e =>
    e.mapParts fun part =>
      let part := s.latest part
      if part.holder?.any holders.contains then hollow part
      else s.assembled levels (part.holder?.toList ++ holders) part

/-- An entity as it is now with all that stands in it. No path of parts is longer than there are
entities, blocks and scopes with what stands between two of them counted as one. -/
def now (s : Store) (e : Entity) : Entity :=
  let e := s.latest e
  s.assembled (4 * s.entities.size + 4) e.holder?.toList e

def keep (s : Store) (e : Entity) : Store := { s with entities := s.entities.insert e.id e }

/-- An entity and the entities in it, down to a level, unless they are older than an identity. -/
def newIn (oldest : Id) : Nat → Entity → List Entity
  | 0, _ => []
  | levels + 1, e =>
    if e.id < oldest then [] else e :: e.parts.flatMap (newIn oldest levels)

/-- Keeps the entities of a value that are new. -/
def keepNew (s : Store) (oldest : Id) (v : Value) : Store :=
  (v.entities.flatMap (newIn oldest Value.mostLevels)).foldl keep s

/-- Keeps an entity that was edited, and the parts that may have changed with it. Of one part in
several places the first counts. -/
def settle (s : Store) (oldest : Id) (e : Entity) : Store :=
  (e.parts.foldr (fun part s => (s.keep part).keepNew oldest (.entity part)) s).keep e

/-- What a field held before it was given new values, first value first. -/
def formerValues (s : Store) (owner : Id) (name : String) : List Value :=
  s.replaced.reverse.filterMap fun (key, v) => if key = (owner, name) then some v else none

/-- How often a field was given a new value. -/
def version (s : Store) (owner : Id) (name : String) : Nat := (s.formerValues owner name).length

/-- What a field of a kept entity holds. -/
def fieldValue? (s : Store) (owner : Id) (name : String) : Option Value :=
  (s.entities.get? owner).bind fun e => e.fields.lookup name

/-- Notes that a field is about to be given a new value. -/
def replace (s : Store) (owner : Id) (name : String) : Store :=
  { s with
    replaced := ((owner, name), (s.fieldValue? owner name).getD .null) :: s.replaced }

/-- Where the value of a place comes from, after so many steps. -/
def originWithin (s : Store) : Nat → Place → Place
  | 0, p => p
  | steps + 1, p =>
    match s.origins.lookup p with
    | some q => s.originWithin steps q
    | none => p

def origin (s : Store) (p : Place) : Place := s.originWithin s.origins.length p

/-- Fields that hold a word that is written down with the class. -/
def fixedFields : List String := ["kind", "variant", "keyword"]

/-- A field as a place, as it is now. -/
def fieldPlace (s : Store) (owner : Id) (name : String) : Value → Place
  | .str word =>
    if fixedFields.contains name then .constant word
    else s.origin (.field owner name (s.version owner name))
  | _ => s.origin (.field owner name (s.version owner name))

def itemPlace (s : Store) (list : Place) (position : Nat) : Place := s.origin (.item list position)

/-- Notes where the value of a place comes from. -/
def derive (s : Store) (p origin : Place) : Store :=
  if s.origin p = s.origin origin then s else { s with origins := (p, origin) :: s.origins }

/-- The texts and numbers that a field holds or lists from a position on, with their places. -/
def atomsOf (s : Store) (owner : Id) (name : String) (start : Nat) (v : Value) :
    List (Place × Value) :=
  let place : Place := .field owner name (s.version owner name)
  match v with
  | .list items | .tuple items =>
    (items.zipIdx.drop start).filterMap fun (v, n) =>
      if v.isAtom then some (.item place n, v) else none
  | v => if v.isAtom then [(place, v)] else []

/-- The objects in a value, down to a level, that are not older than an identity. -/
def newObjects (oldest : Id) : Nat → Value → List (Id × Members)
  | 0, _ => []
  | levels + 1, v =>
    match v with
    | .list items | .tuple items => items.flatMap (newObjects oldest levels)
    | v =>
      match v.id? with
      | none => []
      | some id =>
        if id < oldest then []
        else (id, v.fields) :: v.fields.flatMap fun (_, v) => newObjects oldest levels v

/-- The texts and numbers that a held value is or lists. -/
def heldAtoms (s : Store) (h : Held) : List Held :=
  match h.value with
  | .list items | .tuple items =>
    items.zipIdx.filterMap fun (v, n) => if v.isAtom then some ⟨v, s.itemPlace h.place n⟩ else none
  | v => if v.isAtom then [h] else []

/-- Notes that the values of some places come from values that are held, where they are equal. -/
def adopt (s : Store) (atoms : List Held) (places : List (Place × Value)) : Store :=
  places.foldl (fun s (place, v) =>
    match atoms.find? fun h => h.value.className == v.className && h.value.equal v with
    | some h => s.derive place h.place
    | none => s) s

/-- The places of texts and numbers in the new objects of a value. -/
def newAtoms (s : Store) (oldest : Id) (v : Value) : List (Place × Value) :=
  (newObjects oldest Value.mostLevels v).flatMap fun (id, fields) =>
    fields.flatMap fun (name, v) => s.atomsOf id name 0 v

/-- The places of texts and numbers that an edit put into an entity: in a field that was
replaced, in what lists are longer by, and in new objects. -/
def editedAtoms (s : Store) (oldest : Id) (replaced : Option String) (old new : Entity) :
    List (Place × Value) :=
  new.fields.flatMap fun (name, v) =>
    let own := if replaced = some name then s.atomsOf new.id name 0 v
      else
        match old.fields.lookup name, v with
        | some (.list before), .list _ => s.atomsOf new.id name before.length v
        | _, _ => []
    own ++ s.newAtoms oldest v

/-- A private value in a copy that is made of new parts. -/
def copiedHeld (s : Store) (offset owner : Id) (name : String) (h : Held) : Held :=
  match h.value with
  | .entity e =>
    match s.entities.get? (e.id + offset) with
    | some copy => { h with value := .entity copy }
    | none => h
  | .type t => { h with value := .type (t.shifted offset) }
  | .list _ | .object _ => { h with place := .field owner name 0 }
  | _ => h

/-- Notes that an object is a copy of another one and holds what the other one holds. -/
def copied (s : Store) (original copy : Id) (fields : Members) : Store :=
  let s := fields.foldl (fun s (name, _) =>
    s.derive (.field copy name 0) (.field original name (s.version original name))) s
  let privates := s.privates.filterMap fun ((id, name), h) =>
    if id = original then some ((copy, name), h) else none
  { s with privates := privates ++ s.privates }

/-- Notes that objects are copies, made of new parts, of those whose identities are less by an
offset. -/
def copiedDeeply (s : Store) (offset : Id) (objects : List (Id × Members)) : Store :=
  objects.foldl (fun s (id, fields) =>
    let original := id - offset
    let s := fields.foldl (fun s (name, v) =>
      let from' : Place := .field original name (s.version original name)
      (s.atomsOf id name 0 v).foldl (fun s (place, _) =>
        match place with
        | .item _ n => s.derive place (.item from' n)
        | place => s.derive place from') s) s
    let privates := s.privates.filterMap fun ((other, name), h) =>
      if other = original then some ((id, name), s.copiedHeld offset id name h) else none
    { s with privates := privates ++ s.privates }) s

/-- What stands under a private name. -/
def private? (s : Store) (owner : Id) (name : String) : Option Held :=
  s.privates.lookup (owner, name)

/-- A held value as it is now. A list of a field shows what the field holds, or what it held
last before it was given a new one. -/
def heldNow (s : Store) (h : Held) : Held :=
  let value : Value := match h.value, h.place with
    | .list items, .field owner name version =>
      (((s.formerValues owner name)[version]?).or (s.fieldValue? owner name)).getD (.list items)
    | v, _ => v
  let entityNow : Value → Value
    | .entity e => .entity (s.now e)
    | v => v
  { h with
    value := match value with
      | .list items => .list (items.map entityNow)
      | v => entityNow v }

end Store

end CWriter

import CWriter.Build.Verb
import CWriter.Check.Slot
import CWriter.Data.Dump

/-!
Edits. An edit changes one entity and may fail on the way; what it changed before it failed
stays changed. Edits of a part are edits of the whole through `Edit.zoom`.
-/
namespace CWriter

/-- Why a call is refused. -/
inductive Fault where
  | invalid (problems : List Problem)
  | identifier (fault : IdentifierFault)
  | externMethod (name : Identifier)
  | layout (fault : LayoutFault)
  /-- A text is asked for of what is written within itself. -/
  | endless
  /-- A setting of the environment that should be a number. -/
  | numeral (text : String) (fault : Text.NumeralFault)
  /-- An assignment to a field that an open class does not have. -/
  | noField (className name : String)
  /-- An assignment to what a class works out by itself. -/
  | noSetter (className name : String)
  /-- An assignment to what all entities of a class have in common. -/
  | common (className name : String)
  | noAttribute (className name : String)
  /-- A position that a list, a tuple or a text does not have. -/
  | outOfRange (sequence : String)
  /-- A value that has no positions. -/
  | noPositions (className : String)
  /-- A value that has no items. -/
  | noItems (className : String)
  | dump (fault : DumpFault)
  /-- A handle or class that does not exist. -/
  | unknown (name : String)

namespace Fault

/-- How much is shown of a text that is no number, its quotes included. -/
def shownLength : Nat := 200

def message : Fault → String
  | invalid problems => "\n".intercalate (problems.map Problem.line)
  | identifier fault => fault.message
  | externMethod name => "Method '" ++ name.text ++ "' cannot be declared extern"
  | layout (.noRoom width) =>
    if Text.isWritable width then "invalid width " ++ toString width ++ " (must be > 0)"
    else Text.digitsMessage ""
  | layout .noRendering => ""
  | layout .tooLong => Text.digitsMessage ""
  | layout .tooOften => "cannot fit 'int' into an index-sized integer"
  | layout .tooWide => "repeated string is too long"
  | endless => "maximum recursion depth exceeded"
  | numeral text .unreadable =>
    "invalid literal for int() with base 10: " ++
      String.ofList ((Text.quoted text).toList.take shownLength)
  | numeral _ (.tooLong digits) =>
    Text.digitsMessage (": value has " ++ toString digits ++ " digits")
  | noField className name =>
    "\"" ++ className ++ "\" object has no field \"" ++ name ++ "\""
  | noSetter className name =>
    "property '" ++ name ++ "' of '" ++ className ++ "' object has no setter"
  | common className name =>
    "'" ++ name ++ "' is a ClassVar of `" ++ className ++
      "` and cannot be set on an instance. If you want to set a value on the class, use `" ++
      className ++ "." ++ name ++ " = value`."
  | noAttribute className name =>
    "'" ++ className ++ "' object has no attribute " ++ Text.quoted name
  | outOfRange sequence => sequence ++ " index out of range"
  | noPositions className => "'" ++ className ++ "' object is not subscriptable"
  | noItems className => "'" ++ className ++ "' object is not iterable"
  | dump fault => fault.message
  | unknown name => "unknown name " ++ Text.quoted name

end Fault

abbrev Edit (σ α : Type) := ExceptT Fault (StateT σ (StateM Ledger)) α

namespace Edit

/-- A check of its own whose problems make the edit fail. -/
def check (x : Check α) : Edit σ α := fun s ledger =>
  match x.alone ledger with
  | (.ok a, after) => ((.ok a, s), after)
  | (.error ps, after) => ((.error (.invalid ps), s), after)

def ofExcept (f : ε → Fault) : Except ε α → Edit σ α
  | .ok a => pure a
  | .error e => throw (f e)

/-- An edit of a part. -/
def zoom (get : σ → τ) (put : τ → σ → σ) (x : Edit τ α) : Edit σ α := fun s ledger =>
  match x (get s) ledger with
  | ((result, part), after) => ((result, put part s), after)

end Edit

/-- Assigns to a field. The value is checked before it is stored, and the whole afterwards. -/
def Schema.assign (schema : Schema σ) (name : String) (v : Value) : Edit σ Unit := do
  match schema.assigned.find? (·.name == name) with
  | none =>
    throw (if schema.closed then .invalid [⟨[name], .noAttribute name⟩]
      else .noField schema.className name)
  | some slot =>
    let s ← get
    let stored := Check.entering schema.layer (Check.within name (slot.store s v))
    let changed ← Edit.check (Check.editing (schema.holder? s) stored)
    set changed
    Edit.check (schema.finish changed)

/-- What a call answers: the entity that it was made on, or a value. -/
inductive Reply where
  | itself
  | value (v : Value)

/-- What a class makes of verbs and their arguments; nothing, of most of them. -/
abbrev Methods (σ : Type) := Verb → List Value → Option (Edit σ Reply)

namespace Edit

/-- An edit that answers with the edited entity. -/
def chained (x : Edit σ Unit) : Option (Edit σ Reply) := some (x *> pure .itself)

def answering (x : Edit σ Value) : Option (Edit σ Reply) := some (Reply.value <$> x)

/-- An answer that depends on the entity alone. -/
def looking (f : σ → Value) : Option (Edit σ Reply) := answering (f <$> get)

/-- An answer that is a text of the entity alone, with numbers put into digits for it. -/
def spelling (numerals : σ → List Int) (f : σ → String) : Option (Edit σ Reply) := answering do
  let s ← get
  .str <$> ofExcept .layout (LayoutFault.spelt (numerals s) (f s))

def zoomMethods (get : σ → τ) (put : τ → σ → σ) (methods : Methods τ) : Methods σ :=
  fun verb args => (methods verb args).map (zoom get put)

end Edit

/-- What has the name that is given. Only a text is a name. -/
def Value.named? (v : Value) (find : String → Option α) : Option α := v.text?.bind find

/-- An argument that must be an identifier where no field is checked. -/
def Edit.identifierArg (v : Value) : Edit σ Identifier :=
  if v.countsAsTrue then Edit.ofExcept .identifier (Identifier.check v.plainText)
  else throw (.identifier .blank)

/-- The settings that an optional argument hands over. -/
def Value.style : Value → Style
  | .entity (.sheet s) => s.style
  | _ => {}

end CWriter

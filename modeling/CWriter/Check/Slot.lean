import CWriter.Check.Rule

/-!
Classes of entities as tables of fields. One table serves to build an entity from data and to
assign to one of its fields.
-/
namespace CWriter

/-- One field of a class: how a value is stored into it, and what happens when an object to build
from does not mention it. -/
structure Slot (σ : Type) where
  name : String
  store : σ → Value → Check σ
  absent : σ → Check σ

namespace Slot

/-- A field that a rule governs, and that an object to build from must mention. -/
def required (name : String) (rule : Rule α) (set : α → σ → σ) : Slot σ where
  name
  store s v := (set · s) <$> rule.accept v
  absent _ := Check.fail .missing

/-- A field that keeps its initial value when it is not mentioned. -/
def optional (name : String) (rule : Rule α) (set : α → σ → σ) : Slot σ :=
  { required name rule set with absent := pure }

/-- A field that is given a new part when it is not mentioned. -/
def made (name : String) (rule : Rule α) (make : Check α) (set : α → σ → σ) : Slot σ :=
  { required name rule set with absent := fun s => (set · s) <$> make }

/-- A field that always holds the same word. -/
def fixed (name word : String) : Slot σ where
  name
  store s v := (fun _ => s) <$> Rule.acceptFixed word v
  absent := pure

/-- The field of a part, as a field of the whole. -/
def zoom (get : σ → τ) (set : τ → σ → σ) (slot : Slot τ) : Slot σ where
  name := slot.name
  store s v := (set · s) <$> slot.store (get s) v
  absent s := (set · s) <$> slot.absent (get s)

/-- Reads one field from the members of an object. -/
def read (slot : Slot σ) (members : Members) (s : σ) : Check σ :=
  Check.within slot.name <|
    match Value.member? members slot.name with
    | some v => slot.store s v
    | none => slot.absent s

/-- Reads fields one after the other and reports the problems of all. -/
def readAll (members : Members) : List (Slot σ) → List Problem → σ → Check σ
  | [], [], s => pure s
  | [], problems, _ => throw problems
  | slot :: rest, problems, s => fun ledger =>
    match slot.read members s ledger with
    | (.ok read, after) => readAll members rest problems read after
    | (.error more, after) => readAll members rest (problems ++ more) s after

end Slot

/-- A class of entities. -/
structure Schema (σ : Type) where
  className : String
  slots : List (Slot σ)
  /-- What an entity holds before its fields are read. -/
  start : Id → σ
  /-- The fields as assignments find them, where these follow other rules. -/
  assigned : List (Slot σ) := slots
  /-- Whether an assignment to a field that does not exist is reported as a problem of that
  field. -/
  closed : Bool := true
  /-- How an entity of the class counts where it is entered. -/
  layer : Layer := .entity
  /-- The identity of an entity that may not be put into itself. -/
  holder? : σ → Option Id := fun _ => none
  /-- A last check, for which all fields have been read. Existing entities are put to it as well
  wherever they are accepted. -/
  finish : σ → Check Unit := fun _ => pure ()
  ofEntity? : Entity → Option σ

namespace Schema

/-- Builds an entity from the members of an object. -/
def build (schema : Schema σ) (members : Members) : Check σ :=
  Check.entering schema.layer do
    let id ← Check.fresh
    let s ← Slot.readAll members schema.slots [] (schema.start id)
    schema.finish s
    pure s

/-- An existing entity, if it is one of the class. -/
def take (schema : Schema σ) (e : Entity) : Check σ := do
  Check.notEdited e.id
  Check.entering schema.layer do
    let s ← Check.ofOption (.notInstance schema.className) (schema.ofEntity? e)
    schema.finish s
    pure s

/-- An entity of the class is taken as it is; an object is built into a new one. -/
def accept (schema : Schema σ) : Value → Check σ
  | .object members => schema.build members
  | .entity e => schema.take e
  | _ => Check.entering schema.layer (Check.fail (.notInstance schema.className))

def rule (schema : Schema σ) : Rule σ := ⟨schema.accept⟩

end Schema

end CWriter

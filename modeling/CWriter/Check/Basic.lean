import CWriter.Check.Problem
import CWriter.Data.Nesting

/-!
Checking values. A check yields a result or the problems that it met, in the order of
discovery; it hands out the identities of new entities and records what it warns of. Checks
in sequence stop at the first that fails; a form runs all of its checks and yields the
problems of all.
-/
namespace CWriter

/-- A passed integer width that is none of the fixed ones, or an explicit absence of one. -/
structure Warning where
  width : Option Int
  deriving DecidableEq

def Warning.message (w : Warning) : String :=
  let shown := match w.width with
    | none => "None"
    | some n => toString n
  "Unsupported integer size: " ++ shown ++ ". Defaulting to 64 bits"

/-- The next free identity, the warnings so far, and where the checks under way have come to. -/
structure Ledger where
  next : Id := 0
  warnings : List Warning := []
  /-- How many levels are under way. -/
  depth : Nat := 0
  frame : Frame := { outermost := true }
  /-- The entity to whose field a value is assigned, if it may not be put into itself. -/
  edited : Option Id := none

abbrev Check (α : Type) := ExceptT (List Problem) (StateM Ledger) α

namespace Check

def fail (c : Complaint) : Check α := throw [⟨[], c⟩]

/-- Problems are reported under a path segment. -/
def within (segment : String) (x : Check α) : Check α := fun ledger =>
  match x ledger with
  | (.ok a, after) => (.ok a, after)
  | (.error ps, after) => (.error (ps.map (Problem.under segment)), after)

/-- A fresh identity. -/
def fresh : Check Id := fun ledger => (.ok ledger.next, { ledger with next := ledger.next + 1 })

def warn (ws : List Warning) : Check Unit := fun ledger =>
  (.ok (), { ledger with warnings := ledger.warnings ++ ws })

def ofOption (c : Complaint) : Option α → Check α
  | none => fail c
  | some a => pure a

/-- A check as a level of its own. One that would nest too deep is refused. -/
def level (x : Check α) : Check α := fun ledger =>
  if mostNested ≤ ledger.depth then (.error [⟨[], .tooDeep⟩], ledger)
  else
    match x { ledger with depth := ledger.depth + 1 } with
    | (result, after) => (result, { after with depth := ledger.depth })

/-- A check as a number of levels. -/
def levels : Nat → Check α → Check α
  | 0, x => x
  | n + 1, x => level (levels n x)

/-- A check of what is entered. -/
def entering (layer : Layer) (x : Check α) : Check α := fun ledger =>
  let (n, frame) := ledger.frame.enter layer
  match levels n (fun ledger => x { ledger with frame }) ledger with
  | (result, after) => (result, { after with frame := ledger.frame })

/-- Another complaint in the place of all problems. -/
def refusing (c : Complaint) (x : Check α) : Check α := fun ledger =>
  match x ledger with
  | (.ok a, after) => (.ok a, after)
  | (.error _, after) => (.error [⟨[], c⟩], after)

/-- A check that is within no other. -/
def alone (x : Check α) : Check α := fun ledger =>
  x { ledger with depth := 0, frame := { outermost := true }, edited := none }

/-- A check of a value that may be of one of several classes. -/
def ofUnion (x : Check α) : Check α := fun ledger => x { ledger with frame := .ofUnion }

/-- A check of a value for a field of an entity that may not be put into itself. -/
def editing (id : Option Id) (x : Check α) : Check α := fun ledger => x { ledger with edited := id }

/-- An entity may not be put into itself. -/
def notEdited (id : Id) : Check Unit := fun ledger =>
  if ledger.edited = some id then (.error [⟨[], .cyclic⟩], ledger) else (.ok (), ledger)

/-- The result if there is one, and the warnings on the way to it, which are kept back. -/
def attempt (x : Check α) : Check (Option α × List Warning) := fun ledger =>
  match x { ledger with warnings := [] } with
  | (.ok a, after) => (.ok (some a, after.warnings), { after with warnings := ledger.warnings })
  | (.error _, after) => (.ok (none, after.warnings), { after with warnings := ledger.warnings })

end Check

/-- A check whose parts are all run, whatever becomes of the others. -/
structure Form (α : Type) where
  check : Check α

namespace Form

/-- Both results, or the problems of both. -/
def both (x : Check α) (y : Check β) : Check (α × β) := fun ledger =>
  match x ledger with
  | (.ok a, after) =>
    match y after with
    | (.ok b, last) => (.ok (a, b), last)
    | (.error qs, last) => (.error qs, last)
  | (.error ps, after) =>
    match y after with
    | (.ok _, last) => (.error ps, last)
    | (.error qs, last) => (.error (ps ++ qs), last)

instance : Applicative Form where
  pure a := ⟨pure a⟩
  seq f x := ⟨(fun (g, a) => g a) <$> both f.check (x ()).check⟩

end Form

/-- Checks the items of a list, each under its position. -/
def Check.each (f : Value → Check α) (position : Nat) : List Value → Check (List α)
  | [] => pure []
  | v :: rest =>
    (fun (a, as) => a :: as) <$>
      Form.both (within (toString position) (f v)) (each f (position + 1) rest)

end CWriter

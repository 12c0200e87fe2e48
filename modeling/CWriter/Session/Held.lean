import CWriter.Data.Equal

/-!
What a session holds on to: a value together with the place where it was found. Plain data have
no identity of their own; they are known by their places, and two are the same object if they
were found in one place while the place held one object.
-/
namespace CWriter

/-- Where a value was found. -/
inductive Place where
  /-- A field of an object; `version` counts how often the field was given a new value. -/
  | field (owner : Id) (name : String) (version : Nat)
  | item (list : Place) (position : Nat)
  /-- A value that exists once and is written down in many places. -/
  | constant (text : String)
  /-- A value that stood nowhere before it was answered. -/
  | answer (number : Nat)
  deriving DecidableEq

structure Held where
  value : Value
  place : Place

namespace Value

/-- The characters that exist once, as numbers. -/
def leastChar : Nat := 256

/-- Texts that exist once: the empty one, and single characters of the first block. -/
def isOneText (s : String) : Bool :=
  match s.toList with
  | [] => true
  | [c] => c.toNat < leastChar
  | _ => false

/-- Integers that exist once. -/
def isOneInteger (n : Int) : Bool := -5 ≤ n && n ≤ 256

/-- Whether a value is a text or a number. -/
def isAtom : Value → Bool
  | str _ | int _ | float _ => true
  | _ => false

/-- The entities that a value is or lists. -/
def entities : Value → List Entity
  | entity e => [e]
  | list items | tuple items => items.filterMap fun
    | entity e => some e
    | _ => none
  | _ => []

end Value

/-- The parts that stand directly in an entity. -/
def Entity.parts (e : Entity) : List Entity := e.fields.flatMap fun (_, v) => v.entities

namespace Held

/-- Whether two values are one object. -/
def same (a b : Held) : Bool :=
  match a.value, b.value with
  | .null, .null => true
  | .bool x, .bool y => x == y
  | .word x, .word y => x == y
  | .int n, .int m => n == m && (Value.isOneInteger n || a.place == b.place)
  | .str s, .str t => s == t && (Value.isOneText s || a.place == b.place)
  | .tuple [], .tuple [] => true
  | v, w =>
    match v.id?, w.id?, v.className?, w.className? with
    | some i, some j, _, _ => i == j
    | _, _, none, none => v.className == w.className && a.place == b.place
    | _, _, _, _ => false

end Held

end CWriter

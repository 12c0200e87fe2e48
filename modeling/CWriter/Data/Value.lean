import CWriter.Number.Double
import CWriter.Tree.Entity

/-!
Values as callers hand them in, before anything is known about them: plain data, and the
types, expressions and entities that exist already.
-/
namespace CWriter

inductive Value where
  | null
  | bool (b : Bool)
  | int (n : Int)
  /-- A number written with a fraction or an exponent, or one that is not finite. -/
  | float (x : Double)
  | str (s : String)
  /-- A member of an enumeration. It passes for its text wherever a text is taken. -/
  | word (w : Word)
  | list (items : List Value)
  /-- A list that nobody can change. -/
  | tuple (items : List Value)
  | object (members : List (String × Value))
  | type (t : CType)
  | expr (e : Expr)
  | entity (e : Entity)

abbrev Members := List (String × Value)

namespace Value

/-- What counts as true where any value may stand. -/
def countsAsTrue : Value → Bool
  | null => false
  | bool b => b
  | int n => n != 0
  | float x => !x.isZero
  | str s => !s.isEmpty
  | list items | tuple items => !items.isEmpty
  | object members => !members.isEmpty
  | word _ | type _ | expr _ | entity _ => true

/-- The value false, or one of the numbers that stand for it. -/
def isZero : Value → Bool
  | bool b => !b
  | int n => n == 0
  | float x => x.isZero
  | _ => false

/-- The text that a value is or stands for. -/
def text? : Value → Option String
  | str s => some s
  | word w => some w.text
  | _ => none

def ofOption (f : α → Value) : Option α → Value
  | none => null
  | some a => f a

/-- The member of a name; of several, the last. -/
def member? (members : Members) (name : String) : Option Value := members.reverse.lookup name

/-- The identity of an object; plain data have none. -/
def id? : Value → Option Id
  | type t => t.id?
  | expr e => e.id?
  | entity e => some e.id
  | _ => none

mutual

/-- Whether some member of a value, however deep, is as asked. -/
def anyMember (p : String → Value → Bool) : Value → Bool
  | list items | tuple items => anyMemberOfItems p items
  | object members => anyMemberOf p members
  | _ => false

def anyMemberOfItems (p : String → Value → Bool) : List Value → Bool
  | [] => false
  | v :: rest => v.anyMember p || anyMemberOfItems p rest

def anyMemberOf (p : String → Value → Bool) : List (String × Value) → Bool
  | [] => false
  | (name, v) :: rest => p name v || v.anyMember p || anyMemberOf p rest

end

mutual

/-- How deep lists and objects nest. -/
def depth : Value → Nat
  | list items | tuple items => itemsDepth items + 1
  | object members => membersDepth members + 1
  | _ => 0

def itemsDepth : List Value → Nat
  | [] => 0
  | v :: rest => max v.depth (itemsDepth rest)

def membersDepth : Members → Nat
  | [] => 0
  | (_, v) :: rest => max v.depth (membersDepth rest)

end

end Value

end CWriter

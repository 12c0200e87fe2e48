/-!
How deep checks and dumps may nest. Only the classes that hold objects of their own kind count.
Such a class is known as a whole or only by its parts, according to where it is entered: one
that is known as a whole is a level of its own, and counts once more for its parts.
-/
namespace CWriter

/-- What a check or a dump enters. -/
inductive Layer where
  /-- A type or an expression, with the word for its class. -/
  | type (variant : String)
  | expr (variant : String)
  | block
  | scope
  | doc
  /-- A part that is no level of its own and holds blocks or scopes, and is known only by its
  parts where these hold it again. -/
  | inner
  /-- Any other entity; what stands in it starts anew. -/
  | entity

/-- The classes of types that hold types, in the order in which they become known. -/
def typeOrder : List String := ["template", "pointer", "reference", "array"]

/-- The classes of expressions that hold expressions, in the order in which they become known. -/
def exprOrder : List String :=
  ["call", "field", "method_call", "index", "deref", "addr_of", "binop", "unop"]

/-- Where a check or a dump has come to. -/
structure Frame where
  /-- Nothing has been entered yet. What comes first is a level less. -/
  outermost : Bool := false
  /-- How many of the classes that hold types are known as a whole. -/
  types : Nat := typeOrder.length
  exprs : Nat := exprOrder.length
  inBlock : Bool := false
  inScope : Bool := false
  /-- Whether documentation is a level of its own. -/
  docCounts : Bool := false

namespace Frame

/-- The levels for a class where the first `known` ones of an order are known as a whole, and
how many are known inside it. -/
def enterClass (order : List String) (known : Nat) (variant : String) : Nat × Nat :=
  match order.findIdx? (· == variant) with
  | none => (1, known)
  | some place => if place < known then (2, place) else (1, known)

/-- The levels that something takes, and the frame inside it. -/
def enter (f : Frame) (layer : Layer) : Nat × Frame :=
  let (levels, inside) : Nat × Frame := match layer with
    | .type variant =>
      let (levels, types) := enterClass typeOrder f.types variant
      (levels, { f with types })
    | .expr variant =>
      let (levels, exprs) := enterClass exprOrder f.exprs variant
      (levels, { f with exprs })
    | .block => (if f.inBlock then 1 else 2, { f with inBlock := true })
    | .scope => (if f.inScope then 1 else 2, { f with inScope := true, docCounts := true })
    | .doc => (if f.docCounts then 1 else 0, f)
    | .inner => (0, f)
    | .entity => (0, {})
  (if f.outermost then levels - 1 else levels, { inside with outermost := false })

/-- The frame in which one of several classes may be entered. -/
def ofUnion : Frame := { docCounts := true }

end Frame

/-- How many levels may nest. -/
def mostNested : Nat := 255

end CWriter

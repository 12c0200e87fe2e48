import CWriter.Build.Edit
import CWriter.Schema.Exprs

/-! Deriving types from types and expressions from expressions. Nothing here changes them. -/
namespace CWriter

namespace CType

/-- A type of one class from its fields. -/
def make (className : String) (members : Members) : Check CType :=
  acceptClass className (((classes.lookup className)).getD "") (.object members)

/-- A fixed-width integer type. -/
def makeInt (signed : Bool) (bits : Value) : Check CType :=
  make "PrimitiveType" [("kind", .str "int"), ("width", bits), ("signed", .bool signed)]

def builtinOf (kind : ScalarKind) : CType := .scalar {} kind none true

/-- A new type as an answer. -/
def made (t : CType) : Check Value := .type <$> t.identified

/-- Whether the suffix of an array comes first where a name is declared with a type. -/
def suffixFirst : CType → Bool
  | array .. => true
  | shared _ t => t.suffixFirst
  | _ => false

/-- The declaration of a name. A fixed word is written with its enumeration, unless the suffix
of an array is put behind it first. -/
def declareWord (t : CType) (name : Value) : String :=
  match name with
  | .word w => t.declare (if t.suffixFirst then w.text else w.shown)
  | name => t.declare (if name.countsAsTrue then name.plainText else "")

/-- What a type makes of a verb. A type without qualifiers cannot be given one. -/
def derive (t : CType) : Verb → List Value → Option (Check Value)
  | .const, [] => t.const?.map made
  | .volatile, [] => t.volatile?.map made
  | .pointer, [isConst, isVolatile] =>
    some <| Value.type <$> make "PointerType" [("inner", .type t), ("is_const", isConst),
      ("is_volatile", isVolatile)]
  | .reference, [rvalue] =>
    some <| Value.type <$> make "ReferenceType" [("inner", .type t), ("rvalue", rvalue)]
  | .array, [size] =>
    some <| Value.type <$> make "ArrayType" [("inner", .type t), ("size", size)]
  | .declare, [name] =>
    some (pure (.str (t.declareWord name)))
  | .text, _ => some (pure (.str t.text))
  | .isPointer, [] => some (pure (.bool t.isPointer))
  | .isInteger, [] => some (pure (.bool t.isInteger))
  | _, _ => none

end CType

namespace Expr

/-- An expression of one class from its fields. -/
def make (className : String) (members : Members) : Check Expr :=
  acceptClass className ((classes.lookup className).getD "") (.object members)

def makeCall (name args : Value) : Check Expr := make "Call" [("name", name), ("args", args)]

def makeMethodCall (target method args : Value) : Check Expr :=
  make "MethodCall" [("target", target), ("method", method), ("args", args)]

/-- A new expression as an answer. -/
def made (e : Expr) : Check Value := .expr <$> e.identified

/-- What an expression makes of a verb. -/
def derive (e : Expr) : Verb → List Value → Option (Check Value)
  | .member, [name] =>
    some <| Value.expr <$> make "FieldAccess" [("target", .expr e), ("name", name)]
  | .methodCall, method :: args =>
    some (Value.expr <$> makeMethodCall (.expr e) method (.list args))
  | .index, [position] =>
    some <| Value.expr <$> make "Index" [("target", .expr e), ("position", position)]
  | .deref, [] => some (made (.deref e))
  | .address, [] => some (made (.addrOf e))
  | .text, _ => some (pure (.str e.text))
  | .isPointer, [] => some (pure (.bool e.isPointer))
  | _, _ => none

/-- The pointer that a member function is called on. -/
def this : Expr := .raw "this" true

end Expr

end CWriter

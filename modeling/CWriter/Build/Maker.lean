import CWriter.Build.Types
import CWriter.Schema.Statements

/-! Starting types and expressions from nothing but arguments. -/
namespace CWriter

/-- What can be made. The arguments stand in a fixed order, every one of them given. -/
inductive Maker where
  | scalar (kind : ScalarKind)
  | char
  | integer (signed : Bool)
  | named
  | template
  /-- A pointer to characters. -/
  | charPointer
  /-- The string class of the standard library. -/
  | standardString
  | raw | var | num | str | call | binop
  /-- The negation of an expression. -/
  | negation
  | this
  /-- Whatever stands for an expression. -/
  | expr
  /-- Whatever can stand in a body. -/
  | bodyItem

namespace Maker

def make : Maker → List Value → Option (Check Value)
  | scalar kind, [] => some (CType.made (CType.builtinOf kind))
  | char, [signed] =>
    some <| .type <$> CType.make "PrimitiveType" [("kind", .str "char"), ("signed", signed)]
  | integer signed, [bits] => some (.type <$> CType.makeInt signed bits)
  | named, [name, tag] =>
    some <| .type <$> CType.make "NamedType" [("name", name), ("tag", tag)]
  | template, name :: args =>
    some <| .type <$> CType.make "TemplateType" [("name", name), ("args", .list args)]
  | charPointer, [] => some do
    let char ← (CType.builtinOf .char).identified
    CType.made (.pointer char {})
  | standardString, [] => some <| .type <$> CType.make "NamedType" [("name", .str "std::string")]
  | raw, [text] => some <| .expr <$> Expr.make "RawExpr" [("text", text)]
  | var, [name, type] => some <| .expr <$> Expr.make "Var" [("name", name), ("type", type)]
  | num, [value] => some <| .expr <$> Expr.make "NumLit" [("value", value)]
  | str, [value] => some <| .expr <$> Expr.make "StrLit" [("value", value)]
  | call, name :: args => some (.expr <$> Expr.makeCall name (.list args))
  | binop, [lhs, op, rhs] =>
    some <| .expr <$> Expr.make "BinOp" [("lhs", lhs), ("op", op), ("rhs", rhs)]
  | negation, [inner] =>
    some <| .expr <$> Expr.make "UnOp" [("op", .str "!"), ("inner", inner)]
  | this, [] => some (Expr.made Expr.this)
  | expr, [v] => some (.expr <$> Expr.read v)
  | bodyItem, [v] => some (Value.ofBodyItem <$> BodyItem.read v)
  | _, _ => none

/-- The text that a maker puts into what it makes. -/
def ownText? : Maker → Option String
  | standardString => some "std::string"
  | this => some "this"
  | _ => none

end Maker

end CWriter

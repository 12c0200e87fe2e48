import CWriter.CType

/-!
Expressions and their text. Binary operands are parenthesised where they nest; a prefixed
operand is parenthesised only in front of a member access.
-/
namespace CWriter

inductive Expr where
  | raw (text : String) (pointer : Bool)
  | var (name : Identifier) (type : Option CType)
  | num (value : Int)
  | str (value : String)
  | bool (value : Bool)
  | call (name : Identifier) (args : List Expr)
  | field (target : Expr) (name : String) (arrow : Option Bool)
  | methodCall (target : Expr) (method : String) (args : List Expr) (arrow : Option Bool)
  | index (target position : Expr)
  | deref (inner : Expr)
  | addrOf (inner : Expr)
  | binop (lhs : Expr) (op : String) (rhs : Expr)
  | unop (op : String) (inner : Expr)
  /-- An expression that someone may hold on to. It means the same as without its identity. -/
  | shared (id : Id) (expr : Expr)

namespace Expr

/-- How one character stands in a string literal. -/
def escapeChar (c : Char) : List Char :=
  if c = '\\' then ['\\', '\\']
  else if c = '"' then ['\\', '"']
  else if c = '\n' then ['\\', 'n']
  else if c = '\t' then ['\\', 't']
  else [c]

/-- A string literal with quotes, backslashes, line feeds and tabs escaped. -/
def literal (s : String) : String :=
  String.ofList (['"'] ++ s.toList.flatMap escapeChar ++ ['"'])

/-- An expression without its own identity; what it is made of keeps theirs. -/
def bare : Expr → Expr
  | shared _ expr => expr.bare
  | expr => expr

def id? : Expr → Option Id
  | shared id _ => some id
  | _ => none

/-- Whether an expression is known to be a pointer, so that members are reached by an arrow. -/
def isPointer : Expr → Bool
  | raw _ pointer => pointer
  | var _ (some t) => t.isPointer
  | addrOf _ => true
  | shared _ expr => expr.isPointer
  | _ => false

def isBinary : Expr → Bool
  | binop .. => true
  | shared _ expr => expr.isBinary
  | _ => false

/-- Operands that bind less tightly than a member access. -/
def isCompound : Expr → Bool
  | binop .. | unop .. | deref _ | addrOf _ => true
  | shared _ expr => expr.isCompound
  | _ => false

def parenthesize (wanted : Bool) (text : String) : String :=
  if wanted then "(" ++ text ++ ")" else text

/-- The member operator: as asked for, or else by the kind of the target. -/
def access (target : Expr) (arrow : Option Bool) : String :=
  if arrow.getD target.isPointer then "->" else "."

mutual

def text : Expr → String
  | raw text _ => text
  | var name _ => name.text
  | num value => toString value
  | str value => literal value
  | bool value => if value then "true" else "false"
  | call name args => name.text ++ "(" ++ ", ".intercalate (texts args) ++ ")"
  | field target name arrow =>
    parenthesize target.isCompound target.text ++ access target arrow ++ name
  | methodCall target method args arrow =>
    parenthesize target.isCompound target.text ++ access target arrow ++ method ++
      "(" ++ ", ".intercalate (texts args) ++ ")"
  | index target position =>
    parenthesize target.isBinary target.text ++ "[" ++ position.text ++ "]"
  | deref inner => "*" ++ parenthesize inner.isBinary inner.text
  | addrOf inner => "&" ++ parenthesize inner.isBinary inner.text
  | binop lhs op rhs =>
    parenthesize lhs.isBinary lhs.text ++ " " ++ op ++ " " ++ parenthesize rhs.isBinary rhs.text
  | unop op inner => op ++ parenthesize inner.isBinary inner.text
  | shared _ expr => expr.text

def texts : List Expr → List String
  | [] => []
  | e :: es => e.text :: texts es

end

mutual

/-- The numbers that are put into digits where an expression is written. The type of a variable is
not written with it. -/
def numerals : Expr → List Int
  | raw .. | var .. | str _ | bool _ => []
  | num value => [value]
  | call _ args => numeralsAll args
  | field target _ _ => target.numerals
  | methodCall target _ args _ => numeralsAll args ++ target.numerals
  | index target position => target.numerals ++ position.numerals
  | deref inner | addrOf inner | unop _ inner => inner.numerals
  | binop lhs _ rhs => lhs.numerals ++ rhs.numerals
  | shared _ expr => expr.numerals

def numeralsAll : List Expr → List Int
  | [] => []
  | e :: es => e.numerals ++ numeralsAll es

end

end Expr

end CWriter

import CWriter.Build.Data
import CWriter.Build.Types
import CWriter.Schema.Statements

/-! Building bodies statement by statement. A builder that fails appends nothing. -/
namespace CWriter

namespace Block

def append (item : BodyItem) (b : Block) : Block := { b with stmts := b.stmts ++ [item] }

/-- Appends a statement that is still to be checked, and answers with it. -/
def add (statement : α → Statement) (x : Check α) : Edit Block α := do
  let s ← Edit.check x
  modify (append (.stmt (statement s)))
  pure s

/-- Appends a statement and answers with the block. -/
def adding (statement : α → Statement) (x : Check α) : Option (Edit Block Reply) :=
  Edit.chained ((fun _ => ()) <$> add statement x)

/-- Appends a statement and answers with the statement. -/
def opening (statement : α → Statement) (x : Check α) : Option (Edit Block Reply) :=
  Edit.answering ((fun s => .entity (statement s).entity) <$> add statement x)

def push (v : Value) : Edit Block Unit := do
  let item ← Edit.check (BodyItem.read v)
  modify (append item)

def evaluation (x : Check Expr) : Check ExprStmt := do
  let e ← x
  Check.alone (ExprStmt.schema.build [("expr", .expr e)])

/-- The fields of a statement that starts from a condition. -/
def condOf (cond : Value) : Members := [("cond", cond)]

def methods : Methods Block
  | .isEmpty, [] => Edit.looking fun b => .bool b.stmts.isEmpty
  | .push, [item] => Edit.chained (push item)
  | .pushRaw, [text] => Edit.chained (modify (append (.verbatim text.plainText)))
  | .newComment, text :: _ => opening .remark (Comment.schema.build [("text", text)])
  | .newVariable, [name, type] =>
    opening .declare (Variable.schema.build [("name", name), ("type", type)])
  | .assign, [lhs, rhs, op] =>
    adding .assign (Assign.schema.build [("lhs", lhs), ("rhs", rhs), ("op", op)])
  | .evaluate, [e] => adding .eval (ExprStmt.schema.build [("expr", e)])
  | .call, name :: args => adding .eval (evaluation (Expr.makeCall name (.list args)))
  | .methodCall, target :: method :: args =>
    adding .eval (evaluation (Expr.makeMethodCall target method (.list args)))
  | .giveBack, [v] => adding .ret (Return.schema.build [("value", v)])
  | .jump, [keyword] => adding .jump (Jump.schema.build [("keyword", keyword)])
  | .jump, [keyword, target] =>
    adding .jump (Jump.schema.build [("keyword", keyword), ("target", target)])
  | .label, [name] => adding .label (Label.schema.build [("name", name)])
  | .newIf, [cond] => opening .ifElse ((IfElse.schema BodyItem.rule).build (condOf cond))
  | .newWhile, [cond] =>
    opening .loop ((Loop.schema .testFirst BodyItem.rule).build (condOf cond))
  | .newDoWhile, [cond] =>
    opening .loop ((Loop.schema .testLast BodyItem.rule).build (condOf cond))
  | .newFor, [start, cond, advance] =>
    opening .forLoop ((ForLoop.schema BodyItem.rule).build
      [("init", start), ("cond", cond), ("step", advance)])
  | .newSwitch, [cond] => opening .switch ((Switch.schema BodyItem.rule).build (condOf cond))
  | _, _ => none

end Block

namespace IfElse

/-- Appends an `else if` arm and answers with its body. -/
def newElseIf (cond : Value) : Edit IfElse Block := do
  let b ← Edit.check ((Branch.schema BodyItem.rule).build [("cond", cond)])
  modify fun s => { s with elifs := s.elifs ++ [b] }
  pure b.body

/-- The `else` body, which comes into being when it is first asked for. -/
def elseBlock : Edit IfElse Block := do
  match (← get).otherwise with
  | some b => pure b
  | none =>
    let b ← Edit.check Block.new
    modify ({ · with otherwise := some b })
    pure b

def methods : Methods IfElse
  | .thenBlock, [] => Edit.looking fun s => .entity (.block s.thenBody)
  | .newElseIf, [cond] => Edit.answering ((.entity <| .block ·) <$> newElseIf cond)
  | .elseBlock, [] => Edit.answering ((.entity <| .block ·) <$> elseBlock)
  | _, _ => none

end IfElse

def ForLoop.methods : Methods ForLoop
  | .header, [] => Edit.spelling (·.numerals) (·.header)
  | _, _ => none

namespace Switch

/-- Appends an arm and answers with its body. -/
def newCase (label fallthrough : Value) : Edit Switch Block := do
  let c ← Edit.check
    ((Case.schema BodyItem.rule).build [("label", label), ("fallthrough", fallthrough)])
  modify fun s => { s with cases := s.cases ++ [c] }
  pure c.body

/-- The `default` body, which comes into being when it is first asked for. -/
def defaultBlock : Edit Switch Block := do
  match (← get).default with
  | some b => pure b
  | none =>
    let b ← Edit.check Block.new
    modify ({ · with default := some b })
    pure b

def methods : Methods Switch
  | .newCase, [label, fallthrough] =>
    Edit.answering ((.entity <| .block ·) <$> newCase label fallthrough)
  | .defaultBlock, [] => Edit.answering ((.entity <| .block ·) <$> defaultBlock)
  | _, _ => none

end Switch

end CWriter

import CWriter.Expr
import CWriter.Tree.Data

/-!
Statements. A body is a list of items, each a statement or a line taken as it is; a block
that stands in another block is laid out in place, without braces.
-/
namespace CWriter

structure Return where
  id : Id
  value : Option Expr := none

structure Assign where
  id : Id
  lhs : Expr
  rhs : Expr
  op : String := "="

/-- An expression evaluated for its effect. -/
structure ExprStmt where
  id : Id
  expr : Expr

inductive JumpKeyword where
  | brk | cont | goto
  deriving DecidableEq

def JumpKeyword.text : JumpKeyword → String
  | brk => "break"
  | cont => "continue"
  | goto => "goto"

structure Jump where
  id : Id
  keyword : JumpKeyword
  target : Option String := none

/-- The target of a `goto`. -/
structure Label where
  id : Id
  name : Identifier

/-- Where the condition of a loop is tested. -/
inductive LoopKind where
  | testFirst | testLast
  deriving DecidableEq

mutual

inductive Statement where
  | ret (s : Return)
  | assign (s : Assign)
  | eval (s : ExprStmt)
  | jump (s : Jump)
  | label (s : Label)
  | declare (v : Variable)
  | remark (c : Comment)
  | block (b : Block)
  | ifElse (s : IfElse)
  | loop (s : Loop)
  | forLoop (s : ForLoop)
  | switch (s : Switch)

inductive BodyItem where
  | verbatim (text : String)
  | stmt (s : Statement)

structure Block where
  id : Id
  stmts : List BodyItem

/-- One `else if` arm. -/
structure Branch where
  id : Id
  cond : Expr
  body : Block

structure IfElse where
  id : Id
  cond : Expr
  thenBody : Block
  elifs : List Branch
  otherwise : Option Block

structure Loop where
  id : Id
  kind : LoopKind
  cond : Expr
  body : Block

/-- A `for` loop, any of whose three clauses may be absent. -/
structure ForLoop where
  id : Id
  start : Option Expr
  cond : Option Expr
  advance : Option Expr
  body : Block

/-- One arm of a `switch`, left by a `break` unless it falls through. -/
structure Case where
  id : Id
  label : Expr
  body : Block
  fallthrough : Bool

structure Switch where
  id : Id
  cond : Expr
  cases : List Case
  default : Option Block

end

def Return.line (s : Return) : String :=
  match s.value with
  | none => "return;"
  | some e => "return " ++ e.text ++ ";"

/-- The numbers in an expression that may be absent. -/
def optionalNumerals (e : Option Expr) : List Int := e.elim [] Expr.numerals

def Assign.line (s : Assign) : String := s.lhs.text ++ " " ++ s.op ++ " " ++ s.rhs.text ++ ";"

def ExprStmt.line (s : ExprStmt) : String := s.expr.text ++ ";"

/-- An absent target shows as the word for nothing. -/
def Jump.line (s : Jump) : String :=
  match s.keyword with
  | .goto => "goto " ++ s.target.getD "None" ++ ";"
  | other => other.text ++ ";"

def Label.line (s : Label) : String := s.name.text ++ ":"

/-- The parenthesised part of a `for` loop with its keyword. -/
def ForLoop.header (s : ForLoop) : String :=
  let first := match s.start with
    | none => ""
    | some e => e.text
  let later : Option Expr → String
    | none => ""
    | some e => " " ++ e.text
  "for (" ++ first ++ ";" ++ later s.cond ++ ";" ++ later s.advance ++ ")"

def ForLoop.numerals (s : ForLoop) : List Int :=
  optionalNumerals s.start ++ optionalNumerals s.cond ++ optionalNumerals s.advance

def condition (keyword : String) (e : Expr) : String := keyword ++ " (" ++ e.text ++ ")"

mutual

def Statement.steps : Statement → List Step
  | .ret s => [.spell (optionalNumerals s.value), .line s.line]
  | .assign s => [.spell (s.lhs.numerals ++ s.rhs.numerals), .line s.line]
  | .eval s => [.spell s.expr.numerals, .line s.line]
  | .jump s => [.line s.line]
  | .label s => [.label s.line]
  | .declare v => v.steps
  | .remark c => c.steps
  | .block b => b.steps
  | .ifElse s => s.steps
  | .loop s => s.steps
  | .forLoop s => s.steps
  | .switch s => s.steps

def BodyItem.steps : BodyItem → List Step
  | .verbatim text => [.line text]
  | .stmt s => s.steps

def Block.steps : Block → List Step
  | ⟨_, stmts⟩ => bodySteps stmts

/-- The steps of body items one after the other. -/
def bodySteps : List BodyItem → List Step
  | [] => []
  | item :: rest => item.steps ++ bodySteps rest

def IfElse.steps : IfElse → List Step
  | ⟨_, cond, thenBody, elifs, otherwise⟩ =>
    .spell cond.numerals :: ([.openBlock (condition "if" cond) r"{"] ++ thenBody.steps ++
      branchSteps elifs ++ elseSteps otherwise ++ [.closeBlock r"}"])

def branchSteps : List Branch → List Step
  | [] => []
  | ⟨_, cond, body⟩ :: rest =>
    [.spell cond.numerals, .reopenBlock (condition "else if" cond)] ++ body.steps ++
      branchSteps rest

def elseSteps : Option Block → List Step
  | none => []
  | some body => [.reopenBlock "else"] ++ body.steps

def Loop.steps : Loop → List Step
  | ⟨_, .testFirst, cond, body⟩ =>
    .spell cond.numerals ::
      ([.openBlock (condition "while" cond) r"{"] ++ body.steps ++ [.closeBlock r"}"])
  | ⟨_, .testLast, cond, body⟩ =>
    [.openBlock "do" r"{"] ++ (body.steps ++ [.spell cond.numerals]) ++
      [.closeBlock (r"} " ++ condition "while" cond ++ ";")]

def ForLoop.steps : ForLoop → List Step
  | ⟨id, start, cond, advance, body⟩ =>
    .spell (ForLoop.numerals ⟨id, start, cond, advance, body⟩) ::
      ([.openBlock (ForLoop.header ⟨id, start, cond, advance, body⟩) r"{"] ++ body.steps ++
        [.closeBlock r"}"])

def Switch.steps : Switch → List Step
  | ⟨_, cond, cases, default⟩ =>
    .spell cond.numerals :: ([.openBlock (condition "switch" cond) r"{"] ++ caseSteps cases ++
      defaultSteps default ++ [.closeBlock r"}"])

def caseSteps : List Case → List Step
  | [] => []
  | ⟨_, label, body, fallthrough⟩ :: rest =>
    [.spell label.numerals, .label ("case " ++ label.text ++ ":")] ++ body.steps ++
      (if fallthrough then [] else [.line "break;"]) ++ caseSteps rest

def defaultSteps : Option Block → List Step
  | none => []
  | some body => [.label "default:"] ++ body.steps

end

theorem bodySteps_eq_flatMap (items : List BodyItem) :
    bodySteps items = items.flatMap BodyItem.steps := by
  induction items with
  | nil => rfl
  | cons item rest ih => rw [bodySteps, ih, List.flatMap_cons]

end CWriter

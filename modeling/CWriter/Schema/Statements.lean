import CWriter.Schema.Data
import CWriter.Schema.Exprs

/-!
The fields of statements. The classes whose parts hold statements again take the rule for
body items as a parameter; the rule itself is the fixed point.
-/
namespace CWriter

def Return.schema : Schema Return where
  className := "Return"
  slots := [
    .fixed "kind" "return",
    .optional "value" (.nullable Expr.rule) (fun x s => { s with value := x })]
  start id := { id }
  ofEntity? := Part.ofEntity?

/-- What an expression field holds until it is read. -/
def Expr.placeholder : Expr := .raw "" false

def Assign.schema : Schema Assign where
  className := "Assign"
  slots := [
    .fixed "kind" "assign",
    .required "lhs" Expr.rule (fun x s => { s with lhs := x }),
    .required "rhs" Expr.rule (fun x s => { s with rhs := x }),
    .optional "op" .text (fun x s => { s with op := x })]
  start id := { id, lhs := .placeholder, rhs := .placeholder }
  ofEntity? := Part.ofEntity?

def ExprStmt.schema : Schema ExprStmt where
  className := "ExprStmt"
  slots := [
    .fixed "kind" "expr",
    .required "expr" Expr.rule (fun x s => { s with expr := x })]
  start id := { id, expr := .placeholder }
  ofEntity? := Part.ofEntity?

/-- A `goto` must name a target. -/
def Jump.checkTarget (s : Jump) : Check Unit :=
  if s.keyword = .goto && (s.target.getD "").isEmpty then Check.fail .noJumpTarget else pure ()

def Jump.schema : Schema Jump where
  className := "Jump"
  slots := [
    .fixed "kind" "jump",
    .required "keyword" .jumpKeyword (fun x s => { s with keyword := x }),
    .optional "target" (.nullable .text) (fun x s => { s with target := x })]
  start id := { id, keyword := .brk }
  finish := checkTarget
  ofEntity? := Part.ofEntity?

def Label.schema : Schema Label where
  className := "Label"
  slots := [
    .fixed "kind" "label",
    .required "name" .identifier (fun x s => { s with name := x })]
  start id := { id, name := .placeholder }
  ofEntity? := Part.ofEntity?

/-- A new empty block. -/
def Block.new : Check Block := (⟨·, []⟩) <$> Check.fresh

def Block.schema (item : Rule BodyItem) : Schema Block where
  className := "Block"
  slots := [
    .fixed "kind" "block",
    .optional "stmts" (.list item) (fun x s => { s with stmts := x })]
  layer := .block
  holder? b := some b.id
  start id := ⟨id, []⟩
  ofEntity? := Part.ofEntity?

def Block.rule (item : Rule BodyItem) : Rule Block := (Block.schema item).rule

/-- What a block field holds until it is read. -/
def Block.placeholder : Block := ⟨0, []⟩

def Branch.schema (item : Rule BodyItem) : Schema Branch where
  className := "Branch"
  slots := [
    .required "cond" Expr.rule (fun x s => { s with cond := x }),
    .made "body" (Block.rule item) Block.new (fun x s => { s with body := x })]
  closed := false
  layer := .inner
  start id := ⟨id, .placeholder, .placeholder⟩
  ofEntity? := Part.ofEntity?

def IfElse.schema (item : Rule BodyItem) : Schema IfElse where
  className := "IfElse"
  slots := [
    .fixed "kind" "if",
    .required "cond" Expr.rule (fun x s => { s with cond := x }),
    .made "then" (Block.rule item) Block.new (fun x s => { s with thenBody := x }),
    .optional "elifs"
      (.list (Branch.schema item).rule)
      (fun x s => { s with elifs := x }),
    .optional "other" (.nullable (Block.rule item))
      (fun x s => { s with otherwise := x })]
  layer := .inner
  start id := ⟨id, .placeholder, .placeholder, [], none⟩
  ofEntity? := Part.ofEntity?

def Loop.schema (kind : LoopKind) (item : Rule BodyItem) : Schema Loop where
  className := match kind with
    | .testFirst => "WhileLoop"
    | .testLast => "DoWhileLoop"
  slots := [
    .fixed "kind" (match kind with
      | .testFirst => "while"
      | .testLast => "do_while"),
    .required "cond" Expr.rule (fun x s => { s with cond := x }),
    .made "body" (Block.rule item) Block.new (fun x s => { s with body := x })]
  layer := .inner
  start id := ⟨id, kind, .placeholder, .placeholder⟩
  ofEntity?
    | .loop l => if l.kind = kind then some l else none
    | _ => none

def ForLoop.schema (item : Rule BodyItem) : Schema ForLoop where
  className := "ForLoop"
  slots := [
    .fixed "kind" "for",
    .optional "init" (.nullable Expr.rule) (fun x s => { s with start := x }),
    .optional "cond" (.nullable Expr.rule) (fun x s => { s with cond := x }),
    .optional "step" (.nullable Expr.rule) (fun x s => { s with advance := x }),
    .made "body" (Block.rule item) Block.new (fun x s => { s with body := x })]
  layer := .inner
  start id := ⟨id, none, none, none, .placeholder⟩
  ofEntity? := Part.ofEntity?

def Case.schema (item : Rule BodyItem) : Schema Case where
  className := "Case"
  slots := [
    .required "label" Expr.rule (fun x s => { s with label := x }),
    .made "body" (Block.rule item) Block.new (fun x s => { s with body := x }),
    .optional "fallthrough" .bool (fun x s => { s with fallthrough := x })]
  closed := false
  layer := .inner
  start id := ⟨id, .placeholder, .placeholder, false⟩
  ofEntity? := Part.ofEntity?

def Switch.schema (item : Rule BodyItem) : Schema Switch where
  className := "Switch"
  slots := [
    .fixed "kind" "switch",
    .required "cond" Expr.rule (fun x s => { s with cond := x }),
    .optional "cases"
      (.list (Case.schema item).rule)
      (fun x s => { s with cases := x }),
    .optional "default" (.nullable (Block.rule item))
      (fun x s => { s with default := x })]
  layer := .inner
  start id := ⟨id, .placeholder, [], none⟩
  ofEntity? := Part.ofEntity?

/-- Chooses by the `kind` of a value, be it an existing entity or an object. -/
def acceptKind (expected : List String) (build : String → Value → Check α) (v : Value) :
    Check α := do
  let tag ← Check.tagOf "kind" expected v
  Check.within tag (build tag v)

namespace Statement

def kinds : List String :=
  ["return", "assign", "expr", "jump", "label", "variable", "comment", "block", "if", "while",
    "do_while", "for", "switch"]

def build (item : Rule BodyItem) (kind : String) (v : Value) : Check Statement :=
  match kind with
  | "return" => .ret <$> Return.schema.accept v
  | "assign" => .assign <$> Assign.schema.accept v
  | "expr" => .eval <$> ExprStmt.schema.accept v
  | "jump" => .jump <$> Jump.schema.accept v
  | "label" => .label <$> Label.schema.accept v
  | "variable" => .declare <$> Variable.schema.accept v
  | "comment" => .remark <$> Comment.schema.accept v
  | "block" => .block <$> (Block.rule item).accept v
  | "if" => .ifElse <$> (IfElse.schema item).accept v
  | "while" => .loop <$> (Loop.schema .testFirst item).accept v
  | "do_while" => .loop <$> (Loop.schema .testLast item).accept v
  | "for" => .forLoop <$> (ForLoop.schema item).accept v
  | _ => .switch <$> (Switch.schema item).accept v

end Statement

namespace BodyItem

/-- A value that is neither a text nor a statement is reported as both. -/
def notText (x : Check α) : Check α := fun ledger =>
  match x ledger with
  | (.ok a, after) => (.ok a, after)
  | (.error ps, after) =>
    (.error (⟨["str"], .notText⟩ :: ps.map (Problem.under "tagged-union")), after)

/-- Checks a body item that nests at most `fuel` deep. -/
def acceptWithin : Nat → Value → Check BodyItem
  | 0, _ => Check.fail .notText
  | fuel + 1, v =>
    match v.text? with
    | some s => pure (.verbatim s)
    | none =>
      notText <| .stmt <$> acceptKind Statement.kinds (Statement.build ⟨acceptWithin fuel⟩) v

def accept (v : Value) : Check BodyItem := acceptWithin (v.depth + 1) v

/-- Checks a body item that stands alone. -/
def read (v : Value) : Check BodyItem := Check.ofUnion (accept v)

def rule : Rule BodyItem := ⟨accept⟩

end BodyItem

end CWriter

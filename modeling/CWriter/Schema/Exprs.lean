import CWriter.Schema.Types

/-!
Expressions as data. A truth value, a number and a text stand for literals and raw text; an
object is tried against every class in turn, and fits the one that its `variant` names.
-/
namespace CWriter.Expr

/-- The class that each variant names. -/
def classes : List (String × String) :=
  [("RawExpr", "raw"), ("Var", "var"), ("NumLit", "num"), ("StrLit", "str"), ("BoolLit", "bool"),
    ("Call", "call"), ("FieldAccess", "field"), ("MethodCall", "method_call"),
    ("Index", "index"), ("Deref", "deref"), ("AddrOf", "addr_of"), ("BinOp", "binop"),
    ("UnOp", "unop")]

/-- The checks of the fields of a class, in their order. `inner` checks an expression further
in. -/
def form (inner : Value → Check Expr) (members : Members) (variant : String) : Form Expr :=
  let tag := Form.optional members "variant" (Rule.acceptFixed variant) ()
  let text (name : String) := Form.required members name Rule.text.accept
  let name := Form.required members "name" Rule.identifier.accept
  let expr (name : String) := Form.required members name inner
  let arrow := Form.optional members "arrow" (Rule.nullable Rule.bool).accept none
  let args := Form.optional members "args" (Rule.tuple ⟨inner⟩).accept []
  match variant with
  | "raw" =>
    (fun _ t p => .raw t p) <$> tag <*> text "text" <*>
      Form.optional members "pointer" Rule.bool.accept false
  | "var" =>
    (fun _ n t => .var n t) <$> tag <*> name <*>
      Form.optional members "type" (Rule.nullable CType.rule).accept none
  | "num" => (fun _ n => .num n) <$> tag <*> Form.required members "value" Rule.int.accept
  | "str" => (fun _ s => .str s) <$> tag <*> text "value"
  | "bool" => (fun _ b => .bool b) <$> tag <*> Form.required members "value" Rule.bool.accept
  | "call" => (fun _ n as => .call n as) <$> tag <*> name <*> args
  | "field" => (fun _ t n a => .field t n a) <$> tag <*> expr "target" <*> text "name" <*> arrow
  | "method_call" =>
    (fun _ t m as a => .methodCall t m as a) <$> tag <*> expr "target" <*> text "method" <*>
      args <*> arrow
  | "index" => (fun _ t p => .index t p) <$> tag <*> expr "target" <*> expr "position"
  | "deref" => (fun _ e => .deref e) <$> tag <*> expr "inner"
  | "addr_of" => (fun _ e => .addrOf e) <$> tag <*> expr "inner"
  | "binop" => (fun _ l o r => .binop l o r) <$> tag <*> expr "lhs" <*> text "op" <*> expr "rhs"
  | "unop" => (fun _ o e => .unop o e) <$> tag <*> text "op" <*> expr "inner"
  | _ => ⟨Check.fail .notExpression⟩

/-- An expression that carries an identity: its own, or else a fresh one. -/
def identified : Expr → Check Expr
  | shared id e => pure (shared id e)
  | e => (shared · e) <$> Check.fresh

/-- Tries an object against the classes of the given variants, one after the other, and takes
the first that fits. What a class warns of is said whether or not it fits. -/
def tryAll (inner : Value → Check Expr) (members : Members) :
    List String → Option Expr → Check Expr
  | [], found => Check.ofOption .notExpression found
  | variant :: rest, found => do
    let check := Check.entering (.expr variant) (form inner members variant).check
    let (result, warnings) ← Check.attempt check
    Check.warn warnings
    tryAll inner members rest (found.orElse fun _ => result)

/-- Whether the checks of a class that an object is not of may warn of something in it. -/
def mayWarn (members : Members) : Bool :=
  Value.anyMemberOf (fun name v => name == "width" &&
    match v with
    | .int n => (IntWidth.ofBits? n.toNat).isNone
    | _ => true) members

/-- The variants that an object is tried against. Where nothing can be warned of it is enough to
try the one that it names. -/
def variantsFor (members : Members) : List String :=
  let all := classes.map Prod.snd
  if mayWarn members then all
  else all.filter fun variant => (Value.member? members "variant").bind Value.text? == some variant

/-- What an expression may be written as, objects apart. -/
def ofScalar? : Value → Option Expr
  | .expr e => some e
  | .bool b => some (.bool b)
  | .int n => some (.num n)
  | .str s => some (.raw s false)
  | .word w => some (.raw w.text false)
  | _ => none

/-- Checks an expression that nests at most `fuel` deep. Whatever is wrong inside, the whole
is reported as no expression. -/
def acceptWithin : Nat → Value → Check Expr
  | 0, _ => Check.fail .notExpression
  | fuel + 1, v =>
    match v with
    | .object members => do
      if (Value.member? members "variant").isNone then Check.fail .notExpression
      (← tryAll (acceptWithin fuel) members (variantsFor members) none).identified
    | v =>
      match ofScalar? v with
      | some e =>
        Check.refusing .notExpression (Check.entering (.expr e.variantName) e.identified)
      | none => Check.fail .notExpression

def accept (v : Value) : Check Expr := acceptWithin (v.depth + 1) v

/-- Checks an expression that stands alone. -/
def read (v : Value) : Check Expr := Check.ofUnion (accept v)

/-- Checks an expression that must be of one class. -/
def acceptClass (className variant : String) (v : Value) : Check Expr := do
  let e ← Check.entering (.expr variant) <|
    match v with
    | .expr e => if e.className = className then pure e else Check.fail (.notInstance className)
    | .object members => (form accept members variant).check
    | _ => Check.fail (.notInstance className)
  e.identified

def rule : Rule Expr := ⟨accept⟩

end CWriter.Expr

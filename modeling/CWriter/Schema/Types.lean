import CWriter.Check.Slot

/-!
Types as data: an object whose `variant` names the class and whose other members are its
fields.
-/
namespace CWriter

namespace Form

/-- A member that must be there. -/
def required (members : Members) (name : String) (f : Value → Check α) : Form α :=
  ⟨Check.within name <|
    match Value.member? members name with
    | some v => f v
    | none => Check.fail .missing⟩

/-- A member with a default. -/
def optional (members : Members) (name : String) (f : Value → Check α) (default : α) : Form α :=
  ⟨Check.within name <|
    match Value.member? members name with
    | some v => f v
    | none => pure default⟩

end Form

/-- The tag by which a value chooses among several classes, which must be an expected one. -/
def Check.tagOf (key : String) (expected : List String) (v : Value) : Check String := do
  let members ← Check.ofOption .notTaggable <|
    match v with
    | .object members => some members
    | .word _ => some []
    | v => v.className?.map fun _ => v.fields
  let tag ← Check.ofOption (.noTag key) (Value.member? members key)
  match tag.text? with
  | some text => if expected.contains text then return text
  | none => pure ()
  Check.fail (.unknownTag tag.display key expected)

namespace CType

def variantNames : List String :=
  ["primitive", "named", "template", "pointer", "reference", "array"]

/-- The class that each variant names. -/
def classes : List (String × String) :=
  [("PrimitiveType", "primitive"), ("NamedType", "named"), ("TemplateType", "template"),
    ("PointerType", "pointer"), ("ReferenceType", "reference"), ("ArrayType", "array")]

/-- The width of a fixed-width integer. Any number but the four widths, and an explicit
absence, is warned of and stands for 64 bits. A number that the warning cannot show is refused. -/
def integerWidth (width : Option Nat) : Check IntWidth :=
  match width.bind IntWidth.ofBits? with
  | some w => pure w
  | none =>
    if width.all fun n => Text.isWritable n then do
      Check.warn [⟨width.map fun n => (n : Int)⟩]
      pure .w64
    else Check.fail .unwritable

/-- What the `kind` and `width` of a built-in type say together. -/
inductive Builtin where
  | integer (width : Option IntWidth)
  | scalar (kind : ScalarKind) (width : Option Nat)

/-- Checks the `width` of a built-in type, of which `check` says what a number stands for. -/
def widthOf (members : Members) (check : Option Nat → Check α) (absent : α) : Check α :=
  (Form.optional members "width" (fun v => (Rule.nullable Rule.nat).accept v >>= check)
    absent).check

/-- Checks `kind` and then `width`. The width of a type that is not known to be a fixed-width
integer is stored as it is. -/
def builtin (members : Members) : Check Builtin := fun ledger =>
  match (Form.required members "kind" (Rule.acceptChoice .notMember builtinNames)).check ledger with
  | (.ok none, after) =>
    widthOf members (fun n => (Builtin.integer ∘ some) <$> integerWidth n) (.integer none) after
  | (.ok (some k), after) => widthOf members (fun n => pure (.scalar k n)) (.scalar k none) after
  | (.error ps, after) =>
    match widthOf members pure none after with
    | (.ok _, last) => (.error ps, last)
    | (.error qs, last) => (.error (ps ++ qs), last)

def ofBuiltin (quals : Qualifiers) (signed : Bool) : Builtin → CType
  | .integer width => .integer quals width signed
  | .scalar kind width => .scalar quals kind width signed

/-- The checks of the fields of a class, in their order. `inner` checks a type further in. -/
def form (inner : Value → Check CType) (members : Members) (variant : String) : Form CType :=
  let flag (name : String) := Form.optional members name Rule.bool.accept false
  let quals := Qualifiers.mk <$> flag "is_const" <*> flag "is_volatile"
  let tag := Form.optional members "variant" (Rule.acceptFixed variant) ()
  let name := Form.required members "name" Rule.identifier.accept
  let innerType := Form.required members "inner" inner
  match variant with
  | "primitive" =>
    (fun q _ b signed => ofBuiltin q signed b) <$> quals <*> tag <*> ⟨builtin members⟩ <*>
      Form.optional members "signed" Rule.bool.accept true
  | "named" =>
    (fun q _ n t => .named q n t) <$> quals <*> tag <*> name <*>
      Form.optional members "tag" (Rule.nullable Rule.typeTag).accept none
  | "template" =>
    (fun q _ n as => .template q n as) <$> quals <*> tag <*> name <*>
      Form.optional members "args" (Rule.tuple ⟨inner⟩).accept []
  | "pointer" => (fun _ t q => .pointer t q) <$> tag <*> innerType <*> quals
  | "reference" => (fun _ t r => .reference t r) <$> tag <*> innerType <*> flag "rvalue"
  | _ =>
    (fun _ t n => .array t n) <$> tag <*> innerType <*>
      Form.optional members "size" (Rule.nullable Rule.nat).accept none

/-- A type that carries an identity: its own, or else a fresh one. -/
def identified : CType → Check CType
  | shared id t => pure (shared id t)
  | t => (shared · t) <$> Check.fresh

/-- Checks a type that nests at most `fuel` deep. -/
def acceptWithin : Nat → Value → Check CType
  | 0, _ => Check.fail .notTaggable
  | fuel + 1, v => do
    let tag ← Check.tagOf "variant" variantNames v
    let t ← Check.within tag <| Check.entering (.type tag) <|
      match v with
      | .type t => pure t
      | .object members => (form (acceptWithin fuel) members tag).check
      | _ => Check.fail .notTaggable
    t.identified

def accept (v : Value) : Check CType := acceptWithin (v.depth + 1) v

/-- Checks a type that stands alone. -/
def read (v : Value) : Check CType := Check.ofUnion (accept v)

/-- Checks a type that must be of one class. -/
def acceptClass (className variant : String) (v : Value) : Check CType := do
  let t ← Check.entering (.type variant) <|
    match v with
    | .type t =>
      if t.variantName = variant then pure t else Check.fail (.notInstance className)
    | .object members => (form accept members variant).check
    | _ => Check.fail (.notInstance className)
  t.identified

def rule : Rule CType := ⟨accept⟩

end CType

end CWriter

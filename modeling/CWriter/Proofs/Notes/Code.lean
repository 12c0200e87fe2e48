import CWriter.Proofs.Layout.Trace
import CWriter.Tree.Scope

/-!
# The code of a tree

The code of a tree is the tree without its notes: no declaration has documentation, free-standing
documentation and comments have no text, and no part has an identity that someone could hold on
to. A tree and its code take the same steps apart from notes and blank lines.
-/
namespace CWriter

namespace CType

mutual

/-- A type that nobody holds on to, nor to any part of it. -/
def plain : CType → CType
  | integer quals width signed => integer quals width signed
  | scalar quals kind width signed => scalar quals kind width signed
  | named quals name tag => named quals name tag
  | template quals name args => template quals name (plainAll args)
  | pointer inner quals => pointer inner.plain quals
  | reference inner rvalue => reference inner.plain rvalue
  | array inner size => array inner.plain size
  | shared _ type => type.plain

def plainAll : List CType → List CType
  | [] => []
  | t :: ts => t.plain :: plainAll ts

end

mutual

/-- A declaration is spelled from the parts of a type and never from who holds it. -/
theorem declare_plain : (t : CType) → (d : String) → t.plain.declare d = t.declare d
  | integer .., d | scalar .., d | named .., d => by rw [plain]
  | template quals name args, d => by
    rw [plain, declare, declare, declareAll_plainAll args]
  | pointer inner quals, d => by
    rw [plain, declare, declare, inner.declare_plain]
  | reference inner rvalue, d => by
    rw [plain, declare, declare, inner.declare_plain]
  | array inner size, d => by
    rw [plain, declare, declare, inner.declare_plain]
  | shared _ type, d => by
    rw [plain, declare, type.declare_plain]

theorem declareAll_plainAll : (ts : List CType) → declareAll (plainAll ts) = declareAll ts
  | [] => by rw [plainAll]
  | t :: ts => by rw [plainAll, declareAll, declareAll, t.declare_plain, declareAll_plainAll ts]

end

theorem isPointer_plain : (t : CType) → t.plain.isPointer = t.isPointer
  | integer .. | scalar .. | named .. | template .. | pointer .. | reference .. | array .. => by
    simp only [plain, isPointer]
  | shared _ type => by
    rw [plain, isPointer, type.isPointer_plain]

end CType

namespace Expr

mutual

/-- An expression that nobody holds on to, nor to any part of it. -/
def plain : Expr → Expr
  | raw text pointer => raw text pointer
  | var name type => var name (type.map CType.plain)
  | num value => num value
  | str value => str value
  | bool value => bool value
  | call name args => call name (plainAll args)
  | field target name arrow => field target.plain name arrow
  | methodCall target method args arrow => methodCall target.plain method (plainAll args) arrow
  | index target position => index target.plain position.plain
  | deref inner => deref inner.plain
  | addrOf inner => addrOf inner.plain
  | binop lhs op rhs => binop lhs.plain op rhs.plain
  | unop op inner => unop op inner.plain
  | shared _ expr => expr.plain

def plainAll : List Expr → List Expr
  | [] => []
  | e :: es => e.plain :: plainAll es

end

theorem isPointer_plain : (e : Expr) → e.plain.isPointer = e.isPointer
  | var name (some t) => by
    simp only [plain, Option.map_some, isPointer, t.isPointer_plain]
  | shared _ expr => by
    rw [plain, isPointer, expr.isPointer_plain]
  | raw .. | var _ none | num _ | str _ | bool _ | call .. | field .. | methodCall .. | index ..
  | deref _ | addrOf _ | binop .. | unop .. => by
    simp only [plain, Option.map_none, isPointer]

theorem isBinary_plain : (e : Expr) → e.plain.isBinary = e.isBinary
  | shared _ expr => by
    rw [plain, isBinary, expr.isBinary_plain]
  | raw .. | var .. | num _ | str _ | bool _ | call .. | field .. | methodCall .. | index ..
  | deref _ | addrOf _ | binop .. | unop .. => by
    simp only [plain, isBinary]

theorem isCompound_plain : (e : Expr) → e.plain.isCompound = e.isCompound
  | shared _ expr => by
    rw [plain, isCompound, expr.isCompound_plain]
  | raw .. | var .. | num _ | str _ | bool _ | call .. | field .. | methodCall .. | index ..
  | deref _ | addrOf _ | binop .. | unop .. => by
    simp only [plain, isCompound]

theorem access_plain (e : Expr) (arrow : Option Bool) : access e.plain arrow = access e arrow := by
  rw [access, access, e.isPointer_plain]

mutual

/-- So is an expression: what its operands are decides on parentheses and arrows, not who holds
them. -/
theorem text_plain : (e : Expr) → e.plain.text = e.text
  | raw .. | var .. | num _ | str _ | bool _ => by
    simp only [plain, text]
  | call name args => by
    rw [plain, text, text, texts_plainAll args]
  | field target name arrow => by
    rw [plain, text, text, target.isCompound_plain, target.text_plain, target.access_plain]
  | methodCall target method args arrow => by
    rw [plain, text, text, target.isCompound_plain, target.text_plain, target.access_plain,
      texts_plainAll args]
  | index target position => by
    rw [plain, text, text, target.isBinary_plain, target.text_plain, position.text_plain]
  | deref inner => by
    rw [plain, text, text, inner.isBinary_plain, inner.text_plain]
  | addrOf inner => by
    rw [plain, text, text, inner.isBinary_plain, inner.text_plain]
  | binop lhs op rhs => by
    rw [plain, text, text, lhs.isBinary_plain, lhs.text_plain, rhs.isBinary_plain,
      rhs.text_plain]
  | unop op inner => by
    rw [plain, text, text, inner.isBinary_plain, inner.text_plain]
  | shared _ expr => by
    rw [plain, text, expr.text_plain]

theorem texts_plainAll : (es : List Expr) → texts (plainAll es) = texts es
  | [] => by rw [plainAll]
  | e :: es => by rw [plainAll, texts, texts, e.text_plain, texts_plainAll es]

end

end Expr

/-- Documentation that has no text. -/
def Doc.code (_ : Doc) : Doc := { id := 0 }

/-- A comment that has no text. A heading stays one. -/
def Comment.code (c : Comment) : Comment := { id := 0, heading := c.heading }

def Documented.code (d : Documented) : Documented := { d with id := 0, doc := none }

def Include.code (i : Include) : Include := { i with id := 0 }

def Macro.code (m : Macro) : Macro := { m with toDocumented := m.toDocumented.code }

def Field.code (f : Field) : Field :=
  { f with toDocumented := f.toDocumented.code, type := f.type.plain }

def Attribute.code (a : Attribute) : Attribute := { a with toField := a.toField.code }

def Param.code (p : Param) : Param := { p with id := 0, type := p.type.plain }

def Variable.code (v : Variable) : Variable :=
  { v with toDocumented := v.toDocumented.code, type := v.type.plain }

def RecordField.code : RecordField → RecordField
  | plain f => plain f.code
  | attr a => attr a.code

def Record.code (r : Record) : Record :=
  { r with toDocumented := r.toDocumented.code, fields := r.fields.map RecordField.code }

def Variant.code (v : Variant) : Variant := { v with toDocumented := v.toDocumented.code }

def Enumeration.code (e : Enumeration) : Enumeration :=
  { e with toDocumented := e.toDocumented.code, variants := e.variants.map Variant.code }

/-- Documentation writes comment lines and nothing else. -/
@[simp]
theorem codeSteps_docSteps (d : Option Doc) : codeSteps (docSteps d) = [] := by
  cases d with
  | none => rfl
  | some d => simp [docSteps, Doc.steps, codeSteps, Step.isCode, Step.isNote]

theorem Doc.codeSteps_steps (d : Doc) : codeSteps d.steps = [] :=
  codeSteps_docSteps (some d)

/-- Neither the text of a comment nor the rules around a heading are code. -/
theorem Comment.codeSteps_steps (c : Comment) : codeSteps c.steps = [] := by
  rw [Comment.steps]
  split <;> rfl

/-- Each entity has the code of itself without notes, from the leaves of the tree upwards. -/
theorem Macro.codeSteps_code (m : Macro) : codeSteps m.code.steps = codeSteps m.steps := by
  have hhead : m.code.head = m.head := rfl
  have hlines : m.code.valueLines = m.valueLines := rfl
  rw [Macro.steps, Macro.steps, codeSteps_append, codeSteps_append, codeSteps_docSteps,
    codeSteps_docSteps, hhead, hlines]

theorem Field.declaration_code (f : Field) : f.code.declaration = f.declaration := by
  simp only [declaration, bitFieldText, code, Documented.code, f.type.declare_plain]

theorem Field.codeSteps_code (f : Field) : codeSteps f.code.steps = codeSteps f.steps := by
  rw [Field.steps, Field.steps, codeSteps_append, codeSteps_append, codeSteps_docSteps,
    codeSteps_docSteps, codeSteps_spell, codeSteps_spell, f.declaration_code]

theorem Attribute.codeSteps_code (a : Attribute) : codeSteps a.code.steps = codeSteps a.steps := by
  have hdeclaration : a.code.declaration = a.declaration := a.toField.declaration_code
  rw [Attribute.steps, Attribute.steps, codeSteps_append, codeSteps_append, codeSteps_docSteps,
    codeSteps_docSteps, codeSteps_spell, codeSteps_spell, hdeclaration]
  rfl

theorem Param.declaration_code (p : Param) : p.code.declaration = p.declaration := by
  simp only [declaration, code, p.type.declare_plain]

theorem Variable.codeSteps_code (v : Variable) : codeSteps v.code.steps = codeSteps v.steps := by
  have hdeclared : v.code.type.declare v.code.name.text = v.type.declare v.name.text :=
    v.type.declare_plain v.name.text
  have hdeclaration : v.code.declaration = v.declaration := by
    rw [declaration, declaration, hdeclared]
    rfl
  rw [Variable.steps, Variable.steps, codeSteps_append, codeSteps_append, codeSteps_docSteps,
    codeSteps_docSteps, codeSteps_spell, codeSteps_spell, hdeclaration]

theorem RecordField.codeSteps_code (f : RecordField) :
    codeSteps f.code.steps = codeSteps f.steps := by
  cases f with
  | plain f => exact f.codeSteps_code
  | attr a => exact a.codeSteps_code

/-- The notes of a record stand above it and above its fields. -/
theorem Record.codeSteps_code (r : Record) : codeSteps r.code.steps = codeSteps r.steps := by
  have hheader : r.code.header = r.header := rfl
  have hremarks : r.code.remarkSteps = r.remarkSteps := rfl
  have hempty : r.code.fields.isEmpty = r.fields.isEmpty := by
    simp [code]
  have hfields : codeSteps (r.code.fields.flatMap RecordField.steps) =
      codeSteps (r.fields.flatMap RecordField.steps) := by
    simp only [code, codeSteps_flatMap, List.flatMap_map, RecordField.codeSteps_code]
  simp only [Record.steps, codeSteps_append, codeSteps_docSteps, hheader, hremarks, hempty]
  split
  · rfl
  · simp only [codeSteps_append, hfields]

theorem Variant.codeSteps_code (v : Variant) (separator : String) :
    codeSteps (v.code.steps separator) = codeSteps (v.steps separator) := by
  have htext : v.code.text = v.text := rfl
  rw [Variant.steps, Variant.steps, codeSteps_append, codeSteps_append, codeSteps_docSteps,
    codeSteps_docSteps, codeSteps_spell, codeSteps_spell, htext]

/-- The comma behind an enumerator depends on whether another follows, and not on what it is. -/
theorem Enumeration.codeSteps_variantSteps (vs : List Variant) :
    codeSteps (variantSteps (vs.map Variant.code)) = codeSteps (variantSteps vs) := by
  induction vs with
  | nil => rfl
  | cons v vs ih =>
    cases vs with
    | nil => exact v.codeSteps_code ""
    | cons w vs =>
      change codeSteps (v.code.steps "," ++ variantSteps ((w :: vs).map Variant.code)) =
        codeSteps (v.steps "," ++ variantSteps (w :: vs))
      rw [codeSteps_append, codeSteps_append, v.codeSteps_code, ih]

theorem Enumeration.codeSteps_code (e : Enumeration) :
    codeSteps e.code.steps = codeSteps e.steps := by
  have hname : e.code.name = e.name := rfl
  have hvariants : e.code.variants = e.variants.map Variant.code := rfl
  simp only [Enumeration.steps, codeSteps_append, codeSteps_docSteps, hname, hvariants,
    codeSteps_variantSteps]

end CWriter

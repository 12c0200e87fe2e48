import CWriter.Tree.Word

/-! Structs, unions and enumerations. A record without fields is a forward declaration. -/
namespace CWriter

inductive RecordKind where
  | struct | union
  deriving DecidableEq

def RecordKind.tag : RecordKind → TypeTag
  | struct => .struct
  | union => .union

/-- What stands in a record. -/
inductive RecordField where
  | plain (f : Field)
  | attr (a : Attribute)

namespace RecordField

def field : RecordField → Field
  | .plain f => f
  | .attr a => a.toField

def steps : RecordField → List Step
  | plain f => f.steps
  | attr a => a.steps

end RecordField

/-- A tag in front of a record: a text, or a fixed word, which is written with its
enumeration. -/
inductive Remark where
  | text (s : String)
  | word (w : Word)

namespace Remark

def shown : Remark → String
  | text s => s
  | word w => w.shown

def step (a : Remark) : Step := .line ("/// @" ++ a.shown)

end Remark

structure Record extends Documented where
  kind : RecordKind
  fields : List RecordField := []
  annotations : List Remark := []

namespace Record

def header (r : Record) : String := r.kind.tag.text ++ " " ++ r.name.text

/-- Annotations are documentation and stand in front of the record. -/
def remarkSteps (r : Record) : List Step := r.annotations.map Remark.step

def steps (r : Record) : List Step :=
  docSteps r.doc ++ r.remarkSteps ++
    if r.fields.isEmpty then [.line (r.header ++ ";")]
    else
      [.openBlock r.header r"{"] ++ r.fields.flatMap RecordField.steps ++ [.closeBlock r"};"]

def type (r : Record) : CType := .named {} r.name (some r.kind.tag)

end Record

/-- One enumerator. -/
structure Variant extends Documented where
  value : Option Int := none

namespace Variant

def text (v : Variant) : String :=
  match v.value with
  | none => v.name.text
  | some n => v.name.text ++ " = " ++ toString n

def steps (v : Variant) (separator : String) : List Step :=
  docSteps v.doc ++ [.spell v.value.toList, .line (v.text ++ separator)]

end Variant

structure Enumeration extends Documented where
  variants : List Variant := []

namespace Enumeration

/-- Every enumerator but the last is followed by a comma. -/
def variantSteps : List Variant → List Step
  | [] => []
  | [last] => last.steps ""
  | v :: rest => v.steps "," ++ variantSteps rest

def steps (e : Enumeration) : List Step :=
  docSteps e.doc ++ [.openBlock ("enum " ++ e.name.text) r"{"] ++ variantSteps e.variants ++
    [.closeBlock r"};"]

def type (e : Enumeration) : CType := .named {} e.name (some .enum)

end Enumeration

end CWriter

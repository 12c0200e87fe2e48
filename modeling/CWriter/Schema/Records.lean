import CWriter.Schema.Data

/-! The fields of structs, unions and enumerations. -/
namespace CWriter

namespace RecordField

def accept : Value → Check RecordField
  | .entity (.attr a) => pure (.attr a)
  | v => .plain <$> Field.schema.accept v

def rule : Rule RecordField := ⟨accept⟩

end RecordField

def Record.schema (kind : RecordKind) : Schema Record where
  className := match kind with
    | .struct => "Struct"
    | .union => "Union"
  slots :=
    Documented.slots.map (.zoom (·.toDocumented) (fun x s => { s with toDocumented := x })) ++ [
    .optional "fields" (.list RecordField.rule) (fun x s => { s with fields := x }),
    .optional "annotations" (.list .text)
      (fun x s => { s with annotations := x.map .text }),
    .fixed "kind" kind.tag.text]
  start id := { toDocumented := .start id, kind }
  ofEntity?
    | .record r => if r.kind = kind then some r else none
    | _ => none

def Variant.schema : Schema Variant where
  className := "Variant"
  slots :=
    Documented.slots.map (.zoom (·.toDocumented) (fun x s => { s with toDocumented := x })) ++ [
    .optional "value" (.nullable .int) (fun x s => { s with value := x })]
  start id := { toDocumented := .start id }
  ofEntity? := Part.ofEntity?

def Enumeration.schema : Schema Enumeration where
  className := "Enum"
  slots :=
    Documented.slots.map (.zoom (·.toDocumented) (fun x s => { s with toDocumented := x })) ++ [
    .fixed "kind" "enum",
    .optional "variants" (.list (Variant.schema.rule))
      (fun x s => { s with variants := x })]
  start id := { toDocumented := .start id }
  ofEntity? := Part.ofEntity?

end CWriter

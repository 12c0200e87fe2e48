import CWriter.Schema.Notes

/-! The fields of data declarations. -/
namespace CWriter

namespace Field

def nameSlot : Slot Field :=
  Documented.nameSlot.zoom (·.toDocumented) (fun x s => { s with toDocumented := x })

/-- The fields after the name. -/
def ownSlots : List (Slot Field) := [
  Documented.docSlot.zoom (·.toDocumented) (fun x s => { s with toDocumented := x }),
  .required "type" CType.rule (fun x s => { s with type := x }),
  .optional "width" (.nullable .bitWidth) (fun x s => { s with width := x })]

def start (id : Id) : Field := { toDocumented := .start id, type := .void }

/-- An attribute may stand wherever a field is expected. -/
def schema : Schema Field where
  className := "Field"
  slots := nameSlot :: ownSlots
  start := start
  ofEntity? := Part.ofEntity?

end Field

def Attribute.schema : Schema Attribute :=
  let field : Slot Field → Slot Attribute :=
    .zoom (·.toField) (fun x s => { s with toField := x })
  { className := "Attribute"
    slots := [
      field Field.nameSlot,
      .optional "visibility" .visibility (fun x s => { s with visibility := x })] ++
      Field.ownSlots.map field ++ [
      .fixed "kind" "attribute",
      .optional "is_static" .bool (fun x s => { s with isStatic := x }),
      .optional "value" (.nullable .text) (fun x s => { s with value := x })]
    start := fun id => { toField := .start id }
    ofEntity? := Part.ofEntity? }

def Param.schema : Schema Param where
  className := "Param"
  slots := [
    Named.nameSlot.zoom (·.toNamed) (fun x s => { s with toNamed := x }),
    .required "type" CType.rule (fun x s => { s with type := x }),
    .optional "default" (.nullable .text) (fun x s => { s with default := x })]
  start id := { toNamed := .start id, type := .void }
  ofEntity? := Part.ofEntity?

def Variable.schema : Schema Variable where
  className := "Variable"
  slots :=
    Documented.slots.map (.zoom (·.toDocumented) (fun x s => { s with toDocumented := x })) ++ [
    .fixed "kind" "variable",
    .required "type" CType.rule (fun x s => { s with type := x }),
    .optional "value" (.nullable .text) (fun x s => { s with value := x }),
    .optional "is_static" .bool (fun x s => { s with isStatic := x }),
    .optional "is_extern" .bool (fun x s => { s with isExtern := x })]
  start id := { toDocumented := .start id, type := .void }
  ofEntity? := Part.ofEntity?

end CWriter

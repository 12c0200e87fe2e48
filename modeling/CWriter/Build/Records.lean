import CWriter.Build.Data
import CWriter.Build.Types
import CWriter.Schema.Records

/-! Building structs, unions and enumerations. -/
namespace CWriter

namespace Record

def newField (name type : Value) : Edit Record Field := do
  let f ← Edit.check (Field.schema.build [("name", name), ("type", type)])
  modify fun r => { r with fields := r.fields ++ [.plain f] }
  pure f

/-- Appends a field or an attribute. What stands for one is checked, and built from data. -/
def pushField (v : Value) : Edit Record Unit := do
  let f ← Edit.check (RecordField.accept v)
  modify fun r => { r with fields := r.fields ++ [f] }

/-- Adds a tag. A fixed word stays one. -/
def annotate (v : Value) : Edit Record Unit := do
  let tag ← Edit.identifierArg v
  let remark : Remark := match v with
    | .word w => .word w
    | _ => .text tag.text
  modify fun r => { r with annotations := r.annotations ++ [remark] }

def fieldByName (name : String) (r : Record) : Option RecordField :=
  r.fields.find? (·.field.name.text == name)

/-- The field at a position; there is none at a negative one. -/
def fieldAt (position : Int) (r : Record) : Option RecordField :=
  if 0 ≤ position then r.fields[position.toNat]? else none

def positionArg : Value → Int
  | .int n => n
  | .bool true => 1
  | .bool false => 0
  | _ => -1

def methods : Methods Record
  | .newField, [name, type] => Edit.answering ((.entity <| .field ·) <$> newField name type)
  | .pushField, [f] => Edit.chained (pushField f)
  | .fieldByName, [name] => Edit.looking fun r =>
      Value.ofOption (.entity ·.entity) (name.named? (r.fieldByName ·))
  | .fieldAt, [position] => Edit.looking fun r =>
      Value.ofOption (.entity ·.entity) (r.fieldAt (positionArg position))
  | .annotate, [tag] => Edit.chained (annotate tag)
  | .toType, [] => Edit.answering do Edit.check (CType.made (← get).type)
  | verb, args =>
    Edit.zoomMethods (·.toDocumented) (fun x r => { r with toDocumented := x })
      Documented.methods verb args

end Record

def Variant.methods : Methods Variant
  | .setValue, [v] => Edit.chained (schema.assign "value" v)
  | verb, args =>
    Edit.zoomMethods (·.toDocumented) (fun x v => { v with toDocumented := x })
      Documented.methods verb args

namespace Enumeration

def newVariant (name value : Value) : Edit Enumeration Variant := do
  let v ← Edit.check (Variant.schema.build [("name", name), ("value", value)])
  modify fun e => { e with variants := e.variants ++ [v] }
  pure v

/-- Appends an enumerator. What stands for one is checked, and built from data. -/
def pushVariant (v : Value) : Edit Enumeration Unit := do
  let variant ← Edit.check (Variant.schema.accept v)
  modify fun e => { e with variants := e.variants ++ [variant] }

def variantByName (name : String) (e : Enumeration) : Option Variant :=
  e.variants.find? (·.name.text == name)

def methods : Methods Enumeration
  | .newVariant, [name, value] =>
    Edit.answering ((.entity <| .variant ·) <$> newVariant name value)
  | .pushVariant, [v] => Edit.chained (pushVariant v)
  | .variantByName, [name] => Edit.looking fun e =>
      Value.ofOption (.entity <| .variant ·) (name.named? (e.variantByName ·))
  | .toType, [] => Edit.answering do Edit.check (CType.made (← get).type)
  | verb, args =>
    Edit.zoomMethods (·.toDocumented) (fun x e => { e with toDocumented := x })
      Documented.methods verb args

end Enumeration

end CWriter

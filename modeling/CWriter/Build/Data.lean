import CWriter.Build.Notes
import CWriter.Schema.Data

/-! Editing data declarations. -/
namespace CWriter

namespace Field

def methods : Methods Field
  | .setBitWidth, [v] => Edit.chained (schema.assign "width" v)
  | .declaration, [] => Edit.spelling (·.numerals) (·.declaration)
  | verb, args =>
    Edit.zoomMethods (·.toDocumented) (fun x f => { f with toDocumented := x })
      Documented.methods verb args

end Field

def Attribute.methods : Methods Attribute
  | .setStatic, [v] => Edit.chained (schema.assign "is_static" v)
  | .setValue, [v] => Edit.chained (schema.assign "value" v)
  | .setVisibility, [v] => Edit.chained (schema.assign "visibility" v)
  | verb, args =>
    Edit.zoomMethods (·.toField) (fun x s => { s with toField := x }) Field.methods verb args

def Param.methods : Methods Param
  | .setDefault, [v] => Edit.chained (schema.assign "default" v)
  | .declaration, [] => Edit.spelling (·.type.numerals) (·.declaration)
  | _, _ => none

namespace Variable

/-- A static variable is not external. The other flag goes before the value is checked. -/
def setStatic (v : Value) : Edit Variable Unit := do
  if v.countsAsTrue then modify ({ · with isExtern := false })
  schema.assign "is_static" v

/-- An external variable is not static. -/
def setExtern (v : Value) : Edit Variable Unit := do
  if v.countsAsTrue then modify ({ · with isStatic := false })
  schema.assign "is_extern" v

def methods : Methods Variable
  | .setValue, [v] => Edit.chained (schema.assign "value" v)
  | .setStatic, [v] => Edit.chained (setStatic v)
  | .setExtern, [v] => Edit.chained (setExtern v)
  | verb, args =>
    Edit.zoomMethods (·.toDocumented) (fun x v => { v with toDocumented := x })
      Documented.methods verb args

end Variable

end CWriter

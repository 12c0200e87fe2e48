import CWriter.Build.Edit
import CWriter.Schema.Notes

/-! Editing comments, directives and documentation. -/
namespace CWriter

namespace Doc

def addText (text : String) (d : Doc) : Doc := { d with texts := d.texts ++ [text] }

/-- The lines of a documentation comment without their marker. -/
def lines (style : Style) (d : Doc) : Except LayoutFault (List String) :=
  d.texts.foldlM (fun ls text =>
    match Text.commentLines style.docWidth text.toList with
    | none => .error (.noRoom style.docWidth)
    | some more => .ok (ls ++ more.map String.ofList)) []

def methods : Methods Doc
  | .addText, [text] => Edit.chained (modify (addText text.plainText))
  | .docLines, [style] => Edit.answering do
    let ls ← Edit.ofExcept .layout ((← get).lines style.style)
    pure (.list (ls.map .str))
  | _, _ => none

end Doc

/-- Adds a text to the documentation, which starts with the first one. -/
def addDoc (text : String) : Option Doc → Check Doc
  | some d => pure (d.addText text)
  | none => (fun id => { id, texts := [text] }) <$> Check.fresh

def Comment.methods : Methods Comment
  | .setHeading, [v] => Edit.chained (schema.assign "heading" v)
  | _, _ => none

def Include.methods : Methods Include
  | .setSystem, [v] => Edit.chained (schema.assign "system" v)
  | .setComment, [v] => Edit.chained (schema.assign "comment" v)
  | _, _ => none

namespace Documented

def pushDoc (text : String) : Edit Documented Unit := do
  let doc ← Edit.check (addDoc text (← get).doc)
  modify ({ · with doc := some doc })

def methods : Methods Documented
  | .pushDoc, [text] => Edit.chained (pushDoc text.plainText)
  | _, _ => none

end Documented

namespace Macro

def newArg (v : Value) : Edit Macro Unit := do
  let arg ← Edit.identifierArg v
  modify fun m => { m with args := m.args ++ [arg.text] }

def methods : Methods Macro
  | .newArg, [v] => Edit.chained (newArg v)
  | .setValue, [v] => Edit.chained (schema.assign "value" v)
  | verb, args =>
    Edit.zoomMethods (·.toDocumented) (fun x m => { m with toDocumented := x })
      Documented.methods verb args

end Macro

end CWriter

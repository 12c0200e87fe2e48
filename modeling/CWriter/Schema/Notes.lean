import CWriter.Schema.Types

/-! The fields of comments, directives, and whatever has a name and documentation. -/
namespace CWriter

def Doc.schema : Schema Doc where
  className := "Doc"
  slots := [
    .fixed "kind" "doc",
    .optional "texts" (.list .text) (fun x s => { s with texts := x })]
  layer := .doc
  start id := { id }
  ofEntity? := Part.ofEntity?

def Doc.rule : Rule Doc := Doc.schema.rule

def Comment.schema : Schema Comment where
  className := "Comment"
  slots := [
    .fixed "kind" "comment",
    .optional "text" .text (fun x s => { s with text := x }),
    .optional "heading" .bool (fun x s => { s with heading := x })]
  start id := { id }
  ofEntity? := Part.ofEntity?

def Named.nameSlot : Slot Named :=
  .required "name" .identifier (fun x s => { s with name := x })

def Named.start (id : Id) : Named := ⟨id, .placeholder⟩

namespace Documented

def nameSlot : Slot Documented :=
  Named.nameSlot.zoom toNamed (fun x s => { s with toNamed := x })

def docSlot : Slot Documented :=
  .optional "doc" (.nullable Doc.rule) (fun x s => { s with doc := x })

def slots : List (Slot Documented) := [nameSlot, docSlot]

def start (id : Id) : Documented := { toNamed := .start id }

end Documented

def Include.schema : Schema Include where
  className := "Include"
  slots := [
    .fixed "kind" "include",
    .required "path" .identifier (fun x s => { s with path := x }),
    .optional "system" .bool (fun x s => { s with system := x }),
    .optional "comment" (.nullable .text) (fun x s => { s with comment := x })]
  start id := { id, path := .placeholder }
  ofEntity? := Part.ofEntity?

def Macro.schema : Schema Macro where
  className := "Macro"
  slots :=
    Documented.slots.map (.zoom (·.toDocumented) (fun x s => { s with toDocumented := x })) ++ [
    .fixed "kind" "macro",
    .optional "args" (.list .text) (fun x s => { s with args := x }),
    .optional "value" (.nullable .text) (fun x s => { s with value := x })]
  start id := { toDocumented := .start id }
  ofEntity? := Part.ofEntity?

namespace StyleSheet

/-- One of the settings. -/
def setting (name : String) (rule : Rule α) (set : α → Style → Style) : Slot StyleSheet :=
  .optional name rule (fun x s => { s with style := set x s.style })

/-- The settings in the order in which they are read, with the rules for widths and counts
that have a least value and for the one truth value. -/
def settings (number : Nat → Rule Int) (flag : Rule Bool) : List (Slot StyleSheet) := [
  setting "indent_width" (number Style.leastIndentWidth)
    (fun x s => { s with indentWidth := x }),
  setting "doc_width" (number Style.leastDocWidth)
    (fun x s => { s with docWidth := x }),
  setting "heading_width" (number Style.leastHeadingWidth)
    (fun x s => { s with headingWidth := x }),
  setting "void_params" flag (fun x s => { s with voidParams := x }),
  setting "blank_lines" (number Style.leastBlankLines)
    (fun x s => { s with blankLines := x })]

/-- Assignments are not held to the bounds. -/
def schema : Schema StyleSheet where
  className := "FormatConfig"
  slots := settings .atLeast .bool
  assigned := settings (fun _ => .int) .truth
  closed := false
  start id := { id, style := {} }
  ofEntity? := Part.ofEntity?

end StyleSheet

end CWriter

import CWriter.Schema.Routines

/-! The fields of classes and their bases. -/
namespace CWriter

/-- The name of a base is checked where data are read, and free afterwards. -/
def BaseClass.nameRule : Rule String := ⟨fun v => (·.text) <$> Rule.identifier.accept v⟩

def BaseClass.schema : Schema BaseClass where
  className := "BaseClass"
  slots := [
    .required "name" BaseClass.nameRule (fun x s => { s with name := x }),
    .optional "visibility" .visibility (fun x s => { s with visibility := x })]
  assigned := [
    .required "name" .text (fun x s => { s with name := x }),
    .optional "visibility" .visibility (fun x s => { s with visibility := x })]
  closed := false
  start id := { id, name := "" }
  ofEntity? := Part.ofEntity?

namespace Member

def kinds : List String := ["attribute", "constructor", "destructor", "method"]

def build (kind : String) (v : Value) : Check Member :=
  match kind with
  | "attribute" => .attr <$> Attribute.schema.accept v
  | "constructor" => .constructor <$> Constructor.schema.accept v
  | "destructor" => .destructor <$> Destructor.schema.accept v
  | _ => .method <$> Method.schema.accept v

def rule : Rule Member := ⟨acceptKind kinds build⟩

end Member

def Class.schema : Schema Class where
  className := "Class"
  slots :=
    Documented.slots.map (.zoom (·.toDocumented) (fun x s => { s with toDocumented := x })) ++ [
    .fixed "kind" "class",
    .optional "bases" (.list (BaseClass.schema.rule))
      (fun x s => { s with bases := x }),
    .optional "members" (.list Member.rule) (fun x s => { s with members := x })]
  start id := { toDocumented := .start id }
  ofEntity? := Part.ofEntity?

end CWriter

import CWriter.Schema.Classes
import CWriter.Schema.Records

/-! The fields of scopes and conditional parts. -/
namespace CWriter

/-- A new empty scope. -/
def Scope.new : Check Scope := (⟨·, none, none, []⟩) <$> Check.fresh

def Scope.schema (item : Rule ScopeItem) : Schema Scope where
  className := "Scope"
  slots := [
    .optional "filename" (.nullable .text) (fun x s => { s with filename := x }),
    .optional "doc" (.nullable Doc.rule) (fun x s => { s with doc := x }),
    .optional "items" (.list item) (fun x s => { s with items := x })]
  layer := .scope
  holder? s := some s.id
  start id := ⟨id, none, none, []⟩
  ofEntity? := Part.ofEntity?

def Scope.rule (item : Rule ScopeItem) : Rule Scope := (Scope.schema item).rule

def IfDef.schema (item : Rule ScopeItem) : Schema IfDef where
  className := "IfDef"
  slots := [
    .fixed "kind" "ifdef",
    .required "symbol" .identifier (fun x s => { s with symbol := x }),
    .made "then" (Scope.rule item) Scope.new (fun x s => { s with thenScope := x }),
    .optional "other" (.nullable (Scope.rule item))
      (fun x s => { s with elseScope := x }),
    .optional "guard" .bool (fun x s => { s with guard := x })]
  layer := .inner
  start id := ⟨id, .placeholder, ⟨0, none, none, []⟩, none, false⟩
  ofEntity? := Part.ofEntity?

namespace ScopeItem

def kinds : List String :=
  ["doc", "comment", "include", "macro", "variable", "struct", "union", "enum", "class",
    "function", "ifdef"]

def build (item : Rule ScopeItem) (kind : String) (v : Value) : Check ScopeItem :=
  match kind with
  | "doc" => .doc <$> Doc.rule.accept v
  | "comment" => .comment <$> Comment.schema.accept v
  | "include" => .inclusion <$> Include.schema.accept v
  | "macro" => .definition <$> Macro.schema.accept v
  | "variable" => .global <$> Variable.schema.accept v
  | "struct" => .record <$> (Record.schema .struct).accept v
  | "union" => .record <$> (Record.schema .union).accept v
  | "enum" => .enumeration <$> Enumeration.schema.accept v
  | "class" => .cls <$> Class.schema.accept v
  | "function" => .function <$> Function.schema.accept v
  | _ => .ifDef <$> (IfDef.schema item).accept v

/-- Checks an item that nests at most `fuel` deep. -/
def acceptWithin : Nat → Value → Check ScopeItem
  | 0, _ => Check.fail .notTaggable
  | fuel + 1, v => acceptKind kinds (build ⟨acceptWithin fuel⟩) v

def accept (v : Value) : Check ScopeItem := acceptWithin (v.depth + 1) v

/-- Checks an item that stands alone. -/
def read (v : Value) : Check ScopeItem := Check.ofUnion (accept v)

def rule : Rule ScopeItem := ⟨accept⟩

end ScopeItem

end CWriter

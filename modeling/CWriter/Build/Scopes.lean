import CWriter.Build.Classes
import CWriter.Build.Records
import CWriter.Schema.Scopes

/-! Building scopes item by item. A builder that fails appends nothing. -/
namespace CWriter

namespace Scope

def append (item : ScopeItem) (s : Scope) : Scope := { s with items := s.items ++ [item] }

/-- Appends an item that is still to be checked, and answers with it. -/
def add (item : α → ScopeItem) (x : Check α) : Edit Scope ScopeItem := do
  let i ← item <$> Edit.check x
  modify (append i)
  pure i

def adding (item : α → ScopeItem) (x : Check α) : Option (Edit Scope Reply) :=
  Edit.answering ((.entity ·.entity) <$> add item x)

/-- Appends an item that stands alone already, or the data of one. -/
def push (v : Value) : Edit Scope Unit := do
  let item ← Edit.check (ScopeItem.read v)
  modify (append item)

def setFilename (v : Value) : Edit Scope Unit := do
  let name ← Edit.identifierArg v
  modify ({ · with filename := some name.text })

def pushDoc (text : String) : Edit Scope Unit := do
  let doc ← Edit.check (addDoc text (← get).doc)
  modify ({ · with doc := some doc })

def newIfDef (symbol : Value) (guard : Bool) : Check IfDef :=
  (fun i => { i with guard }) <$> (IfDef.schema ScopeItem.rule).build [("symbol", symbol)]

def methods : Methods Scope
  | .setFilename, [name] => Edit.chained (setFilename name)
  | .pushDoc, [text] => Edit.chained (pushDoc text.plainText)
  | .push, [item] => Edit.chained (push item)
  | .newInclude, [path, system] =>
    adding .inclusion (Include.schema.build [("path", path), ("system", system)])
  | .newMacro, [name, value] =>
    adding .definition (Macro.schema.build [("name", name), ("value", value)])
  | .newVariable, [name, type] =>
    adding .global (Variable.schema.build [("name", name), ("type", type)])
  | .newStruct, [name] => adding .record ((Record.schema .struct).build [("name", name)])
  | .newUnion, [name] => adding .record ((Record.schema .union).build [("name", name)])
  | .newEnum, [name] => adding .enumeration (Enumeration.schema.build [("name", name)])
  | .newClass, [name] => adding .cls (Class.schema.build [("name", name)])
  | .newFunction, [name, ret] =>
    adding .function (Function.schema.build
      [("name", name), ("return_type", Class.returnTypeArg ret)])
  | .newComment, [text, heading] =>
    adding .comment (Comment.schema.build [("text", text), ("heading", heading)])
  | .newDoc, [text] => adding .doc (Doc.schema.build [("texts", .list [text])])
  | .newIfDef, [symbol] => adding .ifDef (newIfDef symbol false)
  | .newIncludeGuard, [symbol] => adding .ifDef (newIfDef symbol true)
  | _, _ => none

end Scope

namespace IfDef

/-- The `#else` branch, which comes into being when it is first asked for. -/
def elseBranch : Edit IfDef Scope := do
  match (← get).elseScope with
  | some s => pure s
  | none =>
    let s ← Edit.check Scope.new
    modify ({ · with elseScope := some s })
    pure s

def methods : Methods IfDef
  | .thenScope, [] => Edit.looking fun i => .entity (.scope i.thenScope)
  | .elseScope, [] => Edit.answering ((.entity <| .scope ·) <$> elseBranch)
  | .setGuard, [v] => Edit.chained ((IfDef.schema ScopeItem.rule).assign "guard" v)
  | _, _ => none

end IfDef

end CWriter

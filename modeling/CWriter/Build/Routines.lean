import CWriter.Build.Statements
import CWriter.Schema.Routines

/-!
Editing functions, methods, constructors and destructors. Setters of flags that exclude each
other clear the others first, going by whether the argument counts as true, and check the
argument afterwards.
-/
namespace CWriter

namespace Check

/-- Sets aside as many identities as have been handed out, and answers with how many. Adding
that number to every identity of a tree gives a tree of new parts, in which parts that were the
same are the same. -/
def freshOffset : Check Nat := fun ledger =>
  (.ok ledger.next, { ledger with next := 2 * ledger.next })

end Check

def Doc.shifted (offset : Nat) (d : Doc) : Doc := { d with id := d.id + offset }

def Param.shifted (offset : Nat) (p : Param) : Param :=
  { p with id := p.id + offset, type := p.type.shifted offset }

/-- What a value lists: a text its characters, and a plain object its keys. -/
def Value.listed? (v : Value) : Option (List Value) :=
  match v.text?, v with
  | some s, _ => some (s.toList.map fun c => .str c.toString)
  | none, .object members => some (members.map fun (name, _) => .str name)
  | none, v => v.items?

namespace Routine

def bodySlot : Slot Routine :=
  .optional "body" (.list BodyItem.rule) (fun x s => { s with body := x })

/-- Replaces the body. -/
def setBody (lines : Value) : Edit Routine Unit := do
  let s ← get
  let some items := lines.listed? | throw (.noItems lines.className)
  set (← Edit.check (Check.entering .entity (Check.within "body" (bodySlot.store s (.list items)))))

/-- Appends to the body. -/
def pushLine (line : Value) : Edit Routine Unit := do
  let item ← Edit.check (BodyItem.read line)
  modify fun s => { s with body := s.body ++ [item] }

def setDefinition (v : Value) : Edit Routine Unit := do
  let decided ← Edit.check (Check.within "definition" ((Rule.nullable .bool).accept v))
  modify ({ · with definition := decided })

/-- A prototype made of new parts: no body, and no way to become a definition by having one. -/
def toDecl (offset : Nat) (r : Routine) : Routine :=
  { r with
    id := r.id + offset
    doc := r.doc.map (Doc.shifted offset)
    body := []
    definition := some false }

def methods : Methods Routine
  | .setBody, [items] => Edit.chained (setBody items)
  | .pushLine, [item] => Edit.chained (pushLine item)
  | .setDefinition, [v] => Edit.chained (setDefinition v)
  | .isDefinition, [] => Edit.looking fun r => .bool r.isDefinition
  | verb, args =>
    Edit.zoomMethods (·.toDocumented) (fun x r => { r with toDocumented := x })
      Documented.methods verb args

end Routine

namespace Callable

def newParam (name type : Value) : Edit Callable Param := do
  let p ← Edit.check (Param.schema.build [("name", name), ("type", type)])
  modify fun c => { c with params := c.params ++ [p] }
  pure p

/-- Appends a parameter. What stands for one is checked, and built from data. -/
def pushParam (v : Value) : Edit Callable Unit := do
  let p ← Edit.check (Param.schema.accept v)
  modify fun c => { c with params := c.params ++ [p] }

def paramByName (name : String) (c : Callable) : Option Param :=
  c.params.find? (·.name.text == name)

def toDecl (offset : Nat) (c : Callable) : Callable :=
  { c with toRoutine := c.toRoutine.toDecl offset, params := c.params.map (Param.shifted offset) }

def methods : Methods Callable
  | .newParam, [name, type] => Edit.answering ((.entity <| .param ·) <$> newParam name type)
  | .pushParam, [p] => Edit.chained (pushParam p)
  | .paramByName, [name] => Edit.looking fun c =>
      Value.ofOption (.entity <| .param ·) (name.named? (c.paramByName ·))
  | verb, args =>
    Edit.zoomMethods (·.toRoutine) (fun x c => { c with toRoutine := x }) Routine.methods verb args

end Callable

namespace Function

def routine (x : Edit Routine Unit) : Edit Function Unit :=
  x.zoom (·.toRoutine) (fun r f => { f with toRoutine := r })

def setStatic (v : Value) : Edit Function Unit := do
  if v.countsAsTrue then modify ({ · with isExtern := false })
  schema.assign "is_static" v

def setInline (v : Value) : Edit Function Unit := do
  if v.countsAsTrue then modify ({ · with isExtern := false })
  schema.assign "is_inline" v

def setExtern (v : Value) : Edit Function Unit := do
  if v.countsAsTrue then modify ({ · with isStatic := false, isInline := false })
  schema.assign "is_extern" v

/-- A function with a body is not external. This holds before the body is checked. -/
def setBody (lines : Value) : Edit Function Unit := do
  if lines.countsAsTrue then modify ({ · with isExtern := false })
  routine (Routine.setBody lines)

/-- A function with a body is not external. This holds once the line is accepted. -/
def pushLine (line : Value) : Edit Function Unit := do
  routine (Routine.pushLine line)
  modify ({ · with isExtern := false })

def toDecl (offset : Nat) (f : Function) : Function :=
  { f with
    toCallable := f.toCallable.toDecl offset
    returnType := f.returnType.shifted offset }

def methods : Methods Function
  | .setReturnType, [type] => Edit.chained (schema.assign "return_type" type)
  | .setStatic, [v] => Edit.chained (setStatic v)
  | .setInline, [v] => Edit.chained (setInline v)
  | .setExtern, [v] => Edit.chained (setExtern v)
  | .setBody, [items] => Edit.chained (setBody items)
  | .pushLine, [item] => Edit.chained (pushLine item)
  | .signature, [style] => Edit.spelling (·.numerals) (·.signature style.style)
  | .toDecl, [] => Edit.answering do
    let offset ← Edit.check Check.freshOffset
    pure (.entity (.function ((← get).toDecl offset)))
  | verb, args =>
    Edit.zoomMethods (·.toCallable) (fun x f => { f with toCallable := x })
      Callable.methods verb args

end Function

namespace Method

def routine (x : Edit Routine Unit) : Edit Method Unit :=
  x.zoom (·.toRoutine) (fun r m => { m with toRoutine := r })

/-- A method that is not virtual is not pure. -/
def setVirtual (v : Value) : Edit Method Unit := do
  if !v.countsAsTrue then modify ({ · with isPure := false })
  schema.assign "is_virtual" v

/-- A pure method is virtual. -/
def setPure (v : Value) : Edit Method Unit := do
  if v.countsAsTrue then modify ({ · with isVirtual := true })
  schema.assign "is_pure" v

def setExtern (v : Value) : Edit Method Unit := do
  if v.countsAsTrue then throw (.externMethod (← get).name)

def setBody (lines : Value) : Edit Method Unit := do
  if lines.countsAsTrue then modify ({ · with isPure := false })
  routine (Routine.setBody lines)

def pushLine (line : Value) : Edit Method Unit := do
  routine (Routine.pushLine line)
  modify ({ · with isPure := false })

def toDecl (offset : Nat) (m : Method) : Method :=
  { m with
    toCallable := m.toCallable.toDecl offset
    returnType := m.returnType.shifted offset }

def methods : Methods Method
  | .setReturnType, [type] => Edit.chained (schema.assign "return_type" type)
  | .setStatic, [v] => Edit.chained (schema.assign "is_static" v)
  | .setInline, [v] => Edit.chained (schema.assign "is_inline" v)
  | .setExtern, [v] => Edit.chained (setExtern v)
  | .setVirtual, [v] => Edit.chained (setVirtual v)
  | .setPure, [v] => Edit.chained (setPure v)
  | .setConst, [v] => Edit.chained (schema.assign "is_const" v)
  | .setOverride, [v] => Edit.chained (schema.assign "is_override" v)
  | .setVisibility, [v] => Edit.chained (schema.assign "visibility" v)
  | .setBody, [items] => Edit.chained (setBody items)
  | .pushLine, [item] => Edit.chained (pushLine item)
  | .signature, [style] => Edit.spelling (·.numerals) (·.signature style.style)
  | .toDecl, [] => Edit.answering do
    let offset ← Edit.check Check.freshOffset
    pure (.entity (.method ((← get).toDecl offset)))
  | verb, args =>
    Edit.zoomMethods (·.toCallable) (fun x m => { m with toCallable := x })
      Callable.methods verb args

end Method

namespace Constructor

def setDefault (v : Value) : Edit Constructor Unit := do
  if v.countsAsTrue then modify ({ · with isDelete := false })
  schema.assign "is_default" v

def setDelete (v : Value) : Edit Constructor Unit := do
  if v.countsAsTrue then modify ({ · with isDefault := false })
  schema.assign "is_delete" v

def setCopy (v : Value) : Edit Constructor Unit := do
  if v.countsAsTrue then modify ({ · with isMove := false })
  schema.assign "is_copy" v

def setMove (v : Value) : Edit Constructor Unit := do
  if v.countsAsTrue then modify ({ · with isCopy := false })
  schema.assign "is_move" v

def pushInitializer (text : String) (c : Constructor) : Constructor :=
  { c with initializers := c.initializers ++ [text] }

def toDecl (offset : Nat) (c : Constructor) : Constructor :=
  { c with toCallable := c.toCallable.toDecl offset }

def methods : Methods Constructor
  | .pushInitializer, [text] => Edit.chained (modify (pushInitializer text.plainText))
  | .setExplicit, [v] => Edit.chained (schema.assign "is_explicit" v)
  | .setDefault, [v] => Edit.chained (setDefault v)
  | .setDelete, [v] => Edit.chained (setDelete v)
  | .setCopy, [v] => Edit.chained (setCopy v)
  | .setMove, [v] => Edit.chained (setMove v)
  | .setVisibility, [v] => Edit.chained (schema.assign "visibility" v)
  | .isDefinition, [] => Edit.looking fun c => .bool c.isDefinition
  | .toDecl, [] => Edit.answering do
    let offset ← Edit.check Check.freshOffset
    pure (.entity (.constructor ((← get).toDecl offset)))
  | verb, args =>
    Edit.zoomMethods (·.toCallable) (fun x c => { c with toCallable := x })
      Callable.methods verb args

end Constructor

namespace Destructor

def routine (x : Edit Routine Unit) : Edit Destructor Unit :=
  x.zoom (·.toRoutine) (fun r d => { d with toRoutine := r })

def setVirtual (v : Value) : Edit Destructor Unit := do
  if !v.countsAsTrue then modify ({ · with isPure := false })
  schema.assign "is_virtual" v

def setDefault (v : Value) : Edit Destructor Unit := do
  if v.countsAsTrue then modify ({ · with isPure := false })
  schema.assign "is_default" v

def setPure (v : Value) : Edit Destructor Unit := do
  if v.countsAsTrue then modify ({ · with isVirtual := true, isDefault := false })
  schema.assign "is_pure" v

def setBody (lines : Value) : Edit Destructor Unit := do
  if lines.countsAsTrue then modify ({ · with isPure := false })
  routine (Routine.setBody lines)

def pushLine (line : Value) : Edit Destructor Unit := do
  routine (Routine.pushLine line)
  modify ({ · with isPure := false })

def toDecl (offset : Nat) (d : Destructor) : Destructor :=
  { d with toRoutine := d.toRoutine.toDecl offset }

def methods : Methods Destructor
  | .setVirtual, [v] => Edit.chained (setVirtual v)
  | .setDefault, [v] => Edit.chained (setDefault v)
  | .setPure, [v] => Edit.chained (setPure v)
  | .setVisibility, [v] => Edit.chained (schema.assign "visibility" v)
  | .setBody, [items] => Edit.chained (setBody items)
  | .pushLine, [item] => Edit.chained (pushLine item)
  | .toDecl, [] => Edit.answering do
    let offset ← Edit.check Check.freshOffset
    pure (.entity (.destructor ((← get).toDecl offset)))
  | verb, args =>
    Edit.zoomMethods (·.toRoutine) (fun x d => { d with toRoutine := x }) Routine.methods verb args

end Destructor

end CWriter

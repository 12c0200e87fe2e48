import CWriter.Schema.Statements

/-! The fields of functions, methods, constructors and destructors. -/
namespace CWriter

namespace Routine

def nameSlot : Slot Routine :=
  Documented.nameSlot.zoom (·.toDocumented) (fun x s => { s with toDocumented := x })

/-- The fields after the name. -/
def ownSlots : List (Slot Routine) := [
  Documented.docSlot.zoom (·.toDocumented) (fun x s => { s with toDocumented := x }),
  .optional "body" (.list BodyItem.rule) (fun x s => { s with body := x }),
  .optional "definition" (.nullable .bool)
    (fun x s => { s with definition := x })]

def start (id : Id) : Routine := { toDocumented := .start id }

end Routine

namespace Callable

def nameSlot : Slot Callable :=
  Routine.nameSlot.zoom (·.toRoutine) (fun x s => { s with toRoutine := x })

/-- The fields after the name. -/
def ownSlots : List (Slot Callable) :=
  Routine.ownSlots.map (.zoom (·.toRoutine) (fun x s => { s with toRoutine := x })) ++ [
  .optional "params" (.list (Param.schema.rule))
    (fun x s => { s with params := x })]

def start (id : Id) : Callable := { toRoutine := .start id }

end Callable

def Function.schema : Schema Function where
  className := "Function"
  slots :=
    (Callable.nameSlot :: Callable.ownSlots).map
      (.zoom (·.toCallable) (fun x s => { s with toCallable := x })) ++ [
    .fixed "kind" "function",
    .made "return_type" CType.rule CType.void.identified
      (fun x s => { s with returnType := x }),
    .optional "is_static" .bool (fun x s => { s with isStatic := x }),
    .optional "is_inline" .bool (fun x s => { s with isInline := x }),
    .optional "is_extern" .bool (fun x s => { s with isExtern := x })]
  start id := { toCallable := .start id }
  ofEntity? := Part.ofEntity?

/-- A flag that is always false, which may be given as a number too. -/
def Slot.never (name : String) : Slot σ where
  name
  store s v := if v.isZero then pure s else Check.fail (.notFixed ["False"])
  absent := pure

def Method.schema : Schema Method :=
  let callable : Slot Callable → Slot Method :=
    .zoom (·.toCallable) (fun x s => { s with toCallable := x })
  { className := "Method"
    slots := [
      callable Callable.nameSlot,
      .optional "visibility" .visibility (fun x s => { s with visibility := x })] ++
      Callable.ownSlots.map callable ++ [
      .fixed "kind" "method",
      .made "return_type" CType.rule CType.void.identified
        (fun x s => { s with returnType := x }),
      .optional "is_static" .bool (fun x s => { s with isStatic := x }),
      .optional "is_inline" .bool (fun x s => { s with isInline := x }),
      .never "is_extern",
      .optional "is_virtual" .bool (fun x s => { s with isVirtual := x }),
      .optional "is_pure" .bool (fun x s => { s with isPure := x }),
      .optional "is_const" .bool (fun x s => { s with isConst := x }),
      .optional "is_override" .bool (fun x s => { s with isOverride := x })]
    start := fun id => { toCallable := .start id }
    ofEntity? := Part.ofEntity? }

def Constructor.schema : Schema Constructor :=
  let callable : Slot Callable → Slot Constructor :=
    .zoom (·.toCallable) (fun x s => { s with toCallable := x })
  { className := "Constructor"
    slots := [
      callable Callable.nameSlot,
      .optional "visibility" .visibility (fun x s => { s with visibility := x })] ++
      Callable.ownSlots.map callable ++ [
      .fixed "kind" "constructor",
      .optional "initializers" (.list .text)
        (fun x s => { s with initializers := x }),
      .optional "is_explicit" .bool (fun x s => { s with isExplicit := x }),
      .optional "is_default" .bool (fun x s => { s with isDefault := x }),
      .optional "is_delete" .bool (fun x s => { s with isDelete := x }),
      .optional "is_copy" .bool (fun x s => { s with isCopy := x }),
      .optional "is_move" .bool (fun x s => { s with isMove := x })]
    start := fun id => { toCallable := .start id }
    ofEntity? := Part.ofEntity? }

def Destructor.schema : Schema Destructor :=
  let routine : Slot Routine → Slot Destructor :=
    .zoom (·.toRoutine) (fun x s => { s with toRoutine := x })
  { className := "Destructor"
    slots := [
      routine Routine.nameSlot,
      .optional "visibility" .visibility (fun x s => { s with visibility := x })] ++
      Routine.ownSlots.map routine ++ [
      .fixed "kind" "destructor",
      .optional "is_virtual" .bool (fun x s => { s with isVirtual := x }),
      .optional "is_default" .bool (fun x s => { s with isDefault := x }),
      .optional "is_pure" .bool (fun x s => { s with isPure := x })]
    start := fun id => { toRoutine := .start id }
    ofEntity? := Part.ofEntity? }

end CWriter

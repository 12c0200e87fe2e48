import CWriter.Data.Nesting
import CWriter.Data.Shown

/-! Objects as plain data. -/
namespace CWriter

/-- Why an object has no plain data. -/
inductive DumpFault where
  | tooDeep
  /-- An object stands in itself. -/
  | circular
  deriving DecidableEq

def DumpFault.message : DumpFault → String
  | tooDeep => "Maximum serialization depth exceeded"
  | circular => "Circular reference detected (id repeated)"

/-- How an entity counts where it is entered. -/
def Entity.layer : Entity → Layer
  | .block _ => .block
  | .scope _ => .scope
  | .doc _ => .doc
  | .ifDef _ | .branch _ | .ifElse _ | .loop _ | .forLoop _ | .case _ | .switch _ => .inner
  | _ => .entity

/-- What is entered with an object. -/
def Value.layer? : Value → Option Layer
  | .type t => some (.type t.variantName)
  | .expr e => some (.expr e.variantName)
  | .entity e => some e.layer
  | _ => none

/-- An attribute among the fields of a record shows only what makes it a field. -/
def Entity.dumpFields : Entity → Members
  | .record r =>
    let asField : RecordField → Value
      | .plain f => .entity (.field f)
      | .attr a => .entity (.field a.toField)
    (Entity.record r).fields.map fun (name, v) =>
      (name, if name = "fields" then .list (r.fields.map asField) else v)
  | e => e.fields

/-- What leads to a value that is dumped. -/
structure DumpPath where
  frame : Frame := { outermost := true }
  levels : Nat := 0
  /-- The blocks and scopes that the value stands in. -/
  holders : List Id := []

namespace DumpPath

/-- The path that leads into an object. -/
def enter (p : DumpPath) (v : Value) : Except DumpFault DumpPath :=
  match v.layer? with
  | none => .ok p
  | some layer =>
    let (levels, frame) := p.frame.enter layer
    let holder : Option Id := match layer with
      | .block | .scope => v.id?
      | _ => none
    if holder.any p.holders.contains then .error .circular
    else if mostNested < p.levels + levels then .error .tooDeep
    else .ok { frame, levels := p.levels + levels, holders := holder.toList ++ p.holders }

end DumpPath

namespace Value

/-- The plain data of a value, down to a level. -/
def dumpWithin : Nat → DumpPath → Value → Except DumpFault Value
  | 0, _, _ => .error .tooDeep
  | more + 1, path, v => do
    let path ← path.enter v
    let members (ms : Members) : Except DumpFault Value :=
      object <$> ms.mapM fun (name, v) => do return (name, ← dumpWithin more path v)
    match v with
    | word w => return str w.text
    | list items | tuple items => list <$> items.mapM (dumpWithin more path)
    | type t => members t.fields
    | expr e => members e.fields
    | entity e => members e.dumpFields
    | v => return v

/-- The plain data of an object. -/
def dump (v : Value) : Except DumpFault Value := dumpWithin mostLevels {} v

end Value

end CWriter

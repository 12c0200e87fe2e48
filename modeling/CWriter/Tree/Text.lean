import CWriter.Tree.Entity

/-! The text of any entity on its own, and what is written inside what. -/
namespace CWriter

def docParts (d : Option Doc) : List Entity := d.toList.map .doc

def bodyParts (items : List BodyItem) : List Entity :=
  items.flatMap fun
    | .verbatim _ => []
    | .stmt s => [s.entity]

def Routine.written (r : Routine) (isDefinition : Bool) : List Entity :=
  docParts r.doc ++ if isDefinition then bodyParts r.body else []

/-- The parts that an entity lays out for the place where they stand. -/
def Entity.written : Entity → List Entity
  | definition m => docParts m.doc
  | field f => docParts f.doc
  | attr a => docParts a.doc
  | global v => docParts v.doc
  | variant v => docParts v.doc
  | record r => docParts r.doc ++ r.fields.map RecordField.entity
  | enumeration e => docParts e.doc ++ e.variants.map .variant
  | function f => f.written f.isDefinition
  | method m => m.written (!m.isPure && m.isDefinition)
  | constructor c => c.written (!c.isDefault && !c.isDelete && c.isDefinition)
  | destructor d => d.written (!d.isDefault && !d.isPure && d.isDefinition)
  | cls c => docParts c.doc ++ c.members.map Member.entity
  | ifDef i => .scope i.thenScope :: i.elseScope.toList.map .scope
  | scope s => docParts s.doc ++ s.items.map ScopeItem.entity
  | block b => bodyParts b.stmts
  | ifElse s =>
    .block s.thenBody :: s.elifs.map (fun b => .block b.body) ++ s.otherwise.toList.map .block
  | loop s => [.block s.body]
  | forLoop s => [.block s.body]
  | switch s => s.cases.map (fun c => .block c.body) ++ s.default.toList.map .block
  | _ => []

namespace Entity

/-- The steps that lay an entity out on its own. Parameters have none of their own, and
neither have the parts that are only written inside others. -/
def steps? (style : Style) : Entity → Option (List Step)
  | doc d => some d.steps
  | comment c => some c.steps
  | inclusion i => some i.steps
  | definition m => some m.steps
  | field f => some f.steps
  | attr a => some a.steps
  | global v => some v.steps
  | record r => some r.steps
  | variant v => some (v.steps "")
  | enumeration e => some e.steps
  | function f => some (f.steps style)
  | method m => some (m.steps style)
  | constructor c => some (c.steps style)
  | destructor d => some d.steps
  | cls c => some (c.steps style)
  | ifDef i => some (i.steps style)
  | scope s => some (s.steps style)
  | ret s => some (Statement.ret s).steps
  | assign s => some (Statement.assign s).steps
  | eval s => some (Statement.eval s).steps
  | jump s => some (Statement.jump s).steps
  | label s => some (Statement.label s).steps
  | block b => some b.steps
  | ifElse s => some s.steps
  | loop s => some s.steps
  | forLoop s => some s.steps
  | switch s => some s.steps
  | param _ | baseClass _ | branch _ | case _ | sheet _ => none

/-- The text of an entity on its own. -/
def text (style : Style) (e : Entity) : Except LayoutFault String :=
  match e.steps? style with
  | none => .error .noRendering
  | some steps => render style steps

/-- Prints an entity on its own. -/
def print (style : Style) (e : Entity) : Except LayoutFault String :=
  match e.steps? style with
  | none => .error .noRendering
  | some steps => CWriter.print style steps

/-- The identity of a block or a scope, in which entities of its own class may stand. -/
def holder? : Entity → Option Id
  | block b => some b.id
  | scope s => some s.id
  | _ => none

/-- Whether one of the blocks and scopes that an entity leads to leads to itself. Some parts of each
are followed, down to a level. -/
def isEndless (follow : Entity → List Entity) : Nat → List Id → Entity → Bool
  | 0, _, _ => true
  | levels + 1, holders, e =>
    e.holder?.any holders.contains ||
      (follow e).any (isEndless follow levels (e.holder?.toList ++ holders))

end Entity

end CWriter

import CWriter.Tree.Scope

/-!
Everything with an identity, under one type, and the parts of each entity.
-/
namespace CWriter

/-- Layout settings that several holders share and change together. -/
structure StyleSheet where
  id : Id
  style : Style

inductive Entity where
  | doc (d : Doc)
  | comment (c : Comment)
  | inclusion (i : Include)
  | definition (m : Macro)
  | field (f : Field)
  | attr (a : Attribute)
  | param (p : Param)
  | global (v : Variable)
  | record (r : Record)
  | variant (v : Variant)
  | enumeration (e : Enumeration)
  | function (f : Function)
  | method (m : Method)
  | constructor (c : Constructor)
  | destructor (d : Destructor)
  | baseClass (b : BaseClass)
  | cls (c : Class)
  | ifDef (i : IfDef)
  | scope (s : Scope)
  | ret (s : Return)
  | assign (s : Assign)
  | eval (s : ExprStmt)
  | jump (s : Jump)
  | label (s : Label)
  | block (b : Block)
  | branch (b : Branch)
  | ifElse (s : IfElse)
  | loop (s : Loop)
  | forLoop (s : ForLoop)
  | case (c : Case)
  | switch (s : Switch)
  | sheet (s : StyleSheet)

/-- The parts that an entity can be. -/
class Part (α : Type) where
  id : α → Id
  entity : α → Entity
  ofEntity? : Entity → Option α

instance : Part Doc := ⟨Doc.id, .doc, fun | .doc x => some x | _ => none⟩
instance : Part Comment := ⟨Comment.id, .comment, fun | .comment x => some x | _ => none⟩
instance : Part Include := ⟨Include.id, .inclusion, fun | .inclusion x => some x | _ => none⟩
instance : Part Macro := ⟨(·.id), .definition, fun | .definition x => some x | _ => none⟩
instance : Part Field := ⟨(·.id), .field, fun | .field x => some x | _ => none⟩
instance : Part Attribute := ⟨(·.id), .attr, fun | .attr x => some x | _ => none⟩
instance : Part Param := ⟨(·.id), .param, fun | .param x => some x | _ => none⟩
instance : Part Variable := ⟨(·.id), .global, fun | .global x => some x | _ => none⟩
instance : Part Record := ⟨(·.id), .record, fun | .record x => some x | _ => none⟩
instance : Part Variant := ⟨(·.id), .variant, fun | .variant x => some x | _ => none⟩
instance : Part Enumeration :=
  ⟨(·.id), .enumeration, fun | .enumeration x => some x | _ => none⟩
instance : Part Function := ⟨(·.id), .function, fun | .function x => some x | _ => none⟩
instance : Part Method := ⟨(·.id), .method, fun | .method x => some x | _ => none⟩
instance : Part Constructor :=
  ⟨(·.id), .constructor, fun | .constructor x => some x | _ => none⟩
instance : Part Destructor := ⟨(·.id), .destructor, fun | .destructor x => some x | _ => none⟩
instance : Part BaseClass := ⟨BaseClass.id, .baseClass, fun | .baseClass x => some x | _ => none⟩
instance : Part Class := ⟨(·.id), .cls, fun | .cls x => some x | _ => none⟩
instance : Part IfDef := ⟨IfDef.id, .ifDef, fun | .ifDef x => some x | _ => none⟩
instance : Part Scope := ⟨Scope.id, .scope, fun | .scope x => some x | _ => none⟩
instance : Part Return := ⟨Return.id, .ret, fun | .ret x => some x | _ => none⟩
instance : Part Assign := ⟨Assign.id, .assign, fun | .assign x => some x | _ => none⟩
instance : Part ExprStmt := ⟨ExprStmt.id, .eval, fun | .eval x => some x | _ => none⟩
instance : Part Jump := ⟨Jump.id, .jump, fun | .jump x => some x | _ => none⟩
instance : Part Label := ⟨Label.id, .label, fun | .label x => some x | _ => none⟩
instance : Part Block := ⟨Block.id, .block, fun | .block x => some x | _ => none⟩
instance : Part Branch := ⟨Branch.id, .branch, fun | .branch x => some x | _ => none⟩
instance : Part IfElse := ⟨IfElse.id, .ifElse, fun | .ifElse x => some x | _ => none⟩
instance : Part Loop := ⟨Loop.id, .loop, fun | .loop x => some x | _ => none⟩
instance : Part ForLoop := ⟨ForLoop.id, .forLoop, fun | .forLoop x => some x | _ => none⟩
instance : Part Case := ⟨Case.id, .case, fun | .case x => some x | _ => none⟩
instance : Part Switch := ⟨Switch.id, .switch, fun | .switch x => some x | _ => none⟩
instance : Part StyleSheet := ⟨StyleSheet.id, .sheet, fun | .sheet x => some x | _ => none⟩

def Statement.entity : Statement → Entity
  | .ret s => .ret s
  | .assign s => .assign s
  | .eval s => .eval s
  | .jump s => .jump s
  | .label s => .label s
  | .declare v => .global v
  | .remark c => .comment c
  | .block b => .block b
  | .ifElse s => .ifElse s
  | .loop s => .loop s
  | .forLoop s => .forLoop s
  | .switch s => .switch s

def ScopeItem.entity : ScopeItem → Entity
  | .doc d => .doc d
  | .comment c => .comment c
  | .inclusion i => .inclusion i
  | .definition m => .definition m
  | .global v => .global v
  | .record r => .record r
  | .enumeration e => .enumeration e
  | .cls c => .cls c
  | .function f => .function f
  | .ifDef i => .ifDef i

def Member.entity : Member → Entity
  | .attr a => .attr a
  | .constructor c => .constructor c
  | .destructor d => .destructor d
  | .method m => .method m

def RecordField.entity : RecordField → Entity
  | .plain f => .field f
  | .attr a => .attr a

namespace Entity

def id : Entity → Id
  | doc x => Part.id x
  | comment x => Part.id x
  | inclusion x => Part.id x
  | definition x => Part.id x
  | field x => Part.id x
  | attr x => Part.id x
  | param x => Part.id x
  | global x => Part.id x
  | record x => Part.id x
  | variant x => Part.id x
  | enumeration x => Part.id x
  | function x => Part.id x
  | method x => Part.id x
  | constructor x => Part.id x
  | destructor x => Part.id x
  | baseClass x => Part.id x
  | cls x => Part.id x
  | ifDef x => Part.id x
  | scope x => Part.id x
  | ret x => Part.id x
  | assign x => Part.id x
  | eval x => Part.id x
  | jump x => Part.id x
  | label x => Part.id x
  | block x => Part.id x
  | branch x => Part.id x
  | ifElse x => Part.id x
  | loop x => Part.id x
  | forLoop x => Part.id x
  | case x => Part.id x
  | switch x => Part.id x
  | sheet x => Part.id x

/-- The name of the class of an entity. -/
def className : Entity → String
  | doc _ => "Doc"
  | comment _ => "Comment"
  | inclusion _ => "Include"
  | definition _ => "Macro"
  | field _ => "Field"
  | attr _ => "Attribute"
  | param _ => "Param"
  | global _ => "Variable"
  | record r => match r.kind with
    | .struct => "Struct"
    | .union => "Union"
  | variant _ => "Variant"
  | enumeration _ => "Enum"
  | function _ => "Function"
  | method _ => "Method"
  | constructor _ => "Constructor"
  | destructor _ => "Destructor"
  | baseClass _ => "BaseClass"
  | cls _ => "Class"
  | ifDef _ => "IfDef"
  | scope _ => "Scope"
  | ret _ => "Return"
  | assign _ => "Assign"
  | eval _ => "ExprStmt"
  | jump _ => "Jump"
  | label _ => "Label"
  | block _ => "Block"
  | branch _ => "Branch"
  | ifElse _ => "IfElse"
  | loop l => match l.kind with
    | .testFirst => "WhileLoop"
    | .testLast => "DoWhileLoop"
  | forLoop _ => "ForLoop"
  | case _ => "Case"
  | switch _ => "Switch"
  | sheet _ => "FormatConfig"

end Entity

/-- A part as `f` has it, where `f` gives a part of the same class. -/
def Part.mapped {α : Type} [Part α] (f : Entity → Entity) (x : α) : α :=
  (Part.ofEntity? (f (Part.entity x))).getD x

def Documented.mapParts (f : Entity → Entity) (d : Documented) : Documented :=
  { d with doc := d.doc.map (Part.mapped f) }

def RecordField.mapped (f : Entity → Entity) : RecordField → RecordField
  | .plain x => .plain (Part.mapped f x)
  | .attr a => .attr (Part.mapped f a)

def Statement.mapped (f : Entity → Entity) : Statement → Statement
  | .ret s => .ret (Part.mapped f s)
  | .assign s => .assign (Part.mapped f s)
  | .eval s => .eval (Part.mapped f s)
  | .jump s => .jump (Part.mapped f s)
  | .label s => .label (Part.mapped f s)
  | .declare v => .declare (Part.mapped f v)
  | .remark c => .remark (Part.mapped f c)
  | .block b => .block (Part.mapped f b)
  | .ifElse s => .ifElse (Part.mapped f s)
  | .loop s => .loop (Part.mapped f s)
  | .forLoop s => .forLoop (Part.mapped f s)
  | .switch s => .switch (Part.mapped f s)

def BodyItem.mapped (f : Entity → Entity) : BodyItem → BodyItem
  | .verbatim text => .verbatim text
  | .stmt s => .stmt (s.mapped f)

def Member.mapped (f : Entity → Entity) : Member → Member
  | .attr a => .attr (Part.mapped f a)
  | .constructor c => .constructor (Part.mapped f c)
  | .destructor d => .destructor (Part.mapped f d)
  | .method m => .method (Part.mapped f m)

def ScopeItem.mapped (f : Entity → Entity) : ScopeItem → ScopeItem
  | .doc d => .doc (Part.mapped f d)
  | .comment c => .comment (Part.mapped f c)
  | .inclusion i => .inclusion (Part.mapped f i)
  | .definition m => .definition (Part.mapped f m)
  | .global v => .global (Part.mapped f v)
  | .record r => .record (Part.mapped f r)
  | .enumeration e => .enumeration (Part.mapped f e)
  | .cls c => .cls (Part.mapped f c)
  | .function g => .function (Part.mapped f g)
  | .ifDef i => .ifDef (Part.mapped f i)

def Routine.mapParts (f : Entity → Entity) (r : Routine) : Routine :=
  { r with toDocumented := r.toDocumented.mapParts f, body := r.body.map (BodyItem.mapped f) }

def Callable.mapParts (f : Entity → Entity) (c : Callable) : Callable :=
  { c with toRoutine := c.toRoutine.mapParts f, params := c.params.map (Part.mapped f) }

/-- Puts `f` of each part in the place of the part. Only the parts that stand directly in the
entity are looked at, and each keeps its class. -/
def Entity.mapParts (f : Entity → Entity) : Entity → Entity
  | .definition m => .definition { m with toDocumented := m.toDocumented.mapParts f }
  | .field x => .field { x with toDocumented := x.toDocumented.mapParts f }
  | .attr a => .attr { a with toDocumented := a.toDocumented.mapParts f }
  | .global v => .global { v with toDocumented := v.toDocumented.mapParts f }
  | .record r =>
    .record
      { r with
        toDocumented := r.toDocumented.mapParts f
        fields := r.fields.map (RecordField.mapped f) }
  | .variant v => .variant { v with toDocumented := v.toDocumented.mapParts f }
  | .enumeration e =>
    .enumeration
      { e with
        toDocumented := e.toDocumented.mapParts f
        variants := e.variants.map (Part.mapped f) }
  | .function g => .function { g with toCallable := g.toCallable.mapParts f }
  | .method m => .method { m with toCallable := m.toCallable.mapParts f }
  | .constructor c => .constructor { c with toCallable := c.toCallable.mapParts f }
  | .destructor d => .destructor { d with toRoutine := d.toRoutine.mapParts f }
  | .cls c =>
    .cls
      { c with
        toDocumented := c.toDocumented.mapParts f
        bases := c.bases.map (Part.mapped f)
        members := c.members.map (Member.mapped f) }
  | .ifDef i =>
    .ifDef
      { i with
        thenScope := Part.mapped f i.thenScope
        elseScope := i.elseScope.map (Part.mapped f) }
  | .scope s =>
    .scope { s with doc := s.doc.map (Part.mapped f), items := s.items.map (ScopeItem.mapped f) }
  | .block b => .block { b with stmts := b.stmts.map (BodyItem.mapped f) }
  | .branch b => .branch { b with body := Part.mapped f b.body }
  | .ifElse s =>
    .ifElse
      { s with
        thenBody := Part.mapped f s.thenBody
        elifs := s.elifs.map (Part.mapped f)
        otherwise := s.otherwise.map (Part.mapped f) }
  | .loop s => .loop { s with body := Part.mapped f s.body }
  | .forLoop s => .forLoop { s with body := Part.mapped f s.body }
  | .case c => .case { c with body := Part.mapped f c.body }
  | .switch s =>
    .switch
      { s with
        cases := s.cases.map (Part.mapped f)
        default := s.default.map (Part.mapped f) }
  | e => e

end CWriter

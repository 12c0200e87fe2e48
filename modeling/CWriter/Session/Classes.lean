import CWriter.Build.Scopes

/-! The classes of entities, and what can be done with an entity whatever its class. -/
namespace CWriter

/-- What a class offers beside its fields. -/
structure EntityClass (σ : Type) extends Schema σ where
  entity : σ → Entity
  methods : Methods σ
  assign : String → Value → Edit σ Unit := toSchema.assign
  /-- What an entity works out by itself, if nothing goes wrong. -/
  property? : σ → String → Option (Except Fault Value) := fun _ _ => none
  /-- What all entities of the class have in common. -/
  common? : String → Option String := fun _ => none

namespace EntityClass

def ofSchema (schema : Schema σ) (entity : σ → Entity) (methods : Methods σ) : EntityClass σ :=
  { toSchema := schema, entity, methods, assign := schema.assign }

def noMethods : Methods σ := fun _ _ => none

def doc : EntityClass Doc := ofSchema Doc.schema .doc Doc.methods
def comment : EntityClass Comment := ofSchema Comment.schema .comment Comment.methods
def inclusion : EntityClass Include := ofSchema Include.schema .inclusion Include.methods
def definition : EntityClass Macro := ofSchema Macro.schema .definition Macro.methods
def field : EntityClass Field := ofSchema Field.schema .field Field.methods
def attr : EntityClass Attribute := ofSchema Attribute.schema .attr Attribute.methods
def param : EntityClass Param := ofSchema Param.schema .param Param.methods
def global : EntityClass Variable := ofSchema Variable.schema .global Variable.methods

def record (kind : RecordKind) : EntityClass Record :=
  { ofSchema (Record.schema kind) .record Record.methods with
    common? := fun name => if name = "keyword" then some kind.tag.text else none }

def variant : EntityClass Variant := ofSchema Variant.schema .variant Variant.methods

def enumeration : EntityClass Enumeration :=
  ofSchema Enumeration.schema .enumeration Enumeration.methods

def function : EntityClass Function := ofSchema Function.schema .function Function.methods
def method : EntityClass Method := ofSchema Method.schema .method Method.methods

def constructor : EntityClass Constructor :=
  ofSchema Constructor.schema .constructor Constructor.methods

def destructor : EntityClass Destructor :=
  ofSchema Destructor.schema .destructor Destructor.methods

def baseClass : EntityClass BaseClass := ofSchema BaseClass.schema .baseClass noMethods

def cls : EntityClass Class :=
  { ofSchema Class.schema .cls Class.methods with
    assign := Class.assign
    property? := fun c name => (c.property? name).map .ok }

def ifDef : EntityClass IfDef :=
  ofSchema (IfDef.schema ScopeItem.rule) .ifDef IfDef.methods

def scope : EntityClass Scope :=
  ofSchema (Scope.schema ScopeItem.rule) .scope Scope.methods

def ret : EntityClass Return := ofSchema Return.schema .ret noMethods
def assignment : EntityClass Assign := ofSchema Assign.schema .assign noMethods
def eval : EntityClass ExprStmt := ofSchema ExprStmt.schema .eval noMethods
def jump : EntityClass Jump := ofSchema Jump.schema .jump noMethods
def label : EntityClass Label := ofSchema Label.schema .label noMethods
def block : EntityClass Block := ofSchema (Block.schema BodyItem.rule) .block Block.methods
def branch : EntityClass Branch := ofSchema (Branch.schema BodyItem.rule) .branch noMethods

def ifElse : EntityClass IfElse :=
  ofSchema (IfElse.schema BodyItem.rule) .ifElse IfElse.methods

def loop (kind : LoopKind) : EntityClass Loop :=
  ofSchema (Loop.schema kind BodyItem.rule) .loop noMethods

def forLoop : EntityClass ForLoop :=
  ofSchema (ForLoop.schema BodyItem.rule) .forLoop ForLoop.methods

def case : EntityClass Case := ofSchema (Case.schema BodyItem.rule) .case noMethods

def switch : EntityClass Switch :=
  ofSchema (Switch.schema BodyItem.rule) .switch Switch.methods

def sheet : EntityClass StyleSheet :=
  { ofSchema StyleSheet.schema .sheet noMethods with
    property? := fun s name =>
      if name = "indent_unit" then some (s.style.printedUnit.mapError .layout |>.map .str)
      else none }

end EntityClass

namespace Entity

/-- Treats an entity by its class. -/
def byClass {α : Type} (f : {σ : Type} → EntityClass σ → σ → α) : Entity → α
  | doc x => f .doc x
  | comment x => f .comment x
  | inclusion x => f .inclusion x
  | definition x => f .definition x
  | field x => f .field x
  | attr x => f .attr x
  | param x => f .param x
  | global x => f .global x
  | record x => f (.record x.kind) x
  | variant x => f .variant x
  | enumeration x => f .enumeration x
  | function x => f .function x
  | method x => f .method x
  | constructor x => f .constructor x
  | destructor x => f .destructor x
  | baseClass x => f .baseClass x
  | cls x => f .cls x
  | ifDef x => f .ifDef x
  | scope x => f .scope x
  | ret x => f .ret x
  | assign x => f .assignment x
  | eval x => f .eval x
  | jump x => f .jump x
  | label x => f .label x
  | block x => f .block x
  | branch x => f .branch x
  | ifElse x => f .ifElse x
  | loop x => f (.loop x.kind) x
  | forLoop x => f .forLoop x
  | case x => f .case x
  | switch x => f .switch x
  | sheet x => f .sheet x

/-- What an entity works out by itself. -/
def property? (e : Entity) (name : String) : Option (Except Fault Value) :=
  e.byClass fun c x => c.property? x name

/-- What all entities of the class have in common. -/
def common? (e : Entity) (name : String) : Option String := e.byClass fun c _ => c.common? name

/-- An edit in the form in which it applies to any entity. -/
def edited (c : EntityClass σ) (x : σ) (edit : Edit σ α) :
    StateM Ledger (Except Fault α × Entity) := fun ledger =>
    match edit x ledger with
    | ((result, after), last) => ((result, c.entity after), last)

/-- Assigns to a field. -/
def assignTo (e : Entity) (name : String) (v : Value) :
    StateM Ledger (Except Fault Unit × Entity) :=
  if (e.common? name).isSome then pure (.error (.common e.className name), e)
  else if (e.property? name).isSome then pure (.error (.noSetter e.className name), e)
  else e.byClass fun c x => edited c x (c.assign name v)

/-- Asks an entity for something. -/
def call? (e : Entity) (verb : Verb) (args : List Value) :
    Option (StateM Ledger (Except Fault Reply × Entity)) :=
  e.byClass fun c x => (c.methods verb args).map (edited c x)

end Entity

/-- The check of functions, among which methods count as they are. -/
def acceptFunction : Value → Check Entity
  | .entity (.method m) => pure (.method m)
  | v => .function <$> Function.schema.accept v

/-- The check that a named class puts its data to. -/
def acceptNamed (className : String) (v : Value) : Option (Check Value) :=
  let entity {σ : Type} (c : EntityClass σ) : Option (Check Value) :=
    some ((fun x => .entity (c.entity x)) <$> c.toSchema.accept v)
  match className with
  | "CType" => some (.type <$> CType.read v)
  | "Doc" => entity .doc
  | "Comment" => entity .comment
  | "Include" => entity .inclusion
  | "Macro" => entity .definition
  | "Field" => some ((.entity ·.entity) <$> RecordField.accept v)
  | "Attribute" => entity .attr
  | "Param" => entity .param
  | "Variable" => entity .global
  | "Struct" => entity (.record .struct)
  | "Union" => entity (.record .union)
  | "Variant" => entity .variant
  | "Enum" => entity .enumeration
  | "Function" => some (.entity <$> acceptFunction v)
  | "Method" => entity .method
  | "Constructor" => entity .constructor
  | "Destructor" => entity .destructor
  | "BaseClass" => entity .baseClass
  | "Class" => entity .cls
  | "IfDef" => entity .ifDef
  | "Scope" => entity .scope
  | "Return" => entity .ret
  | "Assign" => entity .assignment
  | "ExprStmt" => entity .eval
  | "Jump" => entity .jump
  | "Label" => entity .label
  | "Block" => entity .block
  | "Branch" => entity .branch
  | "IfElse" => entity .ifElse
  | "WhileLoop" => entity (.loop .testFirst)
  | "DoWhileLoop" => entity (.loop .testLast)
  | "ForLoop" => entity .forLoop
  | "Case" => entity .case
  | "Switch" => entity .switch
  | "FormatConfig" => entity .sheet
  | other =>
    match CType.classes.lookup other, Expr.classes.lookup other with
    | some variant, _ => some (.type <$> CType.acceptClass other variant v)
    | none, some variant => some (.expr <$> Expr.acceptClass other variant v)
    | none, none => none

end CWriter

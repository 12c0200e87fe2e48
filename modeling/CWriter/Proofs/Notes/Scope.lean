import CWriter.Proofs.Notes.Code

/-!
# The code of a scope

Statements, routines, classes and scopes without their notes, and what follows for the steps they
take. Separators between items are blank lines, so that it does not matter here on which items
they depend.
-/
namespace CWriter

def Return.code (s : Return) : Return := { id := 0, value := s.value.map Expr.plain }

def Assign.code (s : Assign) : Assign :=
  { id := 0, lhs := s.lhs.plain, rhs := s.rhs.plain, op := s.op }

def ExprStmt.code (s : ExprStmt) : ExprStmt := { id := 0, expr := s.expr.plain }

def Jump.code (s : Jump) : Jump := { s with id := 0 }

def Label.code (s : Label) : Label := { s with id := 0 }

mutual

def Statement.code : Statement → Statement
  | .ret s => .ret s.code
  | .assign s => .assign s.code
  | .eval s => .eval s.code
  | .jump s => .jump s.code
  | .label s => .label s.code
  | .declare v => .declare v.code
  | .remark c => .remark c.code
  | .block b => .block b.code
  | .ifElse s => .ifElse s.code
  | .loop s => .loop s.code
  | .forLoop s => .forLoop s.code
  | .switch s => .switch s.code

def BodyItem.code : BodyItem → BodyItem
  | .verbatim text => .verbatim text
  | .stmt s => .stmt s.code

def Block.code : Block → Block
  | ⟨_, stmts⟩ => ⟨0, bodyCode stmts⟩

def bodyCode : List BodyItem → List BodyItem
  | [] => []
  | item :: rest => item.code :: bodyCode rest

def IfElse.code : IfElse → IfElse
  | ⟨_, cond, thenBody, elifs, otherwise⟩ =>
    ⟨0, cond.plain, thenBody.code, branchesCode elifs, blockCode? otherwise⟩

def branchesCode : List Branch → List Branch
  | [] => []
  | ⟨_, cond, body⟩ :: rest => ⟨0, cond.plain, body.code⟩ :: branchesCode rest

def blockCode? : Option Block → Option Block
  | none => none
  | some body => some body.code

def Loop.code : Loop → Loop
  | ⟨_, kind, cond, body⟩ => ⟨0, kind, cond.plain, body.code⟩

def ForLoop.code : ForLoop → ForLoop
  | ⟨_, start, cond, advance, body⟩ =>
    ⟨0, start.map Expr.plain, cond.map Expr.plain, advance.map Expr.plain, body.code⟩

def Switch.code : Switch → Switch
  | ⟨_, cond, cases, default⟩ => ⟨0, cond.plain, casesCode cases, blockCode? default⟩

def casesCode : List Case → List Case
  | [] => []
  | ⟨_, label, body, fallthrough⟩ :: rest =>
    ⟨0, label.plain, body.code, fallthrough⟩ :: casesCode rest

end

theorem Return.line_code (s : Return) : s.code.line = s.line := by
  obtain ⟨_, value⟩ := s
  cases value with
  | none => rfl
  | some e => simp only [line, code, Option.map_some, e.text_plain]

theorem Assign.line_code (s : Assign) : s.code.line = s.line := by
  simp only [line, code, Expr.text_plain]

theorem ExprStmt.line_code (s : ExprStmt) : s.code.line = s.line := by
  simp only [line, code, Expr.text_plain]

/-- The header of a block has no notes in it. -/
theorem condition_plain (keyword : String) (e : Expr) :
    condition keyword e.plain = condition keyword e := by
  rw [condition, condition, e.text_plain]

theorem ForLoop.header_code (s : ForLoop) : s.code.header = s.header := by
  obtain ⟨_, start, cond, advance, body⟩ := s
  cases start <;> cases cond <;> cases advance <;>
    simp only [ForLoop.code, header, Option.map_none, Option.map_some, Expr.text_plain]

mutual

/-- Of a statement only a remark is a note, and it has no code at all. -/
theorem Statement.codeSteps_code : (s : Statement) → codeSteps s.code.steps = codeSteps s.steps
  | .ret s => by
    rw [Statement.code, Statement.steps, Statement.steps, codeSteps_spell, codeSteps_spell,
      s.line_code]
  | .assign s => by
    rw [Statement.code, Statement.steps, Statement.steps, codeSteps_spell, codeSteps_spell,
      s.line_code]
  | .eval s => by
    rw [Statement.code, Statement.steps, Statement.steps, codeSteps_spell, codeSteps_spell,
      s.line_code]
  | .jump s => by
    rw [Statement.code, Statement.steps, Statement.steps]
    rfl
  | .label s => by
    rw [Statement.code, Statement.steps, Statement.steps]
    rfl
  | .declare v => by
    rw [Statement.code, Statement.steps, Statement.steps, v.codeSteps_code]
  | .remark c => by
    rw [Statement.code, Statement.steps, Statement.steps, c.codeSteps_steps,
      c.code.codeSteps_steps]
  | .block b => by
    rw [Statement.code, Statement.steps, Statement.steps, b.codeSteps_code]
  | .ifElse s => by
    rw [Statement.code, Statement.steps, Statement.steps, s.codeSteps_code]
  | .loop s => by
    rw [Statement.code, Statement.steps, Statement.steps, s.codeSteps_code]
  | .forLoop s => by
    rw [Statement.code, Statement.steps, Statement.steps, s.codeSteps_code]
  | .switch s => by
    rw [Statement.code, Statement.steps, Statement.steps, s.codeSteps_code]

/-- A verbatim line is code, whatever it spells. -/
theorem BodyItem.codeSteps_code :
    (item : BodyItem) → codeSteps item.code.steps = codeSteps item.steps
  | .verbatim _ => by
    rw [BodyItem.code]
  | .stmt s => by
    rw [BodyItem.code, BodyItem.steps, BodyItem.steps, s.codeSteps_code]

/-- A body has the code of its items. -/
theorem Block.codeSteps_code : (b : Block) → codeSteps b.code.steps = codeSteps b.steps
  | ⟨_, stmts⟩ => by
    rw [Block.code, Block.steps, Block.steps, codeSteps_bodyCode stmts]

theorem codeSteps_bodyCode :
    (items : List BodyItem) → codeSteps (bodySteps (bodyCode items)) = codeSteps (bodySteps items)
  | [] => by
    rw [bodyCode]
  | item :: rest => by
    rw [bodyCode, bodySteps, bodySteps, codeSteps_append, codeSteps_append, item.codeSteps_code,
      codeSteps_bodyCode rest]

theorem IfElse.codeSteps_code : (s : IfElse) → codeSteps s.code.steps = codeSteps s.steps
  | ⟨_, cond, thenBody, elifs, otherwise⟩ => by
    simp only [IfElse.code, IfElse.steps, codeSteps_append, codeSteps_spell, condition_plain,
      thenBody.codeSteps_code, codeSteps_branchesCode elifs, codeSteps_elseCode otherwise]

/-- Branch by branch, with conditions that hold no notes. -/
theorem codeSteps_branchesCode :
    (elifs : List Branch) →
      codeSteps (branchSteps (branchesCode elifs)) = codeSteps (branchSteps elifs)
  | [] => by
    rw [branchesCode]
  | ⟨_, cond, body⟩ :: rest => by
    simp only [branchesCode, branchSteps, codeSteps_append, codeSteps_spell, condition_plain,
      body.codeSteps_code, codeSteps_branchesCode rest]

theorem codeSteps_elseCode :
    (otherwise : Option Block) →
      codeSteps (elseSteps (blockCode? otherwise)) = codeSteps (elseSteps otherwise)
  | none => by
    rw [blockCode?]
  | some body => by
    rw [blockCode?, elseSteps, elseSteps, codeSteps_append, codeSteps_append,
      body.codeSteps_code]

theorem Loop.codeSteps_code : (s : Loop) → codeSteps s.code.steps = codeSteps s.steps
  | ⟨_, .testFirst, _, body⟩ => by
    simp only [Loop.code, Loop.steps, codeSteps_append, codeSteps_spell, condition_plain,
      body.codeSteps_code]
  | ⟨_, .testLast, _, body⟩ => by
    simp only [Loop.code, Loop.steps, codeSteps_append, codeSteps_spell, condition_plain,
      body.codeSteps_code]

theorem ForLoop.codeSteps_code : (s : ForLoop) → codeSteps s.code.steps = codeSteps s.steps
  | ⟨id, start, cond, advance, body⟩ => by
    have hheader := ForLoop.header_code ⟨id, start, cond, advance, body⟩
    rw [ForLoop.code] at hheader
    simp only [ForLoop.code, ForLoop.steps, codeSteps_append, codeSteps_spell, hheader,
      body.codeSteps_code]

theorem Switch.codeSteps_code : (s : Switch) → codeSteps s.code.steps = codeSteps s.steps
  | ⟨_, cond, cases, default⟩ => by
    simp only [Switch.code, Switch.steps, codeSteps_append, codeSteps_spell, condition_plain,
      codeSteps_casesCode cases, codeSteps_defaultCode default]

/-- Arm by arm, with labels that hold no notes. -/
theorem codeSteps_casesCode :
    (cases : List Case) → codeSteps (caseSteps (casesCode cases)) = codeSteps (caseSteps cases)
  | [] => by
    rw [casesCode]
  | ⟨_, label, body, fallthrough⟩ :: rest => by
    simp only [casesCode, caseSteps, codeSteps_append, codeSteps_spell, label.text_plain,
      body.codeSteps_code,
      codeSteps_casesCode rest]

theorem codeSteps_defaultCode :
    (default : Option Block) →
      codeSteps (defaultSteps (blockCode? default)) = codeSteps (defaultSteps default)
  | none => by
    rw [blockCode?]
  | some body => by
    rw [blockCode?, defaultSteps, defaultSteps, codeSteps_append, codeSteps_append,
      body.codeSteps_code]

end

def Routine.code (r : Routine) : Routine :=
  { r with toDocumented := r.toDocumented.code, body := bodyCode r.body }

def Callable.code (c : Callable) : Callable :=
  { c with toRoutine := c.toRoutine.code, params := c.params.map Param.code }

def Function.code (f : Function) : Function :=
  { f with toCallable := f.toCallable.code, returnType := f.returnType.plain }

def Method.code (m : Method) : Method :=
  { m with toCallable := m.toCallable.code, returnType := m.returnType.plain }

def Constructor.code (c : Constructor) : Constructor :=
  { c with toCallable := c.toCallable.code }

def Destructor.code (d : Destructor) : Destructor := { d with toRoutine := d.toRoutine.code }

def BaseClass.code (b : BaseClass) : BaseClass := { b with id := 0 }

def Member.code : Member → Member
  | attr a => attr a.code
  | constructor c => constructor c.code
  | destructor d => destructor d.code
  | method m => method m.code

def Class.code (c : Class) : Class :=
  { c with
    toDocumented := c.toDocumented.code
    bases := c.bases.map BaseClass.code
    members := c.members.map Member.code }

/-- Without its notes a routine is still a definition exactly if it was one: remarks stay as
items. -/
theorem Routine.isDefinition_code (r : Routine) : r.code.isDefinition = r.isDefinition := by
  have hdefinition : r.code.definition = r.definition := rfl
  have hempty : r.code.body.isEmpty = r.body.isEmpty := by
    change (bodyCode r.body).isEmpty = r.body.isEmpty
    cases r.body with
    | nil => rw [bodyCode]
    | cons item rest =>
      rw [bodyCode]
      rfl
  rw [isDefinition, isDefinition, hdefinition, hempty]

/-- The documentation above a signature is no code, and the body has the code of its items. -/
theorem Routine.codeSteps_signatureSteps (r : Routine) (isDefinition : Bool)
    (signature : String) :
    codeSteps (r.code.signatureSteps isDefinition signature) =
      codeSteps (r.signatureSteps isDefinition signature) := by
  have hbody : codeSteps (bodySteps r.code.body) = codeSteps (bodySteps r.body) :=
    codeSteps_bodyCode r.body
  rw [signatureSteps, signatureSteps, codeSteps_append, codeSteps_append, codeSteps_docSteps,
    codeSteps_docSteps]
  split
  · simp only [codeSteps_append, hbody]
  · rfl

theorem Routine.codeSteps_assignedSteps (r : Routine) (signature word : String) :
    codeSteps (r.code.assignedSteps signature word) =
      codeSteps (r.assignedSteps signature word) := by
  rw [assignedSteps, assignedSteps, codeSteps_append, codeSteps_append, codeSteps_docSteps,
    codeSteps_docSteps]

theorem paramTexts_code (params : List Param) :
    paramTexts (params.map Param.code) = paramTexts params := by
  simp only [paramTexts, List.map_map, Function.comp_def, Param.declaration_code]

/-- Parameters are spelled from their types and names. -/
theorem paramList_code (style : Style) (params : List Param) :
    paramList style (params.map Param.code) = paramList style params := by
  rw [paramList, paramList, paramTexts_code, List.isEmpty_map]

theorem signatureText_plain (specifiers qualifiers : List String) (type : CType)
    (name : Identifier) (params : String) :
    signatureText specifiers type.plain name params qualifiers =
      signatureText specifiers type name params qualifiers := by
  rw [signatureText, signatureText, type.declare_plain]

theorem Function.codeSteps_code (style : Style) (f : Function) :
    codeSteps (f.code.steps style) = codeSteps (f.steps style) := by
  have hsignature : f.code.signature style = f.signature style := by
    simp only [signature, code, Callable.code, Routine.code, Documented.code, paramList_code,
      signatureText_plain]
  have hdefinition : f.code.isDefinition = f.isDefinition := f.toRoutine.isDefinition_code
  rw [steps, steps, codeSteps_spell, codeSteps_spell, hsignature, hdefinition]
  exact f.toRoutine.codeSteps_signatureSteps _ _

/-- A method is pure, a prototype or a definition, and its notes do not decide which. -/
theorem Method.codeSteps_code (style : Style) (m : Method) :
    codeSteps (m.code.steps style) = codeSteps (m.steps style) := by
  have hsignature : m.code.signature style = m.signature style := by
    simp only [signature, code, Callable.code, Routine.code, Documented.code, paramList_code,
      signatureText_plain]
  have hdefinition : m.code.isDefinition = m.isDefinition := m.toRoutine.isDefinition_code
  have hpure : m.code.isPure = m.isPure := rfl
  rw [steps, steps, hsignature, hdefinition, hpure]
  split
  · rw [codeSteps_append, codeSteps_append, codeSteps_docSteps, codeSteps_docSteps,
      codeSteps_spell, codeSteps_spell]
  · rw [codeSteps_spell, codeSteps_spell]
    exact m.toRoutine.codeSteps_signatureSteps _ _

/-- Initializers and specifiers stay as they are. -/
theorem Constructor.signature_code (style : Style) (c : Constructor) :
    c.code.signature style = c.signature style := by
  have hother : c.code.otherParam = c.otherParam := rfl
  have hparams : c.code.paramText style = c.paramText style := by
    rw [paramText, paramText, hother]
    simp only [code, Callable.code, paramTexts_code, paramList_code]
  rw [signature, signature, hparams]
  rfl

theorem Constructor.codeSteps_code (style : Style) (c : Constructor) :
    codeSteps (c.code.steps style) = codeSteps (c.steps style) := by
  have hroutine : c.code.toRoutine.isDefinition = c.toRoutine.isDefinition :=
    c.toRoutine.isDefinition_code
  have hdefinition : c.code.isDefinition = c.isDefinition := by
    rw [isDefinition, isDefinition, hroutine]
    rfl
  have hinitializers : c.code.initializerList = c.initializerList := by
    rw [initializerList, initializerList, hdefinition]
    rfl
  have hflags : c.code.isDefault = c.isDefault ∧ c.code.isDelete = c.isDelete := ⟨rfl, rfl⟩
  rw [steps, steps, codeSteps_spell, codeSteps_spell, c.signature_code style, hdefinition,
    hinitializers, hflags.1, hflags.2]
  split
  · exact c.toRoutine.codeSteps_assignedSteps _ _
  · split
    · exact c.toRoutine.codeSteps_assignedSteps _ _
    · exact c.toRoutine.codeSteps_signatureSteps _ _

theorem Destructor.codeSteps_code (d : Destructor) :
    codeSteps d.code.steps = codeSteps d.steps := by
  have hsignature : d.code.signature = d.signature := rfl
  have hdefinition : d.code.isDefinition = d.isDefinition := d.toRoutine.isDefinition_code
  have hflags : d.code.isDefault = d.isDefault ∧ d.code.isPure = d.isPure := ⟨rfl, rfl⟩
  rw [steps, steps, hsignature, hdefinition, hflags.1, hflags.2]
  split
  · exact d.toRoutine.codeSteps_assignedSteps _ _
  · split
    · exact d.toRoutine.codeSteps_assignedSteps _ _
    · exact d.toRoutine.codeSteps_signatureSteps _ _

theorem Member.codeSteps_code (style : Style) (m : Member) :
    codeSteps (m.code.steps style) = codeSteps (m.steps style) := by
  cases m with
  | attr a => exact a.codeSteps_code
  | constructor c => exact c.codeSteps_code style
  | destructor d => exact d.codeSteps_code
  | method m => exact m.codeSteps_code style

theorem Member.sort_code (m : Member) : m.code.sort = m.sort := by
  cases m <;> rfl

theorem Member.visibility_code (m : Member) : m.code.visibility = m.visibility := by
  cases m <;> rfl

/-- Members are grouped by visibility and kind, neither of which is a note. -/
theorem Class.groupMembers_code (c : Class) (v : Visibility) :
    c.code.groupMembers v = (c.groupMembers v).map Member.code := by
  have hmembers : c.code.members = c.members.map Member.code := rfl
  simp only [groupMembers, hmembers, List.filter_map, List.map_flatMap, Function.comp_def,
    Member.sort_code, Member.visibility_code]

theorem Class.codeSteps_groupSteps (style : Style) (c : Class) (v : Visibility) :
    codeSteps (c.code.groupSteps style v) = codeSteps (c.groupSteps style v) := by
  simp only [groupSteps, codeSteps_append, codeSteps_flatMap, c.groupMembers_code,
    List.flatMap_map, Member.codeSteps_code]

theorem Class.codeSteps_groupsSteps (style : Style) (c : Class) (vs : List Visibility) :
    codeSteps (c.code.groupsSteps style vs) = codeSteps (c.groupsSteps style vs) := by
  induction vs with
  | nil => rfl
  | cons v vs ih =>
    cases vs with
    | nil => exact c.codeSteps_groupSteps style v
    | cons w vs =>
      simp only [groupsSteps, codeSteps_append, c.codeSteps_groupSteps style v] at ih ⊢
      rw [ih]

/-- A class has the code of its groups between the braces. -/
theorem Class.codeSteps_code (style : Style) (c : Class) :
    codeSteps (c.code.steps style) = codeSteps (c.steps style) := by
  have hgroups : c.code.groups = c.groups := by
    simp only [groups, code, List.map_map, Function.comp_def, Member.visibility_code]
  have hheader : c.code.header = c.header := by
    have hbase : ∀ b : BaseClass, b.code.text = b.text := fun _ => rfl
    simp only [header, code, Documented.code, List.isEmpty_map, List.map_map, Function.comp_def,
      hbase]
  simp only [steps, codeSteps_append, codeSteps_docSteps, hgroups, hheader,
    c.codeSteps_groupsSteps style]

mutual

def ScopeItem.code : ScopeItem → ScopeItem
  | .doc d => .doc d.code
  | .comment c => .comment c.code
  | .inclusion i => .inclusion i.code
  | .definition m => .definition m.code
  | .global v => .global v.code
  | .record r => .record r.code
  | .enumeration e => .enumeration e.code
  | .cls c => .cls c.code
  | .function f => .function f.code
  | .ifDef i => .ifDef i.code

def IfDef.code : IfDef → IfDef
  | ⟨_, symbol, thenScope, elseScope, guard⟩ =>
    ⟨0, symbol, thenScope.code, scopeCode? elseScope, guard⟩

def scopeCode? : Option Scope → Option Scope
  | none => none
  | some s => some s.code

/-- A scope without its notes. Two scopes have the same code if they differ at most in their
documentation, in the text of their comments, and in the objects that they are made of. -/
def Scope.code : Scope → Scope
  | ⟨_, filename, _, items⟩ => ⟨0, filename, none, itemsCode items⟩

def itemsCode : List ScopeItem → List ScopeItem
  | [] => []
  | item :: rest => item.code :: itemsCode rest

end

/-- The header of a scope is documentation. -/
theorem codeSteps_scopeHeader (style : Style) (doc : Option Doc) :
    codeSteps (scopeHeader style doc) = [] := by
  cases doc with
  | none => rfl
  | some d =>
    rw [scopeHeader, codeSteps_append, d.codeSteps_steps]
    rfl

/-- Blank lines between items are no code. -/
theorem codeSteps_separator (style : Style) (previous : Option ScopeItem) (item : ScopeItem) :
    codeSteps (separator style previous item) = [] := by
  cases previous with
  | none => rfl
  | some p =>
    rw [separator]
    split <;> rfl

mutual

/-- The items of a scope, of which documentation and comments have no code. -/
theorem ScopeItem.codeSteps_code (style : Style) :
    (item : ScopeItem) → codeSteps (item.code.steps style) = codeSteps (item.steps style)
  | .doc d => by
    rw [ScopeItem.code, ScopeItem.steps, ScopeItem.steps, d.codeSteps_steps,
      d.code.codeSteps_steps]
  | .comment c => by
    rw [ScopeItem.code, ScopeItem.steps, ScopeItem.steps, c.codeSteps_steps,
      c.code.codeSteps_steps]
  | .inclusion i => by
    rw [ScopeItem.code, ScopeItem.steps, ScopeItem.steps]
    rfl
  | .definition m => by
    rw [ScopeItem.code, ScopeItem.steps, ScopeItem.steps, m.codeSteps_code]
  | .global v => by
    rw [ScopeItem.code, ScopeItem.steps, ScopeItem.steps, v.codeSteps_code]
  | .record r => by
    rw [ScopeItem.code, ScopeItem.steps, ScopeItem.steps, r.codeSteps_code]
  | .enumeration e => by
    rw [ScopeItem.code, ScopeItem.steps, ScopeItem.steps, e.codeSteps_code]
  | .cls c => by
    rw [ScopeItem.code, ScopeItem.steps, ScopeItem.steps, c.codeSteps_code style]
  | .function f => by
    rw [ScopeItem.code, ScopeItem.steps, ScopeItem.steps, f.codeSteps_code style]
  | .ifDef i => by
    rw [ScopeItem.code, ScopeItem.steps, ScopeItem.steps, i.codeSteps_code style]

/-- Both branches of a conditional, and the directives around them. -/
theorem IfDef.codeSteps_code (style : Style) :
    (i : IfDef) → codeSteps (i.code.steps style) = codeSteps (i.steps style)
  | ⟨_, symbol, thenScope, elseScope, guard⟩ => by
    simp only [IfDef.code, IfDef.steps, codeSteps_append, thenScope.codeSteps_code style,
      codeSteps_elseScopeCode style symbol elseScope]

theorem codeSteps_elseScopeCode (style : Style) (symbol : Identifier) :
    (elseScope : Option Scope) →
      codeSteps (elseScopeSteps style symbol (scopeCode? elseScope)) =
        codeSteps (elseScopeSteps style symbol elseScope)
  | none => by
    rw [scopeCode?]
  | some s => by
    rw [scopeCode?, elseScopeSteps, elseScopeSteps, codeSteps_append, codeSteps_append,
      s.codeSteps_code style]

theorem Scope.codeSteps_code (style : Style) :
    (s : Scope) → codeSteps (s.code.steps style) = codeSteps (s.steps style)
  | ⟨_, _, doc, items⟩ => by
    rw [Scope.code, Scope.steps, Scope.steps, codeSteps_append, codeSteps_append,
      codeSteps_scopeHeader, codeSteps_scopeHeader,
      codeSteps_itemsCode style none none items]

theorem codeSteps_itemsCode (style : Style) (first second : Option ScopeItem) :
    (items : List ScopeItem) →
      codeSteps (itemSteps style first (itemsCode items)) =
        codeSteps (itemSteps style second items)
  | [] => by
    rw [itemsCode, itemSteps, itemSteps]
  | item :: rest => by
    rw [itemsCode, itemSteps, itemSteps]
    simp only [codeSteps_append, codeSteps_separator, item.codeSteps_code style,
      codeSteps_itemsCode style (some item.code) (some item) rest]

end

end CWriter

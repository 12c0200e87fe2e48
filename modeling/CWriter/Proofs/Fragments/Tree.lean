import CWriter.Proofs.Fragments.Text
import CWriter.Tree.Text

/-!
# Fragments of trees

The fragments of every tree, and the lines of code that are put together from them. Each line is
made of the characters of its fragments and of fixed words.
-/
namespace CWriter

def Doc.fragments (d : Doc) : List Fragment := d.texts.map .prose

def docFragments : Option Doc → List Fragment
  | none => []
  | some d => d.fragments

def Comment.fragments (c : Comment) : List Fragment := [.prose c.text]

def Documented.fragments (d : Documented) : List Fragment :=
  .code d.name.text :: docFragments d.doc

def Include.fragments (i : Include) : List Fragment :=
  .code i.path.text :: (i.comment.map Fragment.prose).toList

def Macro.fragments (m : Macro) : List Fragment :=
  m.toDocumented.fragments ++ m.args.map .code ++ (m.value.map Fragment.prose).toList

def initializerFragments (value : Option String) : List Fragment :=
  (value.map Fragment.code).toList

def Field.fragments (f : Field) : List Fragment := f.toDocumented.fragments ++ f.type.fragments

def Attribute.fragments (a : Attribute) : List Fragment :=
  a.toField.fragments ++ initializerFragments a.value

def Param.fragments (p : Param) : List Fragment :=
  .code p.name.text :: p.type.fragments ++ initializerFragments p.default

def Variable.fragments (v : Variable) : List Fragment :=
  v.toDocumented.fragments ++ v.type.fragments ++ initializerFragments v.value

def RecordField.fragments : RecordField → List Fragment
  | plain f => f.fragments
  | attr a => a.fragments

def Remark.fragments : Remark → List Fragment
  | text s => [.prose s]
  | word _ => []

def Record.fragments (r : Record) : List Fragment :=
  r.toDocumented.fragments ++ r.annotations.flatMap Remark.fragments ++
    r.fields.flatMap RecordField.fragments

def Variant.fragments (v : Variant) : List Fragment := v.toDocumented.fragments

def Enumeration.fragments (e : Enumeration) : List Fragment :=
  e.toDocumented.fragments ++ e.variants.flatMap Variant.fragments

def exprFragments : Option Expr → List Fragment
  | none => []
  | some e => e.fragments

def Return.fragments (s : Return) : List Fragment := exprFragments s.value

def Assign.fragments (s : Assign) : List Fragment :=
  s.lhs.fragments ++ .code s.op :: s.rhs.fragments

def ExprStmt.fragments (s : ExprStmt) : List Fragment := s.expr.fragments

def Jump.fragments (s : Jump) : List Fragment := (s.target.map Fragment.code).toList

def Label.fragments (s : Label) : List Fragment := [.code s.name.text]

mutual

def Statement.fragments : Statement → List Fragment
  | .ret s => s.fragments
  | .assign s => s.fragments
  | .eval s => s.fragments
  | .jump s => s.fragments
  | .label s => s.fragments
  | .declare v => v.fragments
  | .remark c => c.fragments
  | .block b => b.fragments
  | .ifElse s => s.fragments
  | .loop s => s.fragments
  | .forLoop s => s.fragments
  | .switch s => s.fragments

def BodyItem.fragments : BodyItem → List Fragment
  | .verbatim text => [.prose text]
  | .stmt s => s.fragments

def Block.fragments : Block → List Fragment
  | ⟨_, stmts⟩ => bodyFragments stmts

def bodyFragments : List BodyItem → List Fragment
  | [] => []
  | item :: rest => item.fragments ++ bodyFragments rest

def IfElse.fragments : IfElse → List Fragment
  | ⟨_, cond, thenBody, elifs, otherwise⟩ =>
    cond.fragments ++ thenBody.fragments ++ branchFragments elifs ++ blockFragments otherwise

def branchFragments : List Branch → List Fragment
  | [] => []
  | ⟨_, cond, body⟩ :: rest => cond.fragments ++ body.fragments ++ branchFragments rest

def blockFragments : Option Block → List Fragment
  | none => []
  | some body => body.fragments

def Loop.fragments : Loop → List Fragment
  | ⟨_, _, cond, body⟩ => cond.fragments ++ body.fragments

def ForLoop.fragments : ForLoop → List Fragment
  | ⟨_, start, cond, advance, body⟩ =>
    exprFragments start ++ exprFragments cond ++ exprFragments advance ++ body.fragments

def Switch.fragments : Switch → List Fragment
  | ⟨_, cond, cases, default⟩ => cond.fragments ++ caseFragments cases ++ blockFragments default

def caseFragments : List Case → List Fragment
  | [] => []
  | ⟨_, label, body, _⟩ :: rest => label.fragments ++ body.fragments ++ caseFragments rest

end

def Routine.fragments (r : Routine) : List Fragment :=
  r.toDocumented.fragments ++ bodyFragments r.body

def Callable.fragments (c : Callable) : List Fragment :=
  c.toRoutine.fragments ++ c.params.flatMap Param.fragments

def Function.fragments (f : Function) : List Fragment :=
  f.toCallable.fragments ++ f.returnType.fragments

def Method.fragments (m : Method) : List Fragment :=
  m.toCallable.fragments ++ m.returnType.fragments

def Constructor.fragments (c : Constructor) : List Fragment :=
  c.toCallable.fragments ++ c.initializers.map .code

def Destructor.fragments (d : Destructor) : List Fragment := d.toRoutine.fragments

def Member.fragments : Member → List Fragment
  | attr a => a.fragments
  | constructor c => c.fragments
  | destructor d => d.fragments
  | method m => m.fragments

def Class.fragments (c : Class) : List Fragment :=
  c.toDocumented.fragments ++ c.bases.map (fun b => .code b.name) ++
    c.members.flatMap Member.fragments

mutual

def ScopeItem.fragments : ScopeItem → List Fragment
  | .doc d => d.fragments
  | .comment c => c.fragments
  | .inclusion i => i.fragments
  | .definition m => m.fragments
  | .global v => v.fragments
  | .record r => r.fragments
  | .enumeration e => e.fragments
  | .cls c => c.fragments
  | .function f => f.fragments
  | .ifDef i => i.fragments

def IfDef.fragments : IfDef → List Fragment
  | ⟨_, symbol, thenScope, elseScope, _⟩ =>
    .code symbol.text :: thenScope.fragments ++ elseScopeFragments elseScope

def elseScopeFragments : Option Scope → List Fragment
  | none => []
  | some s => s.fragments

def Scope.fragments : Scope → List Fragment
  | ⟨_, _, doc, items⟩ => docFragments doc ++ itemFragments items

def itemFragments : List ScopeItem → List Fragment
  | [] => []
  | item :: rest => item.fragments ++ itemFragments rest

end

/-- The fragments of what an entity writes on its own. -/
def Entity.fragments : Entity → List Fragment
  | doc d => d.fragments
  | comment c => c.fragments
  | inclusion i => i.fragments
  | definition m => m.fragments
  | field f => f.fragments
  | attr a => a.fragments
  | global v => v.fragments
  | record r => r.fragments
  | variant v => v.fragments
  | enumeration e => e.fragments
  | function f => f.fragments
  | method m => m.fragments
  | constructor c => c.fragments
  | destructor d => d.fragments
  | cls c => c.fragments
  | ifDef i => i.fragments
  | scope s => s.fragments
  | ret s => s.fragments
  | assign s => s.fragments
  | eval s => s.fragments
  | jump s => s.fragments
  | label s => s.fragments
  | block b => b.fragments
  | ifElse s => s.fragments
  | loop s => s.fragments
  | forLoop s => s.fragments
  | switch s => s.fragments
  | param _ | baseClass _ | branch _ | case _ | sheet _ => []

section

variable {p : Char → Bool} (h : Spells p)
include h

theorem code_initializerText {value : Option String} (hf : Within p (initializerFragments value)) :
    Code p (initializerText value) := by
  cases value with
  | none => exact code_empty
  | some value => exact (h.code (by decide)).append (within_cons.mp hf).1

theorem code_bitFieldText {type : CType} (htype : Within p type.fragments) {name : Identifier}
    (hname : Code p name.text) (width : Option BitWidth) :
    Code p (bitFieldText type name width) := by
  have hdeclared := CType.code_declare h type htype hname
  cases width with
  | none => exact hdeclared.append code_empty
  | some w => exact hdeclared.append ((h.code (by decide)).append (h.code_digits w.bits))

theorem Field.code_declaration {f : Field} (hf : Within p f.fragments) : Code p f.declaration := by
  obtain ⟨hdocumented, htype⟩ := within_append.mp hf
  exact code_bitFieldText h htype (within_cons.mp hdocumented).1 f.width

theorem Param.code_declaration {q : Param} (hf : Within p q.fragments) : Code p q.declaration := by
  obtain ⟨hdeclared, hdefault⟩ := within_append.mp hf
  obtain ⟨hname, htype⟩ := within_cons.mp hdeclared
  exact (CType.code_declare h q.type htype hname).append (code_initializerText h hdefault)

theorem Variable.code_declaration {v : Variable} (hf : Within p v.fragments) :
    Code p v.declaration := by
  obtain ⟨hdeclared, hvalue⟩ := within_append.mp hf
  obtain ⟨hdocumented, htype⟩ := within_append.mp hdeclared
  have hstorage : Code p v.storage := by
    rw [storage]
    split
    · exact h.code (by decide)
    · split <;> exact h.code (by decide)
  have hinitializer : Code p (if v.isExtern then "" else initializerText v.value) := by
    split
    · exact code_empty
    · exact code_initializerText h hvalue
  exact ((hstorage.append (CType.code_declare h v.type htype (within_cons.mp hdocumented).1)).append
    hinitializer).append (h.code (by decide))

theorem Include.prose_line {i : Include} (hf : Within p i.fragments) :
    Prose p ("#include " ++ i.target ++ i.remark) := by
  obtain ⟨hpath, hcomment⟩ := within_cons.mp hf
  have htarget : Code p i.target := by
    rw [target]
    split
    · exact ((h.code (by decide)).append hpath).append (h.code (by decide))
    · exact ((h.code (by decide)).append hpath).append (h.code (by decide))
  have hremark : Prose p i.remark := by
    rw [remark]
    split
    · exact code_empty.prose
    · rename_i text hc
      rw [hc] at hcomment
      have hmarker : Code p "  // " := h.code (by decide)
      split
      · exact code_empty.prose
      · exact hmarker.prose.append (within_cons.mp hcomment).1
  have hword : Code p "#include " := h.code (by decide)
  exact (hword.append htarget).prose.append hremark

theorem Macro.code_head {m : Macro} (hf : Within p m.fragments) : Code p m.head := by
  obtain ⟨hhead, -⟩ := within_append.mp hf
  obtain ⟨hdocumented, hargs⟩ := within_append.mp hhead
  have hname : Code p m.name.text := (within_cons.mp hdocumented).1
  have htexts : ∀ a ∈ m.args, Code p a := fun a ha =>
    hargs (.code a) (List.mem_map.mpr ⟨a, ha, rfl⟩)
  rw [head]
  refine ((h.code (by decide)).append hname).append ?_
  split
  · exact code_empty
  · exact ((h.code (by decide)).append (Code.intercalate (h.code (by decide)) htexts)).append
      (h.code (by decide))

theorem Remark.prose_shown {a : Remark} (hf : Within p a.fragments) : Prose p a.shown := by
  cases a with
  | text s => exact (within_cons.mp hf).1
  | word w =>
    refine (h.code ?_).prose
    rcases w with v | t | kind
    · cases v <;> decide +kernel
    · cases t <;> decide +kernel
    · rcases kind with _ | kind
      · decide +kernel
      · cases kind <;> decide +kernel

theorem Record.code_header {r : Record} (hf : Within p r.fragments) : Code p r.header := by
  obtain ⟨hdocumented, -⟩ := within_append.mp (within_append.mp hf).1
  have hkind : Code p r.kind.tag.text := h.code (by cases r.kind <;> decide)
  exact (hkind.append (h.code (by decide))).append (within_cons.mp hdocumented).1

theorem Variant.code_text {v : Variant} (hf : Within p v.fragments) : Code p v.text := by
  have hname : Code p v.name.text := (within_cons.mp hf).1
  rw [text]
  split
  · exact hname
  · exact (hname.append (h.code (by decide))).append (h.code_int _)

theorem Return.code_line {s : Return} (hf : Within p s.fragments) : Code p s.line := by
  rw [line]
  rw [fragments] at hf
  split
  · exact h.code (by decide)
  · rename_i e he
    rw [he] at hf
    exact ((h.code (by decide)).append (Expr.code_text h e hf)).append (h.code (by decide))

theorem Assign.code_line {s : Assign} (hf : Within p s.fragments) : Code p s.line := by
  obtain ⟨hlhs, hrest⟩ := within_append.mp hf
  obtain ⟨hop, hrhs⟩ := within_cons.mp hrest
  have hblank : Code p " " := h.code (by decide)
  exact (((((Expr.code_text h s.lhs hlhs).append hblank).append hop).append hblank).append
    (Expr.code_text h s.rhs hrhs)).append (h.code (by decide))

theorem ExprStmt.code_line {s : ExprStmt} (hf : Within p s.fragments) : Code p s.line :=
  (Expr.code_text h s.expr hf).append (h.code (by decide))

theorem Jump.code_line {s : Jump} (hf : Within p s.fragments) : Code p s.line := by
  have hend : Code p ";" := h.code (by decide)
  rw [line]
  split
  · refine ((h.code (by decide)).append ?_).append hend
    rw [fragments] at hf
    cases htarget : s.target with
    | none => exact h.code (by decide)
    | some target =>
      rw [htarget] at hf
      exact (within_cons.mp hf).1
  · refine Code.append (h.code ?_) hend
    cases s.keyword <;> decide

theorem Label.code_line {s : Label} (hf : Within p s.fragments) : Code p s.line :=
  Code.append (within_cons.mp hf).1 (h.code (by decide))

theorem code_condition {keyword : String} (hk : Code p keyword) {e : Expr}
    (hf : Within p e.fragments) : Code p (condition keyword e) :=
  ((hk.append (h.code (by decide))).append (Expr.code_text h e hf)).append (h.code (by decide))

theorem ForLoop.code_header {s : ForLoop} (hstart : Within p (exprFragments s.start))
    (hcond : Within p (exprFragments s.cond)) (hadvance : Within p (exprFragments s.advance)) :
    Code p s.header := by
  have hfirst : Code p (match s.start with | none => "" | some e => e.text) := by
    revert hstart
    cases s.start with
    | none => exact fun _ => code_empty
    | some e => exact Expr.code_text h e
  have hlater : ∀ clause : Option Expr, Within p (exprFragments clause) →
      Code p (match clause with | none => "" | some e => " " ++ e.text) := by
    intro clause hclause
    cases clause with
    | none => exact code_empty
    | some e => exact (h.code (by decide)).append (Expr.code_text h e hclause)
  have hsemicolon : Code p ";" := h.code (by decide)
  have hword : Code p "for (" := h.code (by decide)
  exact (((((hword.append hfirst).append hsemicolon).append (hlater s.cond hcond)).append
    hsemicolon).append (hlater s.advance hadvance)).append (h.code (by decide))

omit h in
theorem Routine.code_name {r : Routine} (hf : Within p r.fragments) : Code p r.name.text :=
  (within_cons.mp (within_append.mp hf).1).1

theorem code_paramTexts {params : List Param} (hf : Within p (params.flatMap Param.fragments)) :
    ∀ t ∈ paramTexts params, Code p t := by
  intro t ht
  obtain ⟨q, hq, rfl⟩ := List.mem_map.mp ht
  exact q.code_declaration h (within_flatMap.mp hf q hq)

theorem code_paramList {params : List Param} (hf : Within p (params.flatMap Param.fragments))
    (style : Style) : Code p (paramList style params) := by
  rw [paramList]
  split
  · split <;> exact h.code (by decide)
  · exact Code.intercalate (h.code (by decide)) (code_paramTexts h hf)

omit h in
theorem code_chosen {words : List (Bool × String)} (hw : ∀ w ∈ words, Code p w.2) :
    ∀ t ∈ chosen words, Code p t := by
  intro t ht
  obtain ⟨⟨holds, word⟩, hmem, heq⟩ := List.mem_filterMap.mp ht
  cases holds with
  | false => cases heq
  | true =>
    cases heq
    exact hw _ hmem

theorem code_signatureText {specifiers qualifiers : List String}
    (hspecifiers : ∀ t ∈ specifiers, Code p t) (hqualifiers : ∀ t ∈ qualifiers, Code p t)
    {type : CType} (htype : Within p type.fragments) {name : Identifier}
    (hname : Code p name.text) {params : String} (hparams : Code p params) :
    Code p (signatureText specifiers type name params qualifiers) := by
  have hdeclarator : Code p (name.text ++ "(" ++ params ++ ")") :=
    ((hname.append (h.code (by decide))).append hparams).append (h.code (by decide))
  refine Code.intercalate (h.code (by decide)) ?_
  simp only [List.forall_mem_append, List.forall_mem_singleton]
  exact ⟨⟨hspecifiers, CType.code_declare h type htype hdeclarator⟩, hqualifiers⟩

theorem Function.code_signature {f : Function} (hf : Within p f.fragments) (style : Style) :
    Code p (f.signature style) := by
  obtain ⟨hcallable, htype⟩ := within_append.mp hf
  obtain ⟨hroutine, hparams⟩ := within_append.mp hcallable
  refine code_signatureText h (code_chosen ?_) (by simp) htype (Routine.code_name hroutine)
    (code_paramList h hparams style)
  simp only [List.forall_mem_cons, List.not_mem_nil, false_imp_iff, implies_true, and_true]
  exact ⟨h.code (by decide), h.code (by decide), h.code (by decide)⟩

theorem Method.code_signature {m : Method} (hf : Within p m.fragments) (style : Style) :
    Code p (m.signature style) := by
  obtain ⟨hcallable, htype⟩ := within_append.mp hf
  obtain ⟨hroutine, hparams⟩ := within_append.mp hcallable
  refine code_signatureText h (code_chosen ?_) (code_chosen ?_) htype
    (Routine.code_name hroutine) (code_paramList h hparams style)
  · simp only [List.forall_mem_cons, List.not_mem_nil, false_imp_iff, implies_true, and_true]
    exact ⟨h.code (by decide), h.code (by decide), h.code (by decide)⟩
  · simp only [List.forall_mem_cons, List.not_mem_nil, false_imp_iff, implies_true, and_true]
    exact ⟨h.code (by decide), h.code (by decide)⟩

theorem Constructor.code_otherParam {c : Constructor} (hname : Code p c.name.text) :
    Code p c.otherParam := by
  rw [otherParam]
  have hother : Code p "other" := h.code (by decide)
  refine CType.code_declare h _ ?_ hother
  split <;> simpa [CType.fragments, Fragment.Within] using hname

theorem Constructor.code_signature {c : Constructor} (hf : Within p c.fragments) (style : Style) :
    Code p (c.signature style) := by
  obtain ⟨hroutine, hparams⟩ := within_append.mp (within_append.mp hf).1
  have hname := Routine.code_name hroutine
  have hexplicit : Code p (if c.isExplicit then "explicit " else "") := by
    split <;> exact h.code (by decide)
  have htext : Code p (c.paramText style) := by
    rw [paramText]
    split
    · refine Code.intercalate (h.code (by decide)) (List.forall_mem_cons.mpr ⟨?_, ?_⟩)
      · exact c.code_otherParam h hname
      · exact code_paramTexts h hparams
    · exact code_paramList h hparams style
  exact (((hexplicit.append hname).append (h.code (by decide))).append htext).append
    (h.code (by decide))

theorem Constructor.code_initializerList {c : Constructor} (hf : Within p c.fragments) :
    Code p c.initializerList := by
  have htexts : ∀ t ∈ c.initializers, Code p t := fun t ht =>
    (within_append.mp hf).2 (.code t) (List.mem_map.mpr ⟨t, ht, rfl⟩)
  rw [initializerList]
  split
  · exact code_empty
  · exact (h.code (by decide)).append (Code.intercalate (h.code (by decide)) htexts)

theorem Destructor.code_signature {d : Destructor} (hf : Within p d.fragments) :
    Code p d.signature := by
  have hvirtual : Code p (if d.isVirtual then "virtual " else "") := by
    split <;> exact h.code (by decide)
  exact ((hvirtual.append (h.code (by decide))).append (Routine.code_name hf)).append
    (h.code (by decide))

theorem Visibility.code_text (v : Visibility) : Code p v.text := h.code (by cases v <;> decide)

theorem Class.code_header {c : Class} (hf : Within p c.fragments) : Code p c.header := by
  obtain ⟨hdocumented, hbases⟩ := within_append.mp (within_append.mp hf).1
  have htexts : ∀ t ∈ c.bases.map BaseClass.text, Code p t := by
    intro t ht
    obtain ⟨b, hb, rfl⟩ := List.mem_map.mp ht
    have hname : Code p b.name := hbases (.code b.name) (List.mem_map.mpr ⟨b, hb, rfl⟩)
    exact ((Visibility.code_text h b.visibility).append (h.code (by decide))).append hname
  rw [header]
  refine ((h.code (by decide)).append (within_cons.mp hdocumented).1).append ?_
  split
  · exact code_empty
  · exact (h.code (by decide)).append (Code.intercalate (h.code (by decide)) htexts)

end

end CWriter

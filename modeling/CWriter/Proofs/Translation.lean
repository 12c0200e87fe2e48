import CWriter.Proofs.Layout.Deeper
import CWriter.Proofs.Matched
import CWriter.Proofs.Rendering

/-!
# Trees at another depth

Nothing that a tree lays out depends on the depth it stands at, but for the headings: a heading
stands between two rules that end at a fixed column. Whatever holds no heading is therefore laid
out at a greater depth as it is, only deeper.
-/
namespace CWriter

/-- Lays out no comment that is a heading, at whatever depth it stands. -/
def Entity.Unheaded (e : Entity) : Prop := ∀ c, e.Writes (.comment c) → c.heading = false

/-- The parts of an entity without headings have none either. -/
theorem Entity.Unheaded.part {e part : Entity} (h : e.Unheaded) (hpart : part ∈ e.written) :
    part.Unheaded := fun c hc => h c (.head hpart hc)

/-- Headings are looked for in an entity itself and in its parts. -/
theorem Entity.unheaded_of_written {e : Entity} (hself : ∀ c, e = .comment c → c.heading = false)
    (hwritten : ∀ part ∈ e.written, part.Unheaded) : e.Unheaded := by
  intro c hc
  obtain rfl | ⟨part, hpart, hc⟩ := Relation.ReflTransGen.cases_head hc
  · exact hself c rfl
  · exact hwritten part hpart c hc

/-- None of the steps is a rule, and no label is empty. -/
def Shifting (steps : List Step) : Prop := ∀ s ∈ steps, s.shifts = true

namespace Shifting

variable {first second body : List Step}

theorem nil : Shifting [] := fun _ hs => absurd hs List.not_mem_nil

theorem single {s : Step} (h : s.shifts = true) : Shifting [s] :=
  List.forall_mem_singleton.mpr h

theorem line (text : String) : Shifting [.line text] := single rfl

theorem label {text : String} (h : text ≠ "") : Shifting [.label text] :=
  single (by simpa [Step.shifts] using h)

theorem spelt (numbers : List Int) (h : Shifting body) : Shifting (.spell numbers :: body) :=
  List.forall_mem_cons.mpr ⟨rfl, h⟩

theorem append (hfirst : Shifting first) (hsecond : Shifting second) :
    Shifting (first ++ second) :=
  List.forall_mem_append.mpr ⟨hfirst, hsecond⟩

theorem flatMap {α : Type} {f : α → List Step} {xs : List α} (h : ∀ x ∈ xs, Shifting (f x)) :
    Shifting (xs.flatMap f) := by
  intro s hs
  obtain ⟨x, hx, hs⟩ := List.mem_flatMap.mp hs
  exact h x hx s hs

theorem block (header opener closer : String) (h : Shifting body) :
    Shifting ([.openBlock header opener] ++ body ++ [.closeBlock closer]) :=
  ((single rfl).append h).append (single rfl)

theorem reopen (header : String) (h : Shifting body) :
    Shifting ([.reopenBlock header] ++ body) :=
  (single rfl).append h

end Shifting

theorem Doc.shifting (d : Doc) : Shifting d.steps := by
  intro s hs
  obtain ⟨text, _, rfl⟩ := List.mem_map.mp hs
  rfl

theorem shifting_docSteps (doc : Option Doc) : Shifting (docSteps doc) := by
  cases doc with
  | none => exact .nil
  | some d => exact d.shifting

/-- A comment moves unless it is a heading, which writes a rule as wide as the room at its depth. -/
theorem Comment.shifting {c : Comment} (h : (Entity.comment c).Unheaded) : Shifting c.steps := by
  rw [steps, h c .refl]
  exact .single rfl

/-- The lines of a macro move with the directive that they continue. -/
theorem Macro.shifting (m : Macro) : Shifting m.steps := by
  have hcontinued : ∀ texts : List String, Shifting (continuation texts) := by
    intro texts
    induction texts with
    | nil => exact .nil
    | cons text rest ih =>
      cases rest with
      | nil => exact .line text
      | cons => exact (Shifting.line _).append ih
  rw [steps]
  refine (shifting_docSteps m.doc).append ?_
  split
  · exact .line _
  · exact .line _
  · exact (((Shifting.line _).append (.single rfl)).append (hcontinued _)).append (.single rfl)

theorem Field.shifting (f : Field) : Shifting f.steps :=
  (shifting_docSteps f.doc).append (.spelt _ (.line _))

theorem Attribute.shifting (a : Attribute) : Shifting a.steps :=
  (shifting_docSteps a.doc).append (.spelt _ (.line _))

theorem Variable.shifting (v : Variable) : Shifting v.steps :=
  (shifting_docSteps v.doc).append (.spelt _ (.line _))

theorem RecordField.shifting (f : RecordField) : Shifting f.steps := by
  cases f with
  | plain f => exact f.shifting
  | attr a => exact a.shifting

theorem Record.shifting (r : Record) : Shifting r.steps := by
  have hremarks : Shifting r.remarkSteps := by
    intro s hs
    obtain ⟨a, _, rfl⟩ := List.mem_map.mp hs
    rfl
  rw [steps]
  refine ((shifting_docSteps r.doc).append hremarks).append ?_
  split
  · exact .line _
  · exact .block _ _ _ (.flatMap fun f _ => f.shifting)

theorem Variant.shifting (v : Variant) (separator : String) : Shifting (v.steps separator) :=
  (shifting_docSteps v.doc).append (.spelt _ (.line _))

theorem Enumeration.shifting (e : Enumeration) : Shifting e.steps := by
  have hvariants : ∀ vs : List Variant, Shifting (variantSteps vs) := by
    intro vs
    induction vs with
    | nil => exact .nil
    | cons v rest ih =>
      cases rest with
      | nil => exact v.shifting ""
      | cons => exact (v.shifting ",").append ih
  exact (((shifting_docSteps e.doc).append (.single rfl)).append (hvariants e.variants)).append
    (.single rfl)

mutual

/-- Statements move with everything below them. The recursion is that of the steps. -/
theorem Statement.shifting : (s : Statement) → s.entity.Unheaded → Shifting s.steps
  | .ret s, _ => .spelt _ (.line s.line)
  | .assign s, _ => .spelt _ (.line s.line)
  | .eval s, _ => .spelt _ (.line s.line)
  | .jump s, _ => .line s.line
  | .label s, _ => .label (by simp [Label.line])
  | .declare v, _ => v.shifting
  | .remark c, h => c.shifting h
  | .block b, h => b.shifting h
  | .ifElse s, h => s.shifting h
  | .loop s, h => s.shifting h
  | .forLoop s, h => s.shifting h
  | .switch s, h => s.shifting h

theorem BodyItem.shifting : (item : BodyItem) → (∀ part ∈ bodyParts [item], part.Unheaded) →
    Shifting item.steps
  | .verbatim text, _ => .line text
  | .stmt s, h => s.shifting (h s.entity List.mem_cons_self)

theorem Block.shifting : (b : Block) → (Entity.block b).Unheaded → Shifting b.steps
  | ⟨_, stmts⟩, h => shifting_bodySteps stmts fun _ hpart => h.part hpart

theorem shifting_bodySteps : (items : List BodyItem) → (∀ part ∈ bodyParts items, part.Unheaded) →
    Shifting (bodySteps items)
  | [], _ => .nil
  | item :: rest, h => by
    have hparts : bodyParts (item :: rest) = bodyParts [item] ++ bodyParts rest := by
      simp [bodyParts]
    rw [hparts, List.forall_mem_append] at h
    rw [bodySteps]
    exact (item.shifting h.1).append (shifting_bodySteps rest h.2)

/-- Conditions are headers of blocks; only the bodies can hold a heading. -/
theorem IfElse.shifting : (s : IfElse) → (Entity.ifElse s).Unheaded → Shifting s.steps
  | ⟨_, cond, thenBody, elifs, otherwise⟩, h => by
    have hparts : ∀ part ∈ Entity.block thenBody :: elifs.map (fun b => Entity.block b.body) ++
        otherwise.toList.map .block, part.Unheaded := fun _ hpart => h.part hpart
    rw [List.forall_mem_append, List.forall_mem_cons] at hparts
    obtain ⟨⟨hthen, helifs⟩, helse⟩ := hparts
    rw [IfElse.steps]
    refine .spelt _ ?_
    exact ((((Shifting.single rfl).append (thenBody.shifting hthen)).append
      (shifting_branchSteps elifs (List.forall_mem_map.mp helifs))).append
      (shifting_elseSteps otherwise (List.forall_mem_map.mp helse))).append (.single rfl)

theorem shifting_branchSteps : (elifs : List Branch) →
    (∀ b ∈ elifs, (Entity.block b.body).Unheaded) → Shifting (branchSteps elifs)
  | [], _ => .nil
  | ⟨_, cond, body⟩ :: rest, h => by
    rw [List.forall_mem_cons] at h
    rw [branchSteps]
    exact .spelt _ ((Shifting.reopen _ (body.shifting h.1)).append (shifting_branchSteps rest h.2))

theorem shifting_elseSteps : (otherwise : Option Block) →
    (∀ b ∈ otherwise.toList, (Entity.block b).Unheaded) → Shifting (elseSteps otherwise)
  | none, _ => .nil
  | some body, h => .reopen _ (body.shifting (h body List.mem_cons_self))

theorem Loop.shifting : (s : Loop) → (Entity.loop s).Unheaded → Shifting s.steps
  | ⟨_, .testFirst, _, body⟩, h =>
    .spelt _ (.block _ _ _ (body.shifting (h.part List.mem_cons_self)))
  | ⟨_, .testLast, _, body⟩, h =>
    .block _ _ _ ((body.shifting (h.part List.mem_cons_self)).append (.spelt _ .nil))

theorem ForLoop.shifting : (s : ForLoop) → (Entity.forLoop s).Unheaded → Shifting s.steps
  | ⟨_, _, _, _, body⟩, h =>
    .spelt _ (.block _ _ _ (body.shifting (h.part List.mem_cons_self)))

/-- Labels move one level less deep than their statements, which is a matter of their step. -/
theorem Switch.shifting : (s : Switch) → (Entity.switch s).Unheaded → Shifting s.steps
  | ⟨_, cond, cases, default⟩, h => by
    have hparts : ∀ part ∈ cases.map (fun c => Entity.block c.body) ++
        default.toList.map .block, part.Unheaded := fun _ hpart => h.part hpart
    rw [List.forall_mem_append] at hparts
    rw [Switch.steps]
    refine .spelt _ ?_
    exact (((Shifting.single rfl).append
      (shifting_caseSteps cases (List.forall_mem_map.mp hparts.1))).append
      (shifting_defaultSteps default (List.forall_mem_map.mp hparts.2))).append (.single rfl)

theorem shifting_caseSteps : (cases : List Case) →
    (∀ c ∈ cases, (Entity.block c.body).Unheaded) → Shifting (caseSteps cases)
  | [], _ => .nil
  | ⟨_, label, body, fallthrough⟩ :: rest, h => by
    rw [List.forall_mem_cons] at h
    have hend : Shifting (if fallthrough then [] else [Step.line "break;"]) := by
      split
      · exact .nil
      · exact .line _
    rw [caseSteps]
    refine .spelt _ ?_
    exact (((Shifting.label (by simp)).append (body.shifting h.1)).append hend).append
      (shifting_caseSteps rest h.2)

theorem shifting_defaultSteps : (default : Option Block) →
    (∀ b ∈ default.toList, (Entity.block b).Unheaded) → Shifting (defaultSteps default)
  | none, _ => .nil
  | some body, h => (Shifting.label (by decide)).append (body.shifting (h body List.mem_cons_self))

end

theorem Routine.shifting_signatureSteps {r : Routine} {isDefinition : Bool}
    (h : ∀ part ∈ r.written isDefinition, part.Unheaded) (signature : String) :
    Shifting (r.signatureSteps isDefinition signature) := by
  refine (shifting_docSteps r.doc).append ?_
  cases isDefinition with
  | false => exact .line _
  | true => exact .block _ _ _ (shifting_bodySteps r.body (List.forall_mem_append.mp h).2)

theorem Routine.shifting_assignedSteps (r : Routine) (signature word : String) :
    Shifting (r.assignedSteps signature word) :=
  (shifting_docSteps r.doc).append (.line _)

theorem Function.shifting {f : Function} (h : (Entity.function f).Unheaded) (style : Style) :
    Shifting (f.steps style) :=
  .spelt _ (Routine.shifting_signatureSteps (fun _ hpart => h.part hpart) _)

theorem Method.shifting {m : Method} (h : (Entity.method m).Unheaded) (style : Style) :
    Shifting (m.steps style) := by
  have hparts : ∀ part ∈ m.written (!m.isPure && m.isDefinition), part.Unheaded :=
    fun _ hpart => h.part hpart
  rw [steps]
  split
  · exact (shifting_docSteps m.doc).append (.spelt _ (.line _))
  · next hpure =>
    rw [Bool.not_eq_true] at hpure
    rw [hpure] at hparts
    exact .spelt _ (Routine.shifting_signatureSteps hparts _)

theorem Constructor.shifting {c : Constructor} (h : (Entity.constructor c).Unheaded)
    (style : Style) : Shifting (c.steps style) := by
  have hparts : ∀ part ∈ c.written (!c.isDefault && !c.isDelete && c.isDefinition),
      part.Unheaded := fun _ hpart => h.part hpart
  rw [steps]
  refine .spelt _ ?_
  split
  · exact c.shifting_assignedSteps _ _
  · split
    · exact c.shifting_assignedSteps _ _
    · next hdefault hdelete =>
      rw [Bool.not_eq_true] at hdefault hdelete
      rw [hdefault, hdelete] at hparts
      exact Routine.shifting_signatureSteps hparts _

theorem Destructor.shifting {d : Destructor} (h : (Entity.destructor d).Unheaded) :
    Shifting d.steps := by
  have hparts : ∀ part ∈ d.written (!d.isDefault && !d.isPure && d.isDefinition),
      part.Unheaded := fun _ hpart => h.part hpart
  rw [steps]
  split
  · exact d.shifting_assignedSteps _ _
  · split
    · exact d.shifting_assignedSteps _ _
    · next hdefault hpure =>
      rw [Bool.not_eq_true] at hdefault hpure
      rw [hdefault, hpure] at hparts
      exact Routine.shifting_signatureSteps hparts _

theorem Member.shifting {m : Member} (h : m.entity.Unheaded) (style : Style) :
    Shifting (m.steps style) := by
  cases m with
  | attr a => exact a.shifting
  | constructor c => exact c.shifting h style
  | destructor d => exact d.shifting h
  | method m => exact m.shifting h style

/-- The label of a group of members is never empty. -/
theorem Class.shifting {c : Class} (h : (Entity.cls c).Unheaded) (style : Style) :
    Shifting (c.steps style) := by
  have hmembers : ∀ m ∈ c.members, Shifting (m.steps style) := fun m hm =>
    m.shifting (h.part (List.mem_append_right _ (List.mem_map_of_mem hm))) style
  have hgroup : ∀ v, Shifting (c.groupSteps style v) := by
    intro v
    refine (Shifting.label (by simp)).append (.flatMap fun m hm => ?_)
    obtain ⟨_, _, hm⟩ := List.mem_flatMap.mp hm
    exact hmembers m (List.mem_filter.mp hm).1
  have hgroups : ∀ vs, Shifting (c.groupsSteps style vs) := by
    intro vs
    induction vs with
    | nil => exact .nil
    | cons v rest ih =>
      cases rest with
      | nil => exact hgroup v
      | cons => exact ((hgroup v).append (.single rfl)).append ih
  exact (((shifting_docSteps c.doc).append (.single rfl)).append (hgroups c.groups)).append
    (.single rfl)

theorem shifting_separator (style : Style) (previous : Option ScopeItem) (item : ScopeItem) :
    Shifting (separator style previous item) := by
  cases previous with
  | none => exact .nil
  | some before =>
    rw [separator]
    split
    · exact .single rfl
    · exact .nil

mutual

/-- An item of a scope moves if nothing that it lays out is a heading. -/
theorem ScopeItem.shifting (style : Style) : (item : ScopeItem) → item.entity.Unheaded →
    Shifting (item.steps style)
  | .doc d, _ => d.shifting
  | .comment c, h => c.shifting h
  | .inclusion _, _ => .line _
  | .definition m, _ => m.shifting
  | .global v, _ => v.shifting
  | .record r, _ => r.shifting
  | .enumeration e, _ => e.shifting
  | .cls c, h => c.shifting h style
  | .function f, h => f.shifting h style
  | .ifDef i, h => i.shifting style h

/-- Directives are lines like others, at the depth of what they enclose. -/
theorem IfDef.shifting (style : Style) : (i : IfDef) → (Entity.ifDef i).Unheaded →
    Shifting (i.steps style)
  | ⟨_, symbol, thenScope, elseScope, guard⟩, h => by
    have hparts : ∀ part ∈ Entity.scope thenScope :: elseScope.toList.map .scope,
        part.Unheaded := fun _ hpart => h.part hpart
    rw [List.forall_mem_cons] at hparts
    have hhead : Shifting (ifDefHead symbol guard) := by
      rw [ifDefHead]
      split
      · exact (Shifting.line _).append (.line _)
      · exact .line _
    rw [IfDef.steps]
    exact (((hhead.append (.single rfl)).append (thenScope.shifting style hparts.1)).append
      (shifting_elseScopeSteps style symbol elseScope (List.forall_mem_map.mp hparts.2))).append
      ((Shifting.single rfl).append (.line _))

theorem shifting_elseScopeSteps (style : Style) (symbol : Identifier) :
    (elseScope : Option Scope) → (∀ s ∈ elseScope.toList, (Entity.scope s).Unheaded) →
      Shifting (elseScopeSteps style symbol elseScope)
  | none, _ => .nil
  | some s, h => by
    have hline : Shifting [.blank 1, .line ("#else // !" ++ symbol.text), .blank 1] :=
      ((Shifting.single rfl).append (.line _)).append (.single rfl)
    exact hline.append (s.shifting style (h s List.mem_cons_self))

/-- The header of a scope is documentation, and holds no heading. -/
theorem Scope.shifting (style : Style) : (s : Scope) → (Entity.scope s).Unheaded →
    Shifting (s.steps style)
  | ⟨_, _, doc, items⟩, h => by
    have hitems : ∀ item ∈ items, item.entity.Unheaded := fun item hitem =>
      h.part (List.mem_append_right _ (List.mem_map_of_mem hitem))
    have hheader : Shifting (scopeHeader style doc) := by
      cases doc with
      | none => exact .nil
      | some d => exact d.shifting.append (.single rfl)
    rw [Scope.steps]
    exact hheader.append (shifting_itemSteps style none items hitems)

theorem shifting_itemSteps (style : Style) (previous : Option ScopeItem) :
    (items : List ScopeItem) → (∀ item ∈ items, item.entity.Unheaded) →
      Shifting (itemSteps style previous items)
  | [], _ => .nil
  | item :: rest, h => by
    rw [List.forall_mem_cons] at h
    rw [itemSteps]
    exact ((shifting_separator style previous item).append (item.shifting style h.1)).append
      (shifting_itemSteps style (some item) rest h.2)

end

/-- Every step of an entity without headings may be moved. -/
theorem Entity.shifting {style : Style} {e : Entity} {steps : List Step}
    (hsteps : e.steps? style = some steps) (h : e.Unheaded) : Shifting steps := by
  cases e <;> cases hsteps
  case doc d => exact d.shifting
  case comment c => exact c.shifting h
  case inclusion i => exact .line _
  case definition m => exact m.shifting
  case field f => exact f.shifting
  case attr a => exact a.shifting
  case global v => exact v.shifting
  case record r => exact r.shifting
  case variant v => exact v.shifting ""
  case enumeration e => exact e.shifting
  case function f => exact f.shifting h style
  case method m => exact m.shifting h style
  case constructor c => exact c.shifting h style
  case destructor d => exact d.shifting h
  case cls c => exact c.shifting h style
  case ifDef i => exact i.shifting style h
  case scope s => exact s.shifting style h
  case ret s => exact Statement.shifting (.ret s) h
  case assign s => exact Statement.shifting (.assign s) h
  case eval s => exact Statement.shifting (.eval s) h
  case jump s => exact Statement.shifting (.jump s) h
  case label s => exact Statement.shifting (.label s) h
  case block b => exact b.shifting h
  case ifElse s => exact s.shifting h
  case loop s => exact s.shifting h
  case forLoop s => exact s.shifting h
  case switch s => exact s.shifting h

/-- Wherever a layout stands, what holds no heading is added to it as lines and leaves style and
depth as they were, and deeper down it is the same lines deeper. This holds of everything that is
laid out on its own, and of every item of a body. -/
theorem Layout.translation_invariant {l : Layout} (hdepth : 1 ≤ l.depth) :
    (∀ (e : Entity) (steps : List Step), e.steps? l.style = some steps → e.Unheaded →
      l.Translates steps) ∧
    ∀ item : BodyItem, (∀ part ∈ bodyParts [item], part.Unheaded) → l.Translates item.steps := by
  constructor
  · intro e steps hsteps h
    exact translates_of_nested (Entity.nested hsteps) hdepth (Entity.shifting hsteps h)
  · intro item h
    exact translates_of_nested (item.nested false) hdepth (item.shifting h)

/-- An arm with a comment and a text of three lines, the middle one empty, and an empty arm. -/
def dispatch : Switch :=
  ⟨1, .raw "state" false,
    [⟨2, .num 1, ⟨3, [.stmt (.remark ⟨4, "start", false⟩), .verbatim "run();\n\nrest();"]⟩, false⟩],
    some ⟨5, []⟩⟩

def dispatchLines : List String :=
  [r"    switch (state) {", "    case 1:", "        // start", "        run();", "",
    "        rest();", "        break;", "    default:", r"    }"]

theorem Layout.translation_invariant_dispatch :
    (Entity.switch dispatch).Unheaded ∧
    ∃ out, Layout.run { style := {}, depth := 1 } dispatch.steps = .ok out ∧
      out.lines = dispatchLines ∧
      ∀ k : Nat, ∃ deep, Layout.run { style := {}, depth := 1 + k } dispatch.steps = .ok deep ∧
        deep.lines = dispatchLines.map (({} : Style).deeper k) := by
  have hbody : (Entity.block ⟨3, [.stmt (.remark ⟨4, "start", false⟩),
      .verbatim "run();\n\nrest();"]⟩).Unheaded := by
    refine Entity.unheaded_of_written (by simp) fun part hpart => ?_
    obtain rfl := List.mem_singleton.mp hpart
    exact Entity.unheaded_of_written (by simp [Statement.entity]) fun _ hpart =>
      absurd hpart List.not_mem_nil
  have hunheaded : (Entity.switch dispatch).Unheaded := by
    refine Entity.unheaded_of_written (by simp) fun part hpart => ?_
    obtain rfl | hpart := List.mem_cons.mp hpart
    · exact hbody
    · obtain rfl := List.mem_singleton.mp hpart
      exact Entity.unheaded_of_written (by simp) fun _ hpart => absurd hpart List.not_mem_nil
  obtain ⟨hruns, htranslates⟩ :=
    (translation_invariant (l := { style := {}, depth := 1 }) (by decide)).1
      (.switch dispatch) dispatch.steps rfl hunheaded
  obtain ⟨out, hout⟩ := hruns (by decide)
  obtain ⟨-, -, own, hown, hdeep⟩ := htranslates out hout
  have hshown : (Layout.run { style := {}, depth := 1 } dispatch.steps).toOption.map Layout.lines =
      some dispatchLines := by decide +kernel
  rw [hout] at hshown
  have hlines : out.lines = dispatchLines := Option.some.inj hshown
  have hsame : own = dispatchLines := hown.symm.trans hlines
  refine ⟨hunheaded, out, hout, hlines, fun k => ?_⟩
  obtain ⟨deep, hrun, -, hdeeper⟩ := hdeep k
  exact ⟨deep, hrun, hsame ▸ hdeeper⟩

end CWriter

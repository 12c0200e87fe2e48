import CWriter.Proofs.Layout.Frame
import CWriter.Tree.Scope

/-!
# Items ask for blank lines only below their own lines

Blank lines inside an item stand in a class or in a conditional part, and both of these have
written their first line by then. Statements ask for none.
-/
namespace CWriter

/-- Two such lists of steps may stand one behind the other. -/
theorem anchored_append {first second : List Step} (hf : anchored first = true)
    (hs : anchored second = true) : anchored (first ++ second) = true := by
  induction first with
  | nil => exact hs
  | cons s first ih =>
    simp only [List.cons_append, anchored, Bool.and_eq_true, Bool.or_eq_true] at hf ⊢
    exact ⟨hf.1, hf.2.imp_right ih⟩

/-- Behind a line that is surely written, blank lines may be asked for. -/
theorem anchored_cons_of_marks {s : Step} (h : s.marks = true) (steps : List Step) :
    anchored (s :: steps) = true := by
  cases s with
  | line | label | openBlock => simp [anchored, Step.isBlank, h]
  | _ => cases h

/-- Lines ask for no blank ones, even where they are empty. -/
theorem anchored_lines (texts : List String) : anchored (texts.map Step.line) = true := by
  induction texts with
  | nil => rfl
  | cons text texts ih => simp [anchored, Step.isBlank, ih]

theorem Step.marks_openBlock (header : String) :
    (Step.openBlock header r"{").marks = true := by
  rw [Step.marks, Layout.opening]
  split
  · rfl
  · simp

/-- Documentation without text has no steps, and so none that asks for blank lines first. -/
theorem Doc.anchored_steps (d : Doc) : anchored d.steps = true := by
  obtain ⟨_, texts⟩ := d
  induction texts with
  | nil => rfl
  | cons text texts ih =>
    simp only [Doc.steps, List.map_cons, anchored, Step.isBlank, Bool.not_false, Bool.true_and]
    exact Bool.or_eq_true_iff.mpr (Or.inr ih)

/-- What stands below documentation decides where there is none. -/
theorem anchored_docSteps_append (d : Option Doc) {steps : List Step}
    (h : anchored steps = true) : anchored (docSteps d ++ steps) = true := by
  cases d with
  | none => exact h
  | some d => exact anchored_append d.anchored_steps h

/-- A routine starts with its documentation or its signature. -/
theorem Routine.anchored_signatureSteps (r : Routine) (isDefinition : Bool)
    (signature : String) : anchored (r.signatureSteps isDefinition signature) = true := by
  refine anchored_docSteps_append r.doc ?_
  split
  · exact anchored_cons_of_marks (Step.marks_openBlock signature) _
  · exact anchored_lines [_]

theorem Macro.anchored_steps (m : Macro) : anchored m.steps = true := by
  refine anchored_docSteps_append m.doc ?_
  split
  · exact anchored_lines [_]
  · exact anchored_lines [_]
  · exact anchored_cons_of_marks (by simp [Step.marks, Macro.head]) _

theorem Record.anchored_steps (r : Record) : anchored r.steps = true := by
  have hremarks : r.remarkSteps =
      (r.annotations.map fun a => "/// @" ++ a.shown).map Step.line := by
    rw [List.map_map]
    rfl
  rw [Record.steps, List.append_assoc, hremarks]
  refine anchored_docSteps_append r.doc (anchored_append (anchored_lines _) ?_)
  split
  · exact anchored_lines [_]
  · exact anchored_cons_of_marks (Step.marks_openBlock r.header) _

theorem anchored_ifDefHead_append (symbol : Identifier) (guard : Bool) (steps : List Step) :
    anchored (ifDefHead symbol guard ++ steps) = true := by
  rw [ifDefHead]
  split
  · exact anchored_cons_of_marks (by simp [Step.marks]) _
  · exact anchored_cons_of_marks (by simp [Step.marks]) _

/-- No item of a scope starts with blank lines. -/
theorem ScopeItem.anchored_steps (style : Style) (item : ScopeItem) :
    anchored (item.steps style) = true := by
  cases item with
  | doc d =>
    rw [ScopeItem.steps]
    exact d.anchored_steps
  | comment c =>
    rw [ScopeItem.steps, Comment.steps]
    split <;> rfl
  | inclusion i =>
    rw [ScopeItem.steps]
    exact anchored_lines [_]
  | definition m =>
    rw [ScopeItem.steps]
    exact m.anchored_steps
  | global v =>
    rw [ScopeItem.steps]
    exact anchored_docSteps_append v.doc (anchored_lines [_])
  | record r =>
    rw [ScopeItem.steps]
    exact r.anchored_steps
  | enumeration e =>
    rw [ScopeItem.steps, Enumeration.steps, List.append_assoc, List.append_assoc]
    exact anchored_docSteps_append e.doc (anchored_cons_of_marks (Step.marks_openBlock _) _)
  | cls c =>
    rw [ScopeItem.steps, Class.steps, List.append_assoc, List.append_assoc]
    exact anchored_docSteps_append c.doc (anchored_cons_of_marks (Step.marks_openBlock _) _)
  | function f =>
    rw [ScopeItem.steps]
    exact f.anchored_signatureSteps _ _
  | ifDef i =>
    obtain ⟨_, symbol, thenScope, elseScope, guard⟩ := i
    simp only [ScopeItem.steps, IfDef.steps, List.append_assoc]
    exact anchored_ifDefHead_append symbol guard _

mutual

/-- No statement asks for blank lines before its first line. -/
theorem Statement.anchored_steps : (s : Statement) → anchored s.steps = true
  | .ret _ => anchored_lines [_]
  | .assign _ => anchored_lines [_]
  | .eval _ => anchored_lines [_]
  | .jump _ => anchored_lines [_]
  | .label _ => anchored_cons_of_marks (by simp [Step.marks, Label.line]) []
  | .declare v => anchored_docSteps_append v.doc (anchored_lines [_])
  | .remark c => by
    rw [Statement.steps, Comment.steps]
    split <;> rfl
  | .block b => b.anchored_steps
  | .ifElse ⟨_, _, _, _, _⟩ => anchored_cons_of_marks (Step.marks_openBlock _) _
  | .loop ⟨_, .testFirst, _, _⟩ => anchored_cons_of_marks (Step.marks_openBlock _) _
  | .loop ⟨_, .testLast, _, _⟩ => anchored_cons_of_marks (Step.marks_openBlock _) _
  | .forLoop ⟨_, _, _, _, _⟩ => anchored_cons_of_marks (Step.marks_openBlock _) _
  | .switch ⟨_, _, _, _⟩ => anchored_cons_of_marks (Step.marks_openBlock _) _

theorem BodyItem.anchored_steps : (item : BodyItem) → anchored item.steps = true
  | .verbatim _ => anchored_lines [_]
  | .stmt s => s.anchored_steps

theorem Block.anchored_steps : (b : Block) → anchored b.steps = true
  | ⟨_, stmts⟩ => anchored_bodySteps stmts

theorem anchored_bodySteps : (items : List BodyItem) → anchored (bodySteps items) = true
  | [] => rfl
  | item :: rest => anchored_append item.anchored_steps (anchored_bodySteps rest)

end

end CWriter

import CWriter.Proofs.Layout.Writing

/-!
# Which step wrote which line

The trace of a run holds every line together with the step that wrote it. The lines that are no
notes and not empty depend on the other steps alone: notes and blank lines leave the depth as it
is, and nothing else of a layout is read where such a line is written.
-/
namespace CWriter

/-- Steps of documentation and comments. No other part of a tree takes them. -/
def Step.isNote : Step → Bool
  | .comment .. | .rule => true
  | _ => false

/-- Steps that are neither notes nor blank lines and that a layout is changed by. -/
def Step.isCode : Step → Bool
  | .spell _ => false
  | s => !s.isNote && !s.isBlank

/-- The steps that lay out code. -/
def codeSteps (steps : List Step) : List Step := steps.filter Step.isCode

theorem codeSteps_cons (s : Step) (steps : List Step) :
    codeSteps (s :: steps) = if s.isCode then s :: codeSteps steps else codeSteps steps :=
  List.filter_cons

/-- Numbers are no code, the text that they are put into digits for is. -/
@[simp]
theorem codeSteps_spell (numbers : List Int) (steps : List Step) :
    codeSteps (.spell numbers :: steps) = codeSteps steps := rfl

theorem codeSteps_append (first second : List Step) :
    codeSteps (first ++ second) = codeSteps first ++ codeSteps second :=
  List.filter_append first second

theorem codeSteps_flatMap {α : Type} (f : α → List Step) (xs : List α) :
    codeSteps (xs.flatMap f) = xs.flatMap fun x => codeSteps (f x) := by
  induction xs with
  | nil => rfl
  | cons x xs ih => rw [List.flatMap_cons, codeSteps_append, ih, List.flatMap_cons]

namespace Layout

/-- The lines that a step adds to a layout. -/
def adds (l : Layout) : Step → List String
  | .blank count =>
    if l.isEmpty || l.opened then [] else List.replicate (count - l.trailing).toNat ""
  | s => s.added l.style l.depth

theorem adds_of_not_isBlank (l : Layout) {s : Step} (h : s.isBlank = false) :
    l.adds s = s.added l.style l.depth := by
  cases s with
  | blank => cases h
  | _ => rfl

/-- The lines that steps add, each with the step that adds it. -/
def trace (l : Layout) : List Step → List (Step × String)
  | [] => []
  | s :: rest => (l.adds s).map (fun line => (s, line)) ++ (l.write s).trace rest

theorem lines_write (l : Layout) (s : Step) : (l.write s).lines = l.lines ++ l.adds s := by
  have hnewest : (l.write s).newest = (l.adds s).reverse ++ l.newest := by
    cases s with
    | blank count =>
      rw [write, blank, adds]
      split
      · rfl
      · rw [List.reverse_replicate]
    | _ => exact newest_write l rfl
  rw [lines, hnewest, lines]
  simp

/-- The trace is complete: it holds the lines of a run in their order. -/
theorem lines_writeAll (l : Layout) (steps : List Step) :
    (l.writeAll steps).lines = l.lines ++ (l.trace steps).map Prod.snd := by
  induction steps generalizing l with
  | nil => exact (List.append_nil l.lines).symm
  | cons s steps ih =>
    rw [writeAll_cons, ih, lines_write, trace, List.map_append, List.map_map, List.append_assoc]
    simp [Function.comp_def]

theorem mem_of_mem_trace {l : Layout} {steps : List Step} {entry : Step × String}
    (h : entry ∈ l.trace steps) : entry.1 ∈ steps := by
  induction steps generalizing l with
  | nil => exact absurd h List.not_mem_nil
  | cons first rest ih =>
    rcases List.mem_append.mp h with hfirst | hrest
    · obtain ⟨_, _, rfl⟩ := List.mem_map.mp hfirst
      exact List.mem_cons_self
    · exact List.mem_cons_of_mem first (ih hrest)

/-- A line of the trace was added by a step of the run. -/
theorem exists_of_mem_trace {l : Layout} {steps : List Step} {s : Step} {line : String}
    (h : (s, line) ∈ l.trace steps) (hb : s.isBlank = false) :
    s ∈ steps ∧ ∃ depth, line ∈ s.added l.style depth := by
  induction steps generalizing l with
  | nil => exact absurd h List.not_mem_nil
  | cons first rest ih =>
    rcases List.mem_append.mp h with hfirst | hrest
    · obtain ⟨_, hline, heq⟩ := List.mem_map.mp hfirst
      cases heq
      refine ⟨List.mem_cons_self, l.depth, ?_⟩
      cases s with
      | blank => cases hb
      | _ => exact hline
    · obtain ⟨hmem, depth, hline⟩ := ih hrest
      rw [style_write] at hline
      exact ⟨List.mem_cons_of_mem first hmem, depth, hline⟩

end Layout

/-- The lines of a trace that are neither notes nor empty. -/
def codeLines (trace : List (Step × String)) : List String :=
  (trace.filter fun entry => !entry.1.isNote && !entry.2.isEmpty).map Prod.snd

/-- The lines that steps add, where none of them asks for blank lines. -/
def emitted (style : Style) (depth : Int) : List Step → List String
  | [] => []
  | s :: rest => s.added style depth ++ emitted style (depth + s.levels) rest

theorem codeLines_append (first second : List (Step × String)) :
    codeLines (first ++ second) = codeLines first ++ codeLines second := by
  rw [codeLines, List.filter_append, List.map_append]
  rfl

theorem codeLines_pairs (s : Step) (ls : List String) :
    codeLines (ls.map fun line => (s, line)) =
      if s.isNote then [] else ls.filter (!·.isEmpty) := by
  cases hn : s.isNote with
  | true => simp [codeLines, hn]
  | false =>
    induction ls with
    | nil => rfl
    | cons line ls ih =>
      simp only [codeLines, Bool.false_eq_true, if_false] at ih ⊢
      cases he : line.isEmpty with
      | true => simpa [hn, he] using ih
      | false => simpa [hn, he] using ih

theorem codeLines_blank (l : Layout) (count : Int) :
    codeLines ((l.adds (.blank count)).map fun line => (.blank count, line)) = [] := by
  rw [codeLines_pairs, Layout.adds]
  split
  · rfl
  · split
    · rfl
    · simp

/-- Code lines depend on the code steps, the style and the depth. -/
theorem Layout.codeLines_trace (l : Layout) (steps : List Step) :
    codeLines (l.trace steps) =
      (emitted l.style l.depth (codeSteps steps)).filter (!·.isEmpty) := by
  induction steps generalizing l with
  | nil => rfl
  | cons s steps ih =>
    rw [trace, codeLines_append, ih, style_write, depth_write, codeSteps_cons]
    cases s with
    | blank count =>
      rw [codeLines_blank]
      simp [Step.isCode, Step.isBlank, Step.levels]
    | comment | rule | spell =>
      rw [codeLines_pairs]
      simp [Step.isCode, Step.isNote, Step.levels, adds, Step.added]
    | _ =>
      rw [codeLines_pairs]
      simp [Step.isCode, Step.isNote, Step.isBlank, emitted, adds]

/-- Without blank lines the lines that are added depend on the style and the depth alone. -/
theorem Layout.lines_writeAll_emitted (l : Layout) {steps : List Step}
    (h : ∀ s ∈ steps, s.isBlank = false) :
    (l.writeAll steps).lines = l.lines ++ emitted l.style l.depth steps := by
  induction steps generalizing l with
  | nil => exact (List.append_nil l.lines).symm
  | cons s steps ih =>
    rw [List.forall_mem_cons] at h
    rw [writeAll_cons, ih _ h.2, lines_write, l.adds_of_not_isBlank h.1, style_write, depth_write,
      emitted, List.append_assoc]

theorem emitted_append (style : Style) (depth : Int) (first second : List Step) :
    emitted style depth (first ++ second) = emitted style depth first ++
      emitted style (first.foldl (fun depth s => depth + s.levels) depth) second := by
  induction first generalizing depth with
  | nil => rfl
  | cons s first ih =>
    rw [List.cons_append, emitted, ih, emitted, List.append_assoc]
    rfl

end CWriter

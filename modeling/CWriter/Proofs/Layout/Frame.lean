import CWriter.Proofs.Layout.Writing

/-!
# What is written does not depend on what stands above

A layout below older lines writes as it does without them, from the moment that it holds a line
that is not empty. Steps are anchored if they ask for blank lines only after such a line.
-/
namespace CWriter

/-- Whether a step surely writes a line that is not empty. -/
def Step.marks : Step → Bool
  | .line text => text.toList.any (· != '\n')
  | .label text => !text.isEmpty
  | .openBlock header token => (Layout.opening header token).toList.any (· != '\n')
  | _ => false

/-- No blank lines are asked for before a line is written that is not empty. -/
def anchored : List Step → Bool
  | [] => true
  | s :: rest => !s.isBlank && (s.marks || anchored rest)

namespace Layout

/-- A layout with older lines above its own. -/
def below (l : Layout) (older : List String) : Layout := { l with newest := l.newest ++ older }

/-- Some line is not empty. -/
def Solid (l : Layout) : Prop := ∃ text ∈ l.newest, text ≠ ""

theorem line_below (l : Layout) (older : List String) (text : String) :
    (l.below older).line text = (l.line text).below older := by
  simp [line_eq, below]

theorem foldl_line_below (ls : List String) (l : Layout) (older : List String) :
    ls.foldl line (l.below older) = (ls.foldl line l).below older := by
  induction ls generalizing l with
  | nil => rfl
  | cons text ls ih => rw [List.foldl_cons, line_below, ih, List.foldl_cons]

theorem takeWhile_append_of_solid {own older : List String} (h : ∃ text ∈ own, text ≠ "") :
    (own ++ older).takeWhile (·.isEmpty) = own.takeWhile (·.isEmpty) := by
  induction own with
  | nil => simp at h
  | cons first own ih =>
    by_cases hf : first = ""
    · have hown : ∃ text ∈ own, text ≠ "" := by simpa [hf] using h
      simp [hf, ih hown]
    · simp [hf]

theorem blank_below {l : Layout} (h : l.Solid) (older : List String) (count : Int) :
    (l.below older).blank count = (l.blank count).below older := by
  have hne : l.isEmpty = false := by
    obtain ⟨text, hmem, _⟩ := h
    simp [isEmpty, List.ne_nil_of_mem hmem]
  have hne' : (l.below older).isEmpty = false := by
    simp_all [isEmpty, below]
  have ht : (l.below older).trailing = l.trailing := by
    rw [trailing, below, takeWhile_append_of_solid h]
    rfl
  have ho : (l.below older).opened = l.opened := rfl
  rw [blank, blank, hne, hne', ho, ht]
  cases l.opened with
  | true => rfl
  | false => simp [below]

theorem write_below {l : Layout} {s : Step} (h : s.isBlank = false ∨ l.Solid)
    (older : List String) : (l.below older).write s = (l.write s).below older := by
  cases s with
  | blank count => exact blank_below (h.resolve_left (by simp [Step.isBlank])) older count
  | comment marker text => exact foldl_line_below _ l older
  | line text => exact line_below l older text
  | label | openBlock | reopenBlock | closeBlock | rule =>
    simp [write, below, label, openBlock, reopenBlock, closeBlock, rule, move, append, line_eq]
  | indent | outdent | spell => rfl

theorem Solid.write {l : Layout} (h : l.Solid) (s : Step) : (l.write s).Solid := by
  obtain ⟨text, hmem, hne⟩ := h
  refine ⟨text, ?_, hne⟩
  cases hb : s.isBlank with
  | false =>
    rw [newest_write l hb]
    exact List.mem_append_right _ hmem
  | true =>
    cases s with
    | blank count =>
      rw [Layout.write, blank]
      split
      · exact hmem
      · exact List.mem_append_right _ hmem
    | _ => cases hb

/-- A part of a text that has a character other than a line feed. -/
theorem exists_splitWhere_ne_nil {cs : List Char} (h : ∃ c ∈ cs, c ≠ '\n') :
    ∃ part ∈ Text.splitWhere (· == '\n') cs, part ≠ [] := by
  induction cs with
  | nil => simp at h
  | cons c cs ih =>
    by_cases hc : c = '\n'
    · have hcs : ∃ d ∈ cs, d ≠ '\n' := by simpa [hc] using h
      obtain ⟨part, hmem, hne⟩ := ih hcs
      exact ⟨part, by simp [Text.splitWhere, hc, hmem], hne⟩
    · cases hs : Text.splitWhere (· == '\n') cs with
      | nil => exact ⟨[c], by simp [Text.splitWhere, hc, hs, Text.consHead], by simp⟩
      | cons part rest =>
        exact ⟨c :: part, by simp [Text.splitWhere, hc, hs, Text.consHead], by simp⟩

theorem exists_placed_ne_empty {style : Style} {depth : Int} {text : String}
    (h : text.toList.any (· != '\n') = true) : ∃ line ∈ style.placed depth text, line ≠ "" := by
  have hc : ∃ c ∈ text.toList, c ≠ '\n' := by simpa using h
  obtain ⟨part, hmem, hne⟩ := exists_splitWhere_ne_nil hc
  refine ⟨_, List.mem_map_of_mem hmem, ?_⟩
  simp [hne]

theorem solid_write_of_marks {s : Step} (h : s.marks = true) (l : Layout) :
    (l.write s).Solid := by
  have hadded : s.isBlank = false ∧ ∃ line ∈ s.added l.style l.depth, line ≠ "" := by
    cases s with
    | line text => exact ⟨rfl, exists_placed_ne_empty h⟩
    | openBlock header token => exact ⟨rfl, exists_placed_ne_empty h⟩
    | label text =>
      have ht : text ≠ "" := by simpa [Step.marks] using h
      exact ⟨rfl, _, List.mem_singleton.mpr rfl, by simp [ht]⟩
    | _ => cases h
  obtain ⟨hb, line, hmem, hne⟩ := hadded
  refine ⟨line, ?_, hne⟩
  rw [newest_write l hb]
  exact List.mem_append_left _ (List.mem_reverse.mpr hmem)

/-- Older lines stay where they are, and nothing else depends on them. -/
theorem writeAll_below {steps : List Step} {l : Layout} (h : anchored steps = true ∨ l.Solid)
    (older : List String) : (l.below older).writeAll steps = (l.writeAll steps).below older := by
  induction steps generalizing l with
  | nil => rfl
  | cons s steps ih =>
    have hs : s.isBlank = false ∨ l.Solid := by
      refine h.imp_left fun ha => ?_
      simp_all [anchored]
    have hnext : anchored steps = true ∨ (l.write s).Solid := by
      rcases h with ha | hl
      · have hm : s.marks = true ∨ anchored steps = true := by simp_all [anchored]
        exact hm.symm.imp_right fun hm => solid_write_of_marks hm l
      · exact Or.inr (hl.write s)
    rw [writeAll_cons, write_below hs, ih hnext, writeAll_cons]

end Layout

end CWriter

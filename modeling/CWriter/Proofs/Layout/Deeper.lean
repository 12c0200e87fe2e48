import CWriter.Proofs.Layout.Room
import CWriter.Proofs.Layout.Trace
import CWriter.Proofs.Nesting

/-!
# The same steps at another depth

Taken at a greater depth, steps add the same lines with more indentation in front. A rule is the
one step that does otherwise: it ends at a fixed column, so a deeper one is shorter. The depth
has to be positive, since a label at depth zero has no level to give up.
-/
namespace CWriter

/-- A line that stands deeper by some levels. An empty line has no indentation at any depth. -/
def Style.deeper (style : Style) (levels : Nat) (line : String) : String :=
  if line.isEmpty then "" else style.indentation levels ++ line

namespace Style

variable (style : Style) (k : Nat)

theorem deeper_empty : style.deeper k "" = "" := rfl

theorem isEmpty_deeper (line : String) : (style.deeper k line).isEmpty = line.isEmpty := by
  rw [deeper]
  cases h : line.isEmpty with
  | true => rfl
  | false => simp_all

theorem deeper_of_ne {line : String} (h : line ≠ "") :
    style.deeper k line = style.indentation k ++ line := by
  rw [deeper, if_neg (by simpa using h)]

theorem indentation_add {depth : Int} (h : 0 ≤ depth) :
    style.indentation (depth + k) = style.indentation k ++ style.indentation depth := by
  have hlevels : (depth + k).toNat = k + depth.toNat := by
    omega
  rw [← String.toList_inj, String.toList_append, toList_indentation, toList_indentation,
    toList_indentation, hlevels, Nat.mul_add, List.replicate_add, Int.toNat_natCast]

/-- A text that is not empty stands deeper as its line does, whatever line feeds are in it. -/
theorem deeper_indented {depth : Int} (h : 0 ≤ depth) {text : String} (hne : text ≠ "") :
    style.deeper k (style.indentation depth ++ text) =
      style.indentation (depth + k) ++ text := by
  rw [deeper_of_ne _ _ (by simp [hne]), indentation_add style k h, String.append_assoc]

theorem placed_add {depth : Int} (h : 0 ≤ depth) (text : String) :
    style.placed (depth + k) text = (style.placed depth text).map (style.deeper k) := by
  rw [placed, placed, List.map_map]
  refine List.map_congr_left fun part _ => ?_
  rw [Function.comp_apply]
  cases hpart : part.isEmpty with
  | true => rfl
  | false =>
    have hne : String.ofList part ≠ "" := by
      simpa using hpart
    simp only [Bool.false_eq_true, if_false]
    exact (style.deeper_indented k h hne).symm

end Style

/-- Steps whose lines move with the depth. -/
def Step.shifts : Step → Bool
  | .rule => false
  | .label text => !text.isEmpty
  | _ => true

/-- What a step adds deeper down is what it adds, deeper. -/
theorem Step.added_add (style : Style) (k : Nat) {depth : Int} (hdepth : 1 ≤ depth) {s : Step}
    (hs : s.shifts = true) :
    s.added style (depth + k) = (s.added style depth).map (style.deeper k) := by
  have hshallow : depth + k - 1 = depth - 1 + k := by
    omega
  cases s with
  | rule => cases hs
  | line text => exact style.placed_add k (by omega) text
  | openBlock header token => exact style.placed_add k (by omega) _
  | label text =>
    have hne : text ≠ "" := by
      simpa [shifts] using hs
    rw [added, added, hshallow, List.map_singleton, style.deeper_indented k (by omega) hne]
  | reopenBlock header =>
    rw [added, added, hshallow]
    exact style.placed_add k (by omega) _
  | closeBlock token =>
    rw [added, added, hshallow]
    exact style.placed_add k (by omega) _
  | comment marker text =>
    rw [added, added, List.map_flatMap]
    refine List.flatMap_congr fun line _ => ?_
    exact style.placed_add k (by omega) line
  | blank | indent | outdent | spell => rfl

namespace Layout

/-- Two layouts that have the lines of `base` in common. What stands behind these, and the depth,
differs by `k` levels. -/
structure Deeper (k : Nat) (base : List String) (l deep : Layout) : Prop where
  style : deep.style = l.style
  depth : deep.depth = l.depth + k
  opened : deep.opened = l.opened
  newest : ∃ own, l.newest = own ++ base ∧ deep.newest = own.map (l.style.deeper k) ++ base

theorem opened_foldl_line (ls : List String) (l : Layout) :
    (ls.foldl line l).opened = (ls.isEmpty && l.opened) := by
  cases ls with
  | nil => simp
  | cons text ls =>
    refine Bool.eq_false_iff.mpr fun h => ?_
    exact absurd ((foldl_line ls (l.line text)).2.2.2 h) (by simp [line_eq])

namespace Deeper

variable {k : Nat} {base : List String} {l deep : Layout}

/-- A layout, and the same one a few levels deeper. -/
theorem move (l : Layout) (k : Nat) : Deeper k l.newest l (l.move k) :=
  ⟨rfl, rfl, rfl, [], rfl, rfl⟩

/-- The two layouts are empty at the same places. -/
theorem map_isEmpty (h : Deeper k base l deep) :
    deep.newest.map String.isEmpty = l.newest.map String.isEmpty := by
  obtain ⟨own, hown, hdeep⟩ := h.newest
  rw [hown, hdeep, List.map_append, List.map_append, List.map_map]
  congr 1
  exact List.map_congr_left fun line _ => l.style.isEmpty_deeper k line

theorem trailing (h : Deeper k base l deep) : deep.trailing = l.trailing := by
  have hlength : ∀ ls : List String,
      (ls.takeWhile (·.isEmpty)).length = ((ls.map String.isEmpty).takeWhile id).length := by
    intro ls
    rw [List.takeWhile_map, List.length_map]
    rfl
  rw [Layout.trailing, Layout.trailing, hlength, hlength, h.map_isEmpty]

theorem isEmpty (h : Deeper k base l deep) : deep.isEmpty = l.isEmpty := by
  rw [Layout.isEmpty, Layout.isEmpty, ← List.isEmpty_map (f := String.isEmpty), h.map_isEmpty,
    List.isEmpty_map]

theorem opened_write (h : Deeper k base l deep) (s : Step) :
    (deep.write s).opened = (l.write s).opened := by
  cases s with
  | comment marker text =>
    rw [write, write, opened_foldl_line, opened_foldl_line, h.style, h.opened]
  | blank count =>
    have hkeep : ∀ l : Layout, (l.blank count).opened = l.opened := by
      intro l
      rw [blank]
      split <;> rfl
    rw [write, write, hkeep, hkeep, h.opened]
  | indent | outdent | spell => exact h.opened
  | _ => rfl

/-- Blank lines are counted in what stands there, which is empty at the same places. -/
theorem newest_blank (h : Deeper k base l deep) (count : Int) :
    ∃ own, (l.blank count).newest = own ++ base ∧
      (deep.blank count).newest = own.map (l.style.deeper k) ++ base := by
  obtain ⟨own, hown, hdeep⟩ := h.newest
  rw [blank, blank, h.isEmpty, h.opened, h.trailing]
  split
  · exact ⟨own, hown, hdeep⟩
  · refine ⟨List.replicate (count - l.trailing).toNat "" ++ own, ?_, ?_⟩
    · rw [List.append_assoc, ← hown]
    · rw [List.map_append, List.map_replicate, Style.deeper_empty, List.append_assoc, ← hdeep]

/-- One step keeps two layouts apart by the same levels. -/
theorem write (h : Deeper k base l deep) (hdepth : 1 ≤ l.depth) {s : Step}
    (hs : s.shifts = true) : Deeper k base (l.write s) (deep.write s) := by
  refine ⟨?_, ?_, h.opened_write s, ?_⟩
  · rw [style_write, style_write, h.style]
  · rw [depth_write, depth_write, h.depth]
    omega
  · rw [style_write]
    cases hblank : s.isBlank with
    | true =>
      cases s with
      | blank count => exact h.newest_blank count
      | _ => cases hblank
    | false =>
      obtain ⟨own, hown, hdeep⟩ := h.newest
      refine ⟨(s.added l.style l.depth).reverse ++ own, ?_, ?_⟩
      · rw [newest_write l hblank, hown, List.append_assoc]
      · rw [newest_write deep hblank, h.style, h.depth, s.added_add l.style k hdepth hs, hdeep,
          List.map_append, List.map_reverse, List.append_assoc]

/-- Nested steps never come below the depth they start at, so each of them is taken at a positive
depth. -/
theorem writeAll {inside : Bool} {steps : List Step} (hnested : Nested inside steps)
    (h : Deeper k base l deep) (hdepth : 1 ≤ l.depth) (hs : ∀ s ∈ steps, s.shifts = true) :
    Deeper k base (l.writeAll steps) (deep.writeAll steps) := by
  induction hnested generalizing l deep with
  | nil => exact h
  | append hfirst _ ihfirst ihsecond =>
    rw [List.forall_mem_append] at hs
    rw [writeAll_append, writeAll_append]
    refine ihsecond (ihfirst h hdepth hs.1) ?_ hs.2
    rwa [depth_writeAll_of_nested hfirst]
  | block header token hbody ih =>
    simp only [List.forall_mem_append, List.forall_mem_singleton] at hs
    have hopened := h.write hdepth hs.1.1
    have hinner : 1 ≤ (l.write (.openBlock header r"{")).depth := by
      rw [depth_write, Step.levels]
      omega
    have hinside := ih hopened hinner hs.1.2
    simp only [writeAll_append, writeAll_cons, writeAll_nil]
    refine hinside.write ?_ hs.2
    rwa [depth_writeAll_of_nested hbody]
  | indented hbody ih =>
    simp only [List.forall_mem_append, List.forall_mem_singleton] at hs
    have hinner : 1 ≤ (l.write .indent).depth := by
      rw [depth_write, Step.levels]
      omega
    have hinside := ih (h.write hdepth hs.1.1) hinner hs.1.2
    simp only [writeAll_append, writeAll_cons, writeAll_nil]
    refine hinside.write ?_ hs.2
    rwa [depth_writeAll_of_nested hbody]
  | line | label | blank | rule | comment | reopen | spell =>
    exact h.write hdepth (hs _ List.mem_cons_self)

end Deeper

/-- Steps that only add lines and come back to the depth they start at, and whose lines at a
greater depth are the same ones deeper. -/
def Translates (l : Layout) (steps : List Step) : Prop :=
  (0 < l.style.docWidth → ∃ out, l.run steps = .ok out) ∧
  ∀ out, l.run steps = .ok out →
    out.style = l.style ∧ out.depth = l.depth ∧
    ∃ own, out.lines = l.lines ++ own ∧
      ∀ k : Nat, ∃ deep, (l.move k).run steps = .ok deep ∧ deep.depth = l.depth + k ∧
        deep.lines = l.lines ++ own.map (l.style.deeper k)

theorem translates_of_nested {inside : Bool} {steps : List Step} (hnested : Nested inside steps)
    {l : Layout} (hdepth : 1 ≤ l.depth) (hs : ∀ s ∈ steps, s.shifts = true) :
    l.Translates steps := by
  refine ⟨fun hwidth => ⟨_, run_eq_ok hwidth steps⟩, fun out hout => ?_⟩
  obtain ⟨hfits, rfl⟩ := run_eq_ok_iff.mp hout
  have hlines := l.lines_writeAll steps
  refine ⟨style_writeAll l steps, depth_writeAll_of_nested hnested l, _, hlines, fun k => ?_⟩
  have hdeeper := (Deeper.move l k).writeAll hnested hdepth hs
  obtain ⟨own, hown, hdeep⟩ := hdeeper.newest
  have hadded : own.reverse = (l.trace steps).map Prod.snd := by
    rw [lines, hown, List.reverse_append] at hlines
    exact List.append_cancel_left hlines
  refine ⟨_, run_eq_ok_iff.mpr ⟨hfits, rfl⟩, ?_, ?_⟩
  · rw [hdeeper.depth, depth_writeAll_of_nested hnested]
  · rw [lines, hdeep, List.reverse_append, ← List.map_reverse, hadded, style_writeAll]
    rfl

end Layout

end CWriter

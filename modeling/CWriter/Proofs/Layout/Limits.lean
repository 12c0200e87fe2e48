import CWriter.Proofs.Layout.Room
import CWriter.Proofs.Nesting

/-!
# Texts within the limits of a machine

Printing takes the steps of a run and stops at the first one that exceeds a limit. Up to there the
two march in step, so what is printed is the text of the run. Whether a step exceeds a limit
depends on the style and on the depth it is taken at. In nested steps no line is indented from
below zero, and the limits come down to three: the digits of each number, the columns of each
indentation and the length of each rule.
-/
namespace CWriter

open Number (wordBound fitsWord)

/-- The faults of a text that is there and is too large. -/
def LayoutFault.IsLimit (fault : LayoutFault) : Prop :=
  fault = .tooLong ∨ fault = .tooOften ∨ fault = .tooWide

/-- The steps with the depths they are taken at. -/
def atDepths (depth : Int) : List Step → List (Int × Step)
  | [] => []
  | s :: rest => (depth, s) :: atDepths (depth + s.levels) rest

/-- The first limit that steps exceed. -/
def exceeded? (style : Style) (depth : Int) (steps : List Step) : Option LayoutFault :=
  (atDepths depth steps).findSome? fun (d, s) => s.excess? style d

theorem atDepths_append (depth : Int) (first second : List Step) :
    atDepths depth (first ++ second) = atDepths depth first ++
      atDepths (first.foldl (fun d s => d + s.levels) depth) second := by
  induction first generalizing depth with
  | nil => rfl
  | cons s rest ih => simp [atDepths, ih]

theorem exceeded?_cons (style : Style) (depth : Int) (s : Step) (rest : List Step) :
    exceeded? style depth (s :: rest) =
      (s.excess? style depth).or (exceeded? style (depth + s.levels) rest) := by
  simp only [exceeded?, atDepths, List.findSome?_cons]
  cases s.excess? style depth <;> rfl

namespace Layout

/-- A step that is taken under the limits is taken as in a run. -/
theorem step_of_advance {l next : Layout} {s : Step} (h : l.advance s = .ok next) :
    l.step s = .ok next := by
  rw [advance] at h
  split at h
  · cases h
  · exact h

/-- Where there is room for comments, a step under the limits either exceeds one or is written. -/
theorem advance_eq {l : Layout} (h : 0 < l.style.docWidth) (s : Step) :
    l.advance s = (s.excess? l.style l.depth).elim (.ok (l.write s)) .error := by
  rw [advance]
  cases s.excess? l.style l.depth with
  | none => exact step_eq_ok h s
  | some fault => rfl

theorem run_of_proceed {l out : Layout} {steps : List Step}
    (h : l.proceed steps = (none, out)) : l.run steps = .ok out := by
  induction steps generalizing l with
  | nil =>
    cases h
    rfl
  | cons s rest ih =>
    rw [proceed] at h
    cases hstep : l.advance s with
    | error fault =>
      rw [hstep] at h
      cases h
    | ok next =>
      rw [hstep] at h
      rw [run_cons, step_of_advance hstep]
      exact ih h

theorem proceed_of_within {l : Layout} (hroom : 0 < l.style.docWidth) {steps : List Step}
    (h : exceeded? l.style l.depth steps = none) : l.proceed steps = (none, l.writeAll steps) := by
  induction steps generalizing l with
  | nil => rfl
  | cons s rest ih =>
    rw [exceeded?_cons, Option.or_eq_none_iff, ← depth_write, ← style_write l s] at h
    rw [style_write] at h
    rw [proceed, advance_eq hroom, h.1]
    exact ih (by rwa [style_write]) (by rw [style_write]; exact h.2)

theorem proceed_of_exceeded {l : Layout} (hroom : 0 < l.style.docWidth) {steps : List Step}
    {fault : LayoutFault} (h : exceeded? l.style l.depth steps = some fault) :
    (l.proceed steps).1 = some fault := by
  induction steps generalizing l with
  | nil => cases h
  | cons s rest ih =>
    rw [exceeded?_cons] at h
    rw [proceed, advance_eq hroom]
    cases hs : s.excess? l.style l.depth with
    | some other =>
      rw [hs] at h
      exact h
    | none =>
      rw [hs, Option.none_or, ← depth_write] at h
      exact ih (by rwa [style_write]) (by rwa [style_write])

end Layout

/-- What is printed is the text of the run. -/
theorem render_of_print {style : Style} {steps : List Step} {text : String}
    (h : print style steps = .ok text) : render style steps = .ok text := by
  rw [print] at h
  split at h
  · cases h
  · next l hl =>
    rw [render, Layout.run_of_proceed hl]
    exact h

/-- With room for comments, a text is printed unless a limit is exceeded. -/
theorem print_eq {style : Style} (h : 0 < style.docWidth) (steps : List Step) :
    print style steps = (exceeded? style 0 steps).elim (render style steps) .error := by
  cases hsteps : exceeded? style 0 steps with
  | none =>
    rw [print, Layout.proceed_of_within (l := { style }) h hsteps]
    rw [render, Layout.run_eq_ok (l := { style }) h]
    rfl
  | some fault =>
    have hfault := Layout.proceed_of_exceeded (l := { style }) h hsteps
    rw [print]
    split
    · next other _ hother =>
      rw [hother] at hfault
      cases hfault
      rfl
    · next hother =>
      rw [hother] at hfault
      cases hfault

namespace LayoutFault

theorem isLimit_of_ofNumbers? {numbers : List Int} {fault : LayoutFault}
    (h : ofNumbers? numbers = some fault) : fault.IsLimit := by
  rw [ofNumbers?] at h
  split at h <;> cases h
  exact Or.inl rfl

theorem isLimit_of_ofRepetition? {length : Nat} {count : Int} {fault : LayoutFault}
    (h : ofRepetition? length count = some fault) : fault.IsLimit := by
  rw [ofRepetition?] at h
  split at h
  · cases h
    exact Or.inr (Or.inl rfl)
  · split at h <;> cases h
    exact Or.inr (Or.inr rfl)

theorem isLimit_of_ofIndentation? {style : Style} {depth : Int} {fault : LayoutFault}
    (h : ofIndentation? style depth = some fault) : fault.IsLimit := by
  rcases Option.or_eq_some_iff.mp h with h | ⟨-, h⟩ <;> exact isLimit_of_ofRepetition? h

theorem ofNumbers?_eq_none_iff {numbers : List Int} :
    ofNumbers? numbers = none ↔ ∀ n ∈ numbers, n.natAbs < Text.writtenBound := by
  simp only [ofNumbers?, ite_eq_left_iff, reduceCtorEq, imp_false, not_not, List.all_eq_true,
    Text.isWritable_iff]

theorem ofRepetition?_eq_none_iff {length : Nat} {count : Int} (h : 0 ≤ count) :
    ofRepetition? length count = none ↔ count < wordBound ∧ length * count < wordBound := by
  have hfits : ∀ n : Int, 0 ≤ n → (fitsWord n = true ↔ n < wordBound) := by
    intro n hn
    have hbound : 0 ≤ wordBound := by decide
    simp only [fitsWord, Bool.and_eq_true, decide_eq_true_eq]
    omega
  have hcount : ((length * count.toNat : Nat) : Int) = length * count := by
    rw [Int.natCast_mul, Int.toNat_of_nonneg h]
  rw [← hfits count h, ← hfits _ (Int.mul_nonneg (Int.natCast_nonneg length) h), ofRepetition?,
    hcount]
  cases fitsWord count <;> cases fitsWord (length * count) <;> simp

theorem ofIndentation?_eq_none_iff {style : Style} (hstyle : style.Valid) {depth : Int}
    (h : 0 ≤ depth) : ofIndentation? style depth = none ↔
      style.indentWidth < wordBound ∧ style.indentWidth * depth < wordBound := by
  have hwidth : 1 ≤ style.indentWidth := hstyle.indentWidth
  have hdepth : depth ≤ style.indentWidth * depth := by
    have hmul := Int.mul_le_mul_of_nonneg_right hwidth h
    omega
  rw [ofIndentation?, Option.or_eq_none_iff, ofRepetition?_eq_none_iff (by omega),
    ofRepetition?_eq_none_iff h, Int.toNat_of_nonneg (by omega)]
  omega

end LayoutFault

/-- Every fault of printing that is not one of the run is a limit. -/
theorem Step.isLimit_of_excess? {style : Style} {depth : Int} {s : Step} {fault : LayoutFault}
    (h : s.excess? style depth = some fault) : fault.IsLimit := by
  have hink : (s.inkDepth? depth).bind (LayoutFault.ofIndentation? style) = some fault →
      fault.IsLimit := by
    intro h
    obtain ⟨ink, -, hfault⟩ := Option.bind_eq_some_iff.mp h
    exact LayoutFault.isLimit_of_ofIndentation? hfault
  cases s with
  | spell numbers => exact LayoutFault.isLimit_of_ofNumbers? h
  | rule =>
    rcases Option.or_eq_some_iff.mp h with h | ⟨-, h⟩
    · exact LayoutFault.isLimit_of_ofRepetition? h
    · exact hink h
  | comment marker text =>
    simp only [excess?] at h
    split at h
    · cases h
    · exact hink h
  | _ => exact hink h

theorem isLimit_of_exceeded? {style : Style} {depth : Int} {steps : List Step}
    {fault : LayoutFault} (h : exceeded? style depth steps = some fault) : fault.IsLimit := by
  obtain ⟨_, _, hs⟩ := List.exists_of_findSome?_eq_some h
  exact Step.isLimit_of_excess? hs

/-- How many levels a step takes back before it writes. -/
def Step.takenBack : Step → Int
  | .reopenBlock _ | .closeBlock _ => 1
  | _ => 0

theorem Step.takenBack_nonneg (s : Step) : 0 ≤ s.takenBack := by
  cases s <;> simp [takenBack]

theorem Step.inkDepth_bounds {s : Step} {depth ink : Int} (h : s.takenBack ≤ depth)
    (hink : s.inkDepth? depth = some ink) : 0 ≤ ink ∧ ink ≤ depth := by
  have hdepth := s.takenBack_nonneg
  cases s <;> simp only [takenBack] at h <;> simp only [inkDepth?] at hink <;>
    (try split at hink) <;> cases hink <;> omega

/-- No step takes back more levels than there are, in nested steps that stand in a block or at any
depth from zero. -/
theorem Nested.takenBack_le {inside : Bool} {steps : List Step} (h : Nested inside steps)
    {depth : Int} (hdepth : (if inside then 1 else 0) ≤ depth) {d : Int} {s : Step}
    (hs : (d, s) ∈ atDepths depth steps) : s.takenBack ≤ d := by
  have hfrom : 0 ≤ depth := by
    split at hdepth <;> omega
  induction h generalizing depth with
  | nil => exact absurd hs List.not_mem_nil
  | append hfirst _ ihfirst ihsecond =>
    rw [atDepths_append, hfirst.foldl_levels, List.mem_append] at hs
    exact hs.elim (ihfirst hdepth · hfrom) (ihsecond hdepth · hfrom)
  | block _ _ hbody ih | indented hbody ih =>
    rw [List.append_assoc, List.singleton_append, atDepths, List.mem_cons, atDepths_append,
      hbody.foldl_levels, List.mem_append] at hs
    simp only [Step.levels] at hs
    rcases hs with hs | hs | hs
    · cases hs
      exact hfrom
    · exact ih (by simp only [reduceIte, Bool.false_eq_true]; omega) hs (by omega)
    · cases List.mem_singleton.mp hs
      simp only [Step.takenBack]
      omega
  | reopen =>
    cases List.mem_singleton.mp hs
    exact hdepth
  | _ =>
    cases List.mem_singleton.mp hs
    exact hfrom

/-- The depth moves by one level at a time. -/
theorem le_of_mem_atDepths {depth d : Int} {s : Step} {steps : List Step}
    (h : (d, s) ∈ atDepths depth steps) : d + 1 ≤ depth + steps.length := by
  induction steps generalizing depth with
  | nil => exact absurd h List.not_mem_nil
  | cons first rest ih =>
    have hlevels : first.levels ≤ 1 := by
      cases first <;> simp [Step.levels]
    rw [List.length_cons]
    rcases List.mem_cons.mp h with h | h
    · cases h
      omega
    · have hrest := ih h
      omega

theorem mem_of_mem_atDepths {depth d : Int} {s : Step} {steps : List Step}
    (h : (d, s) ∈ atDepths depth steps) : s ∈ steps := by
  induction steps generalizing depth with
  | nil => exact absurd h List.not_mem_nil
  | cons first rest ih =>
    rcases List.mem_cons.mp h with h | h
    · cases h
      exact List.mem_cons_self
    · exact List.mem_cons_of_mem _ (ih h)

/-- A step at a depth is within the limits. -/
structure Step.Within (style : Style) (depth : Int) (s : Step) : Prop where
  /-- No number has more digits than are written. -/
  numbers : ∀ numbers, s = .spell numbers → ∀ n ∈ numbers, n.natAbs < Text.writtenBound
  /-- A machine word counts the columns of one level, and those in front of the line. -/
  columns : ∀ ink, s.inkDepth? depth = some ink →
    style.indentWidth < wordBound ∧ style.indentWidth * ink < wordBound
  rules : s = .rule → Layout.ruleLength style depth < wordBound

/-- Each of the steps is within the limits at its depth. -/
def WithinLimits (style : Style) (steps : List Step) : Prop :=
  ∀ d s, (d, s) ∈ atDepths 0 steps → s.Within style d

theorem Step.excess?_eq_none_iff {style : Style} (hstyle : style.Valid) {depth : Int} {s : Step}
    (h : s.takenBack ≤ depth) : s.excess? style depth = none ↔ s.Within style depth := by
  have hink : (s.inkDepth? depth).bind (LayoutFault.ofIndentation? style) = none ↔
      ∀ ink, s.inkDepth? depth = some ink →
        style.indentWidth < wordBound ∧ style.indentWidth * ink < wordBound := by
    rw [Option.bind_eq_none_iff]
    refine forall_congr' fun ink => forall_congr' fun hs => ?_
    exact LayoutFault.ofIndentation?_eq_none_iff hstyle (inkDepth_bounds h hs).1
  have hwithin : s.Within style depth ↔
      (∀ numbers, s = .spell numbers → LayoutFault.ofNumbers? numbers = none) ∧
      (s.inkDepth? depth).bind (LayoutFault.ofIndentation? style) = none ∧
      (s = .rule → LayoutFault.ofRepetition? 1 (Layout.ruleLength style depth) = none) := by
    have hlength : 0 ≤ Layout.ruleLength style depth := by
      rw [Layout.ruleLength]
      omega
    simp only [LayoutFault.ofNumbers?_eq_none_iff, LayoutFault.ofRepetition?_eq_none_iff hlength,
      hink, Int.natCast_one, Int.one_mul, and_self]
    exact ⟨fun h => ⟨h.numbers, h.columns, h.rules⟩, fun ⟨hn, hc, hr⟩ => ⟨hn, hc, hr⟩⟩
  rw [hwithin]
  cases s with
  | spell numbers => simp [excess?, inkDepth?]
  | rule => simp [excess?, and_comm]
  | comment marker text => simp [excess?, Layout.commentBlock_eq_ok hstyle.docWidth_pos]
  | _ => simp [excess?]

theorem exceeded?_eq_none_iff {style : Style} (hstyle : style.Valid) {steps : List Step}
    (h : Nested false steps) : exceeded? style 0 steps = none ↔ WithinLimits style steps := by
  rw [exceeded?, List.findSome?_eq_none_iff]
  have heach : ∀ d s, (d, s) ∈ atDepths 0 steps →
      (s.excess? style d = none ↔ s.Within style d) := fun d s hs =>
    Step.excess?_eq_none_iff hstyle (h.takenBack_le (Int.le_refl 0) hs)
  exact ⟨fun hall d s hs => (heach d s hs).mp (hall (d, s) hs),
    fun hall x hx => (heach x.1 x.2 hx).mpr (hall x.1 x.2 hx)⟩

/-- There are as many levels as there are steps at the most, so large limits are only exceeded by
large settings and by long numbers. -/
theorem withinLimits_of_few {style : Style} (hstyle : style.Valid) {steps : List Step}
    (h : Nested false steps)
    (hnumbers : ∀ numbers, .spell numbers ∈ steps → ∀ n ∈ numbers, n.natAbs < Text.writtenBound)
    (hcolumns : style.indentWidth * steps.length < wordBound)
    (hheading : style.headingWidth < wordBound) : WithinLimits style steps := by
  intro d s hs
  have hwidth : 1 ≤ style.indentWidth := hstyle.indentWidth
  have hback := h.takenBack_le (Int.le_refl 0) hs
  have hdepth : 0 ≤ d := Int.le_trans s.takenBack_nonneg hback
  have hcount := le_of_mem_atDepths hs
  have hlevels : ∀ k : Int, k ≤ steps.length →
      style.indentWidth * k ≤ style.indentWidth * steps.length :=
    fun k hk => Int.mul_le_mul_of_nonneg_left hk (by omega)
  refine ⟨?_, fun ink hink => ?_, fun _ => ?_⟩
  · rintro numbers rfl
    exact hnumbers numbers (mem_of_mem_atDepths hs)
  · have hone := hlevels 1 (by omega)
    have hbounds := Step.inkDepth_bounds hback hink
    have hall := hlevels ink (by omega)
    omega
  · have hindent := Int.mul_nonneg hdepth (by omega : 0 ≤ style.indentWidth)
    have hbound : 4 < wordBound := by decide
    rw [Layout.ruleLength]
    omega

/-- A text of nested steps is printed exactly within the limits, and refused for one of them
beyond. -/
theorem print_of_within {style : Style} (hstyle : style.Valid) {steps : List Step}
    (h : Nested false steps) (hwithin : WithinLimits style steps) :
    print style steps = render style steps := by
  rw [print_eq hstyle.docWidth_pos, (exceeded?_eq_none_iff hstyle h).mpr hwithin]
  rfl

theorem print_of_not_within {style : Style} (hstyle : style.Valid) {steps : List Step}
    (h : Nested false steps) (hwithin : ¬WithinLimits style steps) :
    ∃ fault, fault.IsLimit ∧ print style steps = .error fault := by
  cases hfault : exceeded? style 0 steps with
  | none => exact absurd ((exceeded?_eq_none_iff hstyle h).mp hfault) hwithin
  | some fault =>
    refine ⟨fault, isLimit_of_exceeded? hfault, ?_⟩
    rw [print_eq hstyle.docWidth_pos, hfault]
    rfl

end CWriter

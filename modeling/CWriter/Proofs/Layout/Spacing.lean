import CWriter.Proofs.Layout.Lines
import CWriter.Proofs.Layout.Room
import CWriter.Proofs.Layout.Trace
import CWriter.Proofs.ScopeLines

/-!
# Blank lines between the lines of a run

Blank lines are topped up to a count, so asking for them twice is asking once for the larger
count. Where the other steps write no empty lines of their own, every empty line of a run is thus
accounted for by the blank steps that stand between two others: it is their largest count, and
none below a line that opens a block or at the very top. Which step wrote a line is told by the
number of lines that stood there before the step was taken, and after it.
-/
namespace CWriter

/-- The count of blank lines that a step asks for. -/
def Step.asked : Step → Int
  | .blank count => count
  | _ => 0

/-- The largest count of blank lines that steps ask for, and zero if none asks for more. -/
def largestAsked (steps : List Step) : Int := (steps.map Step.asked).foldr max 0

theorem largestAsked_nonneg (steps : List Step) : 0 ≤ largestAsked steps := by
  induction steps with
  | nil => exact Int.le_refl 0
  | cons s steps ih => exact Int.le_trans ih (Int.le_max_right _ _)

/-- A step that asks for blank lines, or writes text of one line or more, none of them empty. -/
def Step.Proper : Step → Prop
  | .line text => ∀ part ∈ Text.splitWhere (· == '\n') text.toList, part ≠ []
  | .label text => text ≠ "" ∧ '\n' ∉ text.toList
  | .blank _ => True
  | .openBlock header token => '\n' ∉ header.toList ∧ token ≠ "" ∧ '\n' ∉ token.toList
  | .reopenBlock header => '\n' ∉ header.toList
  | .closeBlock token => token ≠ "" ∧ '\n' ∉ token.toList
  | .indent | .outdent | .rule | .comment .. | .spell _ => False

instance (s : Step) : Decidable s.Proper :=
  match s with
  | .line text =>
    inferInstanceAs (Decidable (∀ part ∈ Text.splitWhere (· == '\n') text.toList, part ≠ []))
  | .label text => inferInstanceAs (Decidable (text ≠ "" ∧ '\n' ∉ text.toList))
  | .openBlock header token =>
    inferInstanceAs (Decidable ('\n' ∉ header.toList ∧ token ≠ "" ∧ '\n' ∉ token.toList))
  | .reopenBlock header => inferInstanceAs (Decidable ('\n' ∉ header.toList))
  | .closeBlock token => inferInstanceAs (Decidable (token ≠ "" ∧ '\n' ∉ token.toList))
  | .blank _ => isTrue trivial
  | .indent | .outdent | .rule | .comment .. | .spell _ => isFalse id

namespace Layout

theorem blank_of_opened {l : Layout} (h : l.opened = true) (count : Int) : l.blank count = l := by
  rw [blank, h, Bool.or_true, if_pos rfl]

theorem eq_standing {l : Layout} (h : l.opened = false) :
    l = standing l.style l.depth l.lines := by
  cases l
  simp_all [standing, lines]

theorem blank_of_not_opened {l : Layout} (h : l.opened = false) (count : Int) :
    l.blank count = standing l.style l.depth (toppedUp count l.lines) := by
  conv_lhs => rw [eq_standing h]
  exact write_standing_blank count l.lines

theorem blank_blank (l : Layout) (a b : Int) : (l.blank a).blank b = l.blank (max a b) := by
  cases h : l.opened with
  | true => rw [blank_of_opened h, blank_of_opened h, blank_of_opened h]
  | false =>
    have hagain : (standing l.style l.depth (toppedUp a l.lines)).blank b =
        standing l.style l.depth (toppedUp b (toppedUp a l.lines)) :=
      write_standing_blank b (toppedUp a l.lines)
    rw [blank_of_not_opened h, blank_of_not_opened h, hagain, toppedUp_toppedUp]

theorem blank_zero (l : Layout) : l.blank 0 = l := by
  have hnone : (0 - (l.trailing : Int)).toNat = 0 := by
    omega
  rw [blank, hnone]
  split <;> rfl

/-- Blank steps in a row are one that asks for the largest of their counts. -/
theorem writeAll_blanks {steps : List Step} (h : ∀ s ∈ steps, s.isBlank = true) (l : Layout) :
    l.writeAll steps = l.blank (largestAsked steps) := by
  induction steps generalizing l with
  | nil => exact l.blank_zero.symm
  | cons s steps ih =>
    rw [List.forall_mem_cons] at h
    cases s with
    | blank count =>
      rw [writeAll_cons, ih h.2]
      exact l.blank_blank count _
    | _ => cases h.1

end Layout

theorem Style.full_placed (style : Style) (depth : Int) {text : String}
    (h : ∀ part ∈ Text.splitWhere (· == '\n') text.toList, part ≠ []) :
    style.placed depth text ≠ [] ∧
      ∀ line ∈ style.placed depth text, line ≠ "" ∧ '\n' ∉ line.toList := by
  refine ⟨by simpa [placed] using Text.splitWhere_ne_nil _ _, fun line hline => ?_⟩
  obtain ⟨part, hpart, rfl⟩ := List.mem_map.mp hline
  have hne : part ≠ [] := h part hpart
  have hfeed : '\n' ∉ part := fun hmem =>
    absurd (Text.mem_of_mem_splitWhere _ part hpart '\n' hmem).2 (by decide)
  rw [if_neg (by simpa using hne)]
  exact ⟨by simp [hne], by simp [toList_indentation, hfeed]⟩

/-- A text without line feeds is one part. -/
theorem parts_ne_nil {text : String} (hne : text ≠ "") (hfeed : '\n' ∉ text.toList) :
    ∀ part ∈ Text.splitWhere (· == '\n') text.toList, part ≠ [] := by
  rw [splitWhere_feed hfeed]
  simpa using hne

/-- Proper steps other than blank ones write at least one line, and no empty one. -/
theorem Step.Proper.full_added {s : Step} (h : s.Proper) (hblank : s.isBlank = false)
    (style : Style) (depth : Int) :
    s.added style depth ≠ [] ∧
      ∀ line ∈ s.added style depth, line ≠ "" ∧ '\n' ∉ line.toList := by
  cases s with
  | blank => cases hblank
  | indent | outdent | rule | comment | spell => cases h
  | line text => exact style.full_placed depth h
  | label text =>
    obtain ⟨hne, hfeed⟩ := h
    simp [added, Style.toList_indentation, hne, hfeed]
  | openBlock header token =>
    obtain ⟨hheader, hne, htoken⟩ := h
    refine style.full_placed depth (parts_ne_nil ?_ ?_)
    · rw [Layout.opening]
      split <;> simp [hne]
    · rw [Layout.opening]
      split <;> simp [hheader, htoken]
  | reopenBlock header =>
    have hfeed : '\n' ∉ header.toList := h
    exact style.full_placed (depth - 1) (parts_ne_nil (by simp) (by simp [hfeed]))
  | closeBlock token => exact style.full_placed (depth - 1) (parts_ne_nil h.1 h.2)

theorem Step.Proper.fits {s : Step} (h : s.Proper) (style : Style) : s.fits style = true := by
  cases s with
  | comment => cases h
  | _ => rfl

namespace Layout

theorem eq_empty_of_mem_adds {l : Layout} {s : Step} (h : s.isBlank = true) {line : String}
    (hline : line ∈ l.adds s) : line = "" := by
  cases s with
  | blank count =>
    rw [adds] at hline
    split at hline
    · cases hline
    · exact List.eq_of_mem_replicate hline
  | _ => cases h

theorem opened_write_of_proper {s : Step} (h : s.Proper) (hblank : s.isBlank = false)
    (l : Layout) : (l.write s).opened = s.opens := by
  cases s with
  | blank => cases hblank
  | indent | outdent | rule | comment | spell => cases h
  | line | label | openBlock | reopenBlock | closeBlock => rfl

/-- Below the lines of a step that is not blank, blank steps add the largest count they ask for, if
these lines do not open a block. -/
theorem lines_blanks_below {s : Step} (h : s.Proper) (hblank : s.isBlank = false) (l : Layout)
    {asks : List Step} (hasks : ∀ a ∈ asks, a.isBlank = true) :
    ((l.write s).writeAll asks).lines = (l.write s).lines ++
      List.replicate (if s.opens then 0 else (largestAsked asks).toNat) "" := by
  have hopened := opened_write_of_proper h hblank l
  rw [writeAll_blanks hasks]
  cases hopens : s.opens with
  | true =>
    rw [blank_of_opened (hopened.trans hopens), if_pos rfl, List.replicate_zero, List.append_nil]
  | false =>
    obtain ⟨hne, hfull⟩ := h.full_added hblank l.style l.depth
    have hlines : (l.write s).lines = l.lines ++ s.added l.style l.depth := by
      rw [lines_write, adds_of_not_isBlank l hblank]
    have hends : EndsFull (l.write s).lines := by
      rw [hlines]
      refine EndsFull.append_of_ne_nil (fun hlast => ?_) hne l.lines
      exact (hfull "" (List.mem_of_getLast? hlast)).1 rfl
    rw [blank_of_not_opened (hopened.trans hopens), standing_lines,
      hends.toppedUp_eq (by simp [hlines, hne]), if_neg Bool.false_ne_true]

/-- The lines once the first `p` steps are taken. -/
def linesAfter (l : Layout) (steps : List Step) (p : Nat) : List String :=
  (l.writeAll (steps.take p)).lines

/-- The step at place `p` writes the line at place `i`: the line stands there once that step is
taken, and not before. -/
def Writes (l : Layout) (steps : List Step) (p i : Nat) : Prop :=
  (l.linesAfter steps p).length ≤ i ∧ i < (l.linesAfter steps (p + 1)).length

instance (l : Layout) (steps : List Step) (p i : Nat) : Decidable (l.Writes steps p i) :=
  inferInstanceAs (Decidable (_ ∧ _))

/-- The steps behind place `p` and before place `q`. -/
def stepsBetween (steps : List Step) (p q : Nat) : List Step := (steps.take q).drop (p + 1)

theorem stepsBetween_self (steps : List Step) (p : Nat) : stepsBetween steps p p = [] := by
  rw [stepsBetween, List.drop_eq_nil_iff, List.length_take]
  omega

section

variable {l : Layout} {steps : List Step} {p q i j : Nat}

theorem writeAll_take_succ (l : Layout) {s : Step} (h : steps[p]? = some s) :
    l.writeAll (steps.take (p + 1)) = (l.writeAll (steps.take p)).write s := by
  rw [List.take_add_one, h, writeAll_append]
  rfl

theorem linesAfter_succ (l : Layout) {s : Step} (h : steps[p]? = some s) :
    l.linesAfter steps (p + 1) =
      l.linesAfter steps p ++ (l.writeAll (steps.take p)).adds s := by
  rw [linesAfter, writeAll_take_succ l h, lines_write]
  rfl

/-- Steps only add lines. -/
theorem linesAfter_prefix (l : Layout) (steps : List Step) (h : p ≤ q) :
    l.linesAfter steps p <+: l.linesAfter steps q := by
  obtain ⟨rest, hrest⟩ := List.take_prefix_take_left (l := steps) h
  rw [linesAfter, linesAfter, ← hrest, writeAll_append, lines_writeAll _ rest]
  exact List.prefix_append _ _

theorem length_linesAfter_le (l : Layout) (steps : List Step) (h : p ≤ q) :
    (l.linesAfter steps p).length ≤ (l.linesAfter steps q).length :=
  (l.linesAfter_prefix steps h).length_le

theorem linesAfter_prefix_lines (l : Layout) (steps : List Step) (p : Nat) :
    l.linesAfter steps p <+: (l.writeAll steps).lines := by
  have hall : l.linesAfter steps (max p steps.length) = (l.writeAll steps).lines := by
    rw [linesAfter, List.take_of_length_le (le_max_right _ _)]
  rw [← hall]
  exact l.linesAfter_prefix steps (le_max_left _ _)

/-- Lines that stand further down are written by later steps. -/
theorem Writes.le (hp : l.Writes steps p i) (hq : l.Writes steps q j) (hij : i ≤ j) :
    p ≤ q := by
  by_contra hlater
  have hlength := l.length_linesAfter_le steps (show q + 1 ≤ p by omega)
  have hbefore := hp.1
  have hafter := hq.2
  omega

/-- Each line that is added is written by one of the steps. -/
theorem existsUnique_writes (hi : l.lines.length ≤ i)
    (hadded : i < (l.writeAll steps).lines.length) : ∃! p, l.Writes steps p i := by
  have hexists : ∀ n, i < (l.linesAfter steps n).length → ∃ p, l.Writes steps p i := by
    intro n
    induction n with
    | zero =>
      intro hn
      exact absurd hn (not_lt.mpr hi)
    | succ n ih =>
      intro hn
      by_cases hbefore : i < (l.linesAfter steps n).length
      · exact ih hbefore
      · exact ⟨n, not_lt.mp hbefore, hn⟩
  obtain ⟨p, hp⟩ := hexists steps.length (by rwa [linesAfter, List.take_length])
  exact ⟨p, hp, fun q hq => le_antisymm (hq.le hp le_rfl) (hp.le hq le_rfl)⟩

theorem exists_writes (hfresh : l.lines = []) {line : String}
    (hline : (l.writeAll steps).lines[i]? = some line) : ∃ p, l.Writes steps p i := by
  obtain ⟨hbound, -⟩ := List.getElem?_eq_some_iff.mp hline
  exact (existsUnique_writes (by simp [hfresh]) hbound).exists

/-- The line is among those that the step adds where it is taken. -/
theorem Writes.exists_line (h : l.Writes steps p i) :
    ∃ s line, steps[p]? = some s ∧ (l.writeAll steps).lines[i]? = some line ∧
      line ∈ (l.writeAll (steps.take p)).adds s := by
  obtain ⟨hbefore, hafter⟩ := h
  cases hs : steps[p]? with
  | none =>
    have hsame : steps.take (p + 1) = steps.take p := by
      rw [List.take_add_one, hs, Option.toList_none, List.append_nil]
    rw [linesAfter, hsame] at hafter
    exact absurd hafter (not_lt.mpr hbefore)
  | some s =>
    have hline := List.prefix_iff_getElem?.mp (l.linesAfter_prefix_lines steps (p + 1)) i hafter
    rw [← List.getElem?_eq_getElem hafter, linesAfter_succ l hs,
      List.getElem?_append_right hbefore] at hline
    have hbound : i - (l.linesAfter steps p).length <
        ((l.writeAll (steps.take p)).adds s).length := by
      rw [linesAfter_succ l hs, List.length_append] at hafter
      omega
    exact ⟨s, _, rfl, hline.trans (List.getElem?_eq_getElem hbound), List.getElem_mem hbound⟩

variable (hsteps : ∀ s ∈ steps, s.Proper)
include hsteps

/-- The empty lines are those that blank steps write. -/
theorem Writes.isBlank_iff (h : l.Writes steps p i) :
    (l.writeAll steps).lines[i]? = some "" ↔ steps[p]?.any Step.isBlank = true := by
  obtain ⟨s, line, hs, hline, hmem⟩ := h.exists_line
  rw [hline, hs, Option.any_some, Option.some_inj]
  cases hblank : s.isBlank with
  | true => exact iff_of_true (eq_empty_of_mem_adds hblank hmem) rfl
  | false =>
    have hproper : s.Proper := hsteps s (List.mem_of_getElem? hs)
    rw [adds_of_not_isBlank _ hblank] at hmem
    exact iff_of_false ((hproper.full_added hblank _ _).2 line hmem).1 Bool.false_ne_true

/-- A step that is not blank writes a line at once. -/
theorem writes_of_not_isBlank (l : Layout) {s : Step} (hs : steps[p]? = some s)
    (hblank : s.isBlank = false) : l.Writes steps p (l.linesAfter steps p).length := by
  have hproper : s.Proper := hsteps s (List.mem_of_getElem? hs)
  have hpos := List.length_pos_iff.mpr (hproper.full_added hblank
    (l.writeAll (steps.take p)).style (l.writeAll (steps.take p)).depth).1
  refine ⟨le_rfl, ?_⟩
  rw [linesAfter_succ l hs, List.length_append, adds_of_not_isBlank _ hblank]
  omega

/-- Where nothing but empty lines are added until place `q`, the steps before it are blank. -/
theorem Writes.isBlank_between (h : l.Writes steps p i)
    (hempty : ∀ k, i < k → k < (l.linesAfter steps q).length →
      (l.writeAll steps).lines[k]? = some "") :
    ∀ s ∈ stepsBetween steps p q, s.isBlank = true := by
  intro s hs
  obtain ⟨n, hn⟩ := List.mem_iff_getElem?.mp hs
  rw [stepsBetween, List.getElem?_drop, List.getElem?_take] at hn
  split at hn
  · next hbefore =>
    by_contra hblank
    have hwrites := writes_of_not_isBlank hsteps l hn (Bool.eq_false_iff.mpr hblank)
    have hstart := l.length_linesAfter_le steps (Nat.le_add_right (p + 1) n)
    have hend := l.length_linesAfter_le steps (Nat.succ_le_of_lt hbefore)
    have hline := hempty _ (lt_of_lt_of_le h.2 hstart) (lt_of_lt_of_le hwrites.2 hend)
    rw [hwrites.isBlank_iff hsteps, hn] at hline
    exact hblank hline
  · cases hn

/-- What blank steps add behind a step that is not blank. -/
theorem linesAfter_of_isBlank_between {s : Step} (hs : steps[p]? = some s)
    (hblank : s.isBlank = false) (hpq : p < q)
    (hbetween : ∀ s ∈ stepsBetween steps p q, s.isBlank = true) :
    l.linesAfter steps q = l.linesAfter steps (p + 1) ++
      List.replicate (if s.opens then 0 else (largestAsked (stepsBetween steps p q)).toNat) "" := by
  have hproper : s.Proper := hsteps s (List.mem_of_getElem? hs)
  have htake : steps.take q = steps.take (p + 1) ++ stepsBetween steps p q := by
    have hcut := List.take_append_drop (p + 1) (steps.take q)
    rwa [List.take_take, Nat.min_eq_left (by omega), eq_comm] at hcut
  rw [linesAfter, htake, writeAll_append, linesAfter, writeAll_take_succ l hs,
    lines_blanks_below hproper hblank _ hbetween]

/-- Of the lines that one step writes, all are empty or none is. -/
theorem Writes.eq_empty_iff (hi : l.Writes steps p i) (hj : l.Writes steps p j) :
    (l.writeAll steps).lines[i]? = some "" ↔ (l.writeAll steps).lines[j]? = some "" :=
  (hi.isBlank_iff hsteps).trans (hj.isBlank_iff hsteps).symm

theorem feed_not_mem_lines (hfresh : l.lines = []) :
    ∀ line ∈ (l.writeAll steps).lines, '\n' ∉ line.toList := by
  intro line hline
  obtain ⟨i, hi⟩ := List.mem_iff_getElem?.mp hline
  obtain ⟨p, hp⟩ := exists_writes hfresh hi
  obtain ⟨s, written, hs, hwritten, hmem⟩ := hp.exists_line
  obtain rfl : line = written := Option.some.inj (hi.symm.trans hwritten)
  cases hblank : s.isBlank with
  | true => simp [eq_empty_of_mem_adds hblank hmem]
  | false =>
    rw [adds_of_not_isBlank _ hblank] at hmem
    exact (((hsteps s (List.mem_of_getElem? hs)).full_added hblank _ _).2 line hmem).2

theorem exists_line_ne_empty (l : Layout) {s : Step} (hs : s ∈ steps)
    (hblank : s.isBlank = false) : ∃ line ∈ (l.writeAll steps).lines, line ≠ "" := by
  obtain ⟨p, hp⟩ := List.mem_iff_getElem?.mp hs
  have hwrites := writes_of_not_isBlank hsteps l hp hblank
  obtain ⟨-, line, -, hline, -⟩ := hwrites.exists_line
  refine ⟨line, List.mem_of_getElem? hline, ?_⟩
  rintro rfl
  rw [hwrites.isBlank_iff hsteps, hp, Option.any_some, hblank] at hline
  cases hline

/-- The first line is not empty. -/
theorem getElem?_zero_ne_empty (hfresh : l.lines = []) :
    (l.writeAll steps).lines[0]? ≠ some "" := by
  intro hline
  obtain ⟨p, hp⟩ := exists_writes hfresh hline
  obtain ⟨s, line, hs, -, hmem⟩ := hp.exists_line
  rw [hp.isBlank_iff hsteps, hs, Option.any_some] at hline
  -- No line stands there yet, so a blank step adds none.
  have hnone : (l.writeAll (steps.take p)).isEmpty = true :=
    isEmpty_iff.mpr (List.length_eq_zero_iff.mp (Nat.le_zero.mp hp.1))
  cases s with
  | blank count =>
    rw [adds, hnone, Bool.true_or, if_pos rfl] at hmem
    cases hmem
  | _ => cases hline

/-- No empty line stands directly below a line that opens a block. -/
theorem getElem?_succ_ne_empty (hfresh : l.lines = []) (hp : l.Writes steps p i)
    (hopens : steps[p]?.any Step.opens = true) : (l.writeAll steps).lines[i + 1]? ≠ some "" := by
  intro hline
  obtain ⟨q, hq⟩ := exists_writes hfresh hline
  obtain ⟨s, -, hs, -, -⟩ := hp.exists_line
  rw [hs, Option.any_some] at hopens
  have hblank : s.isBlank = false := by
    cases s with
    | openBlock | reopenBlock => rfl
    | _ => cases hopens
  have hpq : p < q := by
    refine lt_of_le_of_ne (hp.le hq (Nat.le_succ i)) ?_
    rintro rfl
    rw [hq.isBlank_iff hsteps, hs, Option.any_some, hblank] at hline
    cases hline
  -- All that is added below is empty, up to the lines of the step that adds the one in question.
  have hbetween : ∀ s ∈ stepsBetween steps p (q + 1), s.isBlank = true := by
    refine hp.isBlank_between hsteps fun k hik hk => ?_
    exact (hq.eq_empty_iff hsteps ⟨hq.1.trans hik, hk⟩).mp hline
  have hsame := linesAfter_of_isBlank_between hsteps (l := l) hs hblank (by omega) hbetween
  have hlength := l.length_linesAfter_le steps (show p + 1 ≤ q from hpq)
  have hwritten := hq.2
  have hstart := hq.1
  rw [hopens, if_pos rfl, List.replicate_zero, List.append_nil] at hsame
  rw [hsame] at hwritten
  omega

/-- Between two lines that are not empty there are as many empty ones as are asked for. -/
theorem gap_eq_largestAsked (hp : l.Writes steps p i) (hq : l.Writes steps q j) (hij : i < j)
    (hi : (l.writeAll steps).lines[i]? ≠ some "") (hj : (l.writeAll steps).lines[j]? ≠ some "")
    (hempty : ∀ k, i < k → k < j → (l.writeAll steps).lines[k]? = some "")
    (hopens : steps[p]?.any Step.opens = false) :
    (j : Int) - i - 1 = largestAsked (stepsBetween steps p q) := by
  have hpq : p ≤ q := hp.le hq (Nat.le_of_lt hij)
  have hlast : ¬(l.Writes steps p (i + 1) ∧ i + 1 < j) := fun ⟨hnext, hbefore⟩ =>
    hi ((hp.eq_empty_iff hsteps hnext).mpr (hempty _ (Nat.lt_succ_self i) hbefore))
  rcases Nat.lt_or_eq_of_le hpq with hlt | rfl
  · have hfirst : ¬(l.Writes steps q (j - 1) ∧ i < j - 1) := fun ⟨hprevious, hbehind⟩ =>
      hj ((hq.eq_empty_iff hsteps hprevious).mpr (hempty _ hbehind (by omega)))
    obtain ⟨s, -, hs, -, -⟩ := hp.exists_line
    have hblank : s.isBlank = false := by
      rw [Ne, hp.isBlank_iff hsteps, hs, Option.any_some] at hi
      exact Bool.eq_false_iff.mpr hi
    rw [hs, Option.any_some] at hopens
    have hbetween : ∀ s ∈ stepsBetween steps p q, s.isBlank = true :=
      hp.isBlank_between hsteps fun k hik hk => hempty k hik (Nat.lt_of_lt_of_le hk hq.1)
    have hadded := congrArg List.length
      (linesAfter_of_isBlank_between hsteps (l := l) hs hblank hlt hbetween)
    rw [hopens, if_neg Bool.false_ne_true, List.length_append, List.length_replicate] at hadded
    have hnonneg := largestAsked_nonneg (stepsBetween steps p q)
    rw [Writes] at hp hq hlast hfirst
    omega
  · -- One step writes both lines, so they stand one directly below the other.
    have hnext : j = i + 1 := by
      rw [Writes] at hp hq hlast
      omega
    rw [hnext, stepsBetween_self, largestAsked, List.map_nil, List.foldr_nil]
    omega

end

/-- How the lines of a run are spaced. Places are counted from zero, among the steps and among the
lines. -/
structure Spaced (l : Layout) (steps : List Step) (out : Layout) : Prop where
  /-- Each line is written by one of the steps. -/
  written : ∀ i < out.lines.length, ∃! p, l.Writes steps p i
  /-- The first line is not empty. -/
  top : out.lines[0]? ≠ some ""
  /-- No empty line stands directly below one that opens a block. -/
  opened : ∀ p i, l.Writes steps p i → steps[p]?.any Step.opens = true →
    out.lines[i + 1]? ≠ some ""
  /-- Where only empty lines stand between two that are not empty, and the first of these opens no
  block, their number is the largest count that is asked for between the steps that write the
  two. -/
  between : ∀ p q i j, l.Writes steps p i → l.Writes steps q j → i < j →
    out.lines[i]? ≠ some "" → out.lines[j]? ≠ some "" →
    (∀ k, i < k → k < j → out.lines[k]? = some "") →
    steps[p]?.any Step.opens = false →
    (j : Int) - i - 1 = largestAsked (stepsBetween steps p q)
  /-- Blank steps alone write nothing. -/
  silent : (∀ s ∈ steps, s.isBlank = true) → out.lines = [] ∧ out.text = ""
  /-- Otherwise the text holds the lines up to the last one that is not empty, each ended by a line
  feed and none of them holding another. -/
  closed : (∃ s ∈ steps, s.isBlank = false) → ∃ kept last n,
    out.lines = kept ++ [last] ++ List.replicate n "" ∧ last ≠ "" ∧
    (∀ line ∈ out.lines, '\n' ∉ line.toList) ∧
    out.text = "\n".intercalate (kept ++ [last]) ++ "\n"

/-- Asking for blank lines twice is asking once for the larger count, in every layout. Proper steps
that are taken from the start never fail, and their lines are spaced as the blank steps among them
ask. -/
theorem lines_spaced :
    (∀ (l : Layout) (a b : Int), (l.blank a).blank b = l.blank (max a b)) ∧
    ∀ (style : Style) (steps : List Step), (∀ s ∈ steps, s.Proper) →
      ∃ out, Layout.run { style } steps = .ok out ∧ Spaced { style } steps out := by
  refine ⟨blank_blank, fun style steps hsteps => ?_⟩
  have hfits : ∀ s ∈ steps, s.fits style = true := fun s hs => (hsteps s hs).fits style
  have hfresh : ({ style } : Layout).lines = [] := rfl
  refine ⟨_, run_eq_ok_iff.mpr ⟨hfits, rfl⟩, ?_⟩
  exact {
    written := fun i hi => existsUnique_writes (Nat.zero_le i) hi
    top := getElem?_zero_ne_empty hsteps hfresh
    opened := fun p i hp hopens => getElem?_succ_ne_empty hsteps hfresh hp hopens
    between := fun p q i j => gap_eq_largestAsked hsteps
    silent := fun hblank => by
      rw [writeAll_blanks hblank]
      exact ⟨rfl, rfl⟩
    closed := fun ⟨s, hs, hblank⟩ => by
      obtain ⟨kept, last, n, hlines, hlast⟩ :=
        exists_last_full (exists_line_ne_empty hsteps { style } hs hblank)
      have hfeed := feed_not_mem_lines hsteps hfresh
      have hmem : last ∈ (Layout.writeAll { style } steps).lines := by
        simp [hlines]
      exact ⟨kept, last, n, hlines, hlast, hfeed, text_eq_of_lines hlines hlast (hfeed last hmem)⟩ }

end Layout

/-- A class with two members, with blank lines asked for at every place. -/
def memberSteps : List Step :=
  [.blank 3, .openBlock "class A" r"{", .blank 2, .label "public:", .blank 1, .blank 2,
    .line "int x;\nint y;", .blank (-1), .closeBlock r"};", .blank 4]

/-- There are no blank lines at the top and below the brace, and below the label as many as the
larger of two counts says. Those at the end do not show in the text. -/
theorem Layout.lines_spaced_members :
    (∀ s ∈ memberSteps, s.Proper) ∧
    ∃ out, Layout.run { style := {} } memberSteps = .ok out ∧
      Spaced { style := {} } memberSteps out ∧
      out.lines = [r"class A {", "public:", "", "", "    int x;", "    int y;", r"};",
        "", "", "", ""] ∧
      out.text = "\n".intercalate
        [r"class A {", "public:", "", "", "    int x;", "    int y;", r"};", ""] ∧
      (4 : Int) - 1 - 1 = largestAsked (stepsBetween memberSteps 3 6) := by
  have hproper : ∀ s ∈ memberSteps, s.Proper := by decide +kernel
  obtain ⟨out, hout, hspaced⟩ := lines_spaced.2 {} memberSteps hproper
  have hshown : (Layout.run { style := {} } memberSteps).toOption.map Layout.lines =
      some [r"class A {", "public:", "", "", "    int x;", "    int y;", r"};",
        "", "", "", ""] := by decide +kernel
  rw [hout] at hshown
  have hlines := Option.some.inj hshown
  have htext : (Layout.run { style := {} } memberSteps).toOption.map Layout.text =
      some ("\n".intercalate [r"class A {", "public:", "", "", "    int x;", "    int y;", r"};",
        ""]) := by decide +kernel
  rw [hout] at htext
  have hempty : ∀ k, 1 < k → k < 4 → out.lines[k]? = some "" := by
    intro k hlow hhigh
    obtain rfl | rfl : k = 2 ∨ k = 3 := by omega
    · rw [hlines]
      rfl
    · rw [hlines]
      rfl
  refine ⟨hproper, out, hout, hspaced, hlines, Option.some.inj htext, ?_⟩
  exact hspaced.between 3 6 1 4 (by decide +kernel) (by decide +kernel) (by decide)
    (by simp [hlines]) (by simp [hlines]) hempty rfl

end CWriter

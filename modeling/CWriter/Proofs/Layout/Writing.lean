import CWriter.Layout
import Mathlib.Data.List.Basic

/-!
# Steps one by one

With room for comment text no step can fail, so a run of steps is a fold of a total function.
What one step does is said once here: it adds lines that depend on the style and the depth
alone, it moves the depth by a fixed number of levels, and only blank lines look at what stands
there already.
-/
namespace CWriter

/-- How far a step moves the depth. -/
def Step.levels : Step → Int
  | .openBlock .. | .indent => 1
  | .closeBlock .. | .outdent => -1
  | _ => 0

def Step.isBlank : Step → Bool
  | .blank _ => true
  | _ => false

/-- Whether a step leaves a block just opened behind it. -/
def Step.opens : Step → Bool
  | .openBlock .. | .reopenBlock _ => true
  | _ => false

/-- Steps without the numbers that are put into digits for them. -/
def unnumbered (steps : List Step) : List Step :=
  steps.filter fun
    | .spell _ => false
    | _ => true

theorem unnumbered_append (first second : List Step) :
    unnumbered (first ++ second) = unnumbered first ++ unnumbered second :=
  List.filter_append first second

theorem unnumbered_flatMap {α : Type} (f : α → List Step) (xs : List α) :
    unnumbered (xs.flatMap f) = xs.flatMap fun x => unnumbered (f x) := by
  induction xs with
  | nil => rfl
  | cons x xs ih => rw [List.flatMap_cons, unnumbered_append, ih, List.flatMap_cons]

theorem Style.Valid.docWidth_pos {style : Style} (h : style.Valid) : 0 < style.docWidth := by
  have hleast := h.docWidth
  simp only [Style.leastDocWidth] at hleast
  omega

/-- The lines of a text at a depth. -/
def Style.placed (style : Style) (depth : Int) (text : String) : List String :=
  (Text.splitWhere (· == '\n') text.toList).map fun part =>
    if part.isEmpty then "" else style.indentation depth ++ String.ofList part

/-- A text without a character to split at is one piece. -/
theorem splitWhere_eq_singleton {p : Char → Bool} {cs : List Char} (h : ∀ c ∈ cs, p c = false) :
    Text.splitWhere p cs = [cs] := by
  induction cs with
  | nil => rfl
  | cons c cs ih =>
    rw [List.forall_mem_cons] at h
    rw [Text.splitWhere, ih h.2, h.1]
    rfl

/-- A text without a line feed is one part. -/
theorem splitWhere_feed {text : String} (h : '\n' ∉ text.toList) :
    Text.splitWhere (· == '\n') text.toList = [text.toList] := by
  refine splitWhere_eq_singleton fun c hc => ?_
  have hfeed : c ≠ '\n' := by
    rintro rfl
    exact h hc
  simpa using hfeed

theorem Style.placed_eq_singleton (style : Style) (depth : Int) {text : String}
    (hne : text ≠ "") (hfeed : '\n' ∉ text.toList) :
    style.placed depth text = [style.indentation depth ++ text] := by
  rw [placed, splitWhere_feed hfeed]
  simp [hne]

theorem Style.toList_indentation (style : Style) (depth : Int) :
    (style.indentation depth).toList =
      List.replicate (style.indentWidth.toNat * depth.toNat) ' ' := by
  rw [indentation, spaces, String.toList_ofList, Int.toNat_natCast]

/-- The lines of a comment; none where it cannot be laid out. -/
def commentTexts (style : Style) (marker text : String) : List String :=
  (commentBlock style marker text).toOption.getD []

/-- A rule of slashes at a depth. -/
def ruleText (style : Style) (depth : Int) : String :=
  String.ofList (List.replicate (Layout.ruleLength style depth).toNat '/')

/-- The lines that a step adds at a depth. How many blank lines are added is not decided by the
depth, so these are left out. -/
def Step.added (style : Style) (depth : Int) : Step → List String
  | .line text => style.placed depth text
  | .label text => [style.indentation (depth - 1) ++ text]
  | .openBlock header token => style.placed depth (Layout.opening header token)
  | .reopenBlock header => style.placed (depth - 1) (r"} " ++ header ++ r" {")
  | .closeBlock token => style.placed (depth - 1) token
  | .rule => style.placed depth (ruleText style depth)
  | .comment marker text => (commentTexts style marker text).flatMap (style.placed depth)
  | .blank _ | .indent | .outdent | .spell _ => []

namespace Layout

/-- Takes one step. A comment that has no room is left out. -/
def write (l : Layout) : Step → Layout
  | .line text => l.line text
  | .label text => l.label text
  | .blank count => l.blank count
  | .openBlock header token => l.openBlock header token
  | .reopenBlock header => l.reopenBlock header
  | .closeBlock token => l.closeBlock token
  | .indent => l.move 1
  | .outdent => l.move (-1)
  | .rule => l.rule
  | .comment marker text => (commentTexts l.style marker text).foldl line l
  | .spell _ => l

def writeAll (l : Layout) (steps : List Step) : Layout := steps.foldl write l

theorem writeAll_nil (l : Layout) : l.writeAll [] = l := rfl

theorem writeAll_cons (l : Layout) (s : Step) (steps : List Step) :
    l.writeAll (s :: steps) = (l.write s).writeAll steps := rfl

theorem writeAll_append (l : Layout) (first second : List Step) :
    l.writeAll (first ++ second) = (l.writeAll first).writeAll second :=
  List.foldl_append

theorem wrapLine_eq_some {width : Int} (h : 0 < width) (line : List Char) :
    ∃ ls, Text.wrapLine width line = some ls := by
  unfold Text.wrapLine
  by_cases hl : line.isEmpty = true
  · exact ⟨[[]], if_pos hl⟩
  · exact ⟨_, by rw [if_neg hl, if_neg (by omega)]⟩

theorem commentLines_eq_some {width : Int} (h : 0 < width) (cs : List Char) :
    ∃ ls, Text.commentLines width cs = some ls := by
  have hall : ∀ lines : List (List Char), ∃ groups,
      lines.mapM (fun line => Text.wrapLine width (Text.normalizeLine line)) = some groups := by
    intro lines
    induction lines with
    | nil => exact ⟨[], rfl⟩
    | cons line lines ih =>
      obtain ⟨groups, hgroups⟩ := ih
      obtain ⟨ls, hls⟩ := wrapLine_eq_some h (Text.normalizeLine line)
      exact ⟨ls :: groups, by simp [List.mapM_cons, hls, hgroups]⟩
  obtain ⟨groups, hgroups⟩ := hall (Text.sourceLines cs)
  exact ⟨_, by rw [Text.commentLines, hgroups]; rfl⟩

theorem commentBlock_eq_ok {style : Style} (h : 0 < style.docWidth) (marker text : String) :
    commentBlock style marker text = .ok (commentTexts style marker text) := by
  obtain ⟨ls, hls⟩ := commentLines_eq_some h text.toList
  simp [commentTexts, commentBlock, hls, Except.toOption]

theorem step_eq_ok {l : Layout} (h : 0 < l.style.docWidth) (s : Step) :
    l.step s = .ok (l.write s) := by
  cases s with
  | comment marker text =>
    rw [step, commentBlock_eq_ok h]
    rfl
  | _ => rfl

theorem line_eq (l : Layout) (text : String) :
    l.line text = { l with
      newest := (l.style.placed l.depth text).reverse ++ l.newest
      opened := false } := rfl

theorem foldl_line (ls : List String) (l : Layout) :
    (ls.foldl line l).newest = (ls.flatMap (l.style.placed l.depth)).reverse ++ l.newest ∧
      (ls.foldl line l).style = l.style ∧ (ls.foldl line l).depth = l.depth ∧
      ((ls.foldl line l).opened = true → l.opened = true) := by
  induction ls generalizing l with
  | nil => exact ⟨rfl, rfl, rfl, id⟩
  | cons text ls ih =>
    obtain ⟨hn, hs, hd, ho⟩ := ih (l.line text)
    refine ⟨?_, hs, hd, fun h => ?_⟩
    · rw [List.foldl_cons, hn, line_eq]
      simp
    · exact absurd (ho h) (by simp [line_eq])

theorem style_write (l : Layout) (s : Step) : (l.write s).style = l.style := by
  cases s with
  | comment marker text => exact (foldl_line _ l).2.1
  | blank count =>
    rw [write, blank]
    split <;> rfl
  | _ => rfl

theorem depth_write (l : Layout) (s : Step) : (l.write s).depth = l.depth + s.levels := by
  cases s with
  | comment marker text => exact (foldl_line _ l).2.2.1.trans (Int.add_zero _).symm
  | blank count =>
    rw [write, blank]
    split <;> simp [Step.levels]
  | reopenBlock header =>
    change l.depth + -1 + 1 = l.depth + 0
    omega
  | _ => simp [write, Step.levels, line_eq, label, append, openBlock, closeBlock, move, rule]

theorem newest_write (l : Layout) {s : Step} (h : s.isBlank = false) :
    (l.write s).newest = (s.added l.style l.depth).reverse ++ l.newest := by
  cases s with
  | blank count => cases h
  | comment marker text => exact (foldl_line _ l).1
  | _ => rfl

theorem opened_write (l : Layout) (s : Step) (h : (l.write s).opened = true) :
    s.opens = true ∨ l.opened = true := by
  cases s with
  | openBlock | reopenBlock => exact Or.inl rfl
  | comment marker text => exact Or.inr ((foldl_line _ l).2.2.2 h)
  | blank count =>
    rw [write, blank] at h
    split at h <;> exact Or.inr h
  | indent | outdent | spell => exact Or.inr h
  | line | label | closeBlock | rule => exact absurd h Bool.false_ne_true

theorem style_writeAll (l : Layout) (steps : List Step) :
    (l.writeAll steps).style = l.style := by
  induction steps generalizing l with
  | nil => rfl
  | cons s steps ih => rw [writeAll_cons, ih, style_write]

/-- Numbers leave a layout as it is, so what steps write does not depend on them. -/
theorem writeAll_unnumbered (l : Layout) (steps : List Step) :
    l.writeAll (unnumbered steps) = l.writeAll steps := by
  induction steps generalizing l with
  | nil => rfl
  | cons s steps ih =>
    cases s with
    | spell => exact ih l
    | _ => exact ih _

/-- Numbers are put into digits without fault where nothing is printed. -/
theorem run_spell (l : Layout) (numbers : List Int) (steps : List Step) :
    l.run (.spell numbers :: steps) = l.run steps := rfl

/-- With room for comments a run is the fold of what its steps write. -/
theorem run_eq_ok {l : Layout} (h : 0 < l.style.docWidth) (steps : List Step) :
    l.run steps = .ok (l.writeAll steps) := by
  induction steps generalizing l with
  | nil => rfl
  | cons s steps ih =>
    rw [run, List.foldlM_cons, step_eq_ok h]
    exact ih (by rwa [style_write])

end Layout

end CWriter

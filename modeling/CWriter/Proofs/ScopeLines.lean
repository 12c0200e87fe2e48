import CWriter.Proofs.Anchored
import CWriter.Proofs.Matched

/-!
# The lines of a scope

A scope is laid out as if every item had been written on its own and the lines had been joined
afterwards, topped up with blank lines where two items do not stand together. The reference
below never passes a layout from one item to the next. It covers the lines before the blank ones
at the end are trimmed, and it says nothing about how one item is laid out.
-/
namespace CWriter

/-- The lines of steps that are laid out on their own; none where they cannot be. -/
def ownLines (style : Style) (steps : List Step) : List String :=
  match Layout.run { style := style } steps with
  | .ok l => l.lines
  | .error _ => []

/-- The number of empty lines at the end. -/
def trailingBlanks (ls : List String) : Nat := (ls.reverse.takeWhile (·.isEmpty)).length

/-- Pads with empty lines up to a count. Where there is no line at all, none is added. -/
def toppedUp (count : Int) (ls : List String) : List String :=
  if ls.isEmpty then ls else ls ++ List.replicate (count - trailingBlanks ls).toNat ""

/-- Two inclusions or two macro definitions stand together. -/
def ScopeItem.joins : ScopeItem → ScopeItem → Bool
  | .inclusion _, .inclusion _ | .definition _, .definition _ => true
  | _, _ => false

/-- Adds one item, given the one before it and the lines so far. -/
def joinItem (style : Style) (sofar : Option ScopeItem × List String) (item : ScopeItem) :
    Option ScopeItem × List String :=
  let start :=
    if sofar.1.all (·.joins item) then sofar.2 else toppedUp style.blankLines sofar.2
  (some item, start ++ ownLines style (item.steps style))

/-- The lines once a header comment has been added. -/
def joinHeader (style : Style) (start : List String) : Option Doc → List String
  | none => start
  | some d => toppedUp style.blankLines (start ++ ownLines style d.steps)

/-- The lines once a scope has been added. -/
def Scope.joined (style : Style) (start : List String) (s : Scope) : List String :=
  (s.items.foldl (joinItem style) (none, joinHeader style start s.doc)).2

/-- The lines that open a conditional part. -/
def IfDef.headLines (i : IfDef) : List String :=
  if i.guard then ["#ifndef " ++ i.symbol.text, "#define " ++ i.symbol.text ++ " 1"]
  else ["#ifdef " ++ i.symbol.text]

/-- The lines of a conditional part. Each branch goes on from the line that opens it. -/
def IfDef.joined (style : Style) (i : IfDef) : List String :=
  let thenLines := i.thenScope.joined style (toppedUp 1 i.headLines)
  let branches := match i.elseScope with
    | none => thenLines
    | some s =>
      s.joined style (toppedUp 1 (toppedUp 1 thenLines ++ ["#else // !" ++ i.symbol.text]))
  toppedUp 1 branches ++ ["#endif // " ++ i.symbol.text]

theorem ScopeItem.separated_eq_not_joins (previous item : ScopeItem) :
    previous.separated item = !previous.joins item := by
  cases previous <;> cases item <;> rfl

theorem toppedUp_of_ne_nil (count : Int) {ls : List String} (h : ls ≠ []) :
    toppedUp count ls = ls ++ List.replicate (count - trailingBlanks ls).toNat "" := by
  rw [toppedUp, if_neg (by simpa using h)]

/-- Padding makes the empty lines at the end as many as asked for, and never fewer. -/
theorem trailingBlanks_toppedUp (count : Int) {ls : List String} (h : ls ≠ []) :
    trailingBlanks (toppedUp count ls) = max count (trailingBlanks ls) := by
  have hpad : ∀ n, trailingBlanks (ls ++ List.replicate n "") = n + trailingBlanks ls := by
    intro n
    rw [trailingBlanks, List.reverse_append, List.reverse_replicate,
      List.takeWhile_append_of_pos (by simp), List.length_append, List.length_replicate,
      trailingBlanks]
  rw [toppedUp_of_ne_nil count h, hpad]
  omega

/-- Padding twice is padding once to the larger count. -/
theorem toppedUp_toppedUp (a b : Int) (ls : List String) :
    toppedUp b (toppedUp a ls) = toppedUp (max a b) ls := by
  by_cases h : ls = []
  · rw [h]
    rfl
  · have hpadded : toppedUp a ls ≠ [] := by
      simp [toppedUp_of_ne_nil a h, h]
    have hsum : (a - trailingBlanks ls).toNat + (b - trailingBlanks (toppedUp a ls)).toNat =
        (max a b - trailingBlanks ls).toNat := by
      have htrailing := trailingBlanks_toppedUp a h
      omega
    rw [toppedUp_of_ne_nil b hpadded, toppedUp_of_ne_nil (max a b) h, ← hsum,
      toppedUp_of_ne_nil a h, List.append_assoc, List.replicate_append_replicate]

/-- The last line, where there is one, is not empty. -/
def EndsFull (ls : List String) : Prop := ls.getLast? ≠ some ""

theorem EndsFull.append {first second : List String} (hf : EndsFull first)
    (hs : EndsFull second) : EndsFull (first ++ second) := by
  rw [EndsFull, List.getLast?_append]
  cases hlast : second.getLast? with
  | none => exact hf
  | some line =>
    rw [EndsFull, hlast] at hs
    exact hs

theorem EndsFull.append_of_ne_nil {second : List String} (hs : EndsFull second)
    (hne : second ≠ []) (first : List String) : EndsFull (first ++ second) := by
  rwa [EndsFull, List.getLast?_append_of_ne_nil _ hne]

theorem endsFull_singleton {line : String} (h : line ≠ "") : EndsFull [line] := by
  simpa [EndsFull] using h

theorem EndsFull.flatMap {α : Type} {f : α → List String} (h : ∀ x, EndsFull (f x))
    (xs : List α) : EndsFull (xs.flatMap f) := by
  induction xs with
  | nil => simp [EndsFull]
  | cons x xs ih => exact (h x).append ih

theorem EndsFull.trailingBlanks_eq_zero {ls : List String} (h : EndsFull ls) :
    trailingBlanks ls = 0 := by
  by_cases hne : ls = []
  · rw [hne]
    rfl
  · have hfull : (ls.getLast hne).isEmpty = false := by
      rw [EndsFull, List.getLast?_eq_some_getLast hne] at h
      simpa using h
    rw [trailingBlanks, ← List.dropLast_concat_getLast hne, List.reverse_append]
    simp [hfull]

/-- Below lines that end so, all the empty lines that are asked for are missing. -/
theorem EndsFull.toppedUp_eq {ls : List String} (h : EndsFull ls) (hne : ls ≠ [])
    (count : Int) : toppedUp count ls = ls ++ List.replicate count.toNat "" := by
  rw [toppedUp_of_ne_nil count hne, h.trailingBlanks_eq_zero, Int.natCast_zero, Int.sub_zero]

/-- The lines of steps that are laid out on their own at a depth. -/
def linesAt (style : Style) (depth : Int) (steps : List Step) : List String :=
  match Layout.run { style, depth } steps with
  | .ok l => l.lines
  | .error _ => []

namespace Layout

/-- A layout as it stands between two parts at a depth, with no block just opened. -/
def standing (style : Style) (depth : Int) (ls : List String) : Layout :=
  { style, depth, newest := ls.reverse }

/-- A layout as it stands between two items: at the outermost level, with no block just
opened. -/
def resting (style : Style) (ls : List String) : Layout := { style, newest := ls.reverse }

variable {style : Style} {depth : Int}

theorem standing_lines (ls : List String) : (standing style depth ls).lines = ls :=
  List.reverse_reverse ls

theorem resting_lines (ls : List String) : (resting style ls).lines = ls :=
  List.reverse_reverse ls

theorem write_standing_blank (count : Int) (ls : List String) :
    (standing style depth ls).write (.blank count) = standing style depth (toppedUp count ls) := by
  have hempty : (standing style depth ls).isEmpty = ls.isEmpty := by
    simp [isEmpty, standing]
  have htrailing : (standing style depth ls).trailing = trailingBlanks ls := rfl
  rw [write, blank, hempty, htrailing, toppedUp]
  cases ls.isEmpty with
  | true => rfl
  | false => simp [standing]

theorem write_resting_blank (count : Int) (ls : List String) :
    (resting style ls).write (.blank count) = resting style (toppedUp count ls) :=
  write_standing_blank count ls

theorem linesAt_eq (h : 0 < style.docWidth) (steps : List Step) :
    linesAt style depth steps = ((standing style depth []).writeAll steps).lines := by
  rw [linesAt]
  change (match (standing style depth []).run steps with | .ok l => l.lines | .error _ => []) = _
  rw [run_eq_ok h]

theorem exists_run_linesAt (h : 0 < style.docWidth) (steps : List Step) :
    ∃ own, Layout.run { style, depth } steps = .ok own ∧ own.lines = linesAt style depth steps :=
  ⟨_, run_eq_ok (l := standing style depth []) h steps, (linesAt_eq h steps).symm⟩

theorem ownLines_eq (h : 0 < style.docWidth) (steps : List Step) :
    ownLines style steps = ((resting style []).writeAll steps).lines :=
  linesAt_eq h steps

/-- Between two parts, nested and anchored steps add the lines that they have on their own, and
leave the layout between two parts again. -/
theorem writeAll_standing (h : 0 < style.docWidth) {steps : List Step}
    (hn : Nested false steps) (ha : anchored steps = true) (ls : List String) :
    (standing style depth ls).writeAll steps =
      standing style depth (ls ++ linesAt style depth steps) := by
  have hfresh : (standing style depth []).writeAll steps =
      standing style depth (linesAt style depth steps) := by
    have hstyle := style_writeAll (standing style depth []) steps
    have hdepth := depth_writeAll_of_nested hn (standing style depth [])
    have hopened := opened_writeAll_of_nested hn (l := standing style depth []) rfl
    rw [linesAt_eq h]
    generalize (standing style depth []).writeAll steps = l at hstyle hdepth hopened
    cases l
    simp_all [standing, lines]
  have hbelow : standing style depth ls = (standing style depth []).below ls.reverse := rfl
  rw [hbelow, writeAll_below (Or.inl ha), hfresh]
  simp [standing, below]

theorem writeAll_resting (h : 0 < style.docWidth) {steps : List Step}
    (hn : Nested false steps) (ha : anchored steps = true) (ls : List String) :
    (resting style ls).writeAll steps = resting style (ls ++ ownLines style steps) :=
  writeAll_standing h hn ha ls

/-- A text of one line is written at the outermost level as it is. -/
theorem write_resting_line {text : String} (hne : text ≠ "") (hfeed : '\n' ∉ text.toList)
    (ls : List String) : (resting style ls).write (.line text) = resting style (ls ++ [text]) := by
  have hplaced : style.placed 0 text = [text] := by
    rw [style.placed_eq_singleton 0 hne hfeed]
    simp [Style.indentation, Style.spaces]
  rw [write, line_eq]
  change { resting style ls with
    newest := (style.placed 0 text).reverse ++ ls.reverse, opened := false } = _
  rw [hplaced]
  simp [resting]

theorem writeAll_scopeHeader (h : 0 < style.docWidth) (doc : Option Doc) (ls : List String) :
    (resting style ls).writeAll (scopeHeader style doc) =
      resting style (joinHeader style ls doc) := by
  cases doc with
  | none => rfl
  | some d =>
    rw [scopeHeader, writeAll_append, writeAll_resting h d.nested d.anchored_steps,
      writeAll_cons, write_resting_blank]
    rfl

theorem writeAll_separator (previous : Option ScopeItem) (item : ScopeItem)
    (ls : List String) : (resting style ls).writeAll (separator style previous item) =
      resting style (if previous.all (·.joins item) then ls else toppedUp style.blankLines ls) := by
  cases previous with
  | none => rfl
  | some p =>
    rw [separator, p.separated_eq_not_joins]
    cases hj : p.joins item with
    | true => simp [hj, writeAll]
    | false =>
      simp only [hj, Bool.not_false, if_true, Option.all_some, Bool.false_eq_true, if_false]
      rw [writeAll_cons, write_resting_blank, writeAll_nil]

/-- Items are joined one after the other, whatever stands in front of them. -/
theorem writeAll_itemSteps (h : 0 < style.docWidth) (items : List ScopeItem)
    (previous : Option ScopeItem) (ls : List String) :
    (resting style ls).writeAll (itemSteps style previous items) =
      resting style (items.foldl (joinItem style) (previous, ls)).2 := by
  induction items generalizing previous ls with
  | nil => rfl
  | cons item rest ih =>
    rw [itemSteps, writeAll_append, writeAll_append, writeAll_separator,
      writeAll_resting h (item.nested style false) (item.anchored_steps style), ih]
    rfl

theorem writeAll_scope (h : 0 < style.docWidth) (s : Scope) (ls : List String) :
    (resting style ls).writeAll (s.steps style) = resting style (s.joined style ls) := by
  obtain ⟨_, _, doc, items⟩ := s
  rw [Scope.steps, writeAll_append, writeAll_scopeHeader h, writeAll_itemSteps h]
  rfl

theorem writeAll_ifDefHead (i : IfDef) :
    (resting style []).writeAll (ifDefHead i.symbol i.guard) = resting style i.headLines := by
  have hfeed := i.symbol.acceptable.2.1
  rw [ifDefHead, IfDef.headLines]
  split
  · rw [writeAll_cons, write_resting_line (by simp) (by simp [hfeed]), writeAll_cons,
      write_resting_line (by simp) (by simp [hfeed]), writeAll_nil]
    rfl
  · rw [writeAll_cons, write_resting_line (by simp) (by simp [hfeed]), writeAll_nil]
    rfl

theorem writeAll_elseScopeSteps (h : 0 < style.docWidth) (symbol : Identifier) (s : Scope)
    (ls : List String) :
    (resting style ls).writeAll (elseScopeSteps style symbol (some s)) =
      resting style
        (s.joined style (toppedUp 1 (toppedUp 1 ls ++ ["#else // !" ++ symbol.text]))) := by
  have hfeed := symbol.acceptable.2.1
  rw [elseScopeSteps, writeAll_append, writeAll_cons, write_resting_blank, writeAll_cons,
    write_resting_line (by simp) (by simp [hfeed]), writeAll_cons, write_resting_blank,
    writeAll_nil, writeAll_scope h]

theorem writeAll_ifDef (h : 0 < style.docWidth) (i : IfDef) :
    (resting style []).writeAll (i.steps style) = resting style (i.joined style) := by
  obtain ⟨id, symbol, thenScope, elseScope, guard⟩ := i
  have hfeed := symbol.acceptable.2.1
  have hhead : (resting style []).writeAll (ifDefHead symbol guard) = resting style _ :=
    writeAll_ifDefHead ⟨id, symbol, thenScope, elseScope, guard⟩
  have hend : ∀ ls : List String,
      (resting style ls).writeAll [.blank 1, .line ("#endif // " ++ symbol.text)] =
        resting style (toppedUp 1 ls ++ ["#endif // " ++ symbol.text]) := by
    intro ls
    rw [writeAll_cons, write_resting_blank, writeAll_cons,
      write_resting_line (by simp) (by simp [hfeed]), writeAll_nil]
  simp only [IfDef.steps, writeAll_append]
  rw [hhead, writeAll_cons _ (.blank 1) [], write_resting_blank, writeAll_nil, writeAll_scope h]
  cases elseScope with
  | none =>
    rw [elseScopeSteps, writeAll_nil, hend]
    rfl
  | some s =>
    rw [writeAll_elseScopeSteps h, hend]
    rfl

end Layout

/-- The lines that are not empty. -/
def written (ls : List String) : List String := ls.filter (!·.isEmpty)

theorem written_append (first second : List String) :
    written (first ++ second) = written first ++ written second :=
  List.filter_append first second

theorem written_toppedUp (count : Int) (ls : List String) :
    written (toppedUp count ls) = written ls := by
  rw [toppedUp]
  split
  · rfl
  · simp [written]

/-- Apart from blank lines, joining loses no line, repeats none and keeps their order. -/
theorem Scope.written_joined (style : Style) (start : List String) (s : Scope) :
    written (s.joined style start) = written start ++
      (s.doc.toList.flatMap fun d => written (ownLines style d.steps)) ++
      s.items.flatMap fun item => written (ownLines style (item.steps style)) := by
  have hheader : written (joinHeader style start s.doc) =
      written start ++ s.doc.toList.flatMap fun d => written (ownLines style d.steps) := by
    cases s.doc with
    | none => simp [joinHeader]
    | some d => simp [joinHeader, written_toppedUp, written_append]
  have hitems : ∀ (items : List ScopeItem) (sofar : Option ScopeItem × List String),
      written (items.foldl (joinItem style) sofar).2 =
        written sofar.2 ++
          items.flatMap fun item => written (ownLines style (item.steps style)) := by
    intro items
    induction items with
    | nil => simp
    | cons item rest ih =>
      intro sofar
      rw [List.foldl_cons, ih, joinItem, written_append, List.flatMap_cons, List.append_assoc]
      split
      · rfl
      · rw [written_toppedUp]
  rw [Scope.joined, hitems, hheader]

/-- Where a style is accepted, every scope and every conditional part is written, and the lines
are those of the reference: items are laid out on their own and joined in their order. -/
theorem Scope.lines_eq_joined {style : Style} (h : style.Valid) :
    (∀ steps : List Step, ∃ own, Layout.run { style := style } steps = .ok own ∧
      own.lines = ownLines style steps) ∧
    (∀ s : Scope, ∃ l, Layout.run { style := style } (s.steps style) = .ok l ∧
      s.text style = .ok l.text ∧ l.lines = s.joined style [] ∧
      written l.lines = (s.doc.toList.flatMap fun d => written (ownLines style d.steps)) ++
        s.items.flatMap fun item => written (ownLines style (item.steps style))) ∧
    (∀ i : IfDef, ∃ l, Layout.run { style := style } (i.steps style) = .ok l ∧
      l.lines = i.joined style) := by
  have hwidth := h.docWidth_pos
  have hrun : ∀ steps : List Step,
      Layout.run { style := style } steps = .ok ((Layout.resting style []).writeAll steps) :=
    fun steps => Layout.run_eq_ok hwidth steps
  refine ⟨fun steps => ?_, fun s => ?_, fun i => ?_⟩
  · exact ⟨_, hrun steps, (Layout.ownLines_eq hwidth steps).symm⟩
  · have hlines : ((Layout.resting style []).writeAll (s.steps style)).lines =
        s.joined style [] := by
      rw [Layout.writeAll_scope hwidth, Layout.resting_lines]
    refine ⟨_, hrun _, ?_, hlines, ?_⟩
    · rw [Scope.text, render, hrun]
      rfl
    · rw [hlines, s.written_joined]
      rfl
  · refine ⟨_, hrun _, ?_⟩
    rw [Layout.writeAll_ifDef hwidth, Layout.resting_lines]

/-- Inclusions stand together, an item without lines does not double the blank line around it,
and the conditional part keeps its own. -/
theorem Scope.lines_eq_joined_empty_doc :
    Style.Valid {} ∧ ∃ l,
      Layout.run { style := {} } (Scope.steps {} ⟨0, none, some ⟨1, []⟩, [
        .inclusion { id := 2, path := ⟨"a.h", by decide⟩, system := true },
        .inclusion { id := 3, path := ⟨"b.h", by decide⟩ },
        .doc ⟨4, []⟩,
        .ifDef ⟨5, ⟨"X", by decide⟩,
          ⟨6, none, none, [.global { id := 7, name := ⟨"x", by decide⟩, type := .void }]⟩,
          none, false⟩]⟩) = .ok l ∧
      l.lines = ["#include <a.h>", "#include \"b.h\"", "", "#ifdef X", "", "void x;", "",
        "#endif // X"] := by
  have hvalid : Style.Valid {} := ⟨by decide, by decide, by decide, by decide⟩
  obtain ⟨l, hrun, _, hlines, _⟩ := (lines_eq_joined hvalid).2.1 _
  refine ⟨hvalid, l, hrun, hlines.trans ?_⟩
  decide +kernel

end CWriter

import CWriter.Proofs.Matched
import CWriter.Proofs.Layout.Lines
import CWriter.Proofs.Layout.Trace
import CWriter.Proofs.Notes.Inert

/-!
# Indentation mirrors the nesting of braces

Every line of a run is looked at together with the number of braces that are open before it. In
matched steps that number is the depth of the layout, so it is never negative and comes back to
where it was, and the indentation of each line can be read off it.
-/
namespace CWriter

/-- Opening braces minus closing ones. -/
def braces (line : String) : Int := line.toList.count '{' - line.toList.count '}'

/-- Braces that lines leave open. -/
def openBraces : List String → Int
  | [] => 0
  | line :: lines => braces line + openBraces lines

/-- The count of a text is the sum of the counts of its parts. -/
theorem openBraces_append (first second : List String) :
    openBraces (first ++ second) = openBraces first + openBraces second := by
  induction first with
  | nil => exact (Int.zero_add _).symm
  | cons line first ih => rw [List.cons_append, openBraces, openBraces, ih, Int.add_assoc]

theorem braces_append (a b : String) : braces (a ++ b) = braces a + braces b := by
  simp only [braces, String.toList_append, List.count_append]
  omega

/-- Characters that neither open or close a block nor end a line. -/
def isPlain (c : Char) : Bool := c != '{' && c != '}' && c != '\n'

theorem spells_isPlain : Spells isPlain := by
  intro c hc
  simp only [isPrinted, Bool.and_eq_true, decide_eq_true_eq, bne_iff_ne] at hc
  simp only [isPlain, Bool.and_eq_true, bne_iff_ne]
  refine ⟨⟨?_, ?_⟩, ?_⟩ <;> rintro rfl <;> simp at hc

/-- Text without the two braces does not count, be it code or prose. -/
theorem braces_eq_zero {s : String} (h : Prose isPlain s) : braces s = 0 := by
  have hopen : '{' ∉ s.toList := fun hc => absurd (h _ hc) (by decide)
  have hclose : '}' ∉ s.toList := fun hc => absurd (h _ hc) (by decide)
  rw [braces, List.count_eq_zero_of_not_mem hopen, List.count_eq_zero_of_not_mem hclose]
  rfl

/-- The texts of the lines that a step writes, without their indentation. -/
def Step.texts (style : Style) (depth : Int) : Step → List String
  | .line text => (Text.splitWhere (· == '\n') text.toList).map String.ofList
  | .label text => [text]
  | .openBlock header token => [Layout.opening header token]
  | .reopenBlock header => [r"} " ++ header ++ r" {"]
  | .closeBlock token => [token]
  | .rule => [ruleText style depth]
  | .comment marker text => commentTexts style marker text
  | .blank _ | .indent | .outdent | .spell _ => []

/-- Whether lines are indented without a block once a step is taken. -/
def Step.continues (continued : Bool) : Step → Bool
  | .indent => true
  | .outdent => false
  | _ => continued

def Step.isLabel : Step → Bool
  | .label _ => true
  | _ => false

/-- The levels in front of a text, where `unclosed` braces are open before its line: one for each
of these, less one where the text closes a brace or is a label, and one more where the line
continues another one. -/
def Step.level (s : Step) (continued : Bool) (text : String) (unclosed : Int) : Int :=
  (if text.toList.head? = some '}' ∨ s.isLabel = true then max (unclosed - 1) 0 else unclosed) +
    if continued then 1 else 0

/-- A line with the step that wrote it. -/
structure Entry where
  step : Step
  /-- Whether the line continues the one before it, as only the lines of a macro do. -/
  continued : Bool
  line : String

/-- The lines that steps add, each with its step. -/
def Layout.entries (l : Layout) (continued : Bool) : List Step → List Entry
  | [] => []
  | s :: rest =>
    (l.adds s).map (⟨s, s.continues continued, ·⟩) ++
      (l.write s).entries (s.continues continued) rest

namespace Entry

/-- A line is indented as its braces ask for, and has no line feed. -/
structure Stands (style : Style) (unclosed : Int) (e : Entry) : Prop where
  unbroken : '\n' ∉ e.line.toList
  indented : e.line ≠ "" → ∃ text levels, levels = e.step.level e.continued text unclosed ∧
    text ∈ e.step.texts style levels ∧ e.line = style.indentation levels ++ text

/-- Lines that stand as their braces ask for, and never close more than is open. -/
def Placed (style : Style) : Int → List Entry → Prop
  | unclosed, [] => 0 ≤ unclosed
  | unclosed, e :: es =>
    0 ≤ unclosed ∧ e.Stands style unclosed ∧ Placed style (unclosed + braces e.line) es

/-- Braces that entries leave open. -/
def unclosed (es : List Entry) : Int := openBraces (es.map line)

theorem unclosed_cons (e : Entry) (es : List Entry) :
    unclosed (e :: es) = braces e.line + unclosed es :=
  rfl

theorem unclosed_append (es fs : List Entry) : unclosed (es ++ fs) = unclosed es + unclosed fs := by
  rw [unclosed, List.map_append, openBraces_append, unclosed, unclosed]

variable {style : Style} {n : Int}

theorem Placed.nonneg {es : List Entry} (h : Placed style n es) : 0 ≤ n := by
  cases es with
  | nil => exact h
  | cons e es => exact h.1

/-- Entries below others stand as they ask for where the first have left the count. -/
theorem placed_append {es fs : List Entry} :
    Placed style n (es ++ fs) ↔ Placed style n es ∧ Placed style (n + unclosed es) fs := by
  induction es generalizing n with
  | nil =>
    have hzero : n + unclosed [] = n := Int.add_zero n
    rw [hzero]
    exact ⟨fun h => ⟨h.nonneg, h⟩, And.right⟩
  | cons e es ih =>
    rw [List.cons_append, Placed, Placed, ih, unclosed_cons, ← Int.add_assoc]
    tauto

/-- Lines without braces leave the count as it is. -/
theorem placed_of_quiet {es : List Entry} (hn : 0 ≤ n)
    (h : ∀ e ∈ es, e.Stands style n ∧ braces e.line = 0) :
    Placed style n es ∧ unclosed es = 0 := by
  induction es with
  | nil => exact ⟨hn, rfl⟩
  | cons e es ih =>
    obtain ⟨⟨hstands, hbraces⟩, hrest⟩ := List.forall_mem_cons.mp h
    obtain ⟨hplaced, hsum⟩ := ih hrest
    rw [Placed, unclosed_cons, hbraces, hsum, Int.add_zero]
    exact ⟨⟨hn, hstands, hplaced⟩, rfl⟩

end Entry

/-- Below the outermost level there is no indentation, as at it. -/
theorem Style.indentation_max (style : Style) (depth : Int) :
    style.indentation (max depth 0) = style.indentation depth := by
  have htoNat : (max depth 0).toNat = depth.toNat := by omega
  rw [indentation, htoNat, indentation]

theorem Style.code_indentation (style : Style) (depth : Int) :
    Code isPlain (style.indentation depth) := by
  intro c hc
  rw [style.toList_indentation] at hc
  rw [List.eq_of_mem_replicate hc]
  decide

theorem unbroken_of_code {s : String} (h : Code isPlain s) : '\n' ∉ s.toList :=
  fun hc => absurd (h _ hc) (by decide)

theorem braces_indentation (style : Style) (depth : Int) (text : String) :
    braces (style.indentation depth ++ text) = braces text := by
  rw [braces_append, braces_eq_zero (style.code_indentation depth).prose, Int.zero_add]

/-- A text behind its indentation stands where its level says. -/
theorem Entry.stands_text {style : Style} {n depth : Int} {s : Step} {continued : Bool}
    {text : String} (hlevel : s.level continued text n = max depth 0)
    (htext : text ∈ s.texts style (max depth 0)) (hfeed : '\n' ∉ text.toList) :
    Entry.Stands style n ⟨s, continued, style.indentation depth ++ text⟩ where
  unbroken := by
    rw [String.toList_append, List.mem_append, not_or]
    exact ⟨unbroken_of_code (style.code_indentation depth), hfeed⟩
  indented _ := ⟨text, max depth 0, hlevel.symm, htext, by rw [style.indentation_max]⟩

theorem head?_ne_of_code {s : String} (h : Code isPlain s) : s.toList.head? ≠ some '}' :=
  fun hc => absurd (h _ (List.mem_of_mem_head? hc)) (by decide)

/-- Text without braces, and no label, stands at the count of open braces, or one level deeper
if it continues a line. -/
theorem Step.level_of_code {s : Step} (hs : s.isLabel = false) {text : String}
    (htext : Code isPlain text) (continued : Bool) (n : Int) :
    s.level continued text n = n + if continued then 1 else 0 := by
  rw [level, if_neg]
  rintro (hbrace | hlabel)
  · exact head?_ne_of_code htext hbrace
  · rw [hs] at hlabel
    cases hlabel

/-- Lines that a step adds where `n` braces are open, none of which changes that. -/
def Step.Quiet (s : Step) (continued : Bool) (l : Layout) (n : Int) : Prop :=
  ∀ line ∈ l.adds s, Entry.Stands l.style n ⟨s, continued, line⟩ ∧ braces line = 0

section

variable {l : Layout} {n : Int}

theorem Step.stands_empty (s : Step) (continued : Bool) (style : Style) :
    Entry.Stands style n ⟨s, continued, ""⟩ ∧ braces "" = 0 :=
  ⟨⟨by simp, fun h => absurd rfl h⟩, rfl⟩

/-- A verbatim line or a statement stands at the open braces, and one level deeper where it
continues another. -/
theorem quiet_line {text : String} (h : Prose isPlain text) {continued : Bool} (hn : 0 ≤ n)
    (hdepth : l.depth = n + if continued then 1 else 0) :
    (Step.line text).Quiet continued l n := by
  intro line hline
  obtain ⟨piece, hpiece, rfl⟩ := List.mem_map.mp hline
  have hcode : Code isPlain (String.ofList piece) := fun c hc => by
    rw [String.toList_ofList] at hc
    obtain ⟨hmem, hfeed⟩ := Text.mem_of_mem_splitWhere text.toList piece hpiece c hc
    exact (h c hmem).resolve_left (by simpa using hfeed)
  have hmax : max l.depth 0 = l.depth := by
    split at hdepth <;> omega
  by_cases hempty : piece.isEmpty = true
  · rw [if_pos hempty]
    exact Step.stands_empty _ continued l.style
  · rw [if_neg hempty]
    refine ⟨Entry.stands_text ?_ (List.mem_map_of_mem hpiece) (unbroken_of_code hcode), ?_⟩
    · rw [Step.level_of_code rfl hcode, hmax, hdepth]
    · rw [braces_indentation, braces_eq_zero hcode.prose]

/-- A label stands one level out, which is how its level is defined. -/
theorem quiet_label {text : String} (h : Code isPlain text) :
    (Step.label text).Quiet false l l.depth := by
  intro line hline
  obtain rfl : line = l.style.indentation (l.depth - 1) ++ text := List.mem_singleton.mp hline
  have hlevel : (Step.label text).level false text l.depth = max (l.depth - 1) 0 := by
    simp [Step.level, Step.isLabel]
  refine ⟨Entry.stands_text hlevel (List.mem_singleton_self text) (unbroken_of_code h), ?_⟩
  rw [braces_indentation, braces_eq_zero h.prose]

theorem quiet_blank (count : Int) : (Step.blank count).Quiet false l n := by
  intro line hline
  have hempty : line = "" := by
    rw [Layout.adds] at hline
    split at hline
    · exact absurd hline List.not_mem_nil
    · exact List.eq_of_mem_replicate hline
  rw [hempty]
  exact Step.stands_empty _ false l.style

/-- A single line of code at the depth of the layout. -/
theorem stands_code {s : Step} (hs : s.isLabel = false) {text : String}
    (htext : text ∈ s.texts l.style l.depth) (hcode : Code isPlain text) (hdepth : 0 ≤ l.depth) :
    Entry.Stands l.style l.depth ⟨s, false, l.style.indentation l.depth ++ text⟩ ∧
      braces (l.style.indentation l.depth ++ text) = 0 := by
  have hmax : max l.depth 0 = l.depth := by omega
  refine ⟨Entry.stands_text ?_ (by rwa [hmax]) (unbroken_of_code hcode), ?_⟩
  · rw [Step.level_of_code hs hcode, hmax]
    simp
  · rw [braces_indentation, braces_eq_zero hcode.prose]

theorem quiet_rule (hdepth : 0 ≤ l.depth) : Step.rule.Quiet false l l.depth := by
  intro line hline
  have hcode : Code isPlain (ruleText l.style l.depth) := fun c hc => by
    rw [ruleText, String.toList_ofList] at hc
    rw [List.eq_of_mem_replicate hc]
    decide
  have hne : ruleText l.style l.depth ≠ "" := by
    rw [ruleText, Layout.ruleLength, ne_eq, String.ofList_eq_empty_iff, List.replicate_eq_nil_iff]
    omega
  have hadds : l.adds .rule = l.style.placed l.depth (ruleText l.style l.depth) := rfl
  rw [hadds, l.style.placed_eq_singleton l.depth hne (unbroken_of_code hcode),
    List.mem_singleton] at hline
  subst hline
  exact stands_code rfl (List.mem_singleton_self _) hcode hdepth

/-- The texts of a comment are free of line feeds: prose is broken before it is written. -/
theorem code_commentTexts {style : Style} {marker text : String}
    (hm : marker = "//" ∨ marker = "///") (h : Prose isPlain text) :
    ∀ line ∈ commentTexts style marker text, Code isPlain line ∧ line ≠ "" := by
  intro line hline
  have hmarker : Code isPlain marker ∧ marker ≠ "" := by
    rcases hm with rfl | rfl <;> exact ⟨spells_isPlain.code (by decide), by decide⟩
  cases hc : Text.commentLines style.docWidth text.toList with
  | none => simp [commentTexts, commentBlock, hc, Except.toOption] at hline
  | some ls =>
    simp only [commentTexts, commentBlock, hc, Except.toOption, Option.getD_some,
      List.mem_map] at hline
    obtain ⟨body, hbody, rfl⟩ := hline
    have hplain : ∀ c ∈ body, isPlain c = true := fun c hcb => by
      rcases Text.mem_of_mem_commentLines hc body hbody c hcb with hmem | rfl | rfl
      · refine (h c hmem).resolve_left ?_
        rintro rfl
        exact (Text.commentLines_inert hc body hbody).1.1 hcb
      · decide
      · decide
    refine ⟨fun c hcl => ?_, fun hempty => ?_⟩
    · rw [commentLine_eq, List.mem_append] at hcl
      rcases hcl with hcl | hcl
      · exact hmarker.1 c hcl
      · split at hcl
        · exact absurd hcl List.not_mem_nil
        · rcases List.mem_cons.mp hcl with rfl | hcl
          · decide
          · exact hplain c hcl
    · have hlist := commentLine_eq marker body
      rw [hempty] at hlist
      have hnil : marker.toList = [] := (List.append_eq_nil_iff.mp hlist.symm).1
      exact hmarker.2 (by simpa using hnil)

/-- A comment stands at the open braces like code, since its prose holds no brace. -/
theorem quiet_comment {marker text : String} (hm : marker = "//" ∨ marker = "///")
    (h : Prose isPlain text) (hdepth : 0 ≤ l.depth) :
    (Step.comment marker text).Quiet false l l.depth := by
  intro line hline
  obtain ⟨whole, hwhole, hline⟩ := List.mem_flatMap.mp hline
  obtain ⟨hcode, hne⟩ := code_commentTexts hm h whole hwhole
  rw [l.style.placed_eq_singleton l.depth hne (unbroken_of_code hcode),
    List.mem_singleton] at hline
  subst hline
  exact stands_code rfl hwhole hcode hdepth

/-- A text that closes a block, and may open the next one, stands one level out. -/
theorem stands_closing {s : Step} {text : String} (htext : s.texts l.style (l.depth - 1) = [text])
    (hbrace : text.toList.head? = some '}') (hfeed : '\n' ∉ text.toList)
    (hdepth : 1 ≤ l.depth) : Entry.Stands l.style l.depth
      ⟨s, false, l.style.indentation (l.depth - 1) ++ text⟩ := by
  have hmax : max (l.depth - 1) 0 = l.depth - 1 := by omega
  refine Entry.stands_text ?_ ?_ hfeed
  · simp [Step.level, hbrace]
  · rw [hmax, htext]
    exact List.mem_singleton_self text

/-- A line that closes a block and opens the next one leaves the count as it is, and stands one
level out. -/
theorem quiet_reopen {header : String} (h : Code isPlain header) (hdepth : 1 ≤ l.depth) :
    (Step.reopenBlock header).Quiet false l l.depth := by
  intro line hline
  have hbrace : (r"} " ++ header ++ r" {").toList.head? = some '}' := by simp
  have hfeed : '\n' ∉ (r"} " ++ header ++ r" {").toList := by
    simp [unbroken_of_code h]
  have hne : r"} " ++ header ++ r" {" ≠ "" := fun hempty => by
    rw [hempty] at hbrace
    cases hbrace
  have hadds : l.adds (.reopenBlock header) =
      l.style.placed (l.depth - 1) (r"} " ++ header ++ r" {") := rfl
  rw [hadds, l.style.placed_eq_singleton _ hne hfeed, List.mem_singleton] at hline
  subst hline
  refine ⟨stands_closing rfl hbrace hfeed hdepth, ?_⟩
  rw [braces_indentation, braces_append, braces_append, braces_eq_zero h.prose]
  decide

end

/-- Where the count of open braces starts at the depth of the layout, every line that the steps
add stands as it asks for, and the count comes back to where it was. -/
structure Balanced (l : Layout) (steps : List Step) : Prop where
  placed : Entry.Placed l.style l.depth (l.entries false steps)
  unclosed : Entry.unclosed (l.entries false steps) = 0

namespace Layout

/-- The entries are the lines of the trace, each with its step. -/
theorem map_line_entries (l : Layout) (continued : Bool) (steps : List Step) :
    (l.entries continued steps).map Entry.line = (l.trace steps).map Prod.snd := by
  induction steps generalizing l continued with
  | nil => rfl
  | cons s steps ih =>
    rw [entries, trace, List.map_append, List.map_append, ih]
    simp [Function.comp_def]

/-- The second steps start from what the first have written, and from whether they left a line to be
continued. -/
theorem entries_append (l : Layout) (continued : Bool) (first second : List Step) :
    l.entries continued (first ++ second) = l.entries continued first ++
      (l.writeAll first).entries (first.foldl Step.continues continued) second := by
  induction first generalizing l continued with
  | nil => rfl
  | cons s first ih =>
    rw [List.cons_append, entries, ih, ← List.append_assoc]
    rfl

theorem entries_singleton (l : Layout) (continued : Bool) (s : Step) :
    l.entries continued [s] =
      (l.adds s).map (⟨s, Step.continues continued s, ·⟩) :=
  List.append_nil _

end Layout

/-- Matched steps leave no line to be continued behind them. -/
theorem continues_of_matched {p : Char → Bool} {inside : Bool} {steps : List Step}
    (h : Matched p inside steps) : steps.foldl Step.continues false = false := by
  induction h with
  | append _ _ hf hs => rw [List.foldl_append, hf, hs]
  | block header token _ _ _ hb =>
    have hopen : [Step.openBlock header r"{"].foldl Step.continues false = false := rfl
    rw [List.foldl_append, List.foldl_append, hopen, hb]
    rfl
  | continued => rw [List.foldl_append, List.foldl_cons, List.foldl_nil, Step.continues]
  | nil | line | label | blank | rule | comment | reopen | spell => rfl

/-- A step whose lines leave the count alone is balanced by itself. -/
theorem balanced_of_quiet {l : Layout} {s : Step} (hdepth : 0 ≤ l.depth)
    (hs : Step.continues false s = false) (h : s.Quiet false l l.depth) : Balanced l [s] := by
  have hall : ∀ e ∈ l.entries false [s], e.Stands l.style l.depth ∧ braces e.line = 0 := by
    intro e he
    rw [l.entries_singleton, hs] at he
    obtain ⟨line, hline, rfl⟩ := List.mem_map.mp he
    exact h line hline
  obtain ⟨hplaced, hunclosed⟩ := Entry.placed_of_quiet hdepth hall
  exact ⟨hplaced, hunclosed⟩

/-- Balanced steps one behind the other: since the first come back to their depth, the count that
the second start from is the depth they are written at. -/
theorem Balanced.append {l : Layout} {inside : Bool} {first second : List Step}
    (hf : Matched isPlain inside first) (hfirst : Balanced l first)
    (hsecond : Balanced (l.writeAll first) second) : Balanced l (first ++ second) := by
  have hdepth := Layout.depth_writeAll_of_nested hf.nested l
  have hstyle := l.style_writeAll first
  have hentries := l.entries_append false first second
  rw [continues_of_matched hf] at hentries
  constructor
  · have hplaced := hsecond.placed
    rw [hstyle, hdepth] at hplaced
    rw [hentries, Entry.placed_append, hfirst.unclosed, Int.add_zero]
    exact ⟨hfirst.placed, hplaced⟩
  · rw [hentries, Entry.unclosed_append, hfirst.unclosed, hsecond.unclosed]
    rfl

/-- The lines that continue a line stand one level deeper than the braces ask for. -/
theorem quiet_lines {texts : List String} (h : ∀ t ∈ texts, Code isPlain t) {l : Layout} {n : Int}
    (hn : 0 ≤ n) (hdepth : l.depth = n + 1) :
    ∀ e ∈ l.entries true (texts.map .line), e.Stands l.style n ∧ braces e.line = 0 := by
  induction texts generalizing l with
  | nil => exact fun e he => absurd he List.not_mem_nil
  | cons t texts ih =>
    obtain ⟨ht, hrest⟩ := List.forall_mem_cons.mp h
    intro e he
    rcases List.mem_append.mp he with he | he
    · obtain ⟨line, hline, rfl⟩ := List.mem_map.mp he
      exact quiet_line ht.prose hn hdepth line hline
    · have hwritten := ih hrest (l := l.write (.line t))
        (by rw [Layout.depth_write, hdepth]; exact Int.add_zero _) e he
      rwa [Layout.style_write] at hwritten

/-- The lines of a macro are indented once without a block, which is what the indent and the outdent
around them are for. -/
theorem balanced_continued {texts : List String} (h : ∀ t ∈ texts, Code isPlain t) {l : Layout}
    (hdepth : 0 ≤ l.depth) : Balanced l ([.indent] ++ texts.map .line ++ [.outdent]) := by
  have hentries : l.entries false ([.indent] ++ texts.map .line ++ [.outdent]) =
      (l.move 1).entries true (texts.map .line) := by
    rw [l.entries_append, l.entries_append, l.entries_singleton, Layout.entries_singleton]
    exact List.append_nil _
  obtain ⟨hplaced, hunclosed⟩ := Entry.placed_of_quiet hdepth
    (quiet_lines h (l := l.move 1) hdepth rfl)
  rw [← hentries] at hplaced hunclosed
  exact ⟨hplaced, hunclosed⟩

/-- The line that opens a block ends in its brace. -/
theorem exists_opening_eq {header : String} (h : Code isPlain header) :
    ∃ front, Code isPlain front ∧ Layout.opening header r"{" = front ++ r"{" := by
  rw [Layout.opening]
  split
  · exact ⟨"", code_empty, rfl⟩
  · exact ⟨header ++ " ", h.append (spells_isPlain.code (by decide)), rfl⟩

/-- Opening a block writes one line at the open braces, and opens one more. -/
theorem adds_openBlock {header : String} (h : Code isPlain header) {l : Layout}
    (hdepth : 0 ≤ l.depth) : ∃ line, l.adds (.openBlock header r"{") = [line] ∧
      Entry.Stands l.style l.depth ⟨.openBlock header r"{", false, line⟩ ∧ braces line = 1 := by
  obtain ⟨front, hfront, heq⟩ := exists_opening_eq h
  have hfeed : '\n' ∉ (front ++ r"{").toList := by
    simp [unbroken_of_code hfront]
  have hhead : (front ++ r"{").toList.head? ≠ some '}' := by
    cases hlist : front.toList with
    | nil => simp [hlist]
    | cons c rest =>
      have hc := head?_ne_of_code hfront
      rw [hlist] at hc
      simpa [hlist] using hc
  have hmax : max l.depth 0 = l.depth := by omega
  have hlevel : (Step.openBlock header r"{").level false (front ++ r"{") l.depth =
      max l.depth 0 := by
    have hlabel : ¬ (Step.openBlock header r"{").isLabel = true := Bool.false_ne_true
    rw [Step.level, if_neg (not_or.mpr ⟨hhead, hlabel⟩), hmax]
    simp
  have hadds : l.adds (.openBlock header r"{") =
      l.style.placed l.depth (Layout.opening header r"{") := rfl
  refine ⟨l.style.indentation l.depth ++ (front ++ r"{"), ?_, ?_, ?_⟩
  · rw [hadds, heq, l.style.placed_eq_singleton l.depth (by simp) hfeed]
  · refine Entry.stands_text hlevel ?_ hfeed
    rw [Step.texts, heq]
    exact List.mem_singleton_self _
  · rw [braces_indentation, braces_append, braces_eq_zero hfront.prose]
    decide

/-- Closing a block writes one line one level out, which closes one brace. -/
theorem adds_closeBlock {token : String} (h : Code isPlain token) {l : Layout}
    (hdepth : 1 ≤ l.depth) : ∃ line, l.adds (.closeBlock (r"}" ++ token)) = [line] ∧
      Entry.Stands l.style l.depth ⟨.closeBlock (r"}" ++ token), false, line⟩ ∧
      braces line = -1 := by
  have hfeed : '\n' ∉ (r"}" ++ token).toList := by
    simp [unbroken_of_code h]
  have hadds : l.adds (.closeBlock (r"}" ++ token)) =
      l.style.placed (l.depth - 1) (r"}" ++ token) := rfl
  refine ⟨l.style.indentation (l.depth - 1) ++ (r"}" ++ token), ?_, ?_, ?_⟩
  · rw [hadds, l.style.placed_eq_singleton _ (by simp) hfeed]
  · exact stands_closing rfl (by simp) hfeed hdepth
  · rw [braces_indentation, braces_append, braces_eq_zero h.prose]
    decide

/-- A block adds its first line, its body one level deeper, and its last line. -/
theorem balanced_block {header token : String} {body : List Step} (hheader : Code isPlain header)
    (htoken : Code isPlain token) (hmatched : Matched isPlain true body) {l : Layout}
    (hdepth : 0 ≤ l.depth) (hbody : Balanced (l.write (.openBlock header r"{")) body) :
    Balanced l ([.openBlock header r"{"] ++ body ++ [.closeBlock (r"}" ++ token)]) := by
  have hinner : (l.write (.openBlock header r"{")).depth = l.depth + 1 := l.depth_write _
  have hend : ((l.write (.openBlock header r"{")).writeAll body).depth = l.depth + 1 := by
    rw [Layout.depth_writeAll_of_nested hmatched.nested, hinner]
  obtain ⟨first, hfirst, hstands, hopens⟩ := adds_openBlock hheader hdepth
  obtain ⟨last, hlast, hcloses, hclosed⟩ := adds_closeBlock htoken
    (l := (l.write (.openBlock header r"{")).writeAll body) (by omega)
  rw [hend, Layout.style_writeAll, Layout.style_write] at hcloses
  have hplaced := hbody.placed
  rw [hinner, Layout.style_write] at hplaced
  have hentries : l.entries false
      ([.openBlock header r"{"] ++ body ++ [.closeBlock (r"}" ++ token)]) =
      ⟨.openBlock header r"{", false, first⟩ ::
        ((l.write (.openBlock header r"{")).entries false body ++
          [⟨.closeBlock (r"}" ++ token), false, last⟩]) := by
    have hopen : [Step.openBlock header r"{"].foldl Step.continues false = false := rfl
    rw [List.append_assoc, l.entries_append, l.entries_singleton, hfirst, hopen,
      Layout.entries_append, continues_of_matched hmatched, Layout.entries_singleton]
    exact congrArg _ (congrArg _ (congrArg (List.map _) hlast))
  constructor
  · rw [hentries, Entry.Placed, Entry.placed_append, hopens, hbody.unclosed]
    refine ⟨hdepth, hstands, hplaced, ?_⟩
    rw [Int.add_zero, Entry.Placed, Entry.Placed, hclosed]
    exact ⟨by omega, hcloses, by omega⟩
  · rw [hentries, Entry.unclosed_cons, Entry.unclosed_append, hbody.unclosed,
      Entry.unclosed_cons, hopens, hclosed]
    rfl

/-- What matched steps add stands as the braces ask for. -/
theorem balanced_of_matched {inside : Bool} {steps : List Step}
    (h : Matched isPlain inside steps) :
    ∀ l : Layout, 0 ≤ l.depth → (inside = true → 1 ≤ l.depth) → Balanced l steps := by
  -- By induction on how the steps are matched: the depth of the layout is the count of open
  -- braces all along, and a block hands its body a layout that is one deeper.
  induction h with
  | nil => exact fun l hdepth _ => ⟨hdepth, rfl⟩
  | append hf _ ihf ihs =>
    intro l hdepth hinside
    have hsame := Layout.depth_writeAll_of_nested hf.nested l
    exact .append hf (ihf l hdepth hinside) (ihs _ (by rwa [hsame]) (by rwa [hsame]))
  | line htext =>
    exact fun l hdepth _ => balanced_of_quiet hdepth rfl (quiet_line htext hdepth (by simp))
  | label htext => exact fun l hdepth _ => balanced_of_quiet hdepth rfl (quiet_label htext)
  | blank count => exact fun l hdepth _ => balanced_of_quiet hdepth rfl (quiet_blank count)
  | rule => exact fun l hdepth _ => balanced_of_quiet hdepth rfl (quiet_rule hdepth)
  | spell => exact fun l hdepth _ => balanced_of_quiet hdepth rfl fun _ hline => by cases hline
  | comment hm htext =>
    exact fun l hdepth _ => balanced_of_quiet hdepth rfl (quiet_comment hm htext hdepth)
  | reopen hheader =>
    exact fun l hdepth hinside => balanced_of_quiet hdepth rfl (quiet_reopen hheader (hinside rfl))
  | block header token hheader htoken hbody ih =>
    intro l hdepth _
    have hdeeper : (l.write (.openBlock header r"{")).depth = l.depth + 1 := l.depth_write _
    exact balanced_block hheader htoken hbody hdepth (ih _ (by omega) (by omega))
  | continued htexts => exact fun l hdepth _ => balanced_continued htexts hdepth

namespace Entry

variable {style : Style} {n : Int} {es : List Entry}

/-- Entries that stand are lines: none of them holds a line feed. -/
theorem Placed.unbroken (h : Placed style n es) : ∀ t ∈ es.map line, '\n' ∉ t.toList := by
  induction es generalizing n with
  | nil => simp
  | cons e es ih =>
    rw [List.map_cons, List.forall_mem_cons]
    exact ⟨h.2.1.unbroken, ih h.2.2⟩

/-- No prefix of the lines closes more braces than are open. -/
theorem Placed.openBraces_nonneg (h : Placed style n es) {before : List String}
    (hbefore : before <+: es.map line) : 0 ≤ n + openBraces before := by
  obtain ⟨rest, hrest⟩ := hbefore
  obtain ⟨first, second, rfl, rfl, -⟩ := List.map_eq_append_iff.mp hrest.symm
  exact (placed_append.mp h).2.nonneg

/-- An entry stands at the braces that the lines in front of it leave open. -/
theorem Placed.stands (h : Placed style n es) {before after : List Entry} {e : Entry}
    (hes : es = before ++ e :: after) : e.Stands style (n + openBraces (before.map line)) := by
  rw [hes] at h
  exact (placed_append.mp h).2.2.1

end Entry

/-- Whatever an entity is made of, if no text of it holds a brace, and none but documentation,
comments, macro values and verbatim lines a line feed, then its lines never close more braces
than are open, close them all, and each line that is not empty is indented by one level for each
open brace: by one less if it closes one or is a label, and by one more if it continues a
macro. -/
theorem Entity.indentation_mirrors_braces {style : Style} (h : style.Valid) {e : Entity}
    {steps : List Step} (hsteps : e.steps? style = some steps)
    (hclean : Within isPlain e.fragments) :
    ∃ l : Layout, Layout.run { style } steps = .ok l ∧ e.text style = .ok l.text ∧
      (Layout.entries { style } false steps).map Entry.line = l.lines ∧
      (∀ line ∈ l.lines, '\n' ∉ line.toList) ∧
      (∀ before, before <+: l.lines → 0 ≤ openBraces before) ∧ openBraces l.lines = 0 ∧
      ∀ before entry after,
        Layout.entries { style } false steps = before ++ entry :: after → entry.line ≠ "" →
          ∃ text levels,
            levels =
              entry.step.level entry.continued text (openBraces (before.map Entry.line)) ∧
            text ∈ entry.step.texts style levels ∧
            entry.line = style.indentation levels ++ text := by
  have hmatched : Matched isPlain false steps := e.matched spells_isPlain hsteps hclean
  have hbalanced : Balanced { style } steps :=
    balanced_of_matched hmatched { style } (Int.le_refl 0) fun hinside => by cases hinside
  have hrun : Layout.run { style } steps = .ok (Layout.writeAll { style } steps) :=
    Layout.run_eq_ok h.docWidth_pos steps
  have hlines : (Layout.entries { style } false steps).map Entry.line =
      (Layout.writeAll { style } steps).lines := by
    rw [Layout.map_line_entries, Layout.lines_writeAll]
    rfl
  have htext : e.text style = .ok (Layout.writeAll { style } steps).text := by
    rw [Entity.text, hsteps]
    exact congrArg (Except.map Layout.text) hrun
  have hplaced : Entry.Placed style 0 (Layout.entries { style } false steps) := hbalanced.placed
  refine ⟨_, hrun, htext, hlines, ?_, ?_, ?_, ?_⟩
  · rw [← hlines]
    exact hplaced.unbroken
  · intro before hbefore
    rw [← hlines] at hbefore
    simpa using hplaced.openBraces_nonneg hbefore
  · rw [← hlines]
    exact hbalanced.unclosed
  · intro before entry after hentries hne
    have hstands := hplaced.stands hentries
    rw [Int.zero_add] at hstands
    exact hstands.indented hne

/-- A macro of two lines, and a labelled switch in a method of a class. -/
theorem Entity.indentation_mirrors_braces_switch :
    ∃ s : Scope, Style.Valid {} ∧ Within isPlain s.fragments ∧
      ∃ l : Layout, Layout.run { style := {} } (s.steps {}) = .ok l ∧
        (∀ before, before <+: l.lines → 0 ≤ openBraces before) ∧ openBraces l.lines = 0 ∧
        l.lines = ["#define M a \\", "    b", "", r"class C {", "private:", r"    void m() {",
          "    again:", r"        switch (x) {", "        case 1:", "            f();",
          "            break;", r"        }", r"    }", r"};"] := by
  let s : Scope := ⟨0, none, none, [
    .definition { id := 1, name := ⟨"M", by decide⟩, value := some "a\nb" },
    .cls { id := 2, name := ⟨"C", by decide⟩, members := [.method {
      id := 3, name := ⟨"m", by decide⟩, body := [
        .stmt (.label ⟨4, ⟨"again", by decide⟩⟩),
        .stmt (.switch ⟨5, .var ⟨"x", by decide⟩ none,
          [⟨6, .num 1, ⟨7, [.verbatim "f();"]⟩, false⟩], none⟩)] }] }]⟩
  have hvalid : Style.Valid {} := ⟨by decide, by decide, by decide, by decide⟩
  have hclean : Within isPlain s.fragments := by decide
  obtain ⟨l, hrun, -, hlines, -, hnonneg, hclosed, -⟩ :=
    Entity.indentation_mirrors_braces hvalid (e := .scope s) rfl hclean
  refine ⟨s, hvalid, hclean, l, hrun, hnonneg, hclosed, hlines.symm.trans ?_⟩
  decide +kernel

end CWriter

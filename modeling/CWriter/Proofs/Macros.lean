import CWriter.Proofs.Fragments.Text
import CWriter.Proofs.Layout.Room
import CWriter.Proofs.Layout.Trace
import CWriter.Proofs.Notes.Inert
import CWriter.Tree.Directive

/-!
# Macro definitions

A backslash at the end of a line joins the line with the next one before anything else is read.
However many lines a replacement text has, and whichever of them are empty, the lines written for
a macro are joined into one directive that holds all of them, with blanks in between.
-/
namespace CWriter

/-- A text with every backslash at the end of a line taken out, and the line feed behind it. -/
def spliced : List Char → List Char
  | '\\' :: '\n' :: rest => spliced rest
  | c :: rest => c :: spliced rest
  | [] => []

theorem spliced_cons_cons (c : Char) {d : Char} (h : d ≠ '\n') (rest : List Char) :
    spliced (c :: d :: rest) = c :: spliced (d :: rest) := by
  rw [spliced]
  rintro rest' - hrest
  exact h (List.cons.inj hrest).1

theorem spliced_of_not_mem {cs : List Char} (h : '\n' ∉ cs) : spliced cs = cs := by
  induction cs with
  | nil => rfl
  | cons c cs ih =>
    have hcs : '\n' ∉ cs := fun hmem => h (List.mem_cons_of_mem c hmem)
    cases cs with
    | nil => simp [spliced]
    | cons d cs =>
      have hd : d ≠ '\n' := by
        rintro rfl
        exact hcs List.mem_cons_self
      rw [spliced_cons_cons c hd, ih hcs]

/-- A backslash and the line feed behind it are taken out together. -/
theorem spliced_append {cs : List Char} (h : '\n' ∉ cs) (rest : List Char) :
    spliced (cs ++ '\\' :: '\n' :: rest) = cs ++ spliced rest := by
  induction cs with
  | nil => rfl
  | cons c cs ih =>
    have hcs : '\n' ∉ cs := fun hmem => h (List.mem_cons_of_mem c hmem)
    -- What follows `c` is no line feed: it is in `cs`, or it is the backslash.
    obtain ⟨d, tail, htail, hd⟩ :
        ∃ d tail, cs ++ '\\' :: '\n' :: rest = d :: tail ∧ d ≠ '\n' := by
      cases cs with
      | nil => exact ⟨'\\', _, rfl, by decide⟩
      | cons d cs =>
        refine ⟨d, _, rfl, ?_⟩
        rintro rfl
        exact hcs List.mem_cons_self
    rw [List.cons_append, htail, spliced_cons_cons c hd, ← htail, ih hcs, List.cons_append]

/-- Lines that are joined into one: each but the last ends in a backslash, the last does not, and
what is left without the backslashes is `content`. -/
def Continued (lines : List String) (content : List Char) : Prop :=
  ∃ front last, lines = front ++ [last] ∧ (∀ line ∈ lines, '\n' ∉ line.toList) ∧
    (∀ line ∈ front, line.toList.getLast? = some '\\') ∧ last.toList.getLast? ≠ some '\\' ∧
    spliced ("\n".intercalate lines).toList = content

theorem Continued.single {line : String} (hfeed : '\n' ∉ line.toList)
    (hend : line.toList.getLast? ≠ some '\\') : Continued [line] line.toList := by
  refine ⟨[], line, rfl, by simpa using hfeed, by simp, hend, ?_⟩
  rw [String.intercalate_singleton, spliced_of_not_mem hfeed]

/-- One more line in front, with its backslash. -/
theorem Continued.cons {line : String} (hfeed : '\n' ∉ line.toList) {lines : List String}
    {content : List Char} (h : Continued lines content) :
    Continued ((line ++ "\\") :: lines) (line.toList ++ content) := by
  obtain ⟨front, last, rfl, hfeeds, hfront, hlast, hcontent⟩ := h
  refine ⟨(line ++ "\\") :: front, last, rfl, ?_, ?_, hlast, ?_⟩
  · rw [List.forall_mem_cons]
    exact ⟨by simpa using hfeed, hfeeds⟩
  · rw [List.forall_mem_cons]
    exact ⟨by simp, hfront⟩
  · obtain ⟨next, rest, hnext⟩ := List.exists_cons_of_ne_nil
      (show front ++ [last] ≠ [] by simp)
    rw [hnext] at hcontent ⊢
    rw [String.intercalate_cons_cons]
    simp only [String.toList_append, List.append_assoc]
    rw [← hcontent]
    exact spliced_append hfeed _

/-- Texts one after the other, each behind a gap of at least one blank. -/
def gapped (gaps : List Nat) (texts : List String) : List Char :=
  (List.zipWith (fun n text => List.replicate (n + 1) ' ' ++ text.toList) gaps texts).flatten

theorem gapped_cons (n : Nat) (gaps : List Nat) (text : String) (texts : List String) :
    gapped (n :: gaps) (text :: texts) =
      List.replicate (n + 1) ' ' ++ text.toList ++ gapped gaps texts := rfl

theorem getLast?_append_text (front : String) {back : String} (h : back ≠ "") :
    (front ++ back).toList.getLast? = back.toList.getLast? := by
  rw [String.toList_append, List.getLast?_append_of_ne_nil _ (by simpa using h)]

namespace Macro

variable {style : Style} {depth : Int}

/-- The steps of a definition behind its documentation. -/
def directive (m : Macro) : List Step :=
  match m.valueLines with
  | [] => [.line m.head]
  | [only] => [.line (m.head ++ " " ++ only)]
  | first :: rest =>
    [.line (m.head ++ " " ++ first ++ " \\"), .indent] ++ continuation rest ++ [.outdent]

theorem steps_eq (m : Macro) : m.steps = docSteps m.doc ++ m.directive := rfl

theorem exists_line_of_mem_continuation {texts : List String} {s : Step}
    (h : s ∈ continuation texts) : ∃ text, s = .line text := by
  induction texts with
  | nil => cases h
  | cons text texts ih =>
    cases texts with
    | nil => exact ⟨text, List.mem_singleton.mp h⟩
    | cons next rest =>
      obtain rfl | h := List.mem_cons.mp h
      · exact ⟨_, rfl⟩
      · exact ih h

/-- A definition takes no comment and asks for no blank line behind its documentation. -/
theorem fits_directive (m : Macro) (style : Style) :
    ∀ s ∈ m.directive, s.fits style = true ∧ s.isBlank = false := by
  intro s hs
  rw [directive] at hs
  split at hs
  · obtain rfl := List.mem_singleton.mp hs
    exact ⟨rfl, rfl⟩
  · obtain rfl := List.mem_singleton.mp hs
    exact ⟨rfl, rfl⟩
  · simp only [List.mem_append, List.mem_cons, List.not_mem_nil, or_false] at hs
    obtain ((rfl | rfl) | hs) | rfl := hs
    · exact ⟨rfl, rfl⟩
    · exact ⟨rfl, rfl⟩
    · obtain ⟨text, rfl⟩ := exists_line_of_mem_continuation hs
      exact ⟨rfl, rfl⟩
    · exact ⟨rfl, rfl⟩

theorem placed_continued (style : Style) (depth : Int) {text : String}
    (h : '\n' ∉ text.toList) :
    style.placed depth (text ++ " \\") = [style.indentation depth ++ text ++ " " ++ "\\"] := by
  rw [style.placed_eq_singleton depth (by simp) (by simpa using h)]
  simp [← String.toList_inj]

/-- The follow-up lines are joined into the texts they were made of. The blank in front of the
first one stands at the end of the line before. -/
theorem exists_continued (style : Style) (depth : Int) {texts : List String} (hne : texts ≠ [])
    (hfeed : ∀ text ∈ texts, '\n' ∉ text.toList)
    (hend : ∀ text ∈ texts, text.toList.getLast? ≠ some '\\') :
    ∃ content gaps, Continued (emitted style depth (continuation texts)) content ∧
      gaps.length = texts.length ∧ ' ' :: content = gapped gaps texts := by
  induction texts with
  | nil => contradiction
  | cons text texts ih =>
    rw [List.forall_mem_cons] at hfeed hend
    have hindented : '\n' ∉ (style.indentation depth ++ text).toList := by
      simp [(style.unbroken_indentation depth).1, hfeed.1]
    cases texts with
    | nil =>
      have hemitted : emitted style depth (continuation [text]) = style.placed depth text :=
        List.append_nil _
      rw [hemitted]
      by_cases hempty : text = ""
      · subst hempty
        exact ⟨[], [0], .single (by simp) (by simp), rfl, rfl⟩
      · rw [style.placed_eq_singleton depth hempty hfeed.1]
        refine ⟨_, [style.indentWidth.toNat * depth.toNat], .single hindented ?_, rfl, ?_⟩
        · rw [getLast?_append_text _ hempty]
          exact hend.1
        · simp [gapped, Style.toList_indentation, List.replicate_succ]
    | cons next rest =>
      obtain ⟨content, gaps, hcontinued, hlength, hcontent⟩ := ih (by simp) hfeed.2 hend.2
      have hemitted : emitted style depth (continuation (text :: next :: rest)) =
          style.placed depth (text ++ " \\") ++
            emitted style (depth + 0) (continuation (next :: rest)) := rfl
      rw [hemitted, placed_continued style depth hfeed.1, Int.add_zero]
      refine ⟨_, style.indentWidth.toNat * depth.toNat :: gaps, .cons ?_ hcontinued,
        by simp [hlength], ?_⟩
      · simpa using hindented
      · rw [gapped_cons, ← hcontent]
        simp [Style.toList_indentation, List.replicate_succ]

/-- A head is one line if its name and arguments are. -/
theorem not_mem_head {m : Macro} (hname : '\n' ∉ m.name.text.toList)
    (hargs : ∀ arg ∈ m.args, '\n' ∉ arg.toList) : '\n' ∉ m.head.toList := by
  have hlist : Code (· != '\n') (", ".intercalate m.args) := by
    refine Code.intercalate (by decide) fun arg harg c hc => ?_
    have hfeed : c ≠ '\n' := by
      rintro rfl
      exact hargs arg harg hc
    simpa using hfeed
  have hparens : '\n' ∉ (", ".intercalate m.args).toList := fun hmem => by
    simpa using hlist _ hmem
  rw [head]
  split
  · simpa using hname
  · simpa [hname] using hparens

theorem getLast?_head {m : Macro} (h : m.name.text.toList.getLast? ≠ some '\\') :
    m.head.toList.getLast? ≠ some '\\' := by
  rw [head]
  split
  · rw [String.append_empty]
    by_cases hempty : m.name.text = ""
    · simp [hempty]
    · rwa [getLast?_append_text _ hempty]
  · rw [getLast?_append_text _ (by simp), getLast?_append_text _ (by simp)]
    decide

theorem not_mem_valueLines (m : Macro) : ∀ line ∈ m.valueLines, '\n' ∉ line.toList := by
  intro line hline
  rw [valueLines] at hline
  split at hline
  · cases hline
  · obtain ⟨cs, hcs, rfl⟩ := List.mem_map.mp hline
    rw [String.toList_ofList]
    exact (Text.unbroken_lines _ cs hcs).1

theorem emitted_line (style : Style) (depth : Int) {text : String} (hne : text ≠ "")
    (hfeed : '\n' ∉ text.toList) :
    emitted style depth [.line text] = [style.indentation depth ++ text] := by
  rw [← style.placed_eq_singleton depth hne hfeed]
  exact List.append_nil _

/-- Where a value has several lines, the first one stands behind the head and the others stand
one level deeper. -/
theorem emitted_directive {m : Macro} {first : String} {rest : List String} (hrest : rest ≠ [])
    (hlines : m.valueLines = first :: rest) (hfeed : '\n' ∉ (m.head ++ " " ++ first).toList) :
    emitted style depth m.directive =
      (style.indentation depth ++ (m.head ++ " " ++ first) ++ " " ++ "\\") ::
        emitted style (depth + 1) (continuation rest) := by
  have hdirective : m.directive = [.line (m.head ++ " " ++ first ++ " \\"), .indent] ++
      continuation rest ++ [.outdent] := by
    obtain ⟨next, more, rfl⟩ := List.exists_cons_of_ne_nil hrest
    rw [directive, hlines]
  have hfirst : emitted style depth [.line (m.head ++ " " ++ first ++ " \\"), .indent] =
      style.placed depth (m.head ++ " " ++ first ++ " \\") := by
    simp [emitted, Step.added]
  rw [hdirective, emitted_append, emitted_append, hfirst, placed_continued style depth hfeed]
  simp [emitted, Step.added, Step.levels]

/-- What the lines of a definition are joined into: the head, then each line of the value. -/
theorem exists_continued_directive (style : Style) (depth : Int) {m : Macro}
    (hname : '\n' ∉ m.name.text.toList)
    (hnameEnd : m.name.text.toList.getLast? ≠ some '\\')
    (hargs : ∀ arg ∈ m.args, '\n' ∉ arg.toList)
    (hvalue : ∀ line ∈ m.valueLines, line.toList.getLast? ≠ some '\\') :
    ∃ gaps, gaps.length = m.valueLines.length ∧
      Continued (emitted style depth m.directive)
        ((style.indentation depth ++ m.head).toList ++ gapped gaps m.valueLines) := by
  have hindentation := (style.unbroken_indentation depth).1
  have hhead := not_mem_head hname hargs
  have hheadEmpty : m.head ≠ "" := by
    simp [head]
  have hfeeds := m.not_mem_valueLines
  cases hlines : m.valueLines with
  | nil =>
    have hemitted : emitted style depth m.directive = [style.indentation depth ++ m.head] := by
      rw [directive, hlines, emitted_line style depth hheadEmpty hhead]
    refine ⟨[], rfl, ?_⟩
    rw [hemitted, gapped, List.zipWith_nil_left, List.flatten_nil, List.append_nil]
    refine .single (by simp [hindentation, hhead]) ?_
    rw [getLast?_append_text _ hheadEmpty]
    exact getLast?_head hnameEnd
  | cons first rest =>
    cases rest with
    | nil =>
      rw [hlines, List.forall_mem_singleton] at hfeeds hvalue
      have hfeed : '\n' ∉ (m.head ++ " " ++ first).toList := by
        simp [hhead, hfeeds]
      have hemitted : emitted style depth m.directive =
          [style.indentation depth ++ (m.head ++ " " ++ first)] := by
        rw [directive, hlines]
        exact emitted_line style depth (by simp) hfeed
      have hcontent : (style.indentation depth ++ m.head).toList ++ gapped [0] [first] =
          (style.indentation depth ++ (m.head ++ " " ++ first)).toList := by
        simp [gapped]
      refine ⟨[0], rfl, ?_⟩
      rw [hemitted, hcontent]
      refine .single ?_ ?_
      · rw [String.toList_append, List.mem_append]
        exact not_or.mpr ⟨hindentation, hfeed⟩
      · rw [getLast?_append_text _ (by simp)]
        by_cases hempty : first = ""
        · simp [hempty]
        · rwa [getLast?_append_text _ hempty]
    | cons next rest =>
      rw [hlines, List.forall_mem_cons] at hfeeds hvalue
      have hfeed : '\n' ∉ (m.head ++ " " ++ first).toList := by
        simp [hhead, hfeeds.1]
      obtain ⟨content, gaps, hcontinued, hlength, hcontent⟩ :=
        exists_continued style (depth + 1) (by simp) hfeeds.2 hvalue.2
      have hwhole : (style.indentation depth ++ m.head).toList ++
            gapped (0 :: gaps) (first :: next :: rest) =
          (style.indentation depth ++ (m.head ++ " " ++ first) ++ " ").toList ++ content := by
        rw [gapped_cons, ← hcontent]
        simp
      refine ⟨0 :: gaps, by simp [hlength], ?_⟩
      rw [emitted_directive (by simp) hlines hfeed, hwhole]
      refine .cons ?_ hcontinued
      simpa [hindentation] using hfeed

/-- However many lines a definition has, they are one directive. Each line but the last is
continued by a backslash and the last one is not, and joined together they are the head of the
definition and the lines of its value in their order, with blanks and nothing else in between. -/
theorem one_directive {m : Macro} (l : Layout) (hname : '\n' ∉ m.name.text.toList)
    (hnameEnd : m.name.text.toList.getLast? ≠ some '\\')
    (hargs : ∀ arg ∈ m.args, '\n' ∉ arg.toList)
    (hvalue : ∀ line ∈ m.valueLines, line.toList.getLast? ≠ some '\\') :
    (0 < l.style.docWidth → ∃ top, l.run (docSteps m.doc) = .ok top) ∧
    ∀ top, l.run (docSteps m.doc) = .ok top →
      ∃ out own gaps, l.run m.steps = .ok out ∧ out.lines = top.lines ++ own ∧
        gaps.length = m.valueLines.length ∧
        Continued own
          ((l.style.indentation l.depth ++ "#define " ++ m.name.text ++
            (if m.args.isEmpty then "" else "(" ++ ", ".intercalate m.args ++ ")")).toList ++
            gapped gaps m.valueLines) := by
  refine ⟨fun hwidth => ⟨_, Layout.run_eq_ok hwidth _⟩, fun top htop => ?_⟩
  obtain ⟨hfits, rfl⟩ := Layout.run_eq_ok_iff.mp htop
  obtain ⟨gaps, hlength, hcontinued⟩ :=
    exists_continued_directive l.style l.depth hname hnameEnd hargs hvalue
  have hnested : Nested false (docSteps m.doc) := nested_docSteps m.doc
  have hlines : (l.writeAll m.steps).lines =
      (l.writeAll (docSteps m.doc)).lines ++ emitted l.style l.depth m.directive := by
    rw [steps_eq, Layout.writeAll_append,
      Layout.lines_writeAll_emitted _ fun s hs => (m.fits_directive l.style s hs).2,
      Layout.style_writeAll, Layout.depth_writeAll_of_nested hnested]
  have hrun : l.run m.steps = .ok (l.writeAll m.steps) := by
    refine Layout.run_eq_ok_iff.mpr ⟨fun s hs => ?_, rfl⟩
    rw [steps_eq, List.mem_append] at hs
    exact hs.elim (hfits s) fun hs => (m.fits_directive l.style s hs).1
  refine ⟨_, _, gaps, hrun, hlines, hlength, ?_⟩
  convert hcontinued using 2
  simp [head]

/-- An empty line in the middle of a value, and one at its end. -/
def swapMacro : Macro where
  id := 1
  name := ⟨"SWAP", by decide⟩
  args := ["a", "b"]
  value := some "first(a);\n\nlast(b);\n\n"

theorem one_directive_empty_lines :
    ∃ out gaps, Layout.run { style := {}, depth := 1 } swapMacro.steps = .ok out ∧
      out.lines =
        ["    #define SWAP(a, b) first(a); \\", "         \\", "        last(b); \\", ""] ∧
      gaps.length = 4 ∧
      Continued out.lines ("    #define SWAP(a, b)".toList ++
        gapped gaps ["first(a);", "", "last(b);", ""]) := by
  have hvalue : swapMacro.valueLines = ["first(a);", "", "last(b);", ""] := by decide
  obtain ⟨out, own, gaps, hrun, rfl, hlength, hcontinued⟩ :=
    (one_directive (m := swapMacro) { style := {}, depth := 1 } (by decide) (by decide) (by decide)
      (by rw [hvalue]; decide)).2 _ rfl
  rw [hvalue] at hlength hcontinued
  have hshown : (Layout.run { style := {}, depth := 1 } swapMacro.steps).toOption.map Layout.lines =
      some ["    #define SWAP(a, b) first(a); \\", "         \\", "        last(b); \\", ""] := by
    decide
  rw [hrun] at hshown
  exact ⟨out, gaps, hrun, Option.some.inj hshown, hlength, hcontinued⟩

end Macro

end CWriter

import CWriter.Proofs.Matched
import CWriter.Proofs.Notes.Scope

/-!
# Notes are inert

No text that documentation or a comment can hold changes a line of code, and no line that it is
laid out to can be read as code. The first part compares two runs through the code that the two
trees share; the second part looks at the lines of one run.
-/
namespace CWriter

/-- A comment line: the comment starts behind the indentation and ends with the line, which is
neither broken nor continued by a backslash. -/
def InertLine (line : String) : Prop :=
  ∃ (indentation : Nat) (rest : List Char),
    line.toList = List.replicate indentation ' ' ++ ['/', '/'] ++ rest ∧
      Text.Unbroken line.toList ∧ line.toList.getLast? ≠ some '\\'

theorem Style.unbroken_indentation (style : Style) (depth : Int) :
    Text.Unbroken (style.indentation depth).toList := by
  rw [style.toList_indentation]
  exact ⟨fun h => absurd (List.eq_of_mem_replicate h) (by decide),
    fun h => absurd (List.eq_of_mem_replicate h) (by decide)⟩

/-- What starts with a comment marker, is unbroken and does not end in a backslash stays so
behind its indentation. -/
theorem inertLine_of_mem_placed {style : Style} {depth : Int} {text line : String}
    {rest : List Char} (hmarker : text.toList = ['/', '/'] ++ rest)
    (hunbroken : Text.Unbroken text.toList) (hlast : text.toList.getLast? ≠ some '\\')
    (hline : line ∈ style.placed depth text) : InertLine line := by
  have hne : text ≠ "" := by
    rintro rfl
    simp at hmarker
  rw [style.placed_eq_singleton depth hne hunbroken.1, List.mem_singleton] at hline
  subst hline
  refine ⟨style.indentWidth.toNat * depth.toNat, rest, ?_, ?_, ?_⟩
  · rw [String.toList_append, style.toList_indentation, hmarker, List.append_assoc]
  · rw [String.toList_append]
    exact (style.unbroken_indentation depth).append hunbroken
  · have htext : text.toList ≠ [] := by
      rw [hmarker]
      simp
    rw [String.toList_append, List.getLast?_append_of_ne_nil _ htext]
    exact hlast

theorem commentLine_eq (marker : String) (text : List Char) :
    (commentLine marker text).toList =
      marker.toList ++ if text.isEmpty then [] else ' ' :: text := by
  rw [commentLine]
  split
  · exact (List.append_nil _).symm
  · simp

/-- Behind a marker, text that is unbroken and does not end in a backslash stays so. -/
theorem commentLine_inert {marker : String} (hm : marker = "//" ∨ marker = "///")
    {text : List Char} (hunbroken : Text.Unbroken text) (hlast : text.getLast? ≠ some '\\') :
    (∃ rest, (commentLine marker text).toList = ['/', '/'] ++ rest) ∧
      Text.Unbroken (commentLine marker text).toList ∧
      (commentLine marker text).toList.getLast? ≠ some '\\' := by
  have hmarker : ∃ more, marker.toList = ['/', '/'] ++ more ∧ Text.Unbroken marker.toList ∧
      marker.toList.getLast? = some '/' := by
    rcases hm with rfl | rfl
    · exact ⟨[], rfl, ⟨by decide, by decide⟩, rfl⟩
    · exact ⟨['/'], rfl, ⟨by decide, by decide⟩, rfl⟩
  obtain ⟨more, hstart, hmunbroken, hmlast⟩ := hmarker
  rw [commentLine_eq]
  refine ⟨⟨more ++ if text.isEmpty then [] else ' ' :: text, ?_⟩, hmunbroken.append ?_, ?_⟩
  · rw [hstart, List.append_assoc]
  · split
    · exact Text.unbroken_nil
    · exact hunbroken.cons (by decide)
  · cases text with
    | nil => simp [hmlast]
    | cons c text =>
      simpa using hlast

theorem commentTexts_inert {style : Style} {marker text : String}
    (hm : marker = "//" ∨ marker = "///") {depth : Int} {line : String}
    (hline : line ∈ (commentTexts style marker text).flatMap (style.placed depth)) :
    InertLine line := by
  obtain ⟨whole, hwhole, hline⟩ := List.mem_flatMap.mp hline
  cases hc : Text.commentLines style.docWidth text.toList with
  | none => simp [commentTexts, commentBlock, hc, Except.toOption] at hwhole
  | some ls =>
    simp only [commentTexts, commentBlock, hc, Except.toOption, Option.getD_some,
      List.mem_map] at hwhole
    obtain ⟨body, hbody, rfl⟩ := hwhole
    obtain ⟨hunbroken, hlast⟩ := Text.commentLines_inert hc body hbody
    obtain ⟨⟨rest, hstart⟩, hunbroken, hlast⟩ := commentLine_inert hm hunbroken hlast
    exact inertLine_of_mem_placed hstart hunbroken hlast hline

theorem ruleText_inert {style : Style} {depth : Int} {line : String}
    (hline : line ∈ style.placed depth (ruleText style depth)) : InertLine line := by
  generalize hn : (Layout.ruleLength style depth).toNat = n
  have hlong : 2 ≤ n := by
    rw [Layout.ruleLength] at hn
    omega
  have htext : (ruleText style depth).toList = List.replicate n '/' := by
    rw [ruleText, hn, String.toList_ofList]
  have hmarker : (ruleText style depth).toList = ['/', '/'] ++ List.replicate (n - 2) '/' := by
    obtain ⟨m, rfl⟩ := Nat.exists_eq_add_of_le' hlong
    rw [htext]
    rfl
  refine inertLine_of_mem_placed hmarker ?_ ?_ hline
  · rw [htext]
    exact ⟨fun h => absurd (List.eq_of_mem_replicate h) (by decide),
      fun h => absurd (List.eq_of_mem_replicate h) (by decide)⟩
  · rw [htext]
    intro h
    exact absurd (List.eq_of_mem_replicate (List.mem_of_getLast? h)) (by decide)

/-- In nested steps every line of a note is inert. -/
theorem inertLine_of_mem_trace {l : Layout} {inside : Bool} {steps : List Step}
    (hn : Nested inside steps) {s : Step} {line : String} (h : (s, line) ∈ l.trace steps)
    (hs : s.isNote = true) : InertLine line := by
  have hb : s.isBlank = false := by
    cases s <;> first | rfl | cases hs
  obtain ⟨hmem, depth, hline⟩ := Layout.exists_of_mem_trace h hb
  cases s with
  | comment marker text => exact commentTexts_inert (hn.comment_marker hmem) hline
  | rule => exact ruleText_inert hline
  | _ => cases hs

/-- Two scopes that have the same code are written with the same lines of code, whatever their
notes hold, and every line of a note is inert. -/
theorem Scope.notes_inert {style : Style} (h : style.Valid) {s t : Scope}
    (hcode : s.code = t.code) :
    ∃ ls lt : Layout,
      Layout.run { style } (s.steps style) = .ok ls ∧
      Layout.run { style } (t.steps style) = .ok lt ∧
      ls.lines = (Layout.trace { style } (s.steps style)).map Prod.snd ∧
      lt.lines = (Layout.trace { style } (t.steps style)).map Prod.snd ∧
      codeLines (Layout.trace { style } (s.steps style)) =
        codeLines (Layout.trace { style } (t.steps style)) ∧
      (∀ entry ∈ Layout.trace { style } (s.steps style), entry.1.isNote = true →
        InertLine entry.2) ∧
      ∀ entry ∈ Layout.trace { style } (t.steps style), entry.1.isNote = true →
        InertLine entry.2 := by
  have hwidth := h.docWidth_pos
  have hsteps : codeSteps (s.steps style) = codeSteps (t.steps style) := by
    rw [← s.codeSteps_code, hcode, t.codeSteps_code]
  refine ⟨_, _, Layout.run_eq_ok hwidth _, Layout.run_eq_ok hwidth _,
    Layout.lines_writeAll _ _, Layout.lines_writeAll _ _, ?_, ?_, ?_⟩
  · rw [Layout.codeLines_trace, Layout.codeLines_trace, hsteps]
  · exact fun entry hentry => inertLine_of_mem_trace (s.nested style false) hentry
  · exact fun entry hentry => inertLine_of_mem_trace (t.nested style false) hentry

/-- Documentation that tries to end its comment, to define a macro and to continue its line. -/
theorem Scope.notes_inert_hostile_text :
    ∃ s t : Scope,
      s = ⟨0, none, some ⟨1, [r"}" ++ "\r\n#define x \\"]⟩, [
        .comment { id := 2, text := "a\\ \n\tb" },
        .global { id := 3, name := ⟨"x", by decide⟩, doc := some ⟨4, ["y;\n"]⟩, type := .void }]⟩ ∧
      t = ⟨5, none, none, [
        .comment { id := 6 },
        .global { id := 7, name := ⟨"x", by decide⟩, type := .void }]⟩ ∧
      Style.Valid {} ∧ s.code = t.code ∧
      ∃ ls lt : Layout,
        Layout.run { style := {} } (s.steps {}) = .ok ls ∧
        Layout.run { style := {} } (t.steps {}) = .ok lt ∧
        ls.lines = [r"/// }", "/// #define x \\ //", "", "// a\\ //", "//     b", "", "/// y;",
          "void x;"] ∧
        lt.lines = ["//", "", "void x;"] := by
  have hvalid : Style.Valid {} := ⟨by decide, by decide, by decide, by decide⟩
  refine ⟨_, _, rfl, rfl, hvalid, rfl, (notes_inert hvalid ?hcode).imp fun ls h =>
    h.imp fun lt h => ⟨h.1, h.2.1, h.2.2.1.trans ?hls, h.2.2.2.1.trans ?hlt⟩⟩
  case hcode => rfl
  case hls => decide +kernel
  case hlt => decide +kernel

end CWriter

import CWriter.Build.Records
import CWriter.Proofs.Anchored
import CWriter.Proofs.Edits
import CWriter.Proofs.Layout.Trace
import CWriter.Proofs.Notes.Inert

/-!
# Remarks that are written as they are given

The remark behind an inclusion and the tags in front of a record are not cut or closed as the lines
of a comment are. A tag is an identifier, so it stays on one line. Nothing keeps a remark from
holding a line feed, and nothing keeps either of them from ending in a backslash. The statement
below says for which texts they are as harmless as a comment, and that tags add lines of their own
and change no others.
-/
namespace CWriter

theorem length_splitWhere (p : Char → Bool) (cs : List Char) :
    (Text.splitWhere p cs).length = cs.countP p + 1 := by
  induction cs with
  | nil => rfl
  | cons c cs ih =>
    rw [Text.splitWhere, List.countP_cons]
    by_cases hc : p c = true
    · rw [if_pos hc, if_pos hc, List.length_cons, ih]
    · rw [if_neg hc, if_neg hc]
      obtain ⟨piece, rest, hpieces⟩ := List.exists_cons_of_ne_nil (Text.splitWhere_ne_nil p cs)
      rw [hpieces] at ih ⊢
      exact ih

/-- A text that holds no line feed is one line, and the line ends as the text does. -/
theorem Style.exists_placed_eq_singleton_iff (style : Style) (depth : Int) {text : String}
    (hne : text ≠ "") (c : Char) :
    (∃ line, style.placed depth text = [line] ∧ line.toList.getLast? ≠ some c) ↔
      '\n' ∉ text.toList ∧ text.toList.getLast? ≠ some c := by
  have hlast : (style.indentation depth ++ text).toList.getLast? = text.toList.getLast? := by
    rw [String.toList_append, List.getLast?_append_of_ne_nil _ (by simpa using hne)]
  constructor
  · rintro ⟨line, hline, hc⟩
    have hfeed : '\n' ∉ text.toList := fun hfeed => by
      have hlength := congrArg List.length hline
      rw [Style.placed, List.length_map, length_splitWhere, List.length_singleton] at hlength
      have hnone : ∀ c ∈ text.toList, ¬(c == '\n') = true := List.countP_eq_zero.mp (by omega)
      exact hnone '\n' hfeed rfl
    rw [style.placed_eq_singleton depth hne hfeed, List.singleton_inj] at hline
    rw [← hline, hlast] at hc
    exact ⟨hfeed, hc⟩
  · rintro ⟨hfeed, hc⟩
    refine ⟨_, style.placed_eq_singleton depth hne hfeed, ?_⟩
    rwa [hlast]

namespace Include

/-- What is included is one line, and its end is a mark of its own. -/
theorem directive_ends (i : Include) : '\n' ∉ ("#include " ++ i.target).toList ∧
    ("#include " ++ i.target).toList.getLast? ≠ some '\\' := by
  have hdirective : '\n' ∉ "#include ".toList := by decide
  have hpath : '\n' ∉ i.path.text.toList := i.path.acceptable.2.1
  have htarget : ∃ front last, i.target.toList = front ++ [last] ∧ '\n' ∉ front ++ [last] ∧
      last ≠ '\\' := by
    rw [target]
    split
    · exact ⟨'<' :: i.path.text.toList, '>', by simp, by simp [hpath], by decide⟩
    · exact ⟨'"' :: i.path.text.toList, '"', by simp, by simp [hpath], by decide⟩
  obtain ⟨front, last, hfront, hfeed, hlast⟩ := htarget
  rw [String.toList_append, hfront]
  refine ⟨fun h => (List.mem_append.mp h).elim hdirective hfeed, ?_⟩
  rw [← List.append_assoc, List.getLast?_concat]
  simpa using hlast

/-- Whether an inclusion is one line that is not continued is up to its remark. -/
theorem ends_iff (i : Include) :
    '\n' ∉ ("#include " ++ i.target ++ i.remark).toList ∧
        ("#include " ++ i.target ++ i.remark).toList.getLast? ≠ some '\\' ↔
      ∀ text, i.comment = some text →
        '\n' ∉ text.toList ∧ text.toList.getLast? ≠ some '\\' := by
  have hends := i.directive_ends
  cases hcomment : i.comment with
  | none =>
    have hremark : i.remark = "" := by
      rw [remark, hcomment]
    rw [hremark, String.append_empty]
    exact ⟨fun _ text htext => (by cases htext), fun _ => hends⟩
  | some text =>
    simp only [Option.some.injEq, forall_eq']
    by_cases hempty : text = ""
    · have hremark : i.remark = "" := by
        rw [remark, hcomment, hempty]
        rfl
      rw [hremark, hempty, String.append_empty]
      exact ⟨fun _ => ⟨by decide, by decide⟩, fun _ => hends⟩
    · have hremark : i.remark = "  // " ++ text := by
        rw [remark, hcomment]
        exact if_neg (by simpa using hempty)
      have hmarker : '\n' ∉ "  // ".toList := by decide
      rw [hremark, ← String.append_assoc, String.toList_append, String.toList_append,
        List.getLast?_append_of_ne_nil _ (by simpa using hempty)]
      simp only [List.mem_append, hends.1, hmarker, false_or]

end Include

/-- What a tag is kept as: its text, or the fixed word that it is. -/
def Value.remark : Value → Remark
  | .word w => .word w
  | v => .text v.plainText

namespace Record

theorem acceptable_word (w : Word) : Identifier.Acceptable w.shown := by
  cases w with
  | visibility v => cases v <;> decide +kernel
  | tag t => cases t <;> decide +kernel
  | builtin kind =>
    rcases kind with _ | kind
    · decide +kernel
    · cases kind <;> decide +kernel

/-- A tag that is accepted is added behind the others. -/
theorem annotate_ok {v : Value} {r tagged : Record} {ledger last : Ledger}
    (h : annotate v r ledger = ((.ok (), tagged), last)) :
    tagged = { r with annotations := r.annotations ++ [v.remark] } ∧
      Identifier.Acceptable v.remark.shown := by
  by_cases htrue : v.countsAsTrue = true
  · cases hcheck : Identifier.check v.plainText with
    | error fault =>
      have hrefused : annotate v r ledger = ((.error (.identifier fault), r), ledger) := by
        rw [annotate, Edit.identifierArg, if_pos htrue, hcheck]
        rfl
      cases hrefused.symm.trans h
    | ok tag =>
      have htext : tag.text = v.plainText := Identifier.check_eq_ok_iff.mp hcheck
      have hadded : annotate v r ledger =
          ((.ok (), { r with annotations := r.annotations ++ [v.remark] }), ledger) := by
        rw [annotate, Edit.identifierArg, if_pos htrue, hcheck]
        cases v with
        | word w => rfl
        | _ =>
          simp only [Value.remark, ← htext]
          rfl
      cases hadded.symm.trans h
      refine ⟨rfl, ?_⟩
      have hplain : Identifier.Acceptable v.plainText := htext ▸ tag.acceptable
      cases v with
      | word w => exact acceptable_word w
      | _ => exact hplain
  · have hrefused : annotate v r ledger = ((.error (.identifier .blank), r), ledger) := by
      rw [annotate, Edit.identifierArg, if_neg htrue]
      rfl
    cases hrefused.symm.trans h

/-- Tags that are accepted one after the other are added in their order. -/
theorem annotateAll_ok {tags : List Value} {r tagged : Record} {ledger last : Ledger}
    (h : tags.forM annotate r ledger = ((.ok (), tagged), last)) :
    tagged = { r with annotations := r.annotations ++ tags.map Value.remark } ∧
      ∀ v ∈ tags, Identifier.Acceptable v.remark.shown := by
  induction tags generalizing r ledger with
  | nil =>
    cases h
    exact ⟨by simp, by simp⟩
  | cons v tags ih =>
    change (annotate v >>= fun _ => tags.forM annotate) r ledger = _ at h
    rcases hr : annotate v r ledger with ⟨⟨result, between⟩, middle⟩
    cases result with
    | error fault =>
      rw [Edit.bind_of_error hr] at h
      cases h
    | ok _ =>
      obtain ⟨rfl, hacceptable⟩ := annotate_ok hr
      rw [Edit.bind_of_ok hr] at h
      obtain ⟨rfl, hall⟩ := ih h
      exact ⟨by simp, List.forall_mem_cons.mpr ⟨hacceptable, hall⟩⟩

end Record

/-- The line of a tag. -/
def Value.tagLine (style : Style) (depth : Int) (v : Value) : String :=
  style.indentation depth ++ ("/// @" ++ v.remark.shown)

theorem Value.unbroken_tagLine (style : Style) (depth : Int) {v : Value}
    (h : Identifier.Acceptable v.remark.shown) : Text.Unbroken (v.tagLine style depth).toList := by
  have hmarker : Text.Unbroken "/// @".toList := ⟨by decide, by decide⟩
  rw [tagLine, String.toList_append, String.toList_append]
  exact (style.unbroken_indentation depth).append (hmarker.append h.2)

/-- A tag is not empty, so its line ends as it does. -/
theorem Value.getLast?_tagLine (style : Style) (depth : Int) {v : Value}
    (h : Identifier.Acceptable v.remark.shown) :
    (v.tagLine style depth).toList.getLast? = v.remark.shown.toList.getLast? := by
  have hne : v.remark.shown.toList ≠ [] := fun hnil => by
    have hblank := h.1
    rw [hnil] at hblank
    cases hblank
  rw [tagLine, String.toList_append, String.toList_append, ← List.append_assoc,
    List.getLast?_append_of_ne_nil _ hne]

/-- The line of a tag is as harmless as that of a comment, up to a backslash at its end. -/
theorem Value.inertLine_tagLine_iff (style : Style) (depth : Int) {v : Value}
    (h : Identifier.Acceptable v.remark.shown) :
    InertLine (v.tagLine style depth) ↔ v.remark.shown.toList.getLast? ≠ some '\\' := by
  rw [← v.getLast?_tagLine style depth h]
  constructor
  · rintro ⟨_, _, _, _, hlast⟩
    exact hlast
  · intro hlast
    refine ⟨style.indentWidth.toNat * depth.toNat, ['/', ' ', '@'] ++ v.remark.shown.toList, ?_,
      v.unbroken_tagLine style depth h, hlast⟩
    rw [tagLine, String.toList_append, style.toList_indentation, String.toList_append]
    simp

namespace Layout

/-- Each tag adds its line, and the depth stays. -/
theorem writeAll_tags {tags : List Value} (h : ∀ v ∈ tags, Identifier.Acceptable v.remark.shown)
    (l : Layout) :
    (l.writeAll ((tags.map Value.remark).map Remark.step)).depth = l.depth ∧
      (l.writeAll ((tags.map Value.remark).map Remark.step)).lines =
        l.lines ++ tags.map (Value.tagLine l.style l.depth) := by
  induction tags generalizing l with
  | nil => exact ⟨rfl, (List.append_nil _).symm⟩
  | cons v tags ih =>
    obtain ⟨hv, htags⟩ := List.forall_mem_cons.mp h
    have hmarker : Text.Unbroken "/// @".toList := ⟨by decide, by decide⟩
    have hplaced : l.style.placed l.depth ("/// @" ++ v.remark.shown) =
        [v.tagLine l.style l.depth] := by
      refine l.style.placed_eq_singleton l.depth (by simp) ?_
      rw [String.toList_append]
      exact (hmarker.append hv.2).1
    have hline : l.line ("/// @" ++ v.remark.shown) = { l with
        newest := v.tagLine l.style l.depth :: l.newest
        opened := false } := by
      rw [line_eq, hplaced]
      rfl
    have hstep : ((v :: tags).map Value.remark).map Remark.step =
        .line ("/// @" ++ v.remark.shown) :: (tags.map Value.remark).map Remark.step := rfl
    obtain ⟨hdepth, hlines⟩ := ih htags (l.line ("/// @" ++ v.remark.shown))
    rw [hstep, writeAll_cons]
    refine ⟨hdepth, ?_⟩
    rw [write, hlines, hline]
    simp [lines]

/-- Behind a line that is surely written nothing depends on what stands above it. -/
theorem writeAll_cons_of_marks {s : Step} (h : s.marks = true) (l : Layout) (rest : List Step) :
    l.writeAll (s :: rest) =
      (Layout.writeAll { style := l.style, depth := l.depth } (s :: rest)).below l.newest := by
  rw [← writeAll_below (Or.inl (anchored_cons_of_marks h rest)), writeAll_cons, writeAll_cons]
  congr 1
  cases s with
  | line | label | openBlock => simp [write, below, line_eq, label, openBlock, move, append]
  | _ => cases h

end Layout

/-- Behind its documentation and its tags a record starts with a line that is not empty. -/
theorem Record.exists_steps (r : Record) : ∃ first rest, first.marks = true ∧
    ∀ annotations : List Remark, { r with annotations }.steps =
      docSteps r.doc ++ annotations.map Remark.step ++ first :: rest := by
  by_cases hfields : r.fields.isEmpty = true
  · refine ⟨.line (r.header ++ ";"), [], by simp [Step.marks, header], fun annotations => ?_⟩
    rw [steps, if_pos hfields]
    rfl
  · refine ⟨.openBlock r.header r"{", r.fields.flatMap RecordField.steps ++ [.closeBlock r"};"],
      Step.marks_openBlock r.header, fun annotations => ?_⟩
    rw [steps, if_neg hfields]
    rfl

/-- Tags stand between the lines of the documentation and all that is written later, and change
neither. -/
theorem Record.exists_lines (r : Record) (l : Layout) (more : List Step) :
    ∃ above below, ∀ tags : List Value, (∀ v ∈ tags, Identifier.Acceptable v.remark.shown) →
      (l.writeAll ({ r with annotations := tags.map Value.remark }.steps ++ more)).lines =
        l.lines ++ above ++ tags.map (Value.tagLine l.style l.depth) ++ below := by
  obtain ⟨first, rest, hmarks, hsteps⟩ := r.exists_steps
  refine ⟨(l.trace (docSteps r.doc)).map Prod.snd,
    (Layout.writeAll { style := l.style, depth := l.depth } (first :: rest ++ more)).lines,
    fun tags htags => ?_⟩
  have hdepth := Layout.depth_writeAll_of_nested (nested_docSteps r.doc : Nested false _) l
  have hstyle := l.style_writeAll (docSteps r.doc)
  have hlines := l.lines_writeAll (docSteps r.doc)
  rw [hsteps, List.append_assoc, List.append_assoc, Layout.writeAll_append]
  generalize l.writeAll (docSteps r.doc) = top at hdepth hstyle hlines
  obtain ⟨hdepth', hlines'⟩ := top.writeAll_tags htags
  have hstyle' := top.style_writeAll ((tags.map Value.remark).map Remark.step)
  rw [Layout.writeAll_append]
  generalize top.writeAll ((tags.map Value.remark).map Remark.step) = l' at hdepth' hlines' hstyle'
  rw [List.cons_append, Layout.writeAll_cons_of_marks hmarks, hstyle', hdepth', hstyle, hdepth]
  rw [hstyle, hdepth, hlines] at hlines'
  rw [← hlines']
  simp [Layout.lines, Layout.below]

/-- An inclusion is one line that does not end in a backslash exactly if its remark holds no line
feed and does not end in one. Tags that a record accepts are one line each between the lines of
its documentation and the others; what is written behind them is the same lines as without them.
The line of a tag holds no line break, and it is a comment line that is not continued exactly if
the tag does not end in a backslash. -/
theorem Layout.lines_of_remarks {l : Layout} (hstyle : l.style.Valid) :
    (∀ i : Include, ∃ out new, l.run i.steps = .ok out ∧ out.lines = l.lines ++ new ∧
      ((∃ line, new = [line] ∧ line.toList.getLast? ≠ some '\\') ↔
        ∀ text, i.comment = some text →
          '\n' ∉ text.toList ∧ text.toList.getLast? ≠ some '\\')) ∧
    ∀ (r tagged : Record) (tags : List Value) (ledger last : Ledger),
      tags.forM Record.annotate { r with annotations := [] } ledger = ((.ok (), tagged), last) →
      (∀ more : List Step, ∃ plain out above below,
        l.run ({ r with annotations := [] }.steps ++ more) = .ok plain ∧
        l.run (tagged.steps ++ more) = .ok out ∧
        plain.lines = l.lines ++ above ++ below ∧
        out.lines = l.lines ++ above ++ tags.map (Value.tagLine l.style l.depth) ++ below) ∧
      ∀ v ∈ tags, Text.Unbroken (v.tagLine l.style l.depth).toList ∧
        (InertLine (v.tagLine l.style l.depth) ↔
          v.remark.shown.toList.getLast? ≠ some '\\') := by
  have hwidth := hstyle.docWidth_pos
  refine ⟨fun i => ?_, fun r tagged tags ledger last haccepted => ?_⟩
  · have hne : "#include " ++ i.target ++ i.remark ≠ "" := by simp
    refine ⟨_, _, rfl, l.lines_write (.line ("#include " ++ i.target ++ i.remark)), ?_⟩
    exact (l.style.exists_placed_eq_singleton_iff l.depth hne '\\').trans i.ends_iff
  · obtain ⟨rfl, hacceptable⟩ := Record.annotateAll_ok haccepted
    refine ⟨fun more => ?_, fun v hv => ⟨v.unbroken_tagLine _ _ (hacceptable v hv),
      v.inertLine_tagLine_iff _ _ (hacceptable v hv)⟩⟩
    obtain ⟨above, below, hlines⟩ := r.exists_lines l more
    refine ⟨_, _, above, below, run_eq_ok hwidth _, run_eq_ok hwidth _, ?_,
      hlines tags hacceptable⟩
    simpa using hlines [] (by simp)

/-- A struct in front of which a text and a fixed word are put. -/
theorem Layout.lines_of_remarks_word :
    ∃ r tagged : Record,
      r = { id := 1, name := ⟨"point", by decide⟩, doc := some ⟨2, ["A point."]⟩, kind := .struct,
            annotations := [] } ∧
      Style.Valid {} ∧
      [Value.str "packed \\ 1", .word (.tag .union)].forM Record.annotate r {} =
        ((.ok (), tagged), {}) ∧
      ∃ plain out above below,
        Layout.run { style := {} } (r.steps ++ [.line "next"]) = .ok plain ∧
        Layout.run { style := {} } (tagged.steps ++ [.line "next"]) = .ok out ∧
        plain.lines = above ++ below ∧
        plain.lines = ["/// A point.", "struct point;", "next"] ∧
        out.lines = above ++ ["/// @packed \\ 1", "/// @TypeTag.UNION"] ++ below := by
  have hvalid : Style.Valid {} := ⟨by decide, by decide, by decide, by decide⟩
  refine ⟨_, _, rfl, hvalid, rfl, ?_⟩
  obtain ⟨plain, out, above, below, hplain, hout, hplainLines, houtLines⟩ :=
    ((lines_of_remarks (l := { style := {} }) hvalid).2
      { id := 1, name := ⟨"point", by decide⟩, doc := some ⟨2, ["A point."]⟩, kind := .struct }
      _ [.str "packed \\ 1", .word (.tag .union)] {} {} rfl).1 [.line "next"]
  have htags : [Value.str "packed \\ 1", .word (.tag .union)].map (Value.tagLine {} 0) =
      ["/// @packed \\ 1", "/// @TypeTag.UNION"] := by decide +kernel
  refine ⟨plain, out, above, below, hplain, hout, hplainLines, ?_, htags ▸ houtLines⟩
  cases hplain
  decide +kernel

/-- Remarks that continue their line or go on behind it, and a tag that takes the record for its
own. -/
theorem Layout.lines_of_remarks_backslash :
    (∃ i : Include, i.comment = some "x\\" ∧ ∃ out, Layout.run { style := {} } i.steps = .ok out ∧
      out.lines = ["#include \"a.h\"  // x\\"]) ∧
    (∃ i : Include, i.comment = some "a\nb" ∧ ∃ out, Layout.run { style := {} } i.steps = .ok out ∧
      out.lines = ["#include \"a.h\"  // a", "b"]) ∧
    ∃ r tagged : Record, Record.annotate (.str "x\\") r {} = ((.ok (), tagged), {}) ∧
      ∃ out, Layout.run { style := {} } tagged.steps = .ok out ∧
        out.lines = ["/// @x\\", "struct s;"] := by
  refine ⟨⟨⟨1, ⟨"a.h", by decide⟩, false, _⟩, rfl, _, rfl, by decide +kernel⟩,
    ⟨⟨1, ⟨"a.h", by decide⟩, false, _⟩, rfl, _, rfl, by decide +kernel⟩,
    { id := 1, name := ⟨"s", by decide⟩, kind := .struct }, _, rfl, _, rfl, by decide +kernel⟩

end CWriter

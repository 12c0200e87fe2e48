import CWriter.Proofs.Layout.Writing
import CWriter.Proofs.Notes.Text
import Mathlib.Data.List.Induction

/-!
# The lines of a text

A line ends at a line feed. The text of a layout has the lines of the layout, each of them broken
where it holds line feeds, up to the blank lines at the end: these are trimmed to one.
-/
namespace CWriter

namespace Text

theorem consHead_append (c : Char) {first : List (List Char)} (h : first ≠ [])
    (second : List (List Char)) : consHead c (first ++ second) = consHead c first ++ second := by
  cases first with
  | nil => exact absurd rfl h
  | cons piece rest => rfl

theorem splitWhere_append {p : Char → Bool} {c : Char} (hc : p c = true)
    (first second : List Char) :
    splitWhere p (first ++ c :: second) = splitWhere p first ++ splitWhere p second := by
  induction first with
  | nil =>
    rw [List.nil_append, splitWhere, splitWhere, hc]
    rfl
  | cons d first ih =>
    rw [List.cons_append, splitWhere, splitWhere, ih]
    split
    · rfl
    · exact consHead_append d (splitWhere_ne_nil p first) _

/-- The pieces of a text hold none of the characters that it is cut at. -/
theorem mem_of_mem_splitWhere {p : Char → Bool} (cs : List Char) :
    ∀ piece ∈ splitWhere p cs, ∀ c ∈ piece, c ∈ cs ∧ p c = false := by
  induction cs with
  | nil => simp [splitWhere]
  | cons d cs ih =>
    have hrest : ∀ piece ∈ splitWhere p cs, ∀ c ∈ piece, c ∈ d :: cs ∧ p c = false :=
      fun piece hp c hc => ⟨List.mem_cons_of_mem d (ih piece hp c hc).1, (ih piece hp c hc).2⟩
    rw [splitWhere]
    split
    · exact List.forall_mem_cons.mpr ⟨by simp, hrest⟩
    · rename_i hd
      have hplain : p d = false := by simpa using hd
      exact forall_mem_consHead (by simp)
        (fun piece h => List.forall_mem_cons.mpr ⟨⟨by simp, hplain⟩, h⟩) hrest

/-- The last piece of a text that does not end where it is cut. -/
theorem exists_splitWhere_concat {p : Char → Bool} {c : Char} (hc : p c = false)
    (cs : List Char) : ∃ front piece, splitWhere p (cs ++ [c]) = front ++ [piece ++ [c]] := by
  induction cs with
  | nil => exact ⟨[], [], by simp [splitWhere, consHead, hc]⟩
  | cons d cs ih =>
    obtain ⟨front, piece, hpieces⟩ := ih
    rw [List.cons_append, splitWhere, hpieces]
    by_cases hd : p d = true
    · exact ⟨[] :: front, piece, by rw [if_pos hd, List.cons_append]⟩
    · rw [if_neg hd]
      cases front with
      | nil => exact ⟨[], d :: piece, rfl⟩
      | cons first front => exact ⟨(d :: first) :: front, piece, rfl⟩

end Text

/-- The last line of a text ends as the text does. -/
theorem Style.exists_placed_concat (style : Style) (depth : Int) {text : String} {cs : List Char}
    {c : Char} (htext : text.toList = cs ++ [c]) (hc : c ≠ '\n') :
    ∃ front line, style.placed depth text = front ++ [line] ∧ line.toList.getLast? = some c := by
  obtain ⟨front, piece, hpieces⟩ :=
    Text.exists_splitWhere_concat (p := (· == '\n')) (by simpa using hc) cs
  rw [placed, htext, hpieces, List.map_append, List.map_singleton]
  exact ⟨_, _, rfl, by simp⟩

/-- The lines of a text: one more than it has line feeds. -/
def textLines (s : String) : List String :=
  (Text.splitWhere (· == '\n') s.toList).map String.ofList

theorem textLines_eq_singleton {s : String} (h : '\n' ∉ s.toList) : textLines s = [s] := by
  rw [textLines, splitWhere_feed h, List.map_singleton, String.ofList_toList]

theorem textLines_append (first second : String) :
    textLines (first ++ "\n" ++ second) = textLines first ++ textLines second := by
  have hlist : (first ++ "\n" ++ second).toList = first.toList ++ '\n' :: second.toList := by
    simp
  rw [textLines, hlist, Text.splitWhere_append rfl, List.map_append]
  rfl

theorem textLines_intercalate {ls : List String} (h : ls ≠ []) :
    textLines ("\n".intercalate ls) = ls.flatMap textLines := by
  induction ls with
  | nil => exact absurd rfl h
  | cons line rest ih =>
    cases rest with
    | nil => rw [String.intercalate_singleton, List.flatMap_singleton]
    | cons next rest =>
      rw [String.intercalate_cons_cons, textLines_append, ih (List.cons_ne_nil _ _)]
      exact List.flatMap_cons.symm

/-- Where some line is not empty, one of these is the last. -/
theorem exists_last_full {ls : List String} (h : ∃ line ∈ ls, line ≠ "") :
    ∃ kept last n, ls = kept ++ [last] ++ List.replicate n "" ∧ last ≠ "" := by
  induction ls using List.reverseRecOn with
  | nil => simp at h
  | append_singleton ls line ih =>
    by_cases hline : line = ""
    · have hrest : ∃ line ∈ ls, line ≠ "" := by
        simpa [hline] using h
      obtain ⟨kept, last, n, hls, hlast⟩ := ih hrest
      refine ⟨kept, last, n + 1, ?_, hlast⟩
      rw [hls, hline, List.replicate_succ', List.append_assoc _ (List.replicate n "")]
    · exact ⟨ls, line, 0, by simp, hline⟩

namespace Layout

theorem isEmpty_iff {l : Layout} : l.isEmpty = true ↔ l.lines = [] := by
  simp [lines, isEmpty]

theorem exists_trimFeeds (s : String) :
    ∃ n, s.toList = (trimFeeds s).toList ++ List.replicate n '\n' := by
  rw [trimFeeds, String.toList_ofList]
  exact Text.exists_append_replicate '\n' s.toList

/-- Line feeds behind a text that does not end in one are all trimmed. -/
theorem trimFeeds_append_feeds {s : String} (h : s.toList.getLast? ≠ some '\n') (n : Nat) :
    trimFeeds (s ++ String.ofList (List.replicate n '\n')) = s := by
  have hkeep : s.toList.reverse.dropWhile (· == '\n') = s.toList.reverse := by
    rw [← List.head?_reverse] at h
    cases hreverse : s.toList.reverse with
    | nil => rfl
    | cons c rest =>
      rw [hreverse, List.head?_cons, Ne, Option.some_inj] at h
      rw [List.dropWhile_cons_of_neg (by simpa using h)]
  rw [trimFeeds, String.toList_append, String.toList_ofList, List.reverse_append,
    List.reverse_replicate, List.dropWhile_append_of_pos (by simp), hkeep, List.reverse_reverse,
    String.ofList_toList]

/-- Line feeds at the end make blank lines. -/
theorem textLines_eq_trimFeeds (s : String) :
    ∃ n, textLines s = textLines (trimFeeds s) ++ List.replicate n "" := by
  have hfeeds : ∀ (cs : List Char) (n : Nat),
      Text.splitWhere (· == '\n') (cs ++ List.replicate n '\n') =
        Text.splitWhere (· == '\n') cs ++ List.replicate n [] := by
    intro cs n
    induction n with
    | zero => simp
    | succ n ih =>
      rw [List.replicate_succ', ← List.append_assoc, Text.splitWhere_append rfl, ih,
        List.append_assoc, List.replicate_succ']
      rfl
  obtain ⟨n, hs⟩ := exists_trimFeeds s
  refine ⟨n, ?_⟩
  rw [textLines, hs, hfeeds, List.map_append, List.map_replicate]
  rfl

theorem intercalate_append_blanks {ls : List String} (h : ls ≠ []) (n : Nat) :
    "\n".intercalate (ls ++ List.replicate n "") =
      "\n".intercalate ls ++ String.ofList (List.replicate n '\n') := by
  induction n with
  | zero => simp
  | succ n ih =>
    rw [List.replicate_succ', ← List.append_assoc,
      String.intercalate_append_of_ne_nil (by simp [h]) (List.cons_ne_nil _ _), ih,
      String.intercalate_singleton, List.replicate_succ', String.ofList_append,
      String.append_empty, String.append_assoc]

/-- Behind the last line that is not empty the text is closed by one line feed. -/
theorem text_eq_of_lines {l : Layout} {kept : List String} {last : String} {n : Nat}
    (hlines : l.lines = kept ++ [last] ++ List.replicate n "") (hne : last ≠ "")
    (hfeed : '\n' ∉ last.toList) :
    l.text = "\n".intercalate (kept ++ [last]) ++ "\n" := by
  have hlast : ("\n".intercalate (kept ++ [last])).toList.getLast? ≠ some '\n' := by
    have hends : last.toList.getLast? ≠ some '\n' := fun hc => hfeed (List.mem_of_getLast? hc)
    by_cases hkept : kept = []
    · rwa [hkept, List.nil_append, String.intercalate_singleton]
    · rwa [String.intercalate_append_of_ne_nil hkept (List.cons_ne_nil _ _),
        String.intercalate_singleton, String.toList_append,
        List.getLast?_append_of_ne_nil _ (by simpa using hne)]
  have hempty : ¬l.isEmpty = true := by
    simp [isEmpty_iff, hlines]
  rw [text, if_neg hempty, hlines, intercalate_append_blanks (by simp),
    trimFeeds_append_feeds hlast]

/-- The text has the lines of the layout, but for the blank ones at the end. -/
theorem exists_textLines_text (l : Layout) :
    ∃ kept n, l.lines.flatMap textLines = kept ++ List.replicate n "" ∧
      textLines l.text = kept ++ [""] := by
  by_cases hempty : l.lines = []
  · refine ⟨[], 0, ?_, ?_⟩
    · rw [hempty]
      rfl
    · rw [text, if_pos (isEmpty_iff.mpr hempty)]
      rfl
  · have hnewest : ¬l.isEmpty = true := mt isEmpty_iff.mp hempty
    obtain ⟨n, hlines⟩ := textLines_eq_trimFeeds ("\n".intercalate l.lines)
    refine ⟨textLines (trimFeeds ("\n".intercalate l.lines)), n, ?_, ?_⟩
    · rw [← textLines_intercalate hempty, hlines]
    · rw [text, if_neg hnewest]
      have happend := textLines_append (trimFeeds ("\n".intercalate l.lines)) ""
      rw [String.append_empty] at happend
      exact happend

end Layout

end CWriter

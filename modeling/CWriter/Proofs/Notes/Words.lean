import CWriter.Build.Notes
import CWriter.Proofs.Notes.Text
import Mathlib.Data.List.Chain
import Mathlib.Data.List.Forall2
import Mathlib.Data.List.TakeWhile

/-!
# Wrapping keeps words

Comment text is cut at line breaks, its tabs are expanded, the blanks at the ends of its lines
are trimmed, and what is left is cut into chunks that fill new lines. None of this loses a word,
makes one of two, or changes their order. The argument is the same at each stage: what is cut
or dropped is blank, so a cut never runs through a word. How wide the lines are is not looked at.
-/
namespace CWriter

namespace Text

/-- The words of a text: what stands between blanks. -/
def wordsOf (cs : List Char) : List (List Char) :=
  (cs.splitOnP isBlank).filter (!·.isEmpty)

theorem words_eq : words = fun s => (wordsOf s.toList).map String.ofList := rfl

theorem wordsOf_nil : wordsOf [] = [] := by simp [wordsOf]

/-- A blank parts the words in front of it from those behind. -/
theorem wordsOf_append_blank {c : Char} (hc : isBlank c = true) (before behind : List Char) :
    wordsOf (before ++ c :: behind) = wordsOf before ++ wordsOf behind := by
  rw [wordsOf, List.splitOnP_append_cons _ _ hc, List.filter_append]
  rfl

theorem wordsOf_cons_blank {c : Char} (hc : isBlank c = true) (cs : List Char) :
    wordsOf (c :: cs) = wordsOf cs := by
  have happend := wordsOf_append_blank hc [] cs
  rwa [wordsOf_nil, List.nil_append, List.nil_append] at happend

/-- So does a run of blanks. -/
theorem wordsOf_append_allBlank {blanks : List Char} (hb : allBlank blanks = true)
    (before behind : List Char) (hne : blanks ≠ []) :
    wordsOf (before ++ (blanks ++ behind)) = wordsOf before ++ wordsOf behind := by
  have hfront : ∀ cs : List Char, allBlank cs = true → wordsOf (cs ++ behind) = wordsOf behind := by
    intro cs hcs
    induction cs with
    | nil => rfl
    | cons c cs ih =>
      rw [allBlank, List.all_cons, Bool.and_eq_true] at hcs
      rw [List.cons_append, wordsOf_cons_blank hcs.1, ih hcs.2]
  cases blanks with
  | nil => exact absurd rfl hne
  | cons c cs =>
    rw [allBlank, List.all_cons, Bool.and_eq_true] at hb
    rw [List.cons_append, wordsOf_append_blank hb.1, hfront cs hb.2]

theorem wordsOf_eq_nil {cs : List Char} (h : allBlank cs = true) : wordsOf cs = [] := by
  by_cases hne : cs = []
  · rw [hne, wordsOf_nil]
  · simpa [wordsOf_nil] using wordsOf_append_allBlank h [] [] hne

/-- A text that does not end in a blank has words, unless it is empty. -/
theorem wordsOf_ne_nil {cs : List Char} {c : Char} (hc : isBlank c = false) :
    wordsOf (cs ++ [c]) ≠ [] := by
  intro h
  -- The last piece of the text is not empty, for it ends in the last character.
  have hlast : ∀ ds : List Char, ∃ pieces piece, (ds ++ [c]).splitOnP isBlank =
      pieces ++ [piece ++ [c]] := by
    intro ds
    induction ds with
    | nil => exact ⟨[], [], by simp [List.splitOnP_cons_eq_if_modifyHead, hc]⟩
    | cons d ds ih =>
      obtain ⟨pieces, piece, hsplit⟩ := ih
      rw [List.cons_append, List.splitOnP_cons_eq_if_modifyHead, hsplit]
      by_cases hd : isBlank d = true
      · exact ⟨[] :: pieces, piece, by simp [hd]⟩
      · cases pieces with
        | nil => exact ⟨[], d :: piece, by simp [hd]⟩
        | cons first rest => exact ⟨(d :: first) :: rest, piece, by simp [hd]⟩
  obtain ⟨pieces, piece, hsplit⟩ := hlast cs
  rw [wordsOf, hsplit, List.filter_append] at h
  simp at h

theorem isBlank_of_isLineBreak {c : Char} (h : isLineBreak c = true) : isBlank c = true := by
  simp only [isLineBreak, isBlank, Bool.or_eq_true, Bool.and_eq_true, decide_eq_true_eq,
    beq_iff_eq] at h ⊢
  omega

theorem modifyHead_nil_append (pieces : List (List Char)) :
    pieces.modifyHead ([] ++ ·) = pieces := by
  cases pieces <;> rfl

/-- Whatever stands in front of the first piece. -/
theorem wordsOf_segments_append (cs before : List Char) :
    ((segments cs).modifyHead (before ++ ·)).flatMap wordsOf = wordsOf (before ++ cs) := by
  fun_induction segments cs generalizing before with
  | case1 => simp
  | case2 rest ih =>
    have hrest := ih []
    rw [modifyHead_nil_append, List.nil_append] at hrest
    rw [wordsOf_append_blank (by decide), wordsOf_cons_blank (by decide), ← hrest]
    simp
  | case3 c rest _ hc ih =>
    have hrest := ih []
    rw [modifyHead_nil_append, List.nil_append] at hrest
    rw [wordsOf_append_blank (isBlank_of_isLineBreak hc), ← hrest]
    simp
  | case4 c rest _ hc ih =>
    have hhead := ih (before ++ [c])
    rw [List.append_assoc, List.singleton_append] at hhead
    rw [← hhead]
    cases hs : segments rest with
    | nil => exact absurd hs (segments_ne_nil rest)
    | cons first others => simp [consHead]

/-- No word runs over a line break. -/
theorem wordsOf_sourceLines (cs : List Char) : (sourceLines cs).flatMap wordsOf = wordsOf cs := by
  have hsegments := wordsOf_segments_append cs []
  rw [modifyHead_nil_append, List.nil_append] at hsegments
  have hlines : (lines cs).flatMap wordsOf = wordsOf cs := by
    rw [lines]
    split
    · next hlast =>
      obtain ⟨front, hfront⟩ := List.getLast?_eq_some_iff.mp hlast
      rw [← hsegments, hfront]
      simp [wordsOf_nil]
    · exact hsegments
  rw [sourceLines]
  split
  · next hnil =>
    rw [← hlines, hnil]
    simp [wordsOf_nil]
  · exact hlines

/-- A tab becomes one blank or more. -/
theorem wordsOf_append_expandTabs {stop : Nat} (hstop : 0 < stop) (cs before : List Char)
    (column : Nat) : wordsOf (before ++ expandTabs stop column cs) = wordsOf (before ++ cs) := by
  induction cs generalizing before column with
  | nil => rfl
  | cons c cs ih =>
    rw [expandTabs]
    split
    · next hc =>
      have hwidth : 0 < stop - column % stop := Nat.sub_pos_of_lt (Nat.mod_lt _ hstop)
      have hblank : allBlank (List.replicate (stop - column % stop) ' ') = true := by
        rw [allBlank, List.all_replicate]
        simp [show isBlank ' ' = true by decide]
      have hne : List.replicate (stop - column % stop) ' ' ≠ [] := by
        simpa using Nat.ne_of_gt hwidth
      have hrest := ih [] (column + (stop - column % stop))
      rw [List.nil_append, List.nil_append] at hrest
      rw [wordsOf_append_allBlank hblank _ _ hne, hrest, hc, wordsOf_append_blank (by decide)]
    · have hrest := ih (before ++ [c]) (column + 1)
      rwa [List.append_assoc, List.append_assoc, List.singleton_append,
        List.singleton_append] at hrest

/-- Blanks at the end hold no words. -/
theorem wordsOf_trimEnd (cs : List Char) : wordsOf (trimEnd cs) = wordsOf cs := by
  obtain ⟨tail, hblank, hcs⟩ := trimEnd_append_blanks cs
  by_cases hne : tail = []
  · rw [hne, List.append_nil] at hcs
    rw [← hcs]
  · have happend := wordsOf_append_allBlank hblank (trimEnd cs) [] hne
    rw [List.append_nil, ← hcs, wordsOf_nil, List.append_nil] at happend
    exact happend.symm

/-- A source line keeps its words when its tabs are expanded and its end is trimmed. -/
theorem wordsOf_normalizeLine (line : List Char) :
    wordsOf (normalizeLine line) = wordsOf line := by
  rw [normalizeLine, wordsOf_trimEnd]
  exact wordsOf_append_expandTabs (by decide) line [] 0

/-- A normalized line that is not empty ends in a character of a word. -/
theorem wordsOf_trimEnd_ne_nil {cs : List Char} (h : trimEnd cs ≠ []) :
    wordsOf (trimEnd cs) ≠ [] := by
  have hdrop : cs.reverse.dropWhile isBlank ≠ [] := by
    intro hnil
    rw [trimEnd, hnil] at h
    exact h rfl
  obtain ⟨c, rest, hrest⟩ := List.exists_cons_of_ne_nil hdrop
  have hc : isBlank c = false := by
    have hhead := List.head_dropWhile_not isBlank hdrop
    simpa only [hrest, List.head_cons] using hhead
  rw [trimEnd, hrest, List.reverse_cons]
  exact wordsOf_ne_nil hc

/-- A chunk is not empty, and either all of its characters are spaces or none is. -/
def Uniform (chunk : List Char) : Prop :=
  chunk ≠ [] ∧ ∀ c ∈ chunk, (c = ' ' ↔ chunk.head? = some ' ')

/-- Runs of spaces take turns with runs of other characters. -/
structure Alternate (chunks : List (List Char)) : Prop where
  uniform : ∀ chunk ∈ chunks, Uniform chunk
  turns : chunks.IsChain fun chunk next => ¬(chunk.head? = some ' ' ↔ next.head? = some ' ')

theorem Uniform.allBlank {chunk : List Char} (h : Uniform chunk) (hspace : chunk.head? = some ' ') :
    allBlank chunk = true := by
  rw [Text.allBlank, List.all_eq_true]
  intro c hc
  rw [(h.2 c hc).mpr hspace]
  decide

namespace Alternate

variable {chunk : List Char} {chunks first second : List (List Char)}

theorem nil : Alternate [] := ⟨by simp, .nil⟩

theorem left (h : Alternate (first ++ second)) : Alternate first where
  uniform chunk hc := h.uniform chunk (List.mem_append_left _ hc)
  turns := h.turns.left_of_append

theorem right (h : Alternate (first ++ second)) : Alternate second where
  uniform chunk hc := h.uniform chunk (List.mem_append_right _ hc)
  turns := h.turns.right_of_append

theorem tail (h : Alternate (chunk :: chunks)) : Alternate chunks :=
  right (show Alternate ([chunk] ++ chunks) from h)

/-- No word runs from a chunk into the next. -/
theorem wordsOf_flatten (h : Alternate chunks) :
    wordsOf chunks.flatten = chunks.flatMap wordsOf := by
  induction chunks with
  | nil => exact wordsOf_nil
  | cons chunk rest ih =>
    rw [List.flatten_cons, List.flatMap_cons, ← ih h.tail]
    cases rest with
    | nil => simp [wordsOf_nil]
    | cons next rest =>
      have huniform : Uniform chunk := h.uniform chunk List.mem_cons_self
      by_cases hspace : chunk.head? = some ' '
      · have hblank : Text.allBlank chunk = true := huniform.allBlank hspace
        have happend := wordsOf_append_allBlank hblank [] (next :: rest).flatten huniform.1
        rwa [List.nil_append, wordsOf_nil, ← wordsOf_eq_nil hblank] at happend
      · have hnext : next.head? = some ' ' := by
          have hturn := (List.isChain_cons_cons.mp h.turns).1
          tauto
        obtain ⟨others, rfl⟩ := List.head?_eq_some_iff.mp hnext
        rw [List.flatten_cons, List.cons_append, wordsOf_append_blank (by decide),
          wordsOf_cons_blank (by decide)]

end Alternate

theorem uniform_singleton (c : Char) : Uniform [c] := ⟨by simp, by simp⟩

theorem alternate_consChunk (c : Char) {pieces : List (List Char)} (h : Alternate pieces) :
    Alternate (consChunk c pieces) := by
  cases pieces with
  | nil => exact ⟨by simpa [consChunk] using uniform_singleton c, by simp [consChunk]⟩
  | cons piece rest =>
    have hpiece : Uniform piece := h.uniform piece List.mem_cons_self
    obtain ⟨d, chunk, rfl⟩ := List.exists_cons_of_ne_nil hpiece.1
    rw [consChunk]
    split
    · -- The first chunk grows, and what it starts with stays of one sort.
      next hsort =>
      have hspace : c = ' ' ↔ d = ' ' := by simpa using hsort
      refine ⟨?_, ?_⟩
      · refine List.forall_mem_cons.mpr ⟨⟨by simp, ?_⟩, h.tail.uniform⟩
        have hrest := hpiece.2
        simp only [List.head?_cons, Option.some.injEq] at hrest ⊢
        exact List.forall_mem_cons.mpr ⟨Iff.rfl, fun e he => (hrest e he).trans hspace.symm⟩
      · have hturns := h.turns
        rw [List.isChain_cons] at hturns ⊢
        simpa only [List.head?_cons, Option.some.injEq, hspace] using hturns
    · next hsort =>
      have hspace : ¬(c = ' ' ↔ d = ' ') := by simpa using hsort
      exact ⟨List.forall_mem_cons.mpr ⟨uniform_singleton c, h.uniform⟩,
        List.isChain_cons_cons.mpr ⟨by simpa using hspace, h.turns⟩⟩

/-- A text is cut where spaces meet other characters, and nowhere else. -/
theorem alternate_chunks (cs : List Char) : Alternate (chunks cs) := by
  induction cs with
  | nil => exact .nil
  | cons c rest ih => exact alternate_consChunk c ih

/-- A line that is closed keeps its chunks but for blank ones at its end, and is no line if it
keeps none. -/
theorem exists_kept (line : List (List Char)) : ∃ dropped kept, line = dropped ++ kept ∧
    (∀ chunk ∈ dropped, allBlank chunk = true) ∧
    closeLine line = if kept = [] then none else some kept.reverse.flatten := by
  cases line with
  | nil => exact ⟨[], [], rfl, by simp, rfl⟩
  | cons last earlier =>
    by_cases hblank : allBlank last = true
    · refine ⟨[last], earlier, rfl, by simpa using hblank, ?_⟩
      cases earlier <;> simp [closeLine, hblank]
    · exact ⟨[], last :: earlier, rfl, by simp, by simp [closeLine, hblank]⟩

/-- What a closed line leaves out has no words. -/
theorem wordsOf_closeLine {line : List (List Char)} (h : Alternate line.reverse) :
    (closeLine line).toList.flatMap wordsOf = line.reverse.flatMap wordsOf := by
  obtain ⟨dropped, kept, rfl, hblank, hclose⟩ := exists_kept line
  rw [List.reverse_append] at h ⊢
  have hdropped : dropped.reverse.flatMap wordsOf = [] := by
    rw [List.flatMap_eq_nil_iff]
    intro chunk hchunk
    exact wordsOf_eq_nil (hblank chunk (List.mem_reverse.mp hchunk))
  rw [List.flatMap_append, hdropped, List.append_nil, hclose, ← h.left.wordsOf_flatten]
  split
  · next hkept => simp [hkept, wordsOf_nil]
  · simp

/-- Filling lines keeps the words, those of the open line included, since chunks are moved as a
whole. -/
theorem wordsOf_fill (width : Nat) (begun : Bool) {line chunks : List (List Char)}
    (h : Alternate (line.reverse ++ chunks)) :
    (fill width begun line chunks).flatMap wordsOf =
      line.reverse.flatMap wordsOf ++ chunks.flatMap wordsOf := by
  induction chunks generalizing begun line with
  | nil =>
    rw [List.append_nil] at h
    rw [fill, wordsOf_closeLine h, List.flatMap_nil, List.append_nil]
  | cons chunk rest ih =>
    have hfirst : Alternate ([chunk].reverse ++ rest) := h.right
    rw [fill]
    split
    · next hline =>
      rw [List.isEmpty_iff.mp hline, ih begun hfirst]
      simp
    · split
      · rw [ih begun (by simpa using h)]
        simp
      · rw [List.flatMap_append, wordsOf_closeLine h.left, List.flatMap_cons]
        congr 1
        split
        · next hdrop =>
          -- The chunk that is dropped where a line starts is blank.
          have hblank : allBlank chunk = true := (Bool.and_eq_true _ _ ▸ hdrop).2
          have hrest : Alternate ([].reverse ++ rest) := hfirst.right
          rw [ih _ hrest, wordsOf_eq_nil hblank]
          simp
        · rw [ih _ hfirst]
          simp

theorem wordsOf_wrap (width : Nat) (cs : List Char) :
    (wrap width cs).flatMap wordsOf = wordsOf cs := by
  have hchunks : Alternate (chunks cs) := alternate_chunks cs
  rw [wrap, wordsOf_fill width false hchunks, ← hchunks.wordsOf_flatten, flatten_chunks]
  rfl

/-- What the lines of one source line have to do with it. -/
structure Wraps (source : List Char) (group : List (List Char)) : Prop where
  ne_nil : group ≠ []
  words : group.flatMap wordsOf = wordsOf source
  blank : allBlank source = true → group = [[]]

theorem normalizeLine_eq_nil {line : List Char} (h : allBlank line = true) :
    normalizeLine line = [] := by
  rw [allBlank, List.all_eq_true] at h
  rw [normalizeLine, trimEnd, List.reverse_eq_nil_iff, List.dropWhile_eq_nil_iff]
  intro c hc
  rcases mem_of_mem_expandTabs (List.mem_reverse.mp hc) with rfl | hline
  · decide
  · exact h c hline

/-- A source line is wrapped into lines with its words, or into one empty line. -/
theorem wraps_wrapLine {width : Int} (hwidth : 1 ≤ width) (source : List Char) :
    ∃ group, wrapLine width (normalizeLine source) = some group ∧ Wraps source group := by
  rw [wrapLine]
  split
  · next hempty =>
    refine ⟨[[]], rfl, by simp, ?_, fun _ => rfl⟩
    rw [← wordsOf_normalizeLine source, List.isEmpty_iff.mp hempty]
    rfl
  · next hne =>
    have hwords := wordsOf_wrap width.toNat (normalizeLine source)
    rw [if_neg (by omega)]
    refine ⟨_, rfl, ?_, ?_, ?_⟩
    · -- A line that is not empty has a word, so it is wrapped into a line that holds one.
      intro hnil
      rw [hnil] at hwords
      exact wordsOf_trimEnd_ne_nil (fun h => hne (List.isEmpty_iff.mpr h)) hwords.symm
    · rw [hwords, wordsOf_normalizeLine]
    · intro hblank
      exact absurd (List.isEmpty_iff.mpr (normalizeLine_eq_nil hblank)) hne

/-- The lines of a comment come in the groups that its source lines are wrapped into. What holds
of every source line and its group holds of all of them. -/
theorem exists_groups {width : Int} {P : List Char → List (List Char) → Prop}
    (h : ∀ source, ∃ group, wrapLine width (normalizeLine source) = some group ∧ P source group)
    (text : List Char) :
    ∃ groups, commentLines width text = some (groups.flatten.map guardSplice) ∧
      List.Forall₂ P (sourceLines text) groups := by
  have hall : ∀ sources : List (List Char), ∃ groups,
      sources.mapM (fun line => wrapLine width (normalizeLine line)) = some groups ∧
      List.Forall₂ P sources groups := by
    intro sources
    induction sources with
    | nil => exact ⟨[], rfl, .nil⟩
    | cons source sources ih =>
      obtain ⟨group, hgroup, hsource⟩ := h source
      obtain ⟨groups, hgroups, hrest⟩ := ih
      refine ⟨group :: groups, ?_, .cons hsource hrest⟩
      simp [List.mapM_cons, hgroup, hgroups]
  obtain ⟨groups, hgroups, hsources⟩ := hall (sourceLines text)
  exact ⟨groups, by rw [commentLines, hgroups]; rfl, hsources⟩

theorem wordsOf_flatten_of_wraps {sources : List (List Char)} {groups : List (List (List Char))}
    (h : List.Forall₂ Wraps sources groups) :
    groups.flatten.flatMap wordsOf = sources.flatMap wordsOf := by
  induction h with
  | nil => rfl
  | cons hwraps _ ih => rw [List.flatten_cons, List.flatMap_append, hwraps.words, ih,
      List.flatMap_cons]

theorem exists_lines {width : Int} (hwidth : 1 ≤ width) (text : List Char) :
    ∃ groups, commentLines width text = some (groups.flatten.map guardSplice) ∧
      groups.flatten.flatMap wordsOf = wordsOf text ∧
      List.Forall₂ Wraps (sourceLines text) groups := by
  obtain ⟨groups, hgroups, hwraps⟩ := exists_groups (wraps_wrapLine hwidth) text
  refine ⟨groups, hgroups, ?_, hwraps⟩
  rw [wordsOf_flatten_of_wraps hwraps, wordsOf_sourceLines]

theorem ofList_guardSplice (line : List Char) : String.ofList (guardSplice line) =
    if (String.ofList line).toList.getLast? = some '\\' then String.ofList line ++ " //"
    else String.ofList line := by
  rw [String.toList_ofList, guardSplice]
  by_cases hlast : line.getLast? = some '\\'
  · rw [if_pos hlast, if_pos hlast, String.ofList_append]
    rfl
  · rw [if_neg hlast, if_neg hlast]

/-- The lines of documentation, text by text. -/
theorem exists_doc_lines {style : Style} (hwidth : 1 ≤ style.docWidth) (d : Doc) :
    ∃ lines : List (List Char),
      d.lines style = .ok (lines.map fun line => String.ofList (guardSplice line)) ∧
      lines.flatMap wordsOf = d.texts.flatMap fun text => wordsOf text.toList := by
  -- One text adds its own lines at the end, whatever has been written before.
  have hfold (add : List String → String → Except LayoutFault (List String))
      (hadd : ∀ done text more, commentLines style.docWidth text.toList = some more →
        add done text = .ok (done ++ more.map String.ofList)) :
      ∀ (texts : List String) (done : List String), ∃ lines : List (List Char),
        texts.foldlM add done =
          .ok (done ++ lines.map fun line => String.ofList (guardSplice line)) ∧
        lines.flatMap wordsOf = texts.flatMap fun text => wordsOf text.toList := by
    intro texts
    induction texts with
    | nil => exact fun done => ⟨[], by simp [pure, Except.pure], rfl⟩
    | cons text texts ih =>
      intro done
      obtain ⟨groups, hlines, hwords, _⟩ := exists_lines hwidth text.toList
      obtain ⟨more, hmore, hmoreWords⟩ :=
        ih (done ++ (groups.flatten.map guardSplice).map String.ofList)
      refine ⟨groups.flatten ++ more, ?_, ?_⟩
      · rw [List.foldlM_cons, hadd done text _ hlines]
        simpa [bind, Except.bind, Function.comp_def] using hmore
      · rw [List.flatMap_append, hwords, hmoreWords, List.flatMap_cons]
  exact hfold _ (fun done text more hmore => by simp only [hmore]) d.texts []

/-- Wrapping comment text at any width that leaves room keeps its words. The lines come in one
group for each source line, which holds the words of that line; a blank source line becomes one
empty line. Nothing is written that is not in these lines but the marker behind a backslash at
the end of a line, so what a documentation comment says does not depend on the width. -/
theorem words_commentLines {width : Int} (hwidth : 1 ≤ width) :
    (∀ text : List Char, ∃ groups : List (List (List Char)),
      commentLines width text = some (groups.flatten.map fun line =>
        if line.getLast? = some '\\' then line ++ [' ', '/', '/'] else line) ∧
      groups.flatten.flatMap wordsOf = wordsOf text ∧
      List.Forall₂ Wraps (sourceLines text) groups) ∧
    ∀ (d : Doc) (style : Style), style.docWidth = width → ∃ lines : List String,
      d.lines style = .ok (lines.map fun line =>
        if line.toList.getLast? = some '\\' then line ++ " //" else line) ∧
      lines.flatMap words = d.texts.flatMap words := by
  refine ⟨fun text => exists_lines hwidth text, ?_⟩
  rintro d style rfl
  obtain ⟨lines, hlines, hwords⟩ := exists_doc_lines hwidth d
  refine ⟨lines.map String.ofList, ?_, ?_⟩
  · rw [hlines, List.map_map]
    exact congrArg _ (List.map_congr_left fun line _ => ofList_guardSplice line)
  · have hmapped := congrArg (List.map String.ofList) hwords
    rw [List.map_flatMap, List.map_flatMap] at hmapped
    rw [List.flatMap_map, words_eq]
    simpa only [String.toList_ofList] using hmapped

/-- A tab, a backslash where the line is cut, and a source line of blanks of two kinds. -/
theorem words_commentLines_backslash : (1 : Int) ≤ 8 ∧ ∃ groups : List (List (List Char)),
    commentLines 8 "\tfoo \\ barbazz\n \u00a0\nx".toList =
      some ["    foo".toList, "\\ //".toList, "barbazz".toList, [], "x".toList] ∧
    groups.flatten.flatMap wordsOf =
      ["foo".toList, "\\".toList, "barbazz".toList, "x".toList] ∧
    List.Forall₂ Wraps ["\tfoo \\ barbazz".toList, " \u00a0".toList, "x".toList] groups := by
  obtain ⟨groups, _, hwords, hwraps⟩ :=
    (words_commentLines (show (1 : Int) ≤ 8 by decide)).1 "\tfoo \\ barbazz\n \u00a0\nx".toList
  exact ⟨by decide, groups, by decide, hwords.trans (by decide), hwraps⟩

end Text

end CWriter

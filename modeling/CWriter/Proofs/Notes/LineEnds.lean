import CWriter.Proofs.Notes.Filling
import Mathlib.Data.List.Infix

/-!
# Blanks at the ends of comment lines

Blanks are trimmed from a source line before it is filled into lines, and one blank chunk is left
out where a line is closed. Chunks, however, are cut at spaces only, so other blanks stay inside
words. A source line is frayed where such a blank stands directly before a space. From a source
line that is not frayed no line ends in a blank, whatever the width. From one that is, there is a
width at which a line ends there.
-/
namespace CWriter

namespace Text

def endsBlank (cs : List Char) : Bool := cs.getLast?.any isBlank

/-- Somewhere a blank other than a space stands directly before a space. -/
def Frayed (cs : List Char) : Prop := ∃ c ∈ cs, isBlank c = true ∧ c ≠ ' ' ∧ [c, ' '] <:+: cs

instance (cs : List Char) : Decidable (Frayed cs) :=
  decidable_of_iff (cs.any (fun c => isBlank c = true ∧ c ≠ ' ' ∧ [c, ' '] <:+: cs) = true)
    (by simp [Frayed])

theorem endsBlank_append {cs ds : List Char} (h : ds ≠ []) :
    endsBlank (cs ++ ds) = endsBlank ds := by
  rw [endsBlank, endsBlank, List.getLast?_append_of_ne_nil cs h]

theorem endsBlank_concat (cs : List Char) (c : Char) : endsBlank (cs ++ [c]) = isBlank c := by
  rw [endsBlank, List.getLast?_concat]
  rfl

theorem endsBlank_trimEnd (cs : List Char) : endsBlank (trimEnd cs) = false := by
  rw [endsBlank, trimEnd, List.getLast?_reverse, Option.any_eq_false]
  intro c hc
  have hhead := List.head?_dropWhile_not isBlank cs.reverse
  rw [hc] at hhead
  simpa using hhead

/-- The marker behind a backslash ends in no blank, and nothing else is changed. -/
theorem endsBlank_guardSplice (line : List Char) :
    endsBlank (guardSplice line) = endsBlank line := by
  rw [guardSplice]
  split
  · next hlast =>
    have hline : endsBlank line = false := by
      rw [endsBlank, hlast]
      decide
    rw [hline, endsBlank_append (by decide)]
    decide
  · rfl

theorem Uniform.endsBlank_of_space {chunk : List Char} (h : Uniform chunk)
    (hblank : Text.allBlank chunk = true) : endsBlank chunk = true := by
  obtain ⟨front, c, rfl⟩ := List.eq_nil_or_concat' chunk |>.resolve_left h.1
  rw [endsBlank_concat]
  rw [Text.allBlank, List.all_eq_true] at hblank
  exact hblank c (by simp)

/-- Every chunk that does not consist of spaces ends in a character of a word. -/
def Firm (chunks : List (List Char)) : Prop :=
  ∀ chunk ∈ chunks, chunk.head? = some ' ' ∨ endsBlank chunk = false

theorem firm_of_not_frayed {chunks : List (List Char)} (h : Alternate chunks)
    (hlast : endsBlank chunks.flatten = false) (hfrayed : ¬Frayed chunks.flatten) :
    Firm chunks := by
  intro chunk hchunk
  obtain ⟨before, behind, rfl⟩ := List.append_of_mem hchunk
  by_cases hspace : chunk.head? = some ' '
  · exact Or.inl hspace
  refine Or.inr ?_
  have huniform : Uniform chunk := h.uniform chunk hchunk
  cases behind with
  | nil =>
    rw [List.flatten_append, List.flatten_singleton, endsBlank_append huniform.1] at hlast
    exact hlast
  | cons next behind =>
    -- The next chunk starts with a space, so the last character of this one stands before it.
    have hnext : next.head? = some ' ' := by
      have hturns := (List.isChain_append.mp h.turns).2.1
      have hturn := (List.isChain_cons_cons.mp hturns).1
      tauto
    obtain ⟨spaces, rfl⟩ := List.head?_eq_some_iff.mp hnext
    obtain ⟨front, c, rfl⟩ := List.eq_nil_or_concat' chunk |>.resolve_left huniform.1
    rw [endsBlank_concat, Bool.eq_false_iff]
    intro hblank
    have hc : c ≠ ' ' := fun hc => hspace ((huniform.2 c (by simp)).mp hc)
    refine hfrayed ⟨c, by simp, hblank, hc, before.flatten ++ front, spaces ++ behind.flatten, ?_⟩
    simp

/-- Whatever a line is closed with, a firm one ends in a word. -/
theorem endsBlank_closeLine {line : List (List Char)} {out : List Char}
    (h : Alternate line.reverse) (hfirm : Firm line.reverse) (hclose : closeLine line = some out) :
    endsBlank out = false := by
  have hends : ∀ (last : List Char) (earlier : List (List Char)), last ≠ [] →
      endsBlank (last :: earlier).reverse.flatten = endsBlank last := by
    intro last earlier hne
    rw [List.reverse_cons, List.flatten_append, List.flatten_singleton, endsBlank_append hne]
  cases line with
  | nil => cases hclose
  | cons last earlier =>
    have hlast : Uniform last := h.uniform last (by simp)
    have hfirmLast := hfirm last (by simp)
    by_cases hblank : allBlank last = true
    · -- A blank chunk is left out. It holds spaces, so a word stands in front of it.
      have hspace : last.head? = some ' ' := by
        rcases hfirmLast with hspace | hends
        · exact hspace
        · rw [hlast.endsBlank_of_space hblank] at hends
          cases hends
      cases earlier with
      | nil => simp [closeLine, hblank] at hclose
      | cons word earlier =>
        have hout : out = (word :: earlier).reverse.flatten := by
          simpa [closeLine, hblank] using hclose.symm
        have hword : Uniform word := h.uniform word (by simp)
        have hturn : ¬(word.head? = some ' ' ↔ last.head? = some ' ') := by
          have hturns := h.turns
          rw [List.isChain_reverse, List.isChain_cons_cons] at hturns
          exact hturns.1
        have hfirmWord := hfirm word (by simp)
        rw [hout, hends word earlier hword.1]
        tauto
    · have hout : out = (last :: earlier).reverse.flatten := by
        simpa [closeLine, hblank] using hclose.symm
      rw [hout, hends last earlier hlast.1]
      exact hfirmLast.resolve_left fun hspace => hblank (hlast.allBlank hspace)

/-- Every line is closed over chunks that follow one another. -/
theorem exists_taken {width : Nat} {begun : Bool} {line chunks : List (List Char)} :
    ∀ out ∈ fill width begun line chunks,
      ∃ taken, taken.reverse <:+: line.reverse ++ chunks ∧ closeLine taken = some out := by
  induction chunks generalizing begun line with
  | nil =>
    intro out hout
    rw [fill, Option.mem_toList] at hout
    exact ⟨line, by simp, hout⟩
  | cons chunk rest ih =>
    intro out hout
    have hrest : ∀ {taken : List (List Char)}, taken.reverse <:+: chunk :: rest →
        taken.reverse <:+: line.reverse ++ chunk :: rest :=
      fun htaken => htaken.trans (List.suffix_append _ _).isInfix
    by_cases hempty : line = []
    · subst hempty
      rw [fill_first] at hout
      exact ih out hout
    by_cases hroom : line.flatten.length + chunk.length ≤ width
    · rw [fill_room hroom] at hout
      obtain ⟨taken, htaken, hclose⟩ := ih out hout
      exact ⟨taken, by simpa using htaken, hclose⟩
    have hclosed : out ∈ (closeLine line).toList →
        ∃ taken, taken.reverse <:+: line.reverse ++ chunk :: rest ∧ closeLine taken = some out :=
      fun hout => ⟨line, (List.prefix_append _ _).isInfix, Option.mem_toList.mp hout⟩
    by_cases hdrop : ((begun || (closeLine line).isSome) && allBlank chunk) = true
    · rw [fill_drop hempty hroom hdrop] at hout
      rcases List.mem_append.mp hout with hout | hout
      · exact hclosed hout
      · obtain ⟨taken, htaken, hclose⟩ := ih out hout
        exact ⟨taken, hrest (htaken.trans (List.suffix_cons chunk rest).isInfix), hclose⟩
    · rw [fill_open hempty hroom hdrop] at hout
      rcases List.mem_append.mp hout with hout | hout
      · exact hclosed hout
      · obtain ⟨taken, htaken, hclose⟩ := ih out hout
        exact ⟨taken, hrest htaken, hclose⟩

theorem Alternate.of_infix {chunks taken : List (List Char)} (h : Alternate chunks)
    (htaken : taken <:+: chunks) : Alternate taken := by
  obtain ⟨before, behind, rfl⟩ := htaken
  exact h.left.right

theorem endsBlank_wrap {cs : List Char} (hlast : endsBlank cs = false) (hfrayed : ¬Frayed cs)
    (width : Nat) : ∀ line ∈ wrap width cs, endsBlank line = false := by
  have hchunks : Alternate (chunks cs) := alternate_chunks cs
  have hfirm : Firm (chunks cs) := by
    refine firm_of_not_frayed hchunks ?_ ?_
    · rwa [flatten_chunks]
    · rwa [flatten_chunks]
  intro line hline
  obtain ⟨taken, htaken, hclose⟩ := exists_taken line hline
  have hpart : taken.reverse <:+: chunks cs := htaken
  exact endsBlank_closeLine (hchunks.of_infix hpart)
    (fun chunk hchunk => hfirm chunk (hpart.subset hchunk)) hclose

/-- Chunks that fit into the open line are taken. -/
theorem fill_append {width : Nat} {begun : Bool} {line taken : List (List Char)}
    (h : (line.reverse ++ taken).flatten.length ≤ width) (rest : List (List Char)) :
    fill width begun line (taken ++ rest) = fill width begun (taken.reverse ++ line) rest := by
  induction taken generalizing line with
  | nil => rfl
  | cons chunk taken ih =>
    have hroom : line.flatten.length + chunk.length ≤ width := by
      simp only [List.flatten_append, List.flatten_cons, List.length_append,
        length_flatten_reverse] at h
      omega
    rw [List.cons_append, fill_room hroom, ih (by simpa using h)]
    simp

theorem exists_chunks_cons (c : Char) (cs : List Char) :
    ∃ more rest, chunks (c :: cs) = (c :: more) :: rest := by
  rw [chunks]
  cases chunks cs with
  | nil => exact ⟨[], [], rfl⟩
  | cons first others =>
    cases first with
    | nil => exact ⟨[], [] :: others, rfl⟩
    | cons d first =>
      rw [consChunk]
      split
      · exact ⟨d :: first, others, rfl⟩
      · exact ⟨[], (d :: first) :: others, rfl⟩

/-- A chunk ends where a space follows. -/
theorem exists_chunks_of_space {c : Char} (hc : c ≠ ' ') (before behind : List Char) :
    ∃ earlier front spaces later, chunks (before ++ c :: ' ' :: behind) =
      earlier ++ (front ++ [c]) :: (' ' :: spaces) :: later := by
  induction before with
  | nil =>
    obtain ⟨spaces, later, hspaces⟩ := exists_chunks_cons ' ' behind
    refine ⟨[], [], spaces, later, ?_⟩
    rw [List.nil_append, chunks, hspaces, consChunk, if_neg (by simpa using hc)]
    rfl
  | cons d before ih =>
    obtain ⟨earlier, front, spaces, later, hchunks⟩ := ih
    rw [List.cons_append, chunks, hchunks]
    cases earlier with
    | nil =>
      have hne : front ++ [c] ≠ [] := by simp
      obtain ⟨e, word, hword⟩ := List.exists_cons_of_ne_nil hne
      rw [List.nil_append, hword, consChunk]
      split
      · exact ⟨[], d :: front, spaces, later, by rw [← hword]; rfl⟩
      · exact ⟨[[d]], front, spaces, later, by rw [← hword]; rfl⟩
    | cons first earlier =>
      cases first with
      | nil => exact ⟨[d] :: [] :: earlier, front, spaces, later, rfl⟩
      | cons e first =>
        rw [List.cons_append, consChunk]
        split
        · exact ⟨(d :: e :: first) :: earlier, front, spaces, later, rfl⟩
        · exact ⟨[d] :: (e :: first) :: earlier, front, spaces, later, rfl⟩

/-- A width that leaves room up to the space behind a blank ends a line with this blank. -/
theorem exists_width_of_frayed {cs : List Char} (hlast : endsBlank cs = false)
    (hfrayed : Frayed cs) : ∃ width, 1 ≤ width ∧ ∃ line ∈ wrap width cs, endsBlank line = true := by
  obtain ⟨c, _, hblank, hc, before, behind, hcs⟩ := hfrayed
  have hsplit : cs = before ++ c :: ' ' :: behind := by simpa using hcs.symm
  obtain ⟨earlier, front, spaces, later, hchunks⟩ := exists_chunks_of_space hc before behind
  rw [← hsplit] at hchunks
  have halternate : Alternate (chunks cs) := alternate_chunks cs
  have huniform : Uniform (' ' :: spaces) := halternate.uniform _ (by rw [hchunks]; simp)
  have hspaces : allBlank (' ' :: spaces) = true := huniform.allBlank rfl
  -- What the line takes, and what is left of it once the spaces are dropped.
  let kept := earlier ++ [front ++ [c]]
  let taken := kept ++ [' ' :: spaces]
  have htaken : chunks cs = taken ++ later := by simp [hchunks, taken, kept]
  have hclose : closeLine taken.reverse = some kept.flatten := by
    simp [taken, kept, closeLine, hspaces]
  cases later with
  | nil =>
    -- The text would end in the spaces.
    have hends : endsBlank cs = true := by
      rw [← flatten_chunks cs, htaken, List.append_nil, List.flatten_append,
        List.flatten_singleton, endsBlank_append huniform.1]
      exact huniform.endsBlank_of_space hspaces
    rw [hends] at hlast
    cases hlast
  | cons next later =>
    have hnext : next ≠ [] := (halternate.uniform next (by rw [htaken]; simp)).1
    refine ⟨taken.flatten.length, ?_, kept.flatten, ?_, ?_⟩
    · simp only [taken, kept, List.flatten_append, List.flatten_singleton, List.length_append,
        List.length_singleton]
      omega
    · have hfits : ([].reverse ++ taken).flatten.length ≤ taken.flatten.length := Nat.le_refl _
      have hroom : ¬taken.reverse.flatten.length + next.length ≤ taken.flatten.length := by
        have hlength := List.length_pos_of_ne_nil hnext
        rw [length_flatten_reverse]
        omega
      rw [wrap, htaken, fill_append hfits, List.append_nil]
      exact mem_fill_of_closed (by simp [taken]) hroom hclose
    · simp only [kept, List.flatten_append, List.flatten_singleton, ← List.append_assoc]
      rw [endsBlank_concat]
      exact hblank

theorem endsBlank_wrapLine {width : Int} (hwidth : 1 ≤ width) (source : List Char) :
    ∃ group, wrapLine width (normalizeLine source) = some group ∧
      (¬Frayed (normalizeLine source) → ∀ line ∈ group, endsBlank (guardSplice line) = false) := by
  rw [wrapLine]
  split
  · exact ⟨[[]], rfl, fun _ => by decide⟩
  · rw [if_neg (by omega)]
    refine ⟨_, rfl, fun hfrayed line hline => ?_⟩
    rw [endsBlank_guardSplice]
    exact endsBlank_wrap (endsBlank_trimEnd _) hfrayed _ line hline

theorem exists_group_of_mem {P : List Char → List (List Char) → Prop} {source : List Char}
    {sources : List (List Char)} {groups : List (List (List Char))}
    (h : List.Forall₂ P sources groups) (hsource : source ∈ sources) :
    ∃ group ∈ groups, P source group := by
  induction h with
  | nil => cases hsource
  | cons hfirst _ ih =>
    rcases List.mem_cons.mp hsource with rfl | hrest
    · exact ⟨_, List.mem_cons_self, hfirst⟩
    · obtain ⟨group, hgroup, hp⟩ := ih hrest
      exact ⟨group, List.mem_cons_of_mem _ hgroup, hp⟩

theorem exists_line_of_frayed {text source : List Char} (hsource : source ∈ sourceLines text)
    (hfrayed : Frayed (normalizeLine source)) :
    ∃ width : Int, 1 ≤ width ∧ ∃ ls, commentLines width text = some ls ∧
      ∃ line ∈ ls, endsBlank line = true := by
  obtain ⟨width, hwidth, line, hline, hblank⟩ :=
    exists_width_of_frayed (endsBlank_trimEnd _) hfrayed
  have hroom : ∀ source : List Char, ∃ group, wrapLine width (normalizeLine source) = some group ∧
      wrapLine width (normalizeLine source) = some group := by
    intro source
    obtain ⟨group, hgroup, _⟩ := filled_wrapLine (show (1 : Int) ≤ width by omega) source
    exact ⟨group, hgroup, hgroup⟩
  obtain ⟨groups, hlines, hgroups⟩ := exists_groups hroom text
  obtain ⟨group, hmem, hgroup⟩ := exists_group_of_mem hgroups hsource
  have hne : normalizeLine source ≠ [] := by
    obtain ⟨c, hc, _⟩ := hfrayed
    exact List.ne_nil_of_mem hc
  rw [wrapLine, if_neg (by simpa using hne), if_neg (by omega), Int.toNat_natCast] at hgroup
  obtain rfl := Option.some.inj hgroup
  refine ⟨width, by omega, _, hlines, guardSplice line, ?_, ?_⟩
  · exact List.mem_map_of_mem (List.mem_flatten.mpr ⟨_, hmem, hline⟩)
  · rw [endsBlank_guardSplice]
    exact hblank

/-- Where no source line is frayed once it is normalized, comment lines end in no blank, whatever
the width; a source line that is not frayed has no part in the blanks that the others leave. Where
one is frayed, there is a width at which a comment line ends in a blank. -/
theorem commentLines_endsBlank (text : List Char) :
    (∀ width : Int, 1 ≤ width → ∃ groups : List (List (List Char)),
      commentLines width text = some (groups.flatten.map guardSplice) ∧
      List.Forall₂ (fun source group => ¬Frayed (normalizeLine source) →
        ∀ line ∈ group, endsBlank (guardSplice line) = false) (sourceLines text) groups) ∧
    ∀ source ∈ sourceLines text, Frayed (normalizeLine source) →
      ∃ width : Int, 1 ≤ width ∧ ∃ ls, commentLines width text = some ls ∧
        ∃ line ∈ ls, endsBlank line = true :=
  ⟨fun _ hwidth => exists_groups (endsBlank_wrapLine hwidth) text,
    fun _ hsource hfrayed => exists_line_of_frayed hsource hfrayed⟩

/-- A no-break space in front of a word does not fray a line, one behind a word does. -/
theorem commentLines_endsBlank_no_break_space :
    (¬Frayed (normalizeLine "a \u00a0b c".toList) ∧ ∃ groups : List (List (List Char)),
      commentLines 3 "a \u00a0b c".toList = some (groups.flatten.map guardSplice) ∧
      List.Forall₂ (fun source group => ¬Frayed (normalizeLine source) →
        ∀ line ∈ group, endsBlank (guardSplice line) = false) ["a \u00a0b c".toList] groups) ∧
    Frayed (normalizeLine "a\u00a0 b".toList) ∧
    ∃ width : Int, 1 ≤ width ∧ ∃ ls, commentLines width "a\u00a0 b".toList = some ls ∧
      ∃ line ∈ ls, endsBlank line = true := by
  have hsound := (commentLines_endsBlank "a \u00a0b c".toList).1 3 (by decide)
  have hfrayed : Frayed (normalizeLine "a\u00a0 b".toList) := by decide
  have hsource : "a\u00a0 b".toList ∈ sourceLines "a\u00a0 b".toList := by decide
  exact ⟨⟨by decide, hsound⟩, hfrayed,
    (commentLines_endsBlank "a\u00a0 b".toList).2 _ hsource hfrayed⟩

/-- Where a no-break space stands between two spaces at the end of a line, it is the chunk that is
left out, and the space in front of it stays. Here that space stands behind a backslash. -/
theorem commentLines_endsBlank_behind_backslash :
    ¬∀ (width : Int) (text : List Char), 1 ≤ width → ∃ ls, commentLines width text = some ls ∧
      ∀ line ∈ ls, endsBlank line = false := by
  intro h
  have hlines : commentLines 5 "ab\\ \u00a0 c".toList = some ["ab\\ ".toList, "c".toList] := by
    decide
  obtain ⟨ls, hls, hends⟩ := h 5 "ab\\ \u00a0 c".toList (by decide)
  obtain rfl := Option.some.inj (hlines.symm.trans hls)
  exact absurd (hends "ab\\ ".toList List.mem_cons_self) (by decide)

end Text

end CWriter

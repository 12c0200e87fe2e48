import CWriter.Proofs.Notes.Words

/-!
# Lines are filled as far as they go

A source line is cut into chunks, and lines take these one after the other. So every line has its
place in the source line: it stands behind blank chunks that were dropped where it starts, and the
next line stands behind it. A line is longer than the width only if it is a single word, and a line
ends only where the chunk that follows would have made it longer than the width. What the words are
and which chunks are dropped is not looked at here, except that these are blank.
-/
namespace CWriter

namespace Text

/-- A line where it stands in its source line: the chunks that were dropped in front of it, and
the chunks that it is made of. -/
structure Stretch where
  dropped : List (List Char)
  kept : List (List Char)

namespace Stretch

def chunks (s : Stretch) : List (List Char) := s.dropped ++ s.kept

def line (s : Stretch) : List Char := s.kept.flatten

/-- How far it is from the start of a source line to the end of the first chunk of its first
line. -/
def entry (s : Stretch) : Nat := (s.dropped ++ s.kept.take 1).flatten.length

/-- How far it is from the start of a line through the first chunk of the line behind it. -/
def reach (s next : Stretch) : Nat := s.line.length + next.entry

/-- The same line behind further chunks that are dropped. -/
def behind (gap : List (List Char)) (s : Stretch) : Stretch :=
  { s with dropped := gap ++ s.dropped }

theorem entry_behind (gap : List (List Char)) (s : Stretch) :
    (s.behind gap).entry = gap.flatten.length + s.entry := by
  simp [entry, behind, List.append_assoc]

end Stretch

/-- The chunks of a line fit into the width, or they are one word, which is never broken. -/
def Bounded (width : Nat) (kept : List (List Char)) : Prop :=
  kept.flatten.length ≤ width ∨ ∃ word, kept = [word] ∧ ' ' ∉ word

/-- How filled lines stand in the chunks of a source line. Only blank chunks are left out, between
the lines and behind the last one. -/
structure Filling (width : Nat) (source : List (List Char)) (stretches : List Stretch)
    (rest : List (List Char)) : Prop where
  joined : stretches.flatMap Stretch.chunks ++ rest = source
  dropped : ∀ s ∈ stretches, ∀ chunk ∈ s.dropped, allBlank chunk = true
  ended : ∀ chunk ∈ rest, allBlank chunk = true
  kept : ∀ s ∈ stretches, s.kept ≠ []
  bounded : ∀ s ∈ stretches, Bounded width s.kept
  full : stretches.IsChain fun s next => width < s.reach next

namespace Filling

variable {width : Nat} {source rest gap kept : List (List Char)} {stretches : List Stretch}

theorem nil (h : ∀ chunk ∈ source, allBlank chunk = true) : Filling width source [] source :=
  ⟨rfl, by simp, h, by simp, by simp, .nil⟩

/-- The first line starts no later than with the first chunk, or that chunk is dropped. -/
theorem length_le_entry {chunk : List Char} (h : Filling width (chunk :: source) stretches rest)
    {first : Stretch} (hfirst : stretches.head? = some first) : chunk.length ≤ first.entry := by
  obtain ⟨others, rfl⟩ := List.head?_eq_some_iff.mp hfirst
  have hjoined := h.joined
  rw [List.flatMap_cons, Stretch.chunks] at hjoined
  rw [Stretch.entry]
  cases hdropped : first.dropped with
  | nil =>
    obtain ⟨word, more, hkept⟩ := List.exists_cons_of_ne_nil (h.kept first List.mem_cons_self)
    rw [hdropped, hkept] at hjoined
    obtain ⟨rfl, _⟩ := List.cons.inj hjoined
    simp [hkept]
  | cons blank more =>
    rw [hdropped] at hjoined
    obtain ⟨rfl, _⟩ := List.cons.inj hjoined
    simp

/-- Blank chunks in front are dropped before the first line, or left over if there is none. -/
theorem skip (h : Filling width source stretches rest)
    (hgap : ∀ chunk ∈ gap, allBlank chunk = true) :
    ∃ moved left, Filling width (gap ++ source) moved left ∧
      moved.map Stretch.line = stretches.map Stretch.line ∧
      moved.head? = stretches.head?.map (Stretch.behind gap) := by
  cases stretches with
  | nil =>
    have hsource : rest = source := h.joined
    subst hsource
    refine ⟨[], gap ++ rest, nil ?_, rfl, rfl⟩
    exact fun chunk hchunk => (List.mem_append.mp hchunk).elim (hgap chunk) (h.ended chunk)
  | cons first others =>
    have hfirst : ∀ {P : Stretch → Prop}, (∀ s ∈ first :: others, P s) → P first :=
      fun hall => hall first List.mem_cons_self
    have hothers : ∀ {P : Stretch → Prop}, (∀ s ∈ first :: others, P s) → ∀ s ∈ others, P s :=
      fun hall s hs => hall s (List.mem_cons_of_mem first hs)
    refine ⟨first.behind gap :: others, rest, ⟨?_, ?_, h.ended, ?_, ?_, ?_⟩, rfl, rfl⟩
    · rw [← h.joined]
      simp [Stretch.chunks, Stretch.behind]
    · refine List.forall_mem_cons.mpr ⟨fun chunk hchunk => ?_, hothers h.dropped⟩
      exact (List.mem_append.mp hchunk).elim (hgap chunk) (hfirst h.dropped chunk)
    · exact List.forall_mem_cons.mpr ⟨hfirst h.kept, hothers h.kept⟩
    · exact List.forall_mem_cons.mpr ⟨hfirst h.bounded, hothers h.bounded⟩
    · have hfull := h.full
      rw [List.isChain_cons] at hfull ⊢
      exact hfull

/-- A line is put in front, and the chunks between it and the others are dropped. The line is full
if it cannot take the chunk behind it. -/
theorem cons (h : Filling width source stretches rest)
    (hgap : ∀ chunk ∈ gap, allBlank chunk = true) (hkept : kept ≠ [])
    (hbounded : Bounded width kept)
    (hfull : ∀ next, stretches.head? = some next →
      width < kept.flatten.length + gap.flatten.length + next.entry) :
    ∃ added left, Filling width (kept ++ (gap ++ source)) added left ∧
      added.map Stretch.line = kept.flatten :: stretches.map Stretch.line := by
  obtain ⟨moved, left, hmoved, hlines, hhead⟩ := h.skip hgap
  refine ⟨⟨[], kept⟩ :: moved, left, ⟨?_, ?_, hmoved.ended, ?_, ?_, ?_⟩, ?_⟩
  · rw [← hmoved.joined]
    simp [Stretch.chunks]
  · exact List.forall_mem_cons.mpr ⟨by simp, hmoved.dropped⟩
  · exact List.forall_mem_cons.mpr ⟨hkept, hmoved.kept⟩
  · exact List.forall_mem_cons.mpr ⟨hbounded, hmoved.bounded⟩
  · refine List.isChain_cons.mpr ⟨fun next hnext => ?_, hmoved.full⟩
    rw [hhead, Option.mem_def, Option.map_eq_some_iff] at hnext
    obtain ⟨first, hfirst, rfl⟩ := hnext
    have hlong := hfull first hfirst
    have hline : (Stretch.mk [] kept).line = kept.flatten := rfl
    rw [Stretch.reach, Stretch.entry_behind, hline]
    omega
  · rw [List.map_cons, hlines, Stretch.line]

end Filling

section Steps

variable {width : Nat} {begun : Bool} {line rest : List (List Char)} {chunk : List Char}

theorem fill_first (width : Nat) (begun : Bool) (chunk : List Char) (rest : List (List Char)) :
    fill width begun [] (chunk :: rest) = fill width begun [chunk] rest := rfl

theorem fill_room (hroom : line.flatten.length + chunk.length ≤ width) :
    fill width begun line (chunk :: rest) = fill width begun (chunk :: line) rest := by
  by_cases hempty : line = []
  · rw [hempty, fill_first]
  · rw [fill, if_neg (by simpa using hempty), if_pos hroom]

/-- The chunk is dropped where the next line starts. -/
theorem fill_drop (hline : line ≠ []) (hroom : ¬line.flatten.length + chunk.length ≤ width)
    (hdrop : ((begun || (closeLine line).isSome) && allBlank chunk) = true) :
    fill width begun line (chunk :: rest) =
      (closeLine line).toList ++ fill width (begun || (closeLine line).isSome) [] rest := by
  rw [fill, if_neg (by simpa using hline), if_neg hroom]
  simp only [hdrop, if_true]

/-- The chunk opens the next line. -/
theorem fill_open (hline : line ≠ []) (hroom : ¬line.flatten.length + chunk.length ≤ width)
    (hdrop : ¬((begun || (closeLine line).isSome) && allBlank chunk) = true) :
    fill width begun line (chunk :: rest) =
      (closeLine line).toList ++ fill width (begun || (closeLine line).isSome) [chunk] rest := by
  rw [fill, if_neg (by simpa using hline), if_neg hroom]
  simp only [hdrop, Bool.false_eq_true, if_false]

/-- A line is closed once there is no room for the chunk behind it. -/
theorem mem_fill_of_closed {out : List Char} (hline : line ≠ [])
    (hroom : ¬line.flatten.length + chunk.length ≤ width) (hclose : closeLine line = some out) :
    out ∈ fill width begun line (chunk :: rest) := by
  by_cases hdrop : ((begun || (closeLine line).isSome) && allBlank chunk) = true
  · rw [fill_drop hline hroom hdrop, hclose]
    exact List.mem_cons_self
  · rw [fill_open hline hroom hdrop, hclose]
    exact List.mem_cons_self

end Steps

/-- A chunk that is not blank holds no space. -/
theorem Uniform.space_not_mem {chunk : List Char} (h : Uniform chunk)
    (hblank : ¬Text.allBlank chunk = true) : ' ' ∉ chunk := by
  intro hmem
  exact hblank (h.allBlank ((h.2 ' ' hmem).mp rfl))

/-- The open line fits into the width, or it has taken its first chunk only. -/
def Fits (width : Nat) (line : List (List Char)) : Prop :=
  line.flatten.length ≤ width ∨ ∃ chunk, line = [chunk]

/-- The open line is as long as what it has taken in order. -/
theorem length_flatten_reverse (line : List (List Char)) :
    line.reverse.flatten.length = line.flatten.length := by
  rw [List.length_flatten, List.length_flatten, List.map_reverse, List.sum_reverse]

/-- Where a line is closed, what it has taken is blank, or it keeps a bounded line and drops what
is behind it. -/
theorem closeLine_cases {width : Nat} {line : List (List Char)}
    (huniform : ∀ chunk ∈ line.reverse, Uniform chunk) (hfits : Fits width line) :
    (closeLine line = none ∧ ∀ chunk ∈ line.reverse, allBlank chunk = true) ∨
    ∃ kept gap, line.reverse = kept ++ gap ∧ closeLine line = some kept.flatten ∧ kept ≠ [] ∧
      (∀ chunk ∈ gap, allBlank chunk = true) ∧ Bounded width kept := by
  obtain ⟨dropped, kept, rfl, hblank, hclose⟩ := exists_kept line
  have hgap : ∀ chunk ∈ dropped.reverse, allBlank chunk = true :=
    fun chunk hchunk => hblank chunk (List.mem_reverse.mp hchunk)
  by_cases hkept : kept = []
  · subst hkept
    exact Or.inl ⟨hclose, by simpa using hgap⟩
  · rw [if_neg hkept] at hclose
    refine Or.inr ⟨kept.reverse, dropped.reverse, List.reverse_append, hclose,
      by simpa using hkept, hgap, ?_⟩
    rcases hfits with hlength | ⟨word, hword⟩
    · refine Or.inl ?_
      rw [List.flatten_append, List.length_append] at hlength
      rw [length_flatten_reverse]
      omega
    · refine Or.inr ⟨word, ?_⟩
      obtain ⟨rfl, rfl⟩ | ⟨rfl, hnil⟩ := List.append_eq_singleton_iff.mp hword
      · refine ⟨rfl, (huniform word (by simp)).space_not_mem fun hspaces => ?_⟩
        -- A line of one blank chunk is no line.
        simp [closeLine, hspaces] at hclose
      · exact absurd hnil hkept

/-- A line is closed in front of lines that have their places already. It is full if it has had no
room for what comes behind it. -/
theorem Filling.close {width : Nat} {line source rest : List (List Char)}
    {stretches : List Stretch} (h : Filling width source stretches rest) (gap : List (List Char))
    (huniform : ∀ chunk ∈ line.reverse, Uniform chunk) (hfits : Fits width line)
    (hgap : ∀ chunk ∈ gap, allBlank chunk = true)
    (hfull : ∀ next, stretches.head? = some next →
      width < line.flatten.length + gap.flatten.length + next.entry) :
    ∃ added left, Filling width (line.reverse ++ (gap ++ source)) added left ∧
      added.map Stretch.line = (closeLine line).toList ++ stretches.map Stretch.line := by
  rcases closeLine_cases huniform hfits with
    ⟨hclose, hblank⟩ | ⟨kept, gone, hline, hclose, hkept, hgone, hbounded⟩
  · have hdropped : ∀ chunk ∈ line.reverse ++ gap, allBlank chunk = true :=
      fun chunk hchunk => (List.mem_append.mp hchunk).elim (hblank chunk) (hgap chunk)
    obtain ⟨moved, left, hmoved, hlines, _⟩ := h.skip hdropped
    rw [List.append_assoc] at hmoved
    exact ⟨moved, left, hmoved, by rw [hlines, hclose]; rfl⟩
  · have hdropped : ∀ chunk ∈ gone ++ gap, allBlank chunk = true :=
      fun chunk hchunk => (List.mem_append.mp hchunk).elim (hgone chunk) (hgap chunk)
    have hlength : line.flatten.length = kept.flatten.length + gone.flatten.length := by
      rw [← List.length_append, ← List.flatten_append, ← hline, length_flatten_reverse]
    obtain ⟨added, left, hadded, hlines⟩ := h.cons hdropped hkept hbounded (by
      intro next hnext
      have hlong := hfull next hnext
      rw [List.flatten_append, List.length_append]
      omega)
    refine ⟨added, left, ?_, by rw [hlines, hclose]; rfl⟩
    rwa [List.append_assoc, ← List.append_assoc kept, ← hline] at hadded

/-- Whatever lines are filled into, they have their places in the chunks that are taken. -/
theorem exists_filling (width : Nat) (begun : Bool) {line chunks : List (List Char)}
    (huniform : ∀ chunk ∈ line.reverse ++ chunks, Uniform chunk) (hfits : Fits width line) :
    ∃ stretches rest, Filling width (line.reverse ++ chunks) stretches rest ∧
      stretches.map Stretch.line = fill width begun line chunks := by
  induction chunks generalizing begun line with
  | nil =>
    rw [List.append_nil] at huniform
    have hnone : Filling width [] [] [] := .nil (by simp)
    obtain ⟨stretches, rest, hfilling, hlines⟩ :=
      hnone.close [] huniform hfits (by simp) (by simp)
    exact ⟨stretches, rest, hfilling, by rw [hlines, fill]; exact List.append_nil _⟩
  | cons chunk more ih =>
    have hline : ∀ piece ∈ line.reverse, Uniform piece :=
      fun piece hpiece => huniform piece (List.mem_append_left _ hpiece)
    have hfirst : ∀ piece ∈ [chunk].reverse ++ more, Uniform piece :=
      fun piece hpiece => huniform piece (List.mem_append_right _ hpiece)
    by_cases hempty : line = []
    · subst hempty
      rw [fill_first]
      exact ih begun hfirst (Or.inr ⟨chunk, rfl⟩)
    by_cases hroom : line.flatten.length + chunk.length ≤ width
    · have htaken : line.reverse ++ chunk :: more = (chunk :: line).reverse ++ more := by simp
      rw [htaken] at huniform ⊢
      rw [fill_room hroom]
      refine ih begun huniform (Or.inl ?_)
      rw [List.flatten_cons, List.length_append]
      omega
    -- The line behind starts with the chunk or has it dropped in front. Either way it begins
    -- with what the closed line has had no room for.
    by_cases hdrop : ((begun || (closeLine line).isSome) && allBlank chunk) = true
    · have hblank : allBlank chunk = true := (Bool.and_eq_true _ _ ▸ hdrop).2
      have hmore : ∀ piece ∈ [].reverse ++ more, Uniform piece :=
        fun piece hpiece => hfirst piece (List.mem_cons_of_mem chunk hpiece)
      obtain ⟨stretches, rest, hfilling, hlines⟩ :=
        ih (begun || (closeLine line).isSome) hmore (Or.inl (Nat.zero_le _))
      obtain ⟨added, left, hadded, hall⟩ :=
        hfilling.close [chunk] hline hfits (by simpa using hblank) (by
          intro next _
          rw [List.flatten_singleton]
          omega)
      exact ⟨added, left, hadded, by rw [hall, hlines, fill_drop hempty hroom hdrop]⟩
    · obtain ⟨stretches, rest, hfilling, hlines⟩ :=
        ih (begun || (closeLine line).isSome) hfirst (Or.inr ⟨chunk, rfl⟩)
      have hchunk : Filling width (chunk :: more) stretches rest := hfilling
      obtain ⟨added, left, hadded, hall⟩ :=
        hchunk.close [] hline hfits (by simp) (by
          intro next hnext
          have hentry := hchunk.length_le_entry hnext
          rw [List.flatten_nil, List.length_nil]
          omega)
      exact ⟨added, left, hadded, by rw [hall, hlines, fill_open hempty hroom hdrop]⟩

/-- How the lines of a group stand in their source line. A blank source line is one empty line;
any other has its tabs expanded and the blanks at its end taken away before it is cut into
chunks. -/
inductive Filled (width : Nat) (source : List Char) : List (List Char) → Prop
  | blank : allBlank source = true → Filled width source [[]]
  | lines {stretches : List Stretch} {rest : List (List Char)} {tail : List Char} :
    expandTabs tabStop 0 source = normalizeLine source ++ tail → allBlank tail = true →
    Filling width (chunks (normalizeLine source)) stretches rest →
    Filled width source (stretches.map Stretch.line)

theorem allBlank_of_expandTabs {stop column : Nat} {cs : List Char}
    (h : allBlank (expandTabs stop column cs) = true) : allBlank cs = true := by
  induction cs generalizing column with
  | nil => rfl
  | cons c cs ih =>
    rw [expandTabs] at h
    rw [allBlank, List.all_cons, Bool.and_eq_true]
    split at h
    · next hc =>
      rw [allBlank, List.all_append, Bool.and_eq_true] at h
      exact ⟨by rw [hc]; decide, ih h.2⟩
    · rw [allBlank, List.all_cons, Bool.and_eq_true] at h
      exact ⟨h.1, ih h.2⟩

theorem filled_wrapLine {width : Int} (hwidth : 1 ≤ width) (source : List Char) :
    ∃ group, wrapLine width (normalizeLine source) = some group ∧
      Filled width.toNat source group := by
  obtain ⟨tail, htail, hexpanded⟩ := trimEnd_append_blanks (expandTabs tabStop 0 source)
  rw [wrapLine]
  split
  · next hempty =>
    refine ⟨[[]], rfl, .blank ?_⟩
    have hnone : trimEnd (expandTabs tabStop 0 source) = [] := List.isEmpty_iff.mp hempty
    rw [hnone, List.nil_append] at hexpanded
    rw [← hexpanded] at htail
    exact allBlank_of_expandTabs htail
  · rw [if_neg (by omega)]
    have huniform : ∀ chunk ∈ [].reverse ++ chunks (normalizeLine source), Uniform chunk :=
      (alternate_chunks (normalizeLine source)).uniform
    obtain ⟨stretches, rest, hfilling, hlines⟩ :=
      exists_filling width.toNat false huniform (Or.inl (Nat.zero_le _))
    refine ⟨_, rfl, ?_⟩
    rw [wrap, ← hlines]
    exact .lines hexpanded htail hfilling

/-- A line that is longer than the width is a chunk of its source line without spaces. -/
theorem Filled.bounded {width : Nat} {source : List Char} {group : List (List Char)}
    (h : Filled width source group) : ∀ line ∈ group,
      line.length ≤ width ∨ line ∈ chunks (normalizeLine source) ∧ ' ' ∉ line := by
  cases h with
  | blank => simp
  | @lines stretches rest tail _ _ hfilling =>
    intro line hline
    obtain ⟨s, hs, rfl⟩ := List.mem_map.mp hline
    rcases hfilling.bounded s hs with hlength | ⟨word, hword, hspace⟩
    · exact Or.inl hlength
    · have hone : s.line = word := by rw [Stretch.line, hword, List.flatten_singleton]
      have hmem : word ∈ stretches.flatMap Stretch.chunks ++ rest := by
        refine List.mem_append_left _ (List.mem_flatMap.mpr ⟨s, hs, ?_⟩)
        rw [Stretch.chunks, hword]
        exact List.mem_append_right _ List.mem_cons_self
      rw [hfilling.joined] at hmem
      rw [hone]
      exact Or.inr ⟨hmem, hspace⟩

/-- Comment text is filled greedily into bounded lines. Apart from the marker behind a backslash at
its end, a line has at most as many characters as the width says or is a single word without a
space in it, and where two lines come from one source line, the first of them has had no room for
what the second begins with. -/
theorem commentLines_filled {width : Int} (hwidth : 1 ≤ width) (text : List Char) :
    ∃ groups : List (List (List Char)),
      commentLines width text = some (groups.flatten.map fun line =>
        if line.getLast? = some '\\' then line ++ [' ', '/', '/'] else line) ∧
      List.Forall₂ (Filled width.toNat) (sourceLines text) groups ∧
      List.Forall₂ (fun source group => ∀ line ∈ group, (line.length : Int) ≤ width ∨
        line ∈ chunks (normalizeLine source) ∧ ' ' ∉ line) (sourceLines text) groups := by
  obtain ⟨groups, hlines, hfilled⟩ := exists_groups (filled_wrapLine hwidth) text
  refine ⟨groups, hlines, hfilled, hfilled.imp fun source group h line hline => ?_⟩
  refine (h.bounded line hline).imp_left fun hlength => ?_
  omega

/-- Lines of exactly the width, a word that is longer, and spaces that are kept at the very start
only. -/
theorem commentLines_filled_exact_width : (1 : Int) ≤ 4 ∧ ∃ groups : List (List (List Char)),
    commentLines 4 "  ab cd e\nabcdef  g".toList =
      some ["  ab".toList, "cd e".toList, "abcdef".toList, "g".toList] ∧
    List.Forall₂ (Filled 4) ["  ab cd e".toList, "abcdef  g".toList] groups := by
  obtain ⟨groups, _, hfilled, _⟩ :=
    commentLines_filled (show (1 : Int) ≤ 4 by decide) "  ab cd e\nabcdef  g".toList
  exact ⟨by decide, groups, by decide, hfilled⟩

end Text

end CWriter

import CWriter.Layout
import Mathlib.Data.List.Basic

/-!
# Lines of comment text

Whatever the text of a comment holds, none of the lines made of it holds a line feed or a
carriage return, and none ends in a backslash. The argument follows the text on its way: cutting
at line breaks takes the breaks away, expanding tabs adds blanks only, trimming and filling keep
characters, and the last step closes a line that would end in a backslash. Nothing is said about
where lines are broken.
-/
namespace CWriter

namespace Text

/-- Free of line feeds and carriage returns. -/
def Unbroken (cs : List Char) : Prop := '\n' ∉ cs ∧ '\r' ∉ cs

theorem Unbroken.of_subset {cs ds : List Char} (h : Unbroken ds) (hs : cs ⊆ ds) :
    Unbroken cs :=
  ⟨fun hc => h.1 (hs hc), fun hc => h.2 (hs hc)⟩

theorem Unbroken.append {cs ds : List Char} (hc : Unbroken cs) (hd : Unbroken ds) :
    Unbroken (cs ++ ds) :=
  ⟨fun h => (List.mem_append.mp h).elim hc.1 hd.1, fun h => (List.mem_append.mp h).elim hc.2 hd.2⟩

theorem Unbroken.cons {c : Char} {cs : List Char} (hc : isLineBreak c = false)
    (h : Unbroken cs) : Unbroken (c :: cs) := by
  have hfeed : '\n' ≠ c := by
    rintro rfl
    exact absurd hc (by decide)
  have hreturn : '\r' ≠ c := by
    rintro rfl
    exact absurd hc (by decide)
  exact ⟨by simp [hfeed, h.1], by simp [hreturn, h.2]⟩

theorem unbroken_nil : Unbroken [] := ⟨List.not_mem_nil, List.not_mem_nil⟩

theorem forall_mem_consHead {P : List Char → Prop} {c : Char} {pieces : List (List Char)}
    (hnil : P []) (hcons : ∀ piece, P piece → P (c :: piece)) (h : ∀ piece ∈ pieces, P piece) :
    ∀ piece ∈ consHead c pieces, P piece := by
  cases pieces with
  | nil => simpa [consHead] using hcons [] hnil
  | cons first rest =>
    simp only [List.forall_mem_cons] at h
    simpa [consHead] using ⟨hcons first h.1, h.2⟩

/-- The pieces between line breaks hold no line break. -/
theorem unbroken_segments (cs : List Char) : ∀ piece ∈ segments cs, Unbroken piece := by
  fun_induction segments cs with
  | case1 => simpa using unbroken_nil
  | case2 rest ih => simpa using ⟨unbroken_nil, ih⟩
  | case3 c rest _ _ ih => simpa using ⟨unbroken_nil, ih⟩
  | case4 c rest _ hc ih =>
    exact forall_mem_consHead unbroken_nil
      (fun piece => Unbroken.cons (Bool.eq_false_iff.mpr hc)) ih

theorem mem_segments_of_mem_lines {cs line : List Char} (h : line ∈ lines cs) :
    line ∈ segments cs := by
  rw [lines] at h
  split at h
  · exact List.dropLast_subset _ h
  · exact h

theorem unbroken_lines (cs : List Char) : ∀ line ∈ lines cs, Unbroken line :=
  fun line hline => unbroken_segments cs line (mem_segments_of_mem_lines hline)

theorem eq_nil_or_mem_lines {cs line : List Char} (h : line ∈ sourceLines cs) :
    line = [] ∨ line ∈ lines cs := by
  rw [sourceLines] at h
  split at h
  · exact Or.inl (List.mem_singleton.mp h)
  · exact Or.inr h

theorem unbroken_sourceLines (cs : List Char) : ∀ line ∈ sourceLines cs, Unbroken line := by
  intro line hline
  rcases eq_nil_or_mem_lines hline with rfl | hline
  · exact unbroken_nil
  · exact unbroken_lines cs line hline

theorem mem_of_mem_segments (cs : List Char) :
    ∀ piece ∈ segments cs, ∀ c ∈ piece, c ∈ cs := by
  fun_induction segments cs with
  | case1 => simp
  | case2 rest ih =>
    simp only [List.forall_mem_cons]
    exact ⟨by simp, fun piece hp c hc => by simp [ih piece hp c hc]⟩
  | case3 d rest _ _ ih =>
    simp only [List.forall_mem_cons]
    exact ⟨by simp, fun piece hp c hc => List.mem_cons_of_mem d (ih piece hp c hc)⟩
  | case4 d rest _ hd ih =>
    refine forall_mem_consHead (by simp) (fun piece h => ?_)
      fun piece hp c hc => List.mem_cons_of_mem d (ih piece hp c hc)
    simpa using h

theorem mem_of_mem_expandTabs {stop : Nat} {cs : List Char} {column : Nat} {c : Char}
    (hc : c ∈ expandTabs stop column cs) : c = ' ' ∨ c ∈ cs := by
  induction cs generalizing column with
  | nil => exact absurd hc List.not_mem_nil
  | cons d cs ih =>
    rw [expandTabs] at hc
    split at hc
    · rcases List.mem_append.mp hc with hblank | hrest
      · exact Or.inl (List.eq_of_mem_replicate hblank)
      · exact (ih hrest).imp_right (List.mem_cons_of_mem d)
    · rcases List.mem_cons.mp hc with rfl | hrest
      · exact Or.inr List.mem_cons_self
      · exact (ih hrest).imp_right (List.mem_cons_of_mem d)

theorem mem_of_mem_lines {cs line : List Char} (h : line ∈ lines cs) : ∀ c ∈ line, c ∈ cs :=
  mem_of_mem_segments cs line (mem_segments_of_mem_lines h)

theorem mem_of_mem_sourceLines {cs line : List Char} (h : line ∈ sourceLines cs) :
    ∀ c ∈ line, c ∈ cs := by
  rcases eq_nil_or_mem_lines h with rfl | h
  · exact fun c hc => absurd hc List.not_mem_nil
  · exact mem_of_mem_lines h

/-- A tab becomes spaces, which break no line. -/
theorem Unbroken.expandTabs {cs : List Char} (h : Unbroken cs) (stop column : Nat) :
    Unbroken (expandTabs stop column cs) :=
  ⟨fun hc => (mem_of_mem_expandTabs hc).elim (by decide) h.1,
    fun hc => (mem_of_mem_expandTabs hc).elim (by decide) h.2⟩

theorem trimEnd_subset (cs : List Char) : trimEnd cs ⊆ cs := by
  intro c hc
  rw [trimEnd, List.mem_reverse] at hc
  exact List.mem_reverse.mp (List.dropWhile_sublist _ |>.subset hc)

theorem closeLine_subset {line : List (List Char)} {out : List Char}
    (h : closeLine line = some out) : out ⊆ line.flatten := by
  intro c hc
  have hkept : ∀ kept : List (List Char), kept ⊆ line → c ∈ kept.reverse.flatten →
      c ∈ line.flatten := by
    intro kept hsub hmem
    obtain ⟨chunk, hchunk, hc⟩ := List.mem_flatten.mp hmem
    exact List.mem_flatten.mpr ⟨chunk, hsub (List.mem_reverse.mp hchunk), hc⟩
  cases line with
  | nil => cases h
  | cons last earlier =>
    have hsub : (if allBlank last then earlier else last :: earlier) ⊆ last :: earlier := by
      split
      · exact List.subset_cons_self last earlier
      · exact List.Subset.refl _
    rw [closeLine] at h
    generalize (if allBlank last then earlier else last :: earlier) = kept at h hsub
    cases kept with
    | nil => cases h
    | cons first kept =>
      cases h
      exact hkept _ hsub hc

/-- Filling puts no character into a line that has not been in the text. -/
theorem fill_subset (width : Nat) (begun : Bool) (line chunks : List (List Char)) :
    ∀ out ∈ fill width begun line chunks, out ⊆ line.flatten ++ chunks.flatten := by
  induction chunks generalizing begun line with
  | nil =>
    intro out hout
    rw [fill, Option.mem_toList] at hout
    simpa using closeLine_subset hout
  | cons chunk rest ih =>
    intro out hout c hc
    rw [fill] at hout
    split at hout
    · have h := ih _ _ out hout hc
      simp_all
    · split at hout
      · have h := ih _ _ out hout hc
        simp only [List.flatten_cons, List.mem_append] at h ⊢
        tauto
      · rcases List.mem_append.mp hout with hclosed | hout
        · exact List.mem_append_left _ (closeLine_subset (Option.mem_toList.mp hclosed) hc)
        · split at hout
          · have h := ih _ _ out hout hc
            simp only [List.flatten_nil, List.nil_append] at h
            simp [h]
          · have h := ih _ _ out hout hc
            simp only [List.flatten_cons, List.flatten_nil, List.append_nil] at h
            exact List.mem_append_right _ h

/-- A wrapped line has its characters from the source line. -/
theorem wrapLine_subset {width : Int} {line : List Char} {outs : List (List Char)}
    (h : wrapLine width line = some outs) : ∀ out ∈ outs, out ⊆ line := by
  intro out hout
  rw [wrapLine] at h
  split at h
  · cases h
    rw [List.mem_singleton.mp hout]
    exact List.nil_subset line
  · split at h
    · cases h
    · cases h
      have hsub := fill_subset _ _ _ _ out hout
      rw [flatten_chunks] at hsub
      simpa using hsub

/-- The guard puts a marker behind a backslash that would join the next line. -/
theorem getLast?_guardSplice (line : List Char) : (guardSplice line).getLast? ≠ some '\\' := by
  rw [guardSplice]
  split
  · simp
  · assumption

theorem Unbroken.guardSplice {line : List Char} (h : Unbroken line) :
    Unbroken (guardSplice line) := by
  rw [Text.guardSplice]
  split
  · exact h.append ⟨by decide, by decide⟩
  · exact h

theorem exists_of_mem_mapM {α β : Type} {f : α → Option β} {xs : List α} {ys : List β}
    (h : xs.mapM f = some ys) : ∀ y ∈ ys, ∃ x ∈ xs, f x = some y := by
  induction xs generalizing ys with
  | nil =>
    cases h
    exact fun y hy => absurd hy List.not_mem_nil
  | cons x xs ih =>
    simp only [List.mapM_cons, Option.pure_def, Option.bind_eq_bind, Option.bind_eq_some_iff,
      Option.some.injEq] at h
    obtain ⟨first, hfirst, rest, hrest, rfl⟩ := h
    intro y hy
    rcases List.mem_cons.mp hy with rfl | hy
    · exact ⟨x, List.mem_cons_self, hfirst⟩
    · obtain ⟨z, hz, hfz⟩ := ih hrest y hy
      exact ⟨z, List.mem_cons_of_mem x hz, hfz⟩

/-- Every line of a comment is made of characters of one of its source lines. -/
theorem exists_source_of_mem_commentLines {width : Int} {cs : List Char} {ls : List (List Char)}
    (h : commentLines width cs = some ls) : ∀ line ∈ ls, ∃ source ∈ sourceLines cs,
      ∃ raw, raw ⊆ normalizeLine source ∧ line = guardSplice raw := by
  intro line hline
  rw [commentLines, Option.map_eq_some_iff] at h
  obtain ⟨groups, hgroups, rfl⟩ := h
  obtain ⟨raw, hraw, rfl⟩ := List.mem_map.mp hline
  obtain ⟨group, hgroup, hraw⟩ := List.mem_flatten.mp hraw
  obtain ⟨source, hmem, hwrap⟩ := exists_of_mem_mapM hgroups group hgroup
  exact ⟨source, hmem, raw, wrapLine_subset hwrap raw hraw, rfl⟩

/-- The lines of a comment, whatever its text. -/
theorem commentLines_inert {width : Int} {cs : List Char} {ls : List (List Char)}
    (h : commentLines width cs = some ls) :
    ∀ line ∈ ls, Unbroken line ∧ line.getLast? ≠ some '\\' := by
  intro line hline
  obtain ⟨source, hmem, raw, hraw, rfl⟩ := exists_source_of_mem_commentLines h line hline
  have hnormal : Unbroken (normalizeLine source) :=
    ((unbroken_sourceLines cs source hmem).expandTabs _ _).of_subset (trimEnd_subset _)
  exact ⟨(hnormal.of_subset hraw).guardSplice, getLast?_guardSplice raw⟩

/-- Besides characters of its text, a comment line holds blanks and the slashes that close a
backslash. -/
theorem mem_of_mem_commentLines {width : Int} {cs : List Char} {ls : List (List Char)}
    (h : commentLines width cs = some ls) :
    ∀ line ∈ ls, ∀ c ∈ line, c ∈ cs ∨ c = ' ' ∨ c = '/' := by
  intro line hline c hc
  obtain ⟨source, hmem, raw, hraw, rfl⟩ := exists_source_of_mem_commentLines h line hline
  have hsource : c ∈ raw → c ∈ cs ∨ c = ' ' ∨ c = '/' := fun hc => by
    rcases mem_of_mem_expandTabs (trimEnd_subset _ (hraw hc)) with hblank | hc
    · exact Or.inr (Or.inl hblank)
    · exact Or.inl (mem_of_mem_sourceLines hmem c hc)
  rw [guardSplice] at hc
  split at hc
  · rcases List.mem_append.mp hc with hc | hc
    · exact hsource hc
    · exact Or.inr (by simpa using hc)
  · exact hsource hc

end Text

end CWriter

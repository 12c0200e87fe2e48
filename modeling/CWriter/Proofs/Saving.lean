import CWriter.Files.Save
import CWriter.Proofs.Layout.Limits

/-!
# What saving does to the files

Saving puts the text of a scope at one place and leaves all other files as they were; where it is
refused, it leaves all of them. Directories may have been made on the way, and stay. A directory
never gives way to a file.
-/
namespace CWriter

namespace FileTree

variable {t made after : FileTree} {place other : List String} {path : List String} {text : String}

/-- The text of the file at a place, if there is one. -/
def text? (t : FileTree) (place : List String) : Option String := t.files.lookup place

theorem lookup_filter_ne (files : List (List String × String)) (place other : List String) :
    (files.filter fun (entry, _) => entry != place).lookup other =
      if other = place then none else files.lookup other := by
  induction files with
  | nil => simp
  | cons file files ih =>
    obtain ⟨entry, text⟩ := file
    by_cases hentry : entry = place
    · rw [List.filter_cons_of_neg (by simp [hentry]), ih, List.lookup_cons, hentry]
      split
      · rfl
      · next hother => rw [beq_eq_false_iff_ne.mpr hother]
    · rw [List.filter_cons_of_pos (by simp [hentry]), List.lookup_cons, List.lookup_cons, ih]
      by_cases hother : other = entry
      · simp [hother, hentry]
      · rw [beq_eq_false_iff_ne.mpr hother]

theorem text?_put (t : FileTree) (place other : List String) (text : String) :
    (t.put place text).text? other = if other = place then some text else t.text? other := by
  rw [text?, put, List.lookup_append, lookup_filter_ne]
  by_cases heq : other = place
  · rw [if_pos heq, if_pos heq, heq, List.lookup_cons_self]
    rfl
  · rw [if_neg heq, if_neg heq, List.lookup_cons, beq_eq_false_iff_ne.mpr heq, List.lookup_nil,
      Option.or_none]
    rfl

theorem kind_eq_directory_iff : t.kind place = .directory ↔
    t.text? place = none ∧
      (place = [] ∨ place ∈ t.directories ∨ ∃ entry ∈ t.files, place <+: entry.1) := by
  have hstands : (place.isEmpty || t.directories.contains place ||
      t.files.any fun (entry, _) => place.isPrefixOf entry) = true ↔
        place = [] ∨ place ∈ t.directories ∨ ∃ entry ∈ t.files, place <+: entry.1 := by
    simp [or_assoc]
  rw [← hstands, kind, text?]
  generalize (place.isEmpty || _) = stands
  cases t.files.lookup place <;> cases stands <;> simp

theorem text?_of_kind_missing (h : t.kind place = .missing) : t.text? place = none := by
  rw [kind] at h
  split at h
  · cases h
  · next hnone => exact Option.not_isSome_iff_eq_none.mp hnone

/-- What is a directory stays one. -/
def KeepsDirectories (t after : FileTree) : Prop :=
  ∀ place, t.kind place = .directory → after.kind place = .directory

theorem keepsDirectories_refl (t : FileTree) : t.KeepsDirectories t := fun _ h => h

theorem keepsDirectories_put (hplace : t.kind place ≠ .directory) (text : String) :
    t.KeepsDirectories (t.put place text) := by
  intro other hother
  have hne : other ≠ place := fun h => hplace (h ▸ hother)
  obtain ⟨hnone, hstands⟩ := kind_eq_directory_iff.mp hother
  refine kind_eq_directory_iff.mpr ⟨by rw [text?_put, if_neg hne, hnone], ?_⟩
  obtain hempty | hmade | ⟨entry, hentry, hprefix⟩ := hstands
  · exact .inl hempty
  · exact .inr (.inl hmade)
  · refine .inr (.inr ?_)
    by_cases heq : entry.1 = place
    · exact ⟨(place, text), by simp [put], heq ▸ hprefix⟩
    · exact ⟨entry, List.mem_append_left _ (List.mem_filter.mpr ⟨hentry, by simpa using heq⟩),
        hprefix⟩

theorem way_cons_eq_directory_iff {last : String} {up : List String} :
    t.way (last :: up) = .directory ↔
      t.way up = .directory ∧ last.utf8ByteSize ≤ FilePath.longestPart ∧
        t.kind (FilePath.location ⟨last :: up⟩) = .directory := by
  rw [way]
  split
  · next h =>
    split
    · next hlong => simp; omega
    · next hlong => simp [h]; omega
  · next h => exact ⟨fun hlast => absurd hlast h, fun hlast => absurd hlast.1 h⟩

theorem KeepsDirectories.way (h : t.KeepsDirectories after) (hpath : t.way path = .directory) :
    after.way path = .directory := by
  induction path with
  | nil => rfl
  | cons last up ih =>
    obtain ⟨hup, hshort, hlast⟩ := way_cons_eq_directory_iff.mp hpath
    exact way_cons_eq_directory_iff.mpr ⟨ih hup, hshort, h _ hlast⟩

/-- A path has been made a directory, and nothing else has happened but that others have. -/
structure Made (t : FileTree) (path : List String) (made : FileTree) : Prop where
  files : made.files = t.files
  kept : t.KeepsDirectories made
  stands : made.way path = .directory

theorem Made.refl (h : t.way path = .directory) : Made t path t := ⟨rfl, keepsDirectories_refl t, h⟩

theorem Made.trans {up : List String} (hup : Made t up made) (h : Made made path after) :
    Made t path after where
  files := h.files.trans hup.files
  kept place hplace := h.kept place (hup.kept place hplace)
  stands := h.stands

/-- One more directory, where nothing was. -/
theorem made_cons {last : String} {up : List String} (hup : t.way up = .directory)
    (hlast : t.way (last :: up) = .missing) :
    Made t (last :: up)
      { t with directories := FilePath.location ⟨last :: up⟩ :: t.directories } := by
  have hkept : t.KeepsDirectories
      { t with directories := FilePath.location ⟨last :: up⟩ :: t.directories } := by
    intro place hplace
    obtain ⟨hnone, hstands⟩ := kind_eq_directory_iff.mp hplace
    exact kind_eq_directory_iff.mpr
      ⟨hnone, hstands.imp_right (Or.imp_left (List.mem_cons_of_mem _))⟩
  rw [way, hup] at hlast
  dsimp only at hlast
  split at hlast
  · cases hlast
  · next hshort =>
    have hnone : t.text? (FilePath.location ⟨last :: up⟩) = none := text?_of_kind_missing hlast
    exact ⟨rfl, hkept, way_cons_eq_directory_iff.mpr ⟨hkept.way hup, Nat.not_lt.mp hshort,
      kind_eq_directory_iff.mpr ⟨hnone, .inr (.inl List.mem_cons_self)⟩⟩⟩

theorem makeOne_ne_none {p : FilePath} (h : t.way p.parent.reversed = .directory) :
    t.makeOne p ≠ none := by
  rw [makeOne, h]
  split
  · nofun
  · split <;> simp_all

theorem made_of_makeOne {p : FilePath} (h : t.makeOne p = some (.ok made)) :
    Made t p.reversed made := by
  rw [makeOne] at h
  split at h
  · cases h
  · split at h
    all_goals cases h
    · next hup hmissing =>
      obtain ⟨path⟩ := p
      cases path with
      | nil => cases hmissing
      | cons last up => exact made_cons hup hmissing
    · next hup hstands => exact .refl hstands

theorem made_of_makeAll (h : t.makeAll path = .ok made) : Made t path made := by
  induction path generalizing made with
  | nil =>
    cases h
    exact .refl rfl
  | cons last up ih =>
    rw [makeAll] at h
    split at h
    · next answer hone => exact made_of_makeOne (hone.trans (congrArg some h))
    · split at h
      · cases h
      · next between hup =>
        have hbetween := ih hup
        cases hone : between.makeOne ⟨last :: up⟩ with
        | none => exact absurd hone (makeOne_ne_none hbetween.stands)
        | some answer =>
          rw [hone] at h
          exact hbetween.trans (made_of_makeOne (hone.trans (congrArg some h)))

/-- What comes of a text that was written: it stands at its place, in a directory, and all that
stood elsewhere still does. -/
structure Wrote (t : FileTree) (target : FilePath) (text : String) (after : FileTree) : Prop where
  text? : ∀ place, after.text? place = if place = target.location then some text else t.text? place
  kept : t.KeepsDirectories after
  parent : after.way target.parent.reversed = .directory
  found : after.find target = .file

/-- In a directory that is there, a path that a file can be written at has a last part. -/
theorem exists_last_of_find {p : FilePath} (hparent : t.way p.parent.reversed = .directory)
    (h : t.find p = .file ∨ t.find p = .missing) :
    p.isTooLong = false ∧ ∃ last up, p = ⟨last :: up⟩ ∧
      last.utf8ByteSize ≤ FilePath.longestPart ∧ t.kind p.location ≠ .directory := by
  obtain ⟨path⟩ := p
  rw [find] at h
  split at h
  · simp at h
  · next hshort =>
    refine ⟨Bool.not_eq_true _ ▸ hshort, ?_⟩
    cases path with
    | nil => simp [way] at h
    | cons last up =>
      rw [way, show t.way up = .directory from hparent] at h
      dsimp only at h
      split at h
      · simp at h
      · next hlast =>
        refine ⟨last, up, rfl, Nat.not_lt.mp hlast, fun hkind => ?_⟩
        rw [hkind] at h
        simp at h

theorem wrote_put {p : FilePath} (hparent : t.way p.parent.reversed = .directory)
    (h : t.find p = .file ∨ t.find p = .missing) (text : String) :
    Wrote t p text (t.put p.location text) := by
  obtain ⟨hlong, last, up, rfl, hlast, hkind⟩ := exists_last_of_find hparent h
  have hkept := keepsDirectories_put hkind text
  have hup : (t.put (FilePath.location ⟨last :: up⟩) text).way up = .directory := hkept.way hparent
  refine ⟨fun place => text?_put .., hkept, hup, ?_⟩
  have hfile : ((t.put (FilePath.location ⟨last :: up⟩) text).files.lookup
      (FilePath.location ⟨last :: up⟩)).isSome = true := by
    rw [← text?, text?_put, if_pos rfl]
    rfl
  rw [find, hlong, if_neg Bool.false_ne_true, way, hup]
  dsimp only
  rw [if_neg (Nat.not_lt.mpr hlast), kind, if_pos hfile]

theorem Wrote.of_made {p : FilePath} (hmade : Made t path made) (h : Wrote made p text after) :
    Wrote t p text after where
  text? place := by rw [h.text?, FileTree.text?, FileTree.text?, hmade.files]
  kept place hplace := h.kept place (hmade.kept place hplace)
  parent := h.parent
  found := h.found

theorem wrote_of_write {target : FilePath} (h : t.write target text = (.ok (), after)) :
    Wrote t target text after := by
  rw [write] at h
  split at h
  · cases h
  split at h
  · cases h
  next made hmade =>
    have hmade := made_of_makeAll hmade
    split at h
    · cases h
    · refine .of_made hmade ?_
      rw [writeInPlace] at h
      split at h
      · cases h
      · next written hwritten =>
        split at hwritten
        all_goals cases hwritten
        all_goals
          next hfind =>
            cases h
            exact wrote_put hmade.stands (by simp [hfind]) text

/-- Where writing is refused, the files are as they were. -/
theorem files_of_write_error {target : FilePath} {fault : SaveFault}
    (h : t.write target text = (.error fault, after)) :
    after.files = t.files ∧ t.KeepsDirectories after := by
  rw [write] at h
  split at h
  · cases h
    exact ⟨rfl, keepsDirectories_refl t⟩
  split at h
  · cases h
    exact ⟨rfl, keepsDirectories_refl t⟩
  next made hmade =>
    have hmade := made_of_makeAll hmade
    split at h
    · cases h
      exact ⟨hmade.files, hmade.kept⟩
    · split at h
      · cases h
        exact ⟨hmade.files, hmade.kept⟩
      · cases h

theorem isTooLong_of_makeAll (h : t.makeAll path = .ok made) :
    FilePath.isTooLong ⟨path⟩ = false := by
  cases path with
  | nil => decide
  | cons last up =>
    refine Bool.eq_false_iff.mpr fun hlong => ?_
    rw [makeAll, makeOne, if_pos hlong] at h
    cases h

theorem makeAll_of_stands (hstands : t.way path = .directory)
    (hshort : FilePath.isTooLong ⟨path⟩ = false) : t.makeAll path = .ok t := by
  cases path with
  | nil => rfl
  | cons last up =>
    have hup : t.way (FilePath.parent ⟨last :: up⟩).reversed = .directory :=
      (way_cons_eq_directory_iff.mp hstands).1
    have hone : t.makeOne ⟨last :: up⟩ = some (.ok t) := by
      rw [makeOne, hshort, if_neg Bool.false_ne_true, hup, hstands]
    rw [makeAll, hone]

/-- What was written once can be written again. -/
theorem write_again {target : FilePath} (h : t.write target text = (.ok (), after))
    (next : String) : after.write target next = (.ok (), after.put target.location next) := by
  have hwrote := wrote_of_write h
  rw [write] at h
  split at h
  · cases h
  next hparent =>
    split at h
    · cases h
    next made hmade =>
      split at h
      · cases h
      next htarget =>
        have hagain := makeAll_of_stands hwrote.parent (isTooLong_of_makeAll hmade)
        rw [write, if_neg hparent, hagain]
        dsimp only
        rw [if_neg htarget, writeInPlace, hwrote.found]

end FileTree

/-- A scope that is saved has its text printed, and that text is what stands at its place. -/
theorem Scope.wrote_of_save {s : Scope} {style : Style} {d : Destination} {files after : FileTree}
    {place : List String} (h : s.save style d files = (.ok place, after)) :
    ∃ target text, d.target? s.filename = some target ∧ place = target.location ∧
      s.print style = .ok text ∧ s.text style = .ok text ∧ files.Wrote target text after := by
  rw [save] at h
  split at h
  · cases h
  next target htarget =>
    split at h
    · cases h
    next text htext =>
      split at h
      · next written hwritten =>
        cases h
        exact ⟨target, text, htarget, rfl, htext, render_of_print htext,
          FileTree.wrote_of_write hwritten⟩
      · cases h

/-- A scope that is not saved leaves the files as they were. -/
theorem Scope.files_of_save_error {s : Scope} {style : Style} {d : Destination}
    {files after : FileTree} {fault : SaveFault}
    (h : s.save style d files = (.error fault, after)) :
    after.files = files.files ∧ files.KeepsDirectories after := by
  rw [save] at h
  split at h
  · cases h
    exact ⟨rfl, files.keepsDirectories_refl⟩
  split at h
  · cases h
    exact ⟨rfl, files.keepsDirectories_refl⟩
  split at h
  · cases h
  · next hwritten =>
    cases h
    exact FileTree.files_of_write_error hwritten

end CWriter

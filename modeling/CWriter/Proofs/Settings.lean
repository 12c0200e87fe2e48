import CWriter.Proofs.Json
import CWriter.Proofs.WellFormed.Accepted
import CWriter.Session.Settings

/-!
# Settings that are saved and loaded

Whatever is loaded is within its bounds. Settings that are within theirs come back as they were
saved, as long as their numbers have no more digits than are read. Assignments are not held to the
bounds, so that settings may be saved that are not loaded again; the bounds are all it takes.
-/
namespace CWriter

theorem Rule.yields_atLeast (least : Nat) (v : Value) :
    ((Rule.atLeast least).accept v).Yields fun n => (least : Int) ≤ n := by
  refine Check.Yields.map ?_
  refine (Check.yields_of_forall (P := fun _ => True) fun _ => trivial).bind fun n _ => ?_
  by_cases hleast : (least : Int) ≤ n
  · rw [if_pos hleast]
    exact Check.yields_pure (by omega)
  · rw [if_neg hleast]
    exact Check.yields_fail _ _

theorem Rule.settles_atLeast_int (least : Nat) (n : Int) :
    ((Rule.atLeast least).accept (.int n)).Settles
      (if (least : Int) ≤ n then .ok n else .error [⟨[], .tooSmall least⟩]) := by
  have hnat : (acceptAtLeast least (.int n)).Settles
      (if (least : Int) ≤ n then .ok n.toNat else .error [⟨[], .tooSmall least⟩]) := by
    change Check.Settles (if (least : Int) ≤ n then pure n.toNat else Check.fail _) _
    split
    · exact Check.settles_pure _
    · exact Check.settles_fail _
  have hint := hnat.map fun n : Nat => (n : Int)
  split at hint
  · next h =>
    rw [if_pos h]
    rwa [Except.map, Int.toNat_of_nonneg (by omega)] at hint
  · next h =>
    rw [if_neg h]
    exact hint

/-- The settings as data, by their names. -/
def Style.members (s : Style) : Members := [
  ("indent_width", .int s.indentWidth), ("doc_width", .int s.docWidth),
  ("heading_width", .int s.headingWidth), ("void_params", .bool s.voidParams),
  ("blank_lines", .int s.blankLines)]

theorem Style.member_indentWidth (s : Style) :
    Value.member? s.members "indent_width" = some (.int s.indentWidth) := rfl

theorem Style.member_docWidth (s : Style) :
    Value.member? s.members "doc_width" = some (.int s.docWidth) := rfl

theorem Style.member_headingWidth (s : Style) :
    Value.member? s.members "heading_width" = some (.int s.headingWidth) := rfl

theorem Style.member_voidParams (s : Style) :
    Value.member? s.members "void_params" = some (.bool s.voidParams) := rfl

theorem Style.member_blankLines (s : Style) :
    Value.member? s.members "blank_lines" = some (.int s.blankLines) := rfl

/-- The settings that are numbers. -/
def Style.numbers (s : Style) : List Int :=
  [s.indentWidth, s.docWidth, s.headingWidth, s.blankLines]

namespace StyleSheet

open Json (Written)
open Style

variable {members : Members}

theorem settles_read_setting {α : Type} {name : String} {rule : Rule α} {set : α → Style → Style}
    {v : Value} {r : Except (List Problem) α} (hv : Value.member? members name = some v)
    (h : (rule.accept v).Settles r) (sheet : StyleSheet) :
    ((setting name rule set).read members sheet).Settles
      ((r.map fun a => { sheet with style := set a sheet.style }).mapError
        (List.map (Problem.under name))) := by
  rw [Slot.read_of_mentioned hv]
  exact (h.map _).within name

/-- A number among the settings is read where it is within its bound. -/
theorem settles_read_number {name : String} {set : Int → Style → Style} {least : Nat} {n : Int}
    (hn : Value.member? members name = some (.int n)) (hleast : (least : Int) ≤ n)
    (sheet : StyleSheet) :
    ((setting name (.atLeast least) set).read members sheet).Settles
      (.ok { sheet with style := set n sheet.style }) := by
  have hread : ((setting name (.atLeast least) set).read members sheet).Settles _ :=
    settles_read_setting hn (Rule.settles_atLeast_int least n) sheet
  rwa [if_pos hleast] at hread

/-- Nothing comes of settings one of which is below its bound. -/
theorem decides_number {name : String} {set : Int → Style → Style} {least : Nat} {n : Int}
    (hn : Value.member? members name = some (.int n)) :
    (setting name (.atLeast least) set).Decides members fun _ => (least : Int) ≤ n := by
  have hread (sheet : StyleSheet) :
      ((setting name (.atLeast least) set).read members sheet).Settles _ :=
    settles_read_setting hn (Rule.settles_atLeast_int least n) sheet
  by_cases hleast : (least : Int) ≤ n
  · refine ⟨fun _ => Check.yields_of_forall fun _ => hleast, fun sheet ledger => ?_⟩
    rw [settles_read_number hn hleast sheet ledger]
    nofun
  · simp only [if_neg hleast] at hread
    refine ⟨fun sheet ledger a ha => ?_, fun sheet ledger => ?_⟩
    · rw [hread sheet ledger] at ha
      cases ha
    · rw [hread sheet ledger]
      nofun

/-- A setting whose rule yields what keeps the property. -/
theorem frames_setting {α : Type} {members : Members} {Q : StyleSheet → Prop} {name : String}
    {rule : Rule α} {P : α → Prop} {set : α → Style → Style}
    (hrule : ∀ v, (rule.accept v).Yields P)
    (hset : ∀ a s, P a → Q s → Q { s with style := set a s.style }) :
    (setting name rule set).Frames members Q :=
  Slot.frames_of_store (fun s v hs => ((hrule v).imp fun a ha => hset a s ha hs).map)
    fun _ hs => Check.yields_pure hs

/-- Settings that are read from data are within their bounds. -/
theorem valid_of_build (settings : Members) :
    (schema.build settings).Yields fun sheet => sheet.style.Valid := by
  refine Schema.yields_build (fun id => ?_) ?_
  · have hdefault : ({} : Style).Valid := ⟨by decide, by decide, by decide, by decide⟩
    exact hdefault
  · have hflag : ∀ v, (Rule.bool.accept v).Yields fun _ => True :=
      fun _ => Check.yields_of_forall fun _ => trivial
    intro slot hslot
    simp only [schema, StyleSheet.settings, List.mem_cons, List.not_mem_nil, or_false] at hslot
    rcases hslot with rfl | rfl | rfl | rfl | rfl
    · exact frames_setting (Rule.yields_atLeast _) fun _ _ ha hs => { hs with indentWidth := ha }
    · exact frames_setting (Rule.yields_atLeast _) fun _ _ ha hs => { hs with docWidth := ha }
    · exact frames_setting (Rule.yields_atLeast _) fun _ _ ha hs => { hs with headingWidth := ha }
    · exact frames_setting hflag fun _ _ _ hs => { hs with }
    · exact frames_setting (Rule.yields_atLeast _) fun _ _ ha hs => { hs with blankLines := ha }

theorem build_members {style : Style} (hvalid : style.Valid) (ledger : Ledger) :
    schema.build style.members ledger =
      (.ok ⟨ledger.next, style⟩, { ledger with next := ledger.next + 1 }) := by
  have hflag : (Rule.bool.accept (.bool style.voidParams)).Settles (.ok style.voidParams) :=
    Check.settles_pure _
  have hread (id : Id) :
      Slot.readAll style.members schema.slots [] (schema.start id) = pure ⟨id, style⟩ := by
    rw [schema, settings,
      Slot.readAll_cons_of_ok (settles_read_number (member_indentWidth _) hvalid.indentWidth _),
      Slot.readAll_cons_of_ok (settles_read_number (member_docWidth _) hvalid.docWidth _),
      Slot.readAll_cons_of_ok (settles_read_number (member_headingWidth _) hvalid.headingWidth _),
      Slot.readAll_cons_of_ok (settles_read_setting (member_voidParams _) hflag _),
      Slot.readAll_cons_of_ok (settles_read_number (member_blankLines _) hvalid.blankLines _)]
    rfl
  exact Schema.build_eq rfl (fun _ => rfl) hread ledger

/-- Nothing is built of settings that are out of bounds. -/
theorem valid_of_build_members {style : Style} :
    (schema.build style.members).Yields fun _ => style.Valid := by
  have hkept {P : Prop} : ∀ slot ∈ schema.slots, slot.Frames style.members fun _ => P :=
    fun _ _ _ hp => Check.yields_of_forall fun _ => hp
  have hbound {slot : Slot StyleSheet} {P : Prop} (hslot : slot ∈ schema.slots)
      (h : slot.Decides style.members fun _ => P) :
      (schema.build style.members).Yields fun _ => P :=
    Schema.yields_build_of_readAll fun id =>
      Slot.yields_readAll_of_decides ⟨slot, hslot, h⟩ hkept _
  intro ledger sheet hsheet
  exact {
    indentWidth := hbound (.head _) (decides_number (member_indentWidth _)) ledger sheet hsheet
    docWidth := hbound (.tail _ (.head _)) (decides_number (member_docWidth _)) ledger sheet hsheet
    headingWidth := hbound (.tail _ (.tail _ (.head _))) (decides_number (member_headingWidth _))
      ledger sheet hsheet
    blankLines := hbound (.tail _ (.tail _ (.tail _ (.tail _ (.head _)))))
      (decides_number (member_blankLines _)) ledger sheet hsheet }

theorem isLiteral_names {name : String} (h : name ∈ ({} : Style).members.map Prod.fst) :
    ∀ c ∈ name.toList, Json.isLiteral c = true := by
  have hall : (({} : Style).members.map Prod.fst).all (·.toList.all Json.isLiteral) = true := by
    decide
  exact List.all_eq_true.mp (List.all_eq_true.mp hall name h)

/-- A setting that is a number, as it is written. -/
def writtenNumber (name : String) (n : Int) (hname : name ∈ ({} : Style).members.map Prod.fst)
    (hshort : n.natAbs < Text.writtenBound) : Written limits where
  name
  text := toString n
  value := .int n
  literal := isLiteral_names hname
  spells := Json.spells_int (Text.isWritable_iff.mpr hshort)

/-- A setting that is a truth value, as it is written. -/
def writtenFlag (name : String) (b : Bool) (hname : name ∈ ({} : Style).members.map Prod.fst) :
    Written limits where
  name
  text := toString b
  value := .bool b
  literal := isLiteral_names hname
  spells := Json.spells_bool b

/-- The text of saved settings is an object that has them as its members. -/
theorem read_saved {style : Style} (hshort : ∀ n ∈ style.numbers, n.natAbs < Text.writtenBound) :
    Json.read limits style.saved = some (.object style.members) := by
  obtain ⟨hindent, hdoc, hheading, hblank⟩ : style.indentWidth.natAbs < Text.writtenBound ∧
      style.docWidth.natAbs < Text.writtenBound ∧ style.headingWidth.natAbs < Text.writtenBound ∧
      style.blankLines.natAbs < Text.writtenBound := by
    simpa [Style.numbers] using hshort
  let written : List (Written limits) := [
    writtenNumber "indent_width" style.indentWidth (by decide) hindent,
    writtenNumber "doc_width" style.docWidth (by decide) hdoc,
    writtenNumber "heading_width" style.headingWidth (by decide) hheading,
    writtenFlag "void_params" style.voidParams (by decide),
    writtenNumber "blank_lines" style.blankLines (by decide) hblank]
  have hne : written ≠ [] := List.cons_ne_nil _ _
  refine Written.read_object hne ?_ (by decide)
  simp [written, Style.saved, Style.savedMembers, Style.savedLine, Written.lines, Written.line,
    writtenNumber, writtenFlag]

/-- Whatever text is loaded, the settings in it are within their bounds. -/
theorem valid_of_load (text : String) : (load text).Yields fun sheet => sheet.style.Valid := by
  rw [load]
  split
  · exact Check.yields_fail _ _
  · exact valid_of_build _
  · exact Check.yields_fail _ _

/-- Settings within their bounds are loaded as they were saved. -/
theorem load_saved {style : Style} (hvalid : style.Valid)
    (hshort : ∀ n ∈ style.numbers, n.natAbs < Text.writtenBound) (ledger : Ledger) :
    load style.saved ledger =
      (.ok ⟨ledger.next, style⟩, { ledger with next := ledger.next + 1 }) := by
  rw [load, read_saved hshort]
  exact build_members hvalid ledger

/-- Of saved settings, just those are loaded again that are within their bounds. -/
theorem exists_load_saved_iff {style : Style}
    (hshort : ∀ n ∈ style.numbers, n.natAbs < Text.writtenBound) (ledger : Ledger) :
    (∃ sheet, (load style.saved ledger).1 = .ok sheet) ↔ style.Valid := by
  constructor
  · rintro ⟨sheet, hsheet⟩
    rw [load, read_saved hshort] at hsheet
    exact valid_of_build_members ledger sheet hsheet
  · intro hvalid
    rw [load_saved hvalid hshort]
    exact ⟨_, rfl⟩

/-- The width of comments was assigned after the settings were made. -/
example : ∀ sheet, (load ({ docWidth := 19 } : Style).saved {}).1 ≠ .ok sheet := by
  intro sheet h
  have hvalid := (exists_load_saved_iff (by decide +kernel) {}).mp ⟨sheet, h⟩
  exact absurd hvalid.docWidth (by decide)

end StyleSheet

end CWriter

import CWriter.Proofs.Edits
import CWriter.Session.Classes

/-!
# Refused assignments

An assignment that is refused leaves the entity as it was, with one exception: a jump takes a
new keyword or target first and is asked for its target afterwards, so that it keeps the value
for which it is refused. The result covers every class, field and value, fields that do not
exist or cannot be assigned to among them. Which values are refused is established for the
fields of jumps only.
-/
namespace CWriter

namespace Jump

/-- A `goto` that names no target. -/
def Untargeted (j : Jump) : Prop := j.keyword = .goto ∧ j.target.getD "" = ""

instance (j : Jump) : Decidable j.Untargeted := inferInstanceAs (Decidable (_ ∧ _))

def keywordOf? (word : String) : Option JumpKeyword :=
  [("break", .brk), ("continue", .cont), ("goto", .goto)].lookup word

def targetOf? : Value → Option (Option String)
  | .null => some none
  | v => v.text?.map some

/-- What an assignment stores into a jump before the jump is checked as a whole. Nothing is stored
for a value that the field does not take. -/
def stored? (j : Jump) (name : String) (v : Value) : Option Jump :=
  if name = "kind" then if v.text? = some "jump" then some j else none
  else if name = "keyword" then
    (v.text?.bind keywordOf?).map fun keyword => { j with keyword }
  else if name = "target" then
    (targetOf? v).map fun target => { j with target }
  else none

theorem checkTarget_settles (j : Jump) :
    j.checkTarget.Settles
      (if j.Untargeted then .error [⟨[], .noJumpTarget⟩] else .ok ()) := by
  intro ledger
  by_cases hj : j.Untargeted
  · have hempty : (j.keyword = .goto && (j.target.getD "").isEmpty) = true := by
      simpa [Untargeted] using hj
    rw [checkTarget, if_pos hempty, if_pos hj]
    rfl
  · have hempty : ¬(j.keyword = .goto && (j.target.getD "").isEmpty) = true := by
      simpa [Untargeted] using hj
    rw [checkTarget, if_neg hempty, if_neg hj]
    rfl

theorem exists_settles_keyword (v : Value) :
    ∃ r, (Rule.jumpKeyword.accept v).Settles r ∧ r.toOption = v.text?.bind keywordOf? := by
  refine ⟨_, Check.settles_ofOption _ _, ?_⟩
  change Except.toOption (Option.elim (v.text?.bind keywordOf?) _ _) = _
  cases v.text?.bind keywordOf? <;> rfl

theorem exists_settles_target (v : Value) :
    ∃ r, ((Rule.nullable .text).accept v).Settles r ∧ r.toOption = targetOf? v := by
  cases v with
  | null => exact ⟨_, Check.settles_pure none, rfl⟩
  | str text => exact ⟨_, (Check.settles_pure text).map _, rfl⟩
  | word w => exact ⟨_, (Check.settles_pure w.text).map _, rfl⟩
  | _ => exact ⟨_, (Check.settles_fail .notText).map _, rfl⟩

theorem exists_settles_kind (v : Value) :
    ∃ r, (Rule.acceptFixed "jump" v).Settles r ∧
      r.toOption = if v.text? = some "jump" then some () else none := by
  rw [Rule.acceptFixed]
  split
  · exact ⟨_, Check.settles_pure (), rfl⟩
  · exact ⟨_, Check.settles_fail _, rfl⟩

/-- The fields of a jump depend on nothing but the value. -/
theorem exists_settles_store (j : Jump) (name : String) (v : Value) :
    match schema.assigned.find? (·.name == name) with
    | some slot => ∃ r, (slot.store j v).Settles r ∧ r.toOption = j.stored? name v
    | none => j.stored? name v = none := by
  by_cases hkind : name = "kind"
  · subst hkind
    obtain ⟨r, hr, hv⟩ := exists_settles_kind v
    refine ⟨_, hr.map _, ?_⟩
    rw [stored?, if_pos rfl]
    by_cases hword : v.text? = some "jump"
    · rw [if_pos hword] at hv ⊢
      cases r with
      | error ps => cases hv
      | ok a => rfl
    · rw [if_neg hword] at hv ⊢
      cases r with
      | error ps => rfl
      | ok a => cases hv
  by_cases hkeyword : name = "keyword"
  · subst hkeyword
    obtain ⟨r, hr, hv⟩ := exists_settles_keyword v
    refine ⟨_, hr.map _, ?_⟩
    rw [stored?, if_neg (by decide), if_pos rfl, ← hv]
    cases r <;> rfl
  by_cases htarget : name = "target"
  · subst htarget
    obtain ⟨r, hr, hv⟩ := exists_settles_target v
    refine ⟨_, hr.map _, ?_⟩
    rw [stored?, if_neg (by decide), if_neg (by decide), if_pos rfl, ← hv]
    cases r <;> rfl
  have hnone : schema.assigned.find? (·.name == name) = none := by
    simp [schema, Slot.fixed, Slot.required, Slot.optional, Ne.symm hkind, Ne.symm hkeyword,
      Ne.symm htarget]
  rw [hnone]
  simp [stored?, hkind, hkeyword, htarget]

/-- The value is stored first. Then it is found that the target is missing. -/
theorem assign_of_stored {j changed : Jump} {name : String} {v : Value}
    (h : j.stored? name v = some changed) (ledger : Ledger) :
    ∃ last, schema.assign name v j ledger =
      ((if changed.Untargeted then .error (.invalid [⟨[], .noJumpTarget⟩]) else .ok (), changed),
        last) := by
  have hslot := exists_settles_store j name v
  split at hslot
  · next slot hfind =>
    obtain ⟨r, hr, hv⟩ := hslot
    cases r with
    | error ps => cases hv.trans h
    | ok stored =>
      obtain rfl : stored = changed := Option.some.inj (hv.trans h)
      obtain ⟨after, hassign⟩ := Schema.assign_of_settles_ok rfl hfind hr ledger
      obtain ⟨last, hcheck⟩ := Edit.check_of_settles stored.checkTarget_settles stored after
      have hfinish : schema.finish stored = stored.checkTarget := rfl
      rw [hassign, hfinish, hcheck]
      refine ⟨last, ?_⟩
      split <;> rfl
  · cases hslot.symm.trans h

theorem assign_of_not_stored {j : Jump} {name : String} {v : Value}
    (h : j.stored? name v = none) (ledger : Ledger) :
    ∃ fault last, schema.assign name v j ledger = ((.error fault, j), last) := by
  have hslot := exists_settles_store j name v
  split at hslot
  · next slot hfind =>
    obtain ⟨r, hr, hv⟩ := hslot
    cases r with
    | error ps => exact Schema.assign_of_settles_error rfl hfind hr ledger
    | ok stored => cases hv.trans h
  · next hfind =>
    rw [Schema.assign, hfind]
    exact ⟨_, _, rfl⟩

end Jump

/-- The name is handed on to the members once it is stored, which cannot fail. -/
theorem Class.keeps_assign (name : String) (v : Value) : Edit.Keeps (Class.assign name v) := by
  refine Edit.FailsTo.bind (Schema.keeps_assign (fun _ => rfl) name v) fun _ => ?_
  split
  · exact Edit.succeeds_modify _
  · exact Edit.succeeds_pure _

namespace Entity

/-- A jump that is a `goto` and names no target. -/
def Untargeted : Entity → Prop
  | jump j => j.Untargeted
  | _ => False

/-- The jump that an assignment stores although its target is missing. -/
def spoiled? (e : Entity) (name : String) (v : Value) : Option Entity :=
  match e with
  | jump j => ((j.stored? name v).filter (·.Untargeted)).map .jump
  | _ => none

/-- Classes other than jumps have no check of the whole. -/
theorem keeps_assign (e : Entity) (he : ∀ j, e ≠ jump j) (name : String) (v : Value) :
    e.byClass fun c _ => Edit.Keeps (c.assign name v) := by
  cases e with
  | jump j => exact absurd rfl (he j)
  | cls c => exact Class.keeps_assign name v
  | _ => exact Schema.keeps_assign (fun _ => rfl) name v

theorem exists_edited {σ α : Type} {c : EntityClass σ} {s : σ} {x : Edit σ α}
    {ledger last : Ledger} {result : Except Fault α} {after : Entity}
    (h : edited c s x ledger = ((result, after), last)) : ∃ changed, after = c.entity changed := by
  cases h
  exact ⟨_, rfl⟩

/-- An assignment to anything but a jump keeps the class, and where it is refused everything. -/
theorem assignTo_of_ne_jump {e : Entity} (he : ∀ j, e ≠ jump j) {name : String} {v : Value}
    {ledger last : Ledger} {result : Except Fault Unit} {after : Entity}
    (h : e.assignTo name v ledger = ((result, after), last)) :
    (∀ fault, result = .error fault → after = e) ∧ ∀ j, after ≠ jump j := by
  have hkeeps := keeps_assign e he name v
  rw [assignTo] at h
  split at h
  · cases h
    exact ⟨fun _ _ => rfl, he⟩
  split at h
  · cases h
    exact ⟨fun _ _ => rfl, he⟩
  constructor
  · rintro fault rfl
    cases e <;> exact edited_eq_error hkeeps h
  · cases e with
    | jump j => exact absurd rfl (he j)
    | _ =>
      obtain ⟨changed, rfl⟩ := exists_edited h
      exact fun _ => nofun

theorem assignTo_jump (j : Jump) (name : String) (v : Value) (ledger : Ledger) :
    ∃ fault last, (jump j).assignTo name v ledger =
      match j.stored? name v with
      | none => ((.error fault, jump j), last)
      | some changed =>
        ((if changed.Untargeted then .error (.invalid [⟨[], .noJumpTarget⟩]) else .ok (),
          jump changed), last) := by
  change ∃ fault last, edited .jump j (Jump.schema.assign name v) ledger = _
  unfold edited
  cases hstored : j.stored? name v with
  | none =>
    obtain ⟨fault, last, hassign⟩ := Jump.assign_of_not_stored hstored ledger
    rw [hassign]
    exact ⟨fault, last, rfl⟩
  | some changed =>
    obtain ⟨last, hassign⟩ := Jump.assign_of_stored hstored ledger
    rw [hassign]
    exact ⟨.noItems "", last, rfl⟩

theorem spoiled?_of_ne_jump {e : Entity} (he : ∀ j, e ≠ jump j) (name : String) (v : Value) :
    e.spoiled? name v = none ∧ ¬e.Untargeted := by
  cases e with
  | jump j => exact absurd rfl (he j)
  | _ => exact ⟨rfl, not_false⟩

theorem spoiled?_jump {j changed : Jump} {name : String} {v : Value}
    (h : j.stored? name v = some changed) :
    (jump j).spoiled? name v = if changed.Untargeted then some (jump changed) else none := by
  by_cases hj : changed.Untargeted <;> simp [spoiled?, h, hj]

/-- What every outcome of an assignment leaves. -/
theorem assignTo_cases {e : Entity} {name : String} {v : Value} {ledger last : Ledger}
    {result : Except Fault Unit} {after : Entity}
    (h : e.assignTo name v ledger = ((result, after), last)) :
    (result = .ok () ∧ e.spoiled? name v = none ∧ ¬after.Untargeted) ∨
    (∃ fault, result = .error fault ∧ e.spoiled? name v = none ∧ after = e) ∨
    (∃ fault, result = .error fault ∧ e.spoiled? name v = some after ∧ after.Untargeted) := by
  by_cases he : ∀ j, e ≠ jump j
  · obtain ⟨hkept, hclass⟩ := assignTo_of_ne_jump he h
    have hspoiled := (spoiled?_of_ne_jump he name v).1
    cases result with
    | error fault => exact .inr (.inl ⟨fault, rfl, hspoiled, hkept fault rfl⟩)
    | ok done => exact .inl ⟨rfl, hspoiled, (spoiled?_of_ne_jump hclass name v).2⟩
  · obtain ⟨j, rfl⟩ : ∃ j, e = jump j := by simpa using he
    obtain ⟨fault, final, hassign⟩ := assignTo_jump j name v ledger
    rw [hassign] at h
    cases hstored : j.stored? name v with
    | none =>
      rw [hstored] at h
      cases h
      have hspoiled : (jump j).spoiled? name v = none := by simp [spoiled?, hstored]
      exact .inr (.inl ⟨fault, rfl, hspoiled, rfl⟩)
    | some changed =>
      rw [hstored] at h
      have hspoiled := spoiled?_jump hstored
      by_cases hj : changed.Untargeted
      · rw [if_pos hj] at hspoiled
        cases h
        exact .inr (.inr ⟨_, if_pos hj, hspoiled, hj⟩)
      · rw [if_neg hj] at hspoiled
        cases h
        exact .inl ⟨if_neg hj, hspoiled, hj⟩

/-- A refused assignment leaves an entity as it was, unless the entity is a jump and what is
assigned makes it a `goto` without a target. That value is kept. In no other way does an
assignment yield a `goto` without a target. -/
theorem refused_assignment {e : Entity} {name : String} {v : Value} {ledger last : Ledger}
    {result : Except Fault Unit} {after : Entity}
    (h : e.assignTo name v ledger = ((result, after), last)) :
    (∀ fault, result = .error fault →
      (after = e ∨ e.spoiled? name v = some after) ∧
      (after = e ↔ ∀ spoiled, e.spoiled? name v = some spoiled → spoiled = e)) ∧
    (after.Untargeted ↔
      ∃ fault, result = .error fault ∧ ((e.spoiled? name v).isSome = true ∨ e.Untargeted)) := by
  obtain ⟨rfl, hspoiled, htarget⟩ | ⟨fault, rfl, hspoiled, rfl⟩ | ⟨fault, rfl, hspoiled, htarget⟩ :=
    assignTo_cases h
  · refine ⟨fun fault herror => ?_, fun hj => absurd hj htarget, ?_⟩
    · cases herror
    · rintro ⟨fault, herror, -⟩
      cases herror
  · rw [hspoiled]
    refine ⟨fun _ _ => ⟨.inl rfl, ?_, fun _ => rfl⟩, fun hj => ⟨fault, rfl, .inr hj⟩, ?_⟩
    · intro _ spoiled hnone
      cases hnone
    · rintro ⟨problem, _, hnone | hj⟩
      · cases hnone
      · exact hj
  · rw [hspoiled]
    refine ⟨fun _ _ => ⟨.inr rfl, ?_, fun hsame => hsame after rfl⟩, fun _ => ?_, fun _ => htarget⟩
    · rintro rfl spoiled hsame
      exact (Option.some.inj hsame).symm
    · exact ⟨fault, rfl, .inl rfl⟩

/-- A class that is given a blank name keeps its name, and its constructor too. -/
theorem refused_assignment_blank_name :
    let name : Identifier := ⟨"C", by decide⟩
    let c : Entity := .cls { id := 0, name, members := [.constructor { id := 1, name }] }
    ∃ ledger last fault, c.assignTo "name" (.str " ") ledger = ((.error fault, c), last) := by
  intro name c
  have hrun : ∃ last fault after, c.assignTo "name" (.str " ") {} = ((.error fault, after), last) :=
    ⟨_, _, _, rfl⟩
  obtain ⟨last, fault, after, hrun⟩ := hrun
  have hkept : after = c := ((refused_assignment hrun).1 fault rfl).2.mpr fun _ h => nomatch h
  exact ⟨{}, last, fault, hkept ▸ hrun⟩

/-- A `goto` whose target is taken away stays without one, although this is refused. -/
theorem refused_assignment_goto :
    ¬∀ (e : Entity) (name : String) (v : Value) (ledger last : Ledger) (problems : List Problem)
      (after : Entity),
      e.assignTo name v ledger = ((.error (.invalid problems), after), last) → after = e := by
  intro h
  have hkept := h (.jump { id := 0, keyword := .goto, target := some "x" }) "target" .null {} _ _ _
    rfl
  injection hkept with hjump
  exact absurd (congrArg Jump.target hjump) (by decide)

end Entity

end CWriter

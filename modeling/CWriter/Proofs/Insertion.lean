import CWriter.Proofs.Edits

/-!
# Insertions that are refused

A refused insertion into a scope or a body leaves its container as it was, with one exception:
functions, methods and destructors give up the flag that rules a body out before the new body is
checked, and do not get it back. The result covers every way to be refused and every argument.
It says nothing about insertions that are accepted.
-/
namespace CWriter

open Edit

theorem Scope.keeps_push (v : Value) : Keeps (Scope.push v) :=
  FailsTo.bind (keeps_check _) fun _ => succeeds_modify _

theorem Block.keeps_push (v : Value) : Keeps (Block.push v) :=
  FailsTo.bind (keeps_check _) fun _ => succeeds_modify _

namespace Routine

theorem keeps_pushLine (line : Value) : Keeps (pushLine line) :=
  FailsTo.bind (keeps_check _) fun _ => succeeds_modify _

/-- The new body is checked before it is stored. -/
theorem keeps_setBody (lines : Value) : Keeps (setBody lines) := by
  refine FailsTo.get_bind fun s => ?_
  cases lines.listed? with
  | none => exact keeps_throw _
  | some items => exact FailsTo.bind (keeps_check _) fun _ => succeeds_set _

end Routine

namespace Function

theorem keeps_pushLine (line : Value) : Keeps (pushLine line) :=
  FailsTo.bind ((Routine.keeps_pushLine line).zoom fun _ => rfl) fun _ => succeeds_modify _

theorem failsTo_setBody (lines : Value) : FailsTo (setBody lines)
    (if lines.countsAsTrue then fun f => { f with isExtern := false } else id) :=
  ((Routine.keeps_setBody lines).zoom fun _ => rfl).given_up _ _

end Function

namespace Method

theorem keeps_pushLine (line : Value) : Keeps (pushLine line) :=
  FailsTo.bind ((Routine.keeps_pushLine line).zoom fun _ => rfl) fun _ => succeeds_modify _

theorem failsTo_setBody (lines : Value) : FailsTo (setBody lines)
    (if lines.countsAsTrue then fun m => { m with isPure := false } else id) :=
  ((Routine.keeps_setBody lines).zoom fun _ => rfl).given_up _ _

end Method

namespace Destructor

theorem keeps_pushLine (line : Value) : Keeps (pushLine line) :=
  FailsTo.bind ((Routine.keeps_pushLine line).zoom fun _ => rfl) fun _ => succeeds_modify _

theorem failsTo_setBody (lines : Value) : FailsTo (setBody lines)
    (if lines.countsAsTrue then fun d => { d with isPure := false } else id) :=
  ((Routine.keeps_setBody lines).zoom fun _ => rfl).given_up _ _

end Destructor

namespace Entity

/-- The calls that put items into a container. -/
def inserts : Entity → Verb → Bool
  | scope _, .push | block _, .push => true
  | function _, .pushLine | method _, .pushLine | constructor _, .pushLine
  | destructor _, .pushLine => true
  | function _, .setBody | method _, .setBody | constructor _, .setBody
  | destructor _, .setBody => true
  | _, _ => false

/-- Whether an entity has a flag that rules a body out. -/
def bodiless : Entity → Bool
  | function f => f.isExtern
  | method m => m.isPure
  | destructor d => d.isPure
  | _ => false

/-- An entity without the flag that rules a body out. -/
def bodied : Entity → Entity
  | function f => function { f with isExtern := false }
  | method m => method { m with isPure := false }
  | destructor d => destructor { d with isPure := false }
  | e => e

/-- The flag is all that is given up, and nothing is where it is not set. -/
theorem bodied_eq_self_iff (e : Entity) : e.bodied = e ↔ e.bodiless = false := by
  cases e with
  | function f =>
    refine ⟨fun h => ?_, fun h => ?_⟩
    · injection h with h
      exact (congrArg Function.isExtern h).symm
    · rw [bodied, ← show f.isExtern = false from h]
  | method m =>
    refine ⟨fun h => ?_, fun h => ?_⟩
    · injection h with h
      exact (congrArg Method.isPure h).symm
    · rw [bodied, ← show m.isPure = false from h]
  | destructor d =>
    refine ⟨fun h => ?_, fun h => ?_⟩
    · injection h with h
      exact (congrArg Destructor.isPure h).symm
    · rw [bodied, ← show d.isPure = false from h]
  | _ => exact ⟨fun _ => rfl, fun _ => rfl⟩

/-- What a refused call leaves of an entity. -/
def refused (e : Entity) (verb : Verb) (v : Value) : Entity :=
  if verb = .setBody ∧ v.countsAsTrue = true then e.bodied else e

theorem refused_setBody (e : Entity) (v : Value) :
    e.refused .setBody v = if v.countsAsTrue then e.bodied else e := by
  simp [refused]

/-- A call that is one edit of its class leaves, where it is refused, what the edit leaves. -/
theorem exists_call_refused {σ : Type} {e : Entity} {verb : Verb} {v : Value}
    {c : EntityClass σ} {s : σ} {x : Edit σ Reply} {f : σ → σ}
    (hcall : e.call? verb [v] = some (edited c s x)) (hx : FailsTo x f)
    (hf : c.entity (f s) = e.refused verb v) :
    ∃ call, e.call? verb [v] = some call ∧
      ∀ (ledger last : Ledger) (fault : Fault) (after : Entity),
        call ledger = ((.error fault, after), last) → after = e.refused verb v :=
  ⟨_, hcall, fun _ _ _ _ h => (edited_eq_error hx h).trans hf⟩

theorem exists_call_of_inserts {e : Entity} {verb : Verb} (hi : e.inserts verb = true)
    (v : Value) :
    ∃ call, e.call? verb [v] = some call ∧
      ∀ (ledger last : Ledger) (fault : Fault) (after : Entity),
        call ledger = ((.error fault, after), last) → after = e.refused verb v := by
  rw [inserts.eq_def] at hi
  split at hi
  · exact exists_call_refused rfl (FailsTo.chained (Scope.keeps_push v)) rfl
  · exact exists_call_refused rfl (FailsTo.chained (Block.keeps_push v)) rfl
  · exact exists_call_refused rfl (FailsTo.chained (Function.keeps_pushLine v)) rfl
  · exact exists_call_refused rfl (FailsTo.chained (Method.keeps_pushLine v)) rfl
  · have hkept : Keeps (Routine.pushLine v *> pure Reply.itself) :=
      FailsTo.chained (Routine.keeps_pushLine v)
    exact exists_call_refused rfl ((hkept.zoom fun _ => rfl).zoom fun _ => rfl) rfl
  · exact exists_call_refused rfl (FailsTo.chained (Destructor.keeps_pushLine v)) rfl
  · refine exists_call_refused rfl (FailsTo.chained (Function.failsTo_setBody v)) ?_
    rw [refused_setBody]
    split <;> rfl
  · refine exists_call_refused rfl (FailsTo.chained (Method.failsTo_setBody v)) ?_
    rw [refused_setBody]
    split <;> rfl
  · have hkept : Keeps (Routine.setBody v *> pure Reply.itself) :=
      FailsTo.chained (Routine.keeps_setBody v)
    refine exists_call_refused rfl ((hkept.zoom fun _ => rfl).zoom fun _ => rfl) ?_
    rw [refused_setBody]
    split <;> rfl
  · refine exists_call_refused rfl (FailsTo.chained (Destructor.failsTo_setBody v)) ?_
    rw [refused_setBody]
    split <;> rfl
  · cases hi

/-- A refused insertion leaves its container as it was, unless a body that counts as true is put
into a function, a method or a destructor whose flag rules bodies out. That flag is then lost,
and nothing else. -/
theorem refused_insertion {e : Entity} {verb : Verb} (hi : e.inserts verb = true) (v : Value) :
    ∃ call, e.call? verb [v] = some call ∧
      ∀ (ledger last : Ledger) (fault : Fault) (after : Entity),
        call ledger = ((.error fault, after), last) →
        (after = e ∨ after = e.bodied) ∧
        (after = e ↔ ¬(verb = .setBody ∧ v.countsAsTrue = true ∧ e.bodiless = true)) := by
  obtain ⟨call, hcall, hrefused⟩ := exists_call_of_inserts hi v
  refine ⟨call, hcall, fun ledger last fault after h => ?_⟩
  rw [hrefused ledger last fault after h, refused]
  by_cases hbody : verb = .setBody ∧ v.countsAsTrue = true
  · rw [if_pos hbody]
    refine ⟨Or.inr rfl, e.bodied_eq_self_iff.trans ?_⟩
    simp [hbody]
  · rw [if_neg hbody]
    refine ⟨Or.inl rfl, fun _ hall => hbody ⟨hall.1, hall.2.1⟩, fun _ => rfl⟩

/-- A number is refused as a line, and the external function stays external. -/
theorem refused_insertion_line :
    let f : Entity := .function { id := 0, name := ⟨"f", by decide⟩, isExtern := true }
    f.inserts .pushLine = true ∧ ∃ call last fault,
      f.call? .pushLine [.int 5] = some call ∧ call {} = ((.error fault, f), last) := by
  intro f
  have hinserts : f.inserts .pushLine = true := rfl
  obtain ⟨call, hcall, hrefused⟩ := refused_insertion hinserts (.int 5)
  have hrun : ∃ last fault after, call {} = ((.error fault, after), last) := by
    rw [← Option.some.inj hcall]
    exact ⟨_, _, _, rfl⟩
  obtain ⟨last, fault, after, hrun⟩ := hrun
  have hkept : after = f := (hrefused _ _ _ _ hrun).2.mpr (by decide)
  exact ⟨hinserts, call, last, fault, hcall, hkept ▸ hrun⟩

/-- An external function that is given a number for its body is no longer external. -/
theorem refused_insertion_external :
    ¬∀ (e : Entity) (verb : Verb) (v : Value) (call : StateM Ledger (Except Fault Reply × Entity))
      (ledger last : Ledger) (problems : List Problem) (after : Entity),
      e.inserts verb = true → e.call? verb [v] = some call →
        call ledger = ((.error (.invalid problems), after), last) → after = e := by
  intro h
  have hkept := h (.function { id := 0, name := ⟨"f", by decide⟩, isExtern := true }) .setBody
    (.list [.int 5]) _ {} _ _ _ rfl rfl rfl
  exact absurd (congrArg Entity.bodiless hkept) (by decide)

end Entity

end CWriter

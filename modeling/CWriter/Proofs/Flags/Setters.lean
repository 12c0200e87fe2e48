import CWriter.Proofs.Edits

/-!
# Flags that exclude each other

A setter gives up the flags that exclude its own before it assigns to it, so that the two never
hold together, be the assignment accepted or refused. What it tests for that is whether its
argument counts as true. A field reads its value otherwise: a word such as `false` counts as true
and is read as false. Where a flag depends on another, the two readings come apart.
-/
namespace CWriter

open Edit

/-- A text that stands for false where a truth value is read. As an argument it counts as true. -/
def Value.saysFalse (v : Value) : Bool :=
  v.text?.any fun s => Rule.falseWords.contains (String.ofList (s.toList.map Char.toLower))

/-- A floating-point number that is an integer is zero if the integer is. -/
theorem Double.isZero_of_integer? {x : Double} {n : Int} (h : x.integer? = some n) :
    x.isZero = decide (n = 0) := by
  cases x with
  | nan => cases h
  | infinite negative => cases h
  | finite negative significand exponent =>
    rw [integer?] at h
    split at h
    · next hwhole =>
      have hpow : 0 < Nat.pow 2 exponent.toNat := Nat.pow_pos (by decide)
      generalize Nat.pow 2 exponent.toNat = scale at h hwhole hpow
      generalize Nat.pow 2 (-exponent).toNat = unit at h hwhole
      have hsplit : unit * (significand * scale / unit) = significand * scale := by
        simpa only [hwhole, Nat.add_zero] using Nat.div_add_mod (significand * scale) unit
      have hzero : n = 0 ↔ significand * scale / unit = 0 := by
        cases negative <;> cases h <;> simp only [if_true, if_false, Bool.false_eq_true] <;> omega
      have hsignificand : significand * scale / unit = 0 ↔ significand = 0 := by
        constructor
        · intro hquotient
          rw [hquotient, Nat.mul_zero] at hsplit
          exact (Nat.mul_eq_zero.mp hsplit.symm).resolve_right (by omega)
        · rintro rfl
          rw [Nat.zero_mul, Nat.zero_div]
      rw [isZero, Bool.eq_iff_iff, beq_iff_eq, decide_eq_true_iff, hzero, hsignificand]
    · cases h

theorem Value.countsAsTrue_of_saysFalse {v : Value} (h : v.saysFalse = true) :
    v.countsAsTrue = true := by
  cases v with
  | str s =>
    cases hs : s.isEmpty with
    | false => rw [countsAsTrue, hs, Bool.not_false]
    | true =>
      obtain rfl := String.isEmpty_iff.mp hs
      exact absurd h (by decide)
  | word w => rfl
  | _ => cases h

namespace Rule

theorem yields_boolOfInt (n : Int) : (boolOfInt n).Yields (· = (n != 0)) := by
  rw [boolOfInt]
  split
  · next hzero => exact Check.yields_pure (by simp [hzero])
  split
  · next hone => exact Check.yields_pure (by simp [hone])
  · exact Check.yields_fail _ _

theorem yields_boolOfText (s : String) :
    (boolOfText s).Yields (· = (!s.isEmpty && !(Value.str s).saysFalse)) := by
  rw [boolOfText]
  have hword : (Value.str s).saysFalse =
      falseWords.contains (String.ofList (s.toList.map Char.toLower)) := rfl
  split
  · next hfalse => exact Check.yields_pure (by rw [hword, hfalse, Bool.not_true, Bool.and_false])
  split
  · next hfalse htrue =>
    have hs : s.isEmpty = false := by
      cases hempty : s.isEmpty with
      | false => rfl
      | true =>
        obtain rfl := String.isEmpty_iff.mp hempty
        exact absurd htrue (by decide)
    exact Check.yields_pure (by rw [hword, Bool.eq_false_iff.mpr hfalse, hs]; rfl)
  · exact Check.yields_fail _ _

/-- A value that is taken for a flag is taken as it counts, but for the words for false. -/
theorem yields_acceptBool (v : Value) :
    (acceptBool v).Yields (· = (v.countsAsTrue && !v.saysFalse)) := by
  cases v with
  | bool b => exact Check.yields_pure (by cases b <;> rfl)
  | int n =>
    have hcounts : ((Value.int n).countsAsTrue && !(Value.int n).saysFalse) = (n != 0) :=
      Bool.and_true _
    rw [hcounts]
    exact yields_boolOfInt n
  | float x =>
    rw [acceptBool]
    split
    · next n hn =>
      have hinteger : x.integer? = some n := (Option.filter_eq_some_iff.mp hn).1
      have hcounts : ((Value.float x).countsAsTrue && !(Value.float x).saysFalse) = (n != 0) := by
        rw [Value.countsAsTrue, Double.isZero_of_integer? hinteger]
        by_cases hzero : n = 0 <;> simp [hzero, Value.saysFalse, Value.text?]
      rw [hcounts]
      exact yields_boolOfInt n
    · exact Check.yields_fail _ _
  | str s => exact yields_boolOfText s
  | word w =>
    have htext : w.text.isEmpty = false := by
      rcases w with v | t | (_ | kind)
      · cases v <;> decide
      · cases t <;> decide
      · decide
      · cases kind <;> decide
    have hcounts : ((Value.word w).countsAsTrue && !(Value.word w).saysFalse) =
        (!w.text.isEmpty && !(Value.str w.text).saysFalse) := by
      rw [htext]
      rfl
    rw [hcounts]
    exact yields_boolOfText w.text
  | _ => exact Check.yields_fail _ _

theorem settles_acceptBool {v : Value} (h : v.saysFalse = true) :
    (acceptBool v).Settles (.ok false) := by
  have htext : ∀ s, (Value.str s).saysFalse = true → (boolOfText s).Settles (.ok false) := by
    intro s hs ledger
    have hword : falseWords.contains (String.ofList (s.toList.map Char.toLower)) = true := hs
    rw [boolOfText, if_pos hword]
    rfl
  cases v with
  | str s => exact htext s h
  | word w => exact htext w.text h
  | _ => cases h

end Rule

section Setters

variable {σ : Type} {schema : Schema σ} {name : String} {set : Bool → σ → σ} {v : Value} {s : σ}
  {Q : σ → Prop}

theorem ends_assign_flag
    (hfind : schema.assigned.find? (·.name == name) = some (.optional name .bool set))
    (hs : Q s) (hset : Q (set (v.countsAsTrue && !v.saysFalse) s)) :
    Ends (schema.assign name v) s Q := by
  have hslot : ((Slot.optional name .bool set).store s v).Yields Q := by
    refine Check.Yields.map ((Rule.yields_acceptBool v).imp ?_)
    rintro b rfl
    exact hset
  exact Schema.ends_assign hfind hs hslot

/-- An assignment to a field on which the property does not depend. -/
theorem ends_assign_other {α : Type} {rule : Rule α} {put : α → σ → σ} {absent : σ → Check σ}
    (hfind : schema.assigned.find? (·.name == name) =
      some { Slot.required name rule put with absent }) (hs : Q s) (hput : ∀ a, Q (put a s)) :
    Ends (schema.assign name v) s Q :=
  Schema.ends_assign hfind hs (Check.yields_of_forall hput).map

/-- A setter that gives up the flags that its own one excludes. Where the argument does not count
as true it can only take its own flag away. -/
theorem ends_exclusive_setter
    (hfind : schema.assigned.find? (·.name == name) = some (.optional name .bool set))
    {giveUp : σ → σ} (hs : Q s) (hfalse : Q (set false s)) (hgiven : Q (giveUp s))
    (hset : ∀ b, Q (set b (giveUp s))) :
    Ends (do
      if v.countsAsTrue then modify giveUp
      schema.assign name v) s Q := by
  apply ends_given_up
  cases hv : v.countsAsTrue with
  | true => exact ends_assign_flag hfind hgiven (hset _)
  | false =>
    refine ends_assign_flag hfind hs ?_
    rw [hv, Bool.false_and]
    exact hfalse

/-- A setter that gives up a flag where its argument does not count as true. -/
theorem ends_yielding_setter
    (hfind : schema.assigned.find? (·.name == name) = some (.optional name .bool set))
    {giveUp : σ → σ} (hs : Q s) (hgiven : ∀ b, Q (set b (giveUp s))) (hgivenUp : Q (giveUp s))
    (hset : Q (set (!v.saysFalse) s)) :
    Ends (do
      if !v.countsAsTrue then modify giveUp
      schema.assign name v) s Q := by
  apply ends_given_up
  cases hv : v.countsAsTrue with
  | true =>
    refine ends_assign_flag hfind hs ?_
    rw [hv, Bool.true_and]
    exact hset
  | false => exact ends_assign_flag hfind hgivenUp (hgiven _)

/-- A word for false is always taken, and as an argument it counts as true. -/
theorem ends_yielding_setter_of_saysFalse (hlayer : schema.layer = .entity)
    (hfind : schema.assigned.find? (·.name == name) = some (.optional name .bool set))
    {giveUp : σ → σ} (hv : v.saysFalse = true) (hset : Q (set false s)) :
    Ends (do
      if !v.countsAsTrue then modify giveUp
      schema.assign name v) s Q := by
  apply ends_given_up
  rw [Value.countsAsTrue_of_saysFalse hv]
  intro ledger
  have hslot : ((Slot.optional name .bool set).store s v).Settles (.ok (set false s)) :=
    (Rule.settles_acceptBool hv).map _
  obtain ⟨after, hassign⟩ := Schema.assign_of_settles_ok hlayer hfind hslot ledger
  rw [Bool.not_true, if_neg Bool.false_ne_true, hassign]
  exact ends_check hset _ _

variable {τ : Type} {get : σ → τ} {put : τ → σ → σ} {x : Edit τ Unit} {giveUp : σ → σ}

/-- A new body, with the flag that rules it out given up first. -/
theorem ends_body_setter {wanted : Bool} (hput : ∀ part, Q (put part s))
    (hgiven : ∀ part, Q (put part (giveUp s))) :
    Ends (do
      if wanted then modify giveUp
      x.zoom get put) s Q := by
  refine ends_given_up (ends_zoom fun part => ?_)
  split
  · exact hgiven part
  · exact hput part

/-- A new line, with the flag that rules it out given up afterwards. -/
theorem ends_line_pusher (hput : ∀ part, Q (put part s))
    (hgiven : ∀ part, Q (giveUp (put part s))) :
    Ends (do
      x.zoom get put
      modify giveUp) s Q := by
  have hpart : Ends (x.zoom get put) s fun after => Q after ∧ Q (giveUp after) :=
    ends_zoom fun part => ⟨hput part, hgiven part⟩
  exact hpart.bind (fun _ h => h.1) fun _ _ h => ends_modify h.2

end Setters

namespace Variable

def Exclusive (v : Variable) : Prop := ¬(v.isStatic = true ∧ v.isExtern = true)

theorem ends_methods {verb : Verb} {args : List Value} {x : Edit Variable Reply}
    (hx : methods verb args = some x) {v : Variable} (hv : v.Exclusive) : Ends x v Exclusive := by
  unfold methods at hx
  split at hx
  · obtain rfl := Option.some.inj hx
    exact Ends.chained (ends_assign_other rfl hv fun _ => hv)
  · obtain rfl := Option.some.inj hx
    refine Ends.chained (ends_exclusive_setter rfl hv ?_ ?_ ?_) <;> simp [Exclusive]
  · obtain rfl := Option.some.inj hx
    refine Ends.chained (ends_exclusive_setter rfl hv ?_ ?_ ?_) <;> simp [Exclusive]
  · exact ends_zoomMethods hx fun _ => hv

end Variable

namespace Function

def Exclusive (f : Function) : Prop :=
  f.isExtern = true → f.isStatic = false ∧ f.isInline = false

theorem ends_methods {verb : Verb} {args : List Value} {x : Edit Function Reply}
    (hx : methods verb args = some x) {f : Function} (hf : f.Exclusive) : Ends x f Exclusive := by
  unfold methods at hx
  split at hx
  · obtain rfl := Option.some.inj hx
    exact Ends.chained (ends_assign_other rfl hf fun _ => hf)
  · obtain rfl := Option.some.inj hx
    refine Ends.chained (ends_exclusive_setter rfl hf ?_ ?_ ?_)
    · exact fun hextern => ⟨rfl, (hf hextern).2⟩
    · exact nofun
    · exact fun _ => nofun
  · obtain rfl := Option.some.inj hx
    refine Ends.chained (ends_exclusive_setter rfl hf ?_ ?_ ?_)
    · exact fun hextern => ⟨(hf hextern).1, rfl⟩
    · exact nofun
    · exact fun _ => nofun
  · obtain rfl := Option.some.inj hx
    refine Ends.chained (ends_exclusive_setter rfl hf ?_ ?_ ?_)
    · exact nofun
    · exact fun _ => ⟨rfl, rfl⟩
    · exact fun _ _ => ⟨rfl, rfl⟩
  · obtain rfl := Option.some.inj hx
    exact Ends.chained (ends_body_setter (fun _ => hf) fun _ => nofun)
  · obtain rfl := Option.some.inj hx
    exact Ends.chained (ends_line_pusher (fun _ => hf) fun _ => nofun)
  · obtain rfl := Option.some.inj hx
    exact ends_spelling hf _ _
  · obtain rfl := Option.some.inj hx
    exact ends_reading hf _ _
  · exact ends_zoomMethods hx fun _ => hf

end Function

namespace Method

/-- A pure method is virtual. -/
def Tied (m : Method) : Prop := m.isPure = true → m.isVirtual = true

/-- A call that takes the second flag of a pure method and leaves the first. -/
def Unties (m : Method) (verb : Verb) (args : List Value) : Prop :=
  m.isPure = true ∧ verb = .setVirtual ∧ ∃ v, args = [v] ∧ v.saysFalse = true

theorem ends_methods {verb : Verb} {args : List Value} {x : Edit Method Reply}
    (hx : methods verb args = some x) {m : Method} (hm : m.Tied) (hties : ¬m.Unties verb args) :
    Ends x m Tied := by
  unfold methods at hx
  split at hx
  · obtain rfl := Option.some.inj hx
    exact Ends.chained (ends_assign_other rfl hm fun _ => hm)
  · obtain rfl := Option.some.inj hx
    exact Ends.chained (ends_assign_other rfl hm fun _ => hm)
  · obtain rfl := Option.some.inj hx
    exact Ends.chained (ends_assign_other rfl hm fun _ => hm)
  · obtain rfl := Option.some.inj hx
    refine Ends.chained ?_
    unfold setExtern
    split
    · exact ends_get_bind (ends_throw hm _)
    · exact ends_pure hm _
  · obtain rfl := Option.some.inj hx
    refine Ends.chained (ends_yielding_setter rfl hm (fun _ => nofun) nofun fun hpure => ?_)
    cases hword : Value.saysFalse _ with
    | false => rfl
    | true => exact absurd ⟨hpure, rfl, _, rfl, hword⟩ hties
  · obtain rfl := Option.some.inj hx
    refine Ends.chained (ends_exclusive_setter rfl hm ?_ ?_ ?_)
    · exact nofun
    · exact fun _ => rfl
    · exact fun _ _ => rfl
  · obtain rfl := Option.some.inj hx
    exact Ends.chained (ends_assign_other rfl hm fun _ => hm)
  · obtain rfl := Option.some.inj hx
    exact Ends.chained (ends_assign_other rfl hm fun _ => hm)
  · obtain rfl := Option.some.inj hx
    exact Ends.chained (ends_assign_other rfl hm fun _ => hm)
  · obtain rfl := Option.some.inj hx
    exact Ends.chained (ends_body_setter (fun _ => hm) fun _ => nofun)
  · obtain rfl := Option.some.inj hx
    exact Ends.chained (ends_line_pusher (fun _ => hm) fun _ => nofun)
  · obtain rfl := Option.some.inj hx
    exact ends_spelling hm _ _
  · obtain rfl := Option.some.inj hx
    exact ends_reading hm _ _
  · exact ends_zoomMethods hx fun _ => hm

/-- The exception is one: the method stays pure and is virtual no more. -/
theorem ends_methods_of_unties {verb : Verb} {args : List Value} {x : Edit Method Reply}
    (hx : methods verb args = some x) {m : Method} (hunties : m.Unties verb args) :
    Ends x m fun after => ¬after.Tied := by
  obtain ⟨hpure, rfl, v, rfl, hv⟩ := hunties
  obtain rfl := Option.some.inj hx
  exact Ends.chained (ends_yielding_setter_of_saysFalse rfl rfl hv fun htied => nomatch htied hpure)

end Method

namespace Constructor

def Exclusive (c : Constructor) : Prop :=
  ¬(c.isDefault = true ∧ c.isDelete = true) ∧ ¬(c.isCopy = true ∧ c.isMove = true)

theorem ends_methods {verb : Verb} {args : List Value} {x : Edit Constructor Reply}
    (hx : methods verb args = some x) {c : Constructor} (hc : c.Exclusive) :
    Ends x c Exclusive := by
  obtain ⟨hbody, hother⟩ := hc
  unfold methods at hx
  split at hx
  · obtain rfl := Option.some.inj hx
    exact Ends.chained (ends_modify ⟨hbody, hother⟩)
  · obtain rfl := Option.some.inj hx
    exact Ends.chained (ends_assign_other rfl ⟨hbody, hother⟩ fun _ => ⟨hbody, hother⟩)
  · obtain rfl := Option.some.inj hx
    refine Ends.chained (ends_exclusive_setter rfl ⟨hbody, hother⟩ ?_ ?_ ?_)
    · exact ⟨nofun, hother⟩
    · exact ⟨nofun, hother⟩
    · exact fun _ => ⟨nofun, hother⟩
  · obtain rfl := Option.some.inj hx
    refine Ends.chained (ends_exclusive_setter rfl ⟨hbody, hother⟩ ?_ ?_ ?_)
    · exact ⟨nofun, hother⟩
    · exact ⟨nofun, hother⟩
    · exact fun _ => ⟨nofun, hother⟩
  · obtain rfl := Option.some.inj hx
    refine Ends.chained (ends_exclusive_setter rfl ⟨hbody, hother⟩ ?_ ?_ ?_)
    · exact ⟨hbody, nofun⟩
    · exact ⟨hbody, nofun⟩
    · exact fun _ => ⟨hbody, nofun⟩
  · obtain rfl := Option.some.inj hx
    refine Ends.chained (ends_exclusive_setter rfl ⟨hbody, hother⟩ ?_ ?_ ?_)
    · exact ⟨hbody, nofun⟩
    · exact ⟨hbody, nofun⟩
    · exact fun _ => ⟨hbody, nofun⟩
  · obtain rfl := Option.some.inj hx
    exact Ends.chained (ends_assign_other rfl ⟨hbody, hother⟩ fun _ => ⟨hbody, hother⟩)
  · obtain rfl := Option.some.inj hx
    exact ends_looking ⟨hbody, hother⟩ _
  · obtain rfl := Option.some.inj hx
    exact ends_reading ⟨hbody, hother⟩ _ _
  · exact ends_zoomMethods hx fun _ => ⟨hbody, hother⟩

end Constructor

namespace Destructor

def Exclusive (d : Destructor) : Prop := ¬(d.isPure = true ∧ d.isDefault = true)

/-- A pure destructor is virtual. -/
def Tied (d : Destructor) : Prop := d.isPure = true → d.isVirtual = true

/-- A call that takes the second flag of a pure destructor and leaves the first. -/
def Unties (d : Destructor) (verb : Verb) (args : List Value) : Prop :=
  d.isPure = true ∧ verb = .setVirtual ∧ ∃ v, args = [v] ∧ v.saysFalse = true

theorem ends_methods {verb : Verb} {args : List Value} {x : Edit Destructor Reply}
    (hx : methods verb args = some x) {d : Destructor} (hd : d.Exclusive) :
    Ends x d Exclusive := by
  unfold methods at hx
  split at hx
  · obtain rfl := Option.some.inj hx
    refine Ends.chained (ends_yielding_setter rfl hd (fun _ => ?_) ?_ hd)
    · exact nofun
    · exact nofun
  · obtain rfl := Option.some.inj hx
    refine Ends.chained (ends_exclusive_setter rfl hd ?_ ?_ ?_)
    · exact nofun
    · exact nofun
    · exact fun _ => nofun
  · obtain rfl := Option.some.inj hx
    refine Ends.chained (ends_exclusive_setter rfl hd ?_ ?_ ?_)
    · exact nofun
    · exact nofun
    · exact fun _ => nofun
  · obtain rfl := Option.some.inj hx
    exact Ends.chained (ends_assign_other rfl hd fun _ => hd)
  · obtain rfl := Option.some.inj hx
    exact Ends.chained (ends_body_setter (fun _ => hd) fun _ => nofun)
  · obtain rfl := Option.some.inj hx
    exact Ends.chained (ends_line_pusher (fun _ => hd) fun _ => nofun)
  · obtain rfl := Option.some.inj hx
    exact ends_reading hd _ _
  · exact ends_zoomMethods hx fun _ => hd

theorem ends_methods_tied {verb : Verb} {args : List Value} {x : Edit Destructor Reply}
    (hx : methods verb args = some x) {d : Destructor} (hd : d.Tied)
    (hties : ¬d.Unties verb args) : Ends x d Tied := by
  unfold methods at hx
  split at hx
  · obtain rfl := Option.some.inj hx
    refine Ends.chained (ends_yielding_setter rfl hd (fun _ => nofun) nofun fun hpure => ?_)
    cases hword : Value.saysFalse _ with
    | false => rfl
    | true => exact absurd ⟨hpure, rfl, _, rfl, hword⟩ hties
  · obtain rfl := Option.some.inj hx
    refine Ends.chained (ends_exclusive_setter rfl hd ?_ ?_ ?_)
    · exact hd
    · exact nofun
    · exact fun _ => nofun
  · obtain rfl := Option.some.inj hx
    refine Ends.chained (ends_exclusive_setter rfl hd ?_ ?_ ?_)
    · exact nofun
    · exact fun _ => rfl
    · exact fun _ _ => rfl
  · obtain rfl := Option.some.inj hx
    exact Ends.chained (ends_assign_other rfl hd fun _ => hd)
  · obtain rfl := Option.some.inj hx
    exact Ends.chained (ends_body_setter (fun _ => hd) fun _ => nofun)
  · obtain rfl := Option.some.inj hx
    exact Ends.chained (ends_line_pusher (fun _ => hd) fun _ => nofun)
  · obtain rfl := Option.some.inj hx
    exact ends_reading hd _ _
  · exact ends_zoomMethods hx fun _ => hd

theorem ends_methods_of_unties {verb : Verb} {args : List Value} {x : Edit Destructor Reply}
    (hx : methods verb args = some x) {d : Destructor} (hunties : d.Unties verb args) :
    Ends x d fun after => ¬after.Tied := by
  obtain ⟨hpure, rfl, v, rfl, hv⟩ := hunties
  obtain rfl := Option.some.inj hx
  exact Ends.chained (ends_yielding_setter_of_saysFalse rfl rfl hv fun htied => nomatch htied hpure)

end Destructor

end CWriter

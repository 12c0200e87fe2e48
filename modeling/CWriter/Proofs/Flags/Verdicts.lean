import CWriter.Proofs.Flags.Runs

/-!
# What a flag setter makes of its argument

A setter that touches a second flag does so before its argument is read, going by whether the
argument counts as true. So an argument that is then refused may have cost the other flag, and a
word for false takes the other flag away where `false` itself does not. Which entity, setter and
argument this happens to is settled here for all of them; everywhere else a refused argument
changes nothing, and an accepted one does what the truth value does that it stands for.
-/
namespace CWriter

open Edit

/-- What an argument is read as: a truth value, or the problems with it. -/
def Value.verdict (v : Value) : Except (List Problem) Bool := (Rule.acceptBool v {}).1

namespace Rule

theorem exists_settles_boolOfInt (n : Int) : ∃ r, (boolOfInt n).Settles r := by
  unfold boolOfInt
  split
  · exact ⟨_, Check.settles_pure false⟩
  split
  · exact ⟨_, Check.settles_pure true⟩
  · exact ⟨_, Check.settles_fail _⟩

theorem exists_settles_boolOfText (s : String) : ∃ r, (boolOfText s).Settles r := by
  unfold boolOfText
  dsimp only
  split
  · exact ⟨_, Check.settles_pure false⟩
  split
  · exact ⟨_, Check.settles_pure true⟩
  · exact ⟨_, Check.settles_fail _⟩

/-- The verdict does not depend on what has been checked before. -/
theorem settles_verdict (v : Value) : (acceptBool v).Settles v.verdict := by
  have hsettles : ∃ r, (acceptBool v).Settles r := by
    cases v with
    | bool b => exact ⟨_, Check.settles_pure b⟩
    | int n => exact exists_settles_boolOfInt n
    | float x =>
      rw [acceptBool]
      cases wordOfFloat? x with
      | some n => exact exists_settles_boolOfInt n
      | none => exact ⟨_, Check.settles_fail _⟩
    | str s => exact exists_settles_boolOfText s
    | word w => exact exists_settles_boolOfText w.text
    | _ => exact ⟨_, Check.settles_fail _⟩
  obtain ⟨r, hr⟩ := hsettles
  have hverdict : v.verdict = r := congrArg Prod.fst (hr {})
  rwa [hverdict]

end Rule

/-- An accepted argument is read as it counts, unless it is a word for false. -/
theorem Value.verdict_eq_ok {v : Value} {b : Bool} (h : v.verdict = .ok b) :
    b = (v.countsAsTrue && !v.saysFalse) := Rule.yields_acceptBool v {} b h

theorem Value.verdict_bool (b : Bool) : (Value.bool b).verdict = .ok b := rfl

section

variable {σ : Type} {schema : Schema σ} {name : String} {set : Bool → σ → σ}

/-- An assignment to a flag, by the verdict on the value. -/
theorem assign_verdict (hlayer : schema.layer = .entity) (hfinish : ∀ s, schema.finish s = pure ())
    (hfind : schema.assigned.find? (·.name == name) = some (.optional name .bool set))
    (v : Value) (s : σ) (ledger : Ledger) :
    (schema.assign name v s ledger).1 =
      match v.verdict with
      | .ok b => (.ok (), set b s)
      | .error ps => (.error (.invalid (ps.map (Problem.under name))), s) := by
  have hslot : ((Slot.optional name .bool set).store s v).Settles (v.verdict.map (set · s)) :=
    (Rule.settles_verdict v).map _
  rw [Schema.assign_of_find hfind, hlayer, Check.alone_entering, hslot.within name _]
  cases v.verdict with
  | error ps => rfl
  | ok b =>
    dsimp only [Except.map, Except.mapError]
    rw [hfinish]
    rfl

/-- The answer of a setter: the entity itself, or the problems with the argument under the name
of the flag. -/
def Value.answerFor (field : String) (v : Value) : Except Fault Reply :=
  match v.verdict with
  | .ok _ => .ok .itself
  | .error ps => .error (.invalid (ps.map (Problem.under field)))

/-- What `set` makes of `s`, if the value is accepted. -/
def Value.stored (set : Bool → σ → σ) (v : Value) (s : σ) : σ :=
  match v.verdict with
  | .ok b => set b s
  | .error _ => s

/-- Where a setter ends: with the other flags given up, and its own one set if the argument is
accepted. -/
theorem run_setter (hlayer : schema.layer = .entity) (hfinish : ∀ s, schema.finish s = pure ())
    (hfind : schema.assigned.find? (·.name == name) = some (.optional name .bool set))
    (wanted : Bool) (giveUp : σ → σ) (v : Value) (s : σ) (ledger : Ledger) :
    (((do
      if wanted then modify giveUp
      schema.assign name v : Edit σ Unit) *> pure Reply.itself) s ledger).1 =
      (v.answerFor name, v.stored set (if wanted then giveUp s else s)) := by
  have hgiven : (do
      if wanted then modify giveUp
      schema.assign name v : Edit σ Unit) s ledger =
      schema.assign name v (if wanted then giveUp s else s) ledger := by
    cases wanted <;> rfl
  have hassign := assign_verdict hlayer hfinish hfind v (if wanted then giveUp s else s) ledger
  rcases hr : schema.assign name v (if wanted then giveUp s else s) ledger with
    ⟨⟨result, after⟩, last⟩
  rw [hr] at hassign hgiven
  rw [Value.answerFor, Value.stored]
  cases hv : v.verdict with
  | ok b =>
    rw [hv] at hassign
    obtain ⟨rfl, rfl⟩ := Prod.mk.inj hassign
    exact congrArg Prod.fst (bind_of_ok hgiven _)
  | error ps =>
    rw [hv] at hassign
    obtain ⟨rfl, rfl⟩ := Prod.mk.inj hassign
    exact congrArg Prod.fst (bind_of_error hgiven _)

end

namespace Entity

/-- What a call is answered with; nothing where the class does not know it. -/
def answer (e : Entity) (r : Request) : Option (Except Fault Reply) :=
  (e.call? r.verb r.args).map fun call => (call r.ledger).1.1

/-- The flag that a setter assigns to, for the setters of the classes with flags that exclude
each other. The one that a method only refuses is none of them. -/
def flagField? : Entity → Verb → Option String
  | global _, .setStatic | function _, .setStatic | method _, .setStatic => some "is_static"
  | global _, .setExtern | function _, .setExtern => some "is_extern"
  | function _, .setInline | method _, .setInline => some "is_inline"
  | method _, .setVirtual | destructor _, .setVirtual => some "is_virtual"
  | method _, .setPure | destructor _, .setPure => some "is_pure"
  | constructor _, .setDefault | destructor _, .setDefault => some "is_default"
  | constructor _, .setDelete => some "is_delete"
  | constructor _, .setCopy => some "is_copy"
  | constructor _, .setMove => some "is_move"
  | _, _ => none

/-- An entity before its setter reads the argument, which counts as true or not. -/
def yielded : Entity → Verb → Bool → Entity
  | global x, .setStatic, counts => global (if counts then { x with isExtern := false } else x)
  | global x, .setExtern, counts => global (if counts then { x with isStatic := false } else x)
  | function x, .setStatic, counts | function x, .setInline, counts =>
    function (if counts then { x with isExtern := false } else x)
  | function x, .setExtern, counts =>
    function (if counts then { x with isStatic := false, isInline := false } else x)
  | method x, .setVirtual, counts => method (if !counts then { x with isPure := false } else x)
  | method x, .setPure, counts => method (if counts then { x with isVirtual := true } else x)
  | constructor x, .setDefault, counts =>
    constructor (if counts then { x with isDelete := false } else x)
  | constructor x, .setDelete, counts =>
    constructor (if counts then { x with isDefault := false } else x)
  | constructor x, .setCopy, counts =>
    constructor (if counts then { x with isMove := false } else x)
  | constructor x, .setMove, counts =>
    constructor (if counts then { x with isCopy := false } else x)
  | destructor x, .setVirtual, counts =>
    destructor (if !counts then { x with isPure := false } else x)
  | destructor x, .setDefault, counts =>
    destructor (if counts then { x with isPure := false } else x)
  | destructor x, .setPure, counts =>
    destructor (if counts then { x with isVirtual := true, isDefault := false } else x)
  | e, _, _ => e

/-- An entity with the flag of a setter set. -/
def flagged (verb : Verb) (b : Bool) : Entity → Entity
  | global x =>
    match verb with
    | .setStatic => global { x with isStatic := b }
    | .setExtern => global { x with isExtern := b }
    | _ => global x
  | function x =>
    match verb with
    | .setStatic => function { x with isStatic := b }
    | .setInline => function { x with isInline := b }
    | .setExtern => function { x with isExtern := b }
    | _ => function x
  | method x =>
    match verb with
    | .setStatic => method { x with isStatic := b }
    | .setInline => method { x with isInline := b }
    | .setVirtual => method { x with isVirtual := b }
    | .setPure => method { x with isPure := b }
    | _ => method x
  | constructor x =>
    match verb with
    | .setDefault => constructor { x with isDefault := b }
    | .setDelete => constructor { x with isDelete := b }
    | .setCopy => constructor { x with isCopy := b }
    | .setMove => constructor { x with isMove := b }
    | _ => constructor x
  | destructor x =>
    match verb with
    | .setVirtual => destructor { x with isVirtual := b }
    | .setDefault => destructor { x with isDefault := b }
    | .setPure => destructor { x with isPure := b }
    | _ => destructor x
  | e => e

theorem call_of_run {σ : Type} {c : EntityClass σ} {s after : σ} {e : Entity} {x : Edit σ Reply}
    {r : Request} {result : Except Fault Reply}
    (hcall : e.call? r.verb r.args = some (edited c s x))
    (hrun : (x s r.ledger).1 = (result, after)) :
    e.answer r = some result ∧ e.after r = c.entity after := by
  constructor
  · rw [answer, hcall]
    exact congrArg (fun p => some p.1) hrun
  · rw [Entity.after, hcall]
    exact congrArg (fun p => c.entity p.2) hrun

theorem call_of_setter {σ : Type} {c : EntityClass σ} {schema : Schema σ} {e : Entity}
    {verb : Verb} {field : String} {v : Value} {set : Bool → σ → σ} {wanted : Bool}
    {giveUp : σ → σ} {s : σ} (hlayer : schema.layer = .entity)
    (hfinish : ∀ s, schema.finish s = pure ())
    (hfind : schema.assigned.find? (·.name == field) = some (.optional field .bool set))
    (hcall : e.call? verb [v] = some (edited c s ((do
      if wanted then modify giveUp
      schema.assign field v : Edit σ Unit) *> pure Reply.itself)))
    (hset : ∀ b s, c.entity (set b s) = flagged verb b (c.entity s))
    (hgiven : c.entity (if wanted then giveUp s else s) = e.yielded verb v.countsAsTrue)
    (ledger : Ledger) :
    e.answer ⟨verb, [v], ledger⟩ = some (v.answerFor field) ∧
    e.after ⟨verb, [v], ledger⟩ = v.stored (flagged verb) (e.yielded verb v.countsAsTrue) := by
  obtain ⟨hanswer, hafter⟩ := call_of_run (r := ⟨verb, [v], ledger⟩) hcall
    (run_setter hlayer hfinish hfind wanted giveUp v s ledger)
  refine ⟨hanswer, hafter.trans ?_⟩
  rw [← hgiven, Value.stored, Value.stored]
  cases v.verdict with
  | ok b => exact hset b _
  | error ps => rfl

/-- A setter of a flag that excludes no other. -/
theorem call_of_plain_setter {σ : Type} {c : EntityClass σ} {schema : Schema σ} {e : Entity}
    {verb : Verb} {field : String} {v : Value} {set : Bool → σ → σ} {s : σ}
    (hlayer : schema.layer = .entity) (hfinish : ∀ s, schema.finish s = pure ())
    (hfind : schema.assigned.find? (·.name == field) = some (.optional field .bool set))
    (hcall : e.call? verb [v] = some (edited c s (schema.assign field v *> pure Reply.itself)))
    (hset : ∀ b s, c.entity (set b s) = flagged verb b (c.entity s))
    (hgiven : c.entity s = e.yielded verb v.countsAsTrue) (ledger : Ledger) :
    e.answer ⟨verb, [v], ledger⟩ = some (v.answerFor field) ∧
    e.after ⟨verb, [v], ledger⟩ = v.stored (flagged verb) (e.yielded verb v.countsAsTrue) := by
  have hidle : e.call? verb [v] = some (edited c s ((do
      if false then modify fun s => s
      schema.assign field v : Edit σ Unit) *> pure Reply.itself)) := hcall
  exact call_of_setter hlayer hfinish hfind hidle hset hgiven ledger

/-- Every setter first gives up what it gives up, and then stores what it is told to. -/
theorem call_setter {e : Entity} {verb : Verb} {field : String}
    (h : e.flagField? verb = some field) (v : Value) (ledger : Ledger) :
    e.answer ⟨verb, [v], ledger⟩ = some (v.answerFor field) ∧
    e.after ⟨verb, [v], ledger⟩ = v.stored (flagged verb) (e.yielded verb v.countsAsTrue) := by
  unfold flagField? at h
  split at h <;> cases h
  -- Variables, functions, methods with and without flags to give up, constructors, destructors.
  case h_1 | h_4 =>
    exact call_of_setter (c := .global) rfl (fun _ => rfl) rfl rfl (fun _ _ => rfl) rfl ledger
  case h_2 | h_5 | h_6 =>
    exact call_of_setter (c := .function) rfl (fun _ => rfl) rfl rfl (fun _ _ => rfl) rfl ledger
  case h_8 | h_10 =>
    exact call_of_setter (c := .method) rfl (fun _ => rfl) rfl rfl (fun _ _ => rfl) rfl ledger
  case h_3 | h_7 =>
    exact call_of_plain_setter (c := .method) rfl (fun _ => rfl) rfl rfl (fun _ _ => rfl) rfl ledger
  case h_12 | h_14 | h_15 | h_16 =>
    exact call_of_setter (c := .constructor) rfl (fun _ => rfl) rfl rfl (fun _ _ => rfl) rfl ledger
  case h_9 | h_11 | h_13 =>
    exact call_of_setter (c := .destructor) rfl (fun _ => rfl) rfl rfl (fun _ _ => rfl) rfl ledger

/-- A setter whose argument counts as true, or does not, changes a flag other than its own. -/
def Disturbs : Entity → Verb → Bool → Prop
  | global x, .setStatic, true => x.isExtern = true
  | global x, .setExtern, true => x.isStatic = true
  | function x, .setStatic, true | function x, .setInline, true => x.isExtern = true
  | function x, .setExtern, true => x.isStatic = true ∨ x.isInline = true
  | method x, .setVirtual, false => x.isPure = true
  | method x, .setPure, true => x.isVirtual = false
  | constructor x, .setDefault, true => x.isDelete = true
  | constructor x, .setDelete, true => x.isDefault = true
  | constructor x, .setCopy, true => x.isMove = true
  | constructor x, .setMove, true => x.isCopy = true
  | destructor x, .setVirtual, false => x.isPure = true
  | destructor x, .setDefault, true => x.isPure = true
  | destructor x, .setPure, true => x.isVirtual = false ∨ x.isDefault = true
  | _, _, _ => False

theorem yielded_eq_iff {e : Entity} {verb : Verb} {field : String}
    (h : e.flagField? verb = some field) (counts : Bool) :
    e.yielded verb counts = e ↔ ¬e.Disturbs verb counts := by
  unfold flagField? at h
  split at h <;> cases h
  all_goals
    rename_i x
    obtain ⟨⟩ := x
    cases counts <;> simp [yielded, Disturbs, eq_comm]

/-- Whether giving up the other flags makes a difference where the own one is taken away. -/
theorem flagged_yielded_eq_iff {e : Entity} {verb : Verb} {field : String}
    (h : e.flagField? verb = some field) :
    flagged verb false (e.yielded verb true) = flagged verb false (e.yielded verb false) ↔
      ¬(e.Disturbs verb true ∨ e.Disturbs verb false) := by
  unfold flagField? at h
  split at h <;> cases h
  all_goals
    rename_i x
    obtain ⟨⟩ := x
    simp [flagged, yielded, Disturbs, eq_comm]

/-- An argument that a setter refuses changes nothing, unless it has disturbed another flag
before it was read. An argument that is accepted does what the truth value does that it is read
as, unless it is a word for false, which disturbs another flag where `false` does not, or fails
to where `false` does. -/
theorem setter_verdict {e : Entity} {verb : Verb} {field : String}
    (h : e.flagField? verb = some field) (v : Value) (ledger : Ledger) :
    (∀ ps, v.verdict = .error ps →
      e.answer ⟨verb, [v], ledger⟩ = some (.error (.invalid (ps.map (Problem.under field)))) ∧
      (e.after ⟨verb, [v], ledger⟩ = e ↔ ¬e.Disturbs verb v.countsAsTrue)) ∧
    ∀ b, v.verdict = .ok b →
      e.answer ⟨verb, [v], ledger⟩ = some (.ok .itself) ∧
      (e.after ⟨verb, [v], ledger⟩ = e.after ⟨verb, [.bool b], ledger⟩ ↔
        ¬(v.saysFalse = true ∧ (e.Disturbs verb true ∨ e.Disturbs verb false))) := by
  obtain ⟨hanswer, hafter⟩ := call_setter h v ledger
  refine ⟨fun ps hps => ?_, fun b hb => ?_⟩
  · rw [hanswer, hafter, Value.answerFor, Value.stored, hps]
    exact ⟨rfl, yielded_eq_iff h _⟩
  · rw [hanswer, hafter, (call_setter h (.bool b) ledger).2, Value.answerFor, Value.stored,
      Value.stored, hb, Value.verdict_bool]
    refine ⟨rfl, ?_⟩
    dsimp only
    have hread : b = (v.countsAsTrue && !v.saysFalse) := Value.verdict_eq_ok hb
    cases hfalse : v.saysFalse with
    | false =>
      rw [hfalse, Bool.not_false, Bool.and_true] at hread
      rw [hread]
      simp [Value.countsAsTrue]
    | true =>
      rw [hfalse, Bool.not_true, Bool.and_false] at hread
      rw [hread, Value.countsAsTrue_of_saysFalse hfalse]
      simpa [Value.countsAsTrue] using flagged_yielded_eq_iff h

/-- A pure destructor is told by a word not to be virtual, and stays pure. -/
theorem setter_verdict_off :
    let d : Entity :=
      .destructor { id := 0, name := ⟨"C", by decide⟩, isVirtual := true, isPure := true }
    d.flagField? .setVirtual = some "is_virtual" ∧ (Value.str "off").verdict = .ok false ∧
      d.answer ⟨.setVirtual, [.str "off"], {}⟩ = some (.ok .itself) ∧
      d.after ⟨.setVirtual, [.str "off"], {}⟩ ≠ d.after ⟨.setVirtual, [.bool false], {}⟩ := by
  intro d
  have hread : (Value.str "off").verdict = .ok false := by rfl
  have hsetter : d.flagField? .setVirtual = some "is_virtual" := rfl
  obtain ⟨hanswer, hafter⟩ := (setter_verdict hsetter (.str "off") {}).2 false hread
  exact ⟨hsetter, hread, hanswer, fun heq => hafter.mp heq ⟨by decide, Or.inr rfl⟩⟩

/-- A text that is no truth value is refused, and has made a function external no more. -/
theorem setter_verdict_refused :
    ¬∀ (e : Entity) (verb : Verb) (field : String) (v : Value) (ledger : Ledger),
      e.flagField? verb = some field →
        (∀ ps, v.verdict = .error ps → e.after ⟨verb, [v], ledger⟩ = e) ∧
        ∀ b, v.verdict = .ok b →
          e.after ⟨verb, [v], ledger⟩ = e.after ⟨verb, [.bool b], ledger⟩ := by
  intro h
  have hkept := (h (.function { id := 0, name := ⟨"f", by decide⟩, isExtern := true }) .setStatic
    "is_static" (.str "maybe") {} rfl).1 [⟨[], .unreadableBoolean⟩] rfl
  injection hkept with hfunction
  exact absurd (congrArg Function.isExtern hfunction) (by decide)

end Entity

end CWriter

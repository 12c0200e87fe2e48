import CWriter.Proofs.Flags.Setters
import Mathlib.Data.List.Induction

/-!
# Flags over whole runs

An entity that was built without a mention of a flag starts with none that excludes another. The
calls on it are free, with any arguments, and may fail. Objects that mention flags, and
assignments to the fields of flags, are not covered: they are not checked against each other.
-/
namespace CWriter

open Edit

/-- The fields for the flags of variables, functions, methods, constructors and destructors. -/
def flagNames : List String :=
  ["is_static", "is_extern", "is_inline", "is_virtual", "is_pure", "is_default", "is_delete",
    "is_copy", "is_move"]

/-- Members that leave all flags as they are at first. -/
def Flagless (members : Members) : Prop := ∀ m ∈ members, m.1 ∉ flagNames

namespace Flagless

variable {members : Members}

theorem member?_eq_none (h : Flagless members) {name : String} (hname : name ∈ flagNames) :
    Value.member? members name = none := by
  rw [Value.member?, List.lookup_eq_none_iff]
  intro m hm
  have hne : m.1 ≠ name := fun heq => h m (List.mem_reverse.mp hm) (heq ▸ hname)
  simpa using Ne.symm hne

theorem frames {σ : Type} {Q : σ → Prop} (h : Flagless members) {name : String}
    (hname : name ∈ flagNames) {set : Bool → σ → σ} :
    (Slot.optional name .bool set).Frames members Q :=
  Slot.frames_unmentioned (h.member?_eq_none hname)

open Slot

/-- The first fields of a member of a class: a name, a visibility and those of what it shares with
other routines. -/
theorem frames_shared {σ τ : Type} {Q : σ → Prop} {name visibility : Slot σ}
    {parts : List (Slot τ)} {get : σ → τ} {set : τ → σ → σ} {slot : Slot σ}
    (hslot : slot ∈ [name, visibility] ++ parts.map (Slot.zoom get set))
    (hname : name.Frames members Q) (hvisibility : visibility.Frames members Q)
    (hset : ∀ part s, Q s → Q (set part s)) : slot.Frames members Q := by
  rcases List.mem_append.mp hslot with hfirst | hpart
  · simp only [List.mem_cons, List.not_mem_nil, or_false] at hfirst
    rcases hfirst with rfl | rfl
    · exact hname
    · exact hvisibility
  · obtain ⟨part, -, rfl⟩ := List.mem_map.mp hpart
    exact frames_zoom hset

theorem yields_variable (h : Flagless members) :
    (Variable.schema.build members).Yields Variable.Exclusive := by
  have hstatic : (Variable.schema.build members).Yields fun v => v.isStatic = false := by
    refine Schema.yields_build (fun _ => rfl) fun slot hslot => ?_
    simp only [Variable.schema, Documented.slots, List.map_cons, List.map_nil, List.cons_append,
      List.nil_append, List.mem_cons, List.not_mem_nil, or_false] at hslot
    rcases hslot with rfl | rfl | rfl | rfl | rfl | rfl | rfl
    · exact frames_zoom fun _ _ hs => hs
    · exact frames_zoom fun _ _ hs => hs
    · exact frames_fixed _ _
    · exact frames_required fun _ _ hs => hs
    · exact frames_optional fun _ _ hs => hs
    · exact h.frames (by decide)
    · exact frames_optional fun _ _ hs => hs
  exact hstatic.imp fun v hv hboth => Bool.false_ne_true (hv.symm.trans hboth.1)

theorem yields_function (h : Flagless members) :
    (Function.schema.build members).Yields Function.Exclusive := by
  have hextern : (Function.schema.build members).Yields fun f => f.isExtern = false := by
    refine Schema.yields_build (fun _ => rfl) fun slot hslot => ?_
    rcases List.mem_append.mp hslot with hcallable | hown
    · obtain ⟨part, -, rfl⟩ := List.mem_map.mp hcallable
      exact frames_zoom fun _ _ hs => hs
    · simp only [List.mem_cons, List.not_mem_nil, or_false] at hown
      rcases hown with rfl | rfl | rfl | rfl | rfl
      · exact frames_fixed _ _
      · exact frames_made fun _ _ hs => hs
      · exact frames_optional fun _ _ hs => hs
      · exact frames_optional fun _ _ hs => hs
      · exact h.frames (by decide)
  exact hextern.imp fun f hf hextern => absurd (hf.symm.trans hextern) Bool.false_ne_true

theorem yields_method (h : Flagless members) :
    (Method.schema.build members).Yields Method.Tied := by
  have hpure : (Method.schema.build members).Yields fun m => m.isPure = false := by
    refine Schema.yields_build (fun _ => rfl) fun slot hslot => ?_
    rcases List.mem_append.mp hslot with hshared | hown
    · exact frames_shared hshared (frames_zoom fun _ _ hs => hs)
        (frames_optional fun _ _ hs => hs) fun _ _ hs => hs
    · simp only [List.mem_cons, List.not_mem_nil, or_false] at hown
      rcases hown with rfl | rfl | rfl | rfl | rfl | rfl | rfl | rfl | rfl
      · exact frames_fixed _ _
      · exact frames_made fun _ _ hs => hs
      · exact frames_optional fun _ _ hs => hs
      · exact frames_optional fun _ _ hs => hs
      · exact frames_never _
      · exact frames_optional fun _ _ hs => hs
      · exact h.frames (by decide)
      · exact frames_optional fun _ _ hs => hs
      · exact frames_optional fun _ _ hs => hs
  exact hpure.imp fun m hm hpure => absurd (hm.symm.trans hpure) Bool.false_ne_true

theorem yields_constructor (h : Flagless members) :
    (Constructor.schema.build members).Yields Constructor.Exclusive := by
  have hflags : (Constructor.schema.build members).Yields fun c =>
      c.isDefault = false ∧ c.isCopy = false := by
    refine Schema.yields_build (fun _ => ⟨rfl, rfl⟩) fun slot hslot => ?_
    rcases List.mem_append.mp hslot with hshared | hown
    · exact frames_shared hshared (frames_zoom fun _ _ hs => hs)
        (frames_optional fun _ _ hs => hs) fun _ _ hs => hs
    · simp only [List.mem_cons, List.not_mem_nil, or_false] at hown
      rcases hown with rfl | rfl | rfl | rfl | rfl | rfl | rfl
      · exact frames_fixed _ _
      · exact frames_optional fun _ _ hs => hs
      · exact frames_optional fun _ _ hs => hs
      · exact h.frames (by decide)
      · exact frames_optional fun _ _ hs => hs
      · exact h.frames (by decide)
      · exact frames_optional fun _ _ hs => hs
  refine hflags.imp fun c hc => ⟨fun hboth => ?_, fun hboth => ?_⟩
  · exact Bool.false_ne_true (hc.1.symm.trans hboth.1)
  · exact Bool.false_ne_true (hc.2.symm.trans hboth.1)

theorem yields_destructor (h : Flagless members) :
    (Destructor.schema.build members).Yields fun d => d.Exclusive ∧ d.Tied := by
  have hpure : (Destructor.schema.build members).Yields fun d => d.isPure = false := by
    refine Schema.yields_build (fun _ => rfl) fun slot hslot => ?_
    rcases List.mem_append.mp hslot with hshared | hown
    · exact frames_shared hshared (frames_zoom fun _ _ hs => hs)
        (frames_optional fun _ _ hs => hs) fun _ _ hs => hs
    · simp only [List.mem_cons, List.not_mem_nil, or_false] at hown
      rcases hown with rfl | rfl | rfl | rfl
      · exact frames_fixed _ _
      · exact frames_optional fun _ _ hs => hs
      · exact frames_optional fun _ _ hs => hs
      · exact h.frames (by decide)
  refine hpure.imp fun d hd => ⟨fun hboth => ?_, fun hpure => ?_⟩
  · exact Bool.false_ne_true (hd.symm.trans hboth.1)
  · exact absurd (hd.symm.trans hpure) Bool.false_ne_true

end Flagless

namespace Entity

/-- No two flags hold of which one excludes the other. A method shows that it is not external. -/
def Exclusive : Entity → Prop
  | global v => v.Exclusive
  | function f => f.Exclusive
  | method m => (method m).fields.lookup "is_extern" = some (.bool false)
  | constructor c => c.Exclusive
  | destructor d => d.Exclusive
  | _ => True

/-- What is pure is virtual. -/
def Tied : Entity → Prop
  | method m => m.Tied
  | destructor d => d.Tied
  | _ => True

/-- A pure method or destructor is told not to be virtual, by a word for false. -/
def Unties (e : Entity) (verb : Verb) (args : List Value) : Prop :=
  match e with
  | method m => m.Unties verb args
  | destructor d => d.Unties verb args
  | _ => False

/-- A call with the state of the ledger that it finds. -/
structure Request where
  verb : Verb
  args : List Value
  ledger : Ledger

/-- What a call leaves of an entity, whether it answers or fails. What the class does not know
changes nothing. -/
def after (e : Entity) (r : Request) : Entity :=
  (e.call? r.verb r.args).elim e fun call => (call r.ledger).1.2

def afterAll (e : Entity) (rs : List Request) : Entity := rs.foldl after e

theorem afterAll_append (e : Entity) (rs : List Request) (r : Request) :
    e.afterAll (rs ++ [r]) = (e.afterAll rs).after r := by
  simp only [afterAll, List.foldl_append, List.foldl_cons, List.foldl_nil]

/-- What holds of an entity of the same class wherever the call ends holds after it. -/
theorem after_of_ends {σ : Type} {c : EntityClass σ} {s : σ} {e : Entity} {r : Request}
    {P : Entity → Prop} (hcall : e.call? r.verb r.args = (c.methods r.verb r.args).map (edited c s))
    (he : P e) (hmethods : ∀ x, c.methods r.verb r.args = some x →
      Ends x s fun changed => P (c.entity changed)) : P (e.after r) := by
  rw [after, hcall]
  cases hx : c.methods r.verb r.args with
  | none => exact he
  | some x => exact hmethods x hx r.ledger

/-- What holds of all entities of the class is not lost. -/
theorem after_of_byClass {e : Entity} {P : Entity → Prop} (he : P e)
    (hclass : e.byClass fun c _ => ∀ s, P (c.entity s)) (r : Request) : P (e.after r) := by
  rw [after]
  cases hcall : e.call? r.verb r.args with
  | none => exact he
  | some call =>
    rw [call?] at hcall
    cases e <;>
    · dsimp only [byClass] at hcall hclass
      obtain ⟨x, -, rfl⟩ := Option.map_eq_some_iff.mp hcall
      exact hclass _

theorem exclusive_after {e : Entity} (he : e.Exclusive) (r : Request) : (e.after r).Exclusive := by
  cases e with
  | global v => exact after_of_ends (c := .global) rfl he fun _ hx => Variable.ends_methods hx he
  | function f =>
    exact after_of_ends (c := .function) rfl he fun _ hx => Function.ends_methods hx he
  | constructor c =>
    exact after_of_ends (c := .constructor) rfl he fun _ hx => Constructor.ends_methods hx he
  | destructor d =>
    exact after_of_ends (c := .destructor) rfl he fun _ hx => Destructor.ends_methods hx he
  | method m => exact after_of_ends (c := .method) rfl he fun _ _ _ => rfl
  | _ =>
    refine after_of_byClass ?_ ?_ r
    · trivial
    · exact fun _ => trivial

theorem tied_after {e : Entity} (he : e.Tied) (r : Request)
    (hties : ¬e.Unties r.verb r.args) :
    (e.after r).Tied := by
  cases e with
  | method m =>
    exact after_of_ends (c := .method) rfl he fun _ hx => Method.ends_methods hx he hties
  | destructor d =>
    exact after_of_ends (c := .destructor) rfl he fun _ hx =>
      Destructor.ends_methods_tied hx he hties
  | _ =>
    refine after_of_byClass ?_ ?_ r
    · trivial
    · exact fun _ => trivial

theorem not_tied_after {e : Entity} {r : Request} (hunties : e.Unties r.verb r.args) :
    ¬(e.after r).Tied := by
  cases e with
  | method m =>
    obtain ⟨hpure, hverb, v, hargs, hv⟩ := hunties
    rw [after, hverb, hargs]
    exact Method.ends_methods_of_unties rfl ⟨hpure, rfl, v, rfl, hv⟩ r.ledger
  | destructor d =>
    obtain ⟨hpure, hverb, v, hargs, hv⟩ := hunties
    rw [after, hverb, hargs]
    exact Destructor.ends_methods_of_unties rfl ⟨hpure, rfl, v, rfl, hv⟩ r.ledger
  | _ => exact hunties.elim

theorem exclusive_afterAll {e : Entity} (he : e.Exclusive) (rs : List Request) :
    (e.afterAll rs).Exclusive := by
  induction rs generalizing e with
  | nil => exact he
  | cons r rest ih => exact ih (exclusive_after he r)

/-- The tie holds all along a run if and only if no call of the run is the one that cuts it. -/
theorem tied_afterAll_iff {e : Entity} (he : e.Tied) (rs : List Request) :
    (∀ p, p <+: rs → (e.afterAll p).Tied) ↔
      ∀ p r, p ++ [r] <+: rs → ¬(e.afterAll p).Unties r.verb r.args := by
  constructor
  · intro htied p r hp hunties
    have hafter : (e.afterAll (p ++ [r])).Tied := htied _ hp
    rw [afterAll_append] at hafter
    exact not_tied_after hunties hafter
  · intro hties p
    -- The first call that cuts the tie would come at the end of the prefix.
    induction p using List.reverseRecOn with
    | nil => exact fun _ => he
    | append_singleton p r ih =>
      intro hp
      have hbefore : (e.afterAll p).Tied := ih ((List.prefix_append p [r]).trans hp)
      rw [afterAll_append]
      exact tied_after hbefore r (hties p r hp)

/-- The classes with flags that exclude each other. -/
def flaggedClasses : List String :=
  ["Variable", "Function", "Method", "Constructor", "Destructor"]

/-- An entity for which no flag was given starts with flags that agree. -/
theorem exclusive_of_built {className : String} {members : Members} {check : Check Value}
    {ledger last : Ledger} {e : Entity} (hclass : className ∈ flaggedClasses)
    (hmembers : Flagless members) (hcheck : acceptNamed className (.object members) = some check)
    (hbuilt : check.alone ledger = (.ok (.entity e), last)) : e.Exclusive ∧ e.Tied := by
  have hyields : check.Yields fun v => ∀ e, v = .entity e → e.Exclusive ∧ e.Tied := by
    simp only [flaggedClasses, List.mem_cons, List.not_mem_nil, or_false] at hclass
    rcases hclass with rfl | rfl | rfl | rfl | rfl
    · obtain rfl := Option.some.inj hcheck
      refine (hmembers.yields_variable.imp fun v hv => ?_).map
      rintro e ⟨⟩
      exact ⟨hv, trivial⟩
    · obtain rfl := Option.some.inj hcheck
      refine Check.Yields.map (hmembers.yields_function.imp fun f hf => ?_).map
      rintro e ⟨⟩
      exact ⟨hf, trivial⟩
    · obtain rfl := Option.some.inj hcheck
      refine (hmembers.yields_method.imp fun m hm => ?_).map
      rintro e ⟨⟩
      exact ⟨rfl, hm⟩
    · obtain rfl := Option.some.inj hcheck
      refine (hmembers.yields_constructor.imp fun c hc => ?_).map
      rintro e ⟨⟩
      exact ⟨hc, trivial⟩
    · obtain rfl := Option.some.inj hcheck
      refine (hmembers.yields_destructor.imp fun d hd => ?_).map
      rintro e ⟨⟩
      exact hd
  exact hyields _ _ (congrArg Prod.fst hbuilt) e rfl

/-- Flags that exclude each other never hold together, whatever is called on a new entity and
whether or not it fails. What is pure stays virtual as long as no pure method or destructor is
told not to be virtual by a word for false, which counts as true before it is read. -/
theorem flags_stay_exclusive {className : String} {members : Members} {check : Check Value}
    {ledger last : Ledger} {e : Entity} (hclass : className ∈ flaggedClasses)
    (hmembers : Flagless members) (hcheck : acceptNamed className (.object members) = some check)
    (hbuilt : check.alone ledger = (.ok (.entity e), last)) (rs : List Request) :
    (e.afterAll rs).Exclusive ∧
      ((∀ p, p <+: rs → (e.afterAll p).Tied) ↔
        ∀ p r, p ++ [r] <+: rs → ¬(e.afterAll p).Unties r.verb r.args) := by
  obtain ⟨hexclusive, htied⟩ := exclusive_of_built hclass hmembers hcheck hbuilt
  exact ⟨exclusive_afterAll hexclusive rs, tied_afterAll_iff htied rs⟩

/-- A destructor that is made pure, then the default, which it cannot be at once. -/
theorem flags_stay_exclusive_default :
    let d : Entity := .destructor { id := 0, name := ⟨"C", by decide⟩ }
    Flagless [("name", .str "C")] ∧
      ∃ check last, acceptNamed "Destructor" (.object [("name", .str "C")]) = some check ∧
        check.alone {} = (.ok (.entity d), last) ∧
        (d.afterAll [⟨.setPure, [.bool true], {}⟩, ⟨.setDefault, [.bool true], {}⟩]).Exclusive := by
  intro d
  have hmembers : Flagless [("name", .str "C")] := by
    intro m hm
    obtain rfl := List.mem_singleton.mp hm
    decide
  obtain ⟨check, last, hcheck, hbuilt⟩ : ∃ check last,
      acceptNamed "Destructor" (.object [("name", .str "C")]) = some check ∧
        check.alone {} = (.ok (.entity d), last) := ⟨_, _, rfl, rfl⟩
  exact ⟨hmembers, check, last, hcheck, hbuilt,
    (flags_stay_exclusive (by decide) hmembers hcheck hbuilt _).1⟩

/-- A pure method is told not to be virtual by a word. -/
theorem flags_stay_exclusive_word :
    ¬∀ (members : Members) (check : Check Value) (ledger last : Ledger) (e : Entity)
      (rs : List Request), Flagless members →
        acceptNamed "Method" (.object members) = some check →
        check.alone ledger = (.ok (.entity e), last) → (e.afterAll rs).Tied := by
  intro h
  have hmembers : Flagless [("name", .str "f")] := by
    intro m hm
    obtain rfl := List.mem_singleton.mp hm
    decide
  have htied : (Entity.afterAll
      (.method { id := 0, name := ⟨"f", by decide⟩, returnType := .shared 1 .void })
      [⟨.setPure, [.bool true], {}⟩, ⟨.setVirtual, [.str "false"], {}⟩]).Tied :=
    h _ _ {} _ _ _ hmembers rfl rfl
  exact absurd (htied rfl) (by decide)

end Entity

end CWriter

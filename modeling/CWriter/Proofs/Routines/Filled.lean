import CWriter.Proofs.Insertion

/-!
# Calls that fill a body

A call that fills the body of a routine and succeeds leaves the routine with the new body, and
takes the flag away that rules a body out, where the class has one. Nothing else of the entity
changes. In particular a constructor or a destructor that is the default one stays so.
-/
namespace CWriter

namespace Edit

variable {σ τ α β : Type} {s : σ} {Q M : σ → Prop}

/-- Where an edit of `s` succeeds, it leaves what has the property. -/
def Lands (x : Edit σ α) (s : σ) (Q : σ → Prop) : Prop :=
  ∀ (ledger last : Ledger) (a : α) (after : σ), x s ledger = ((.ok a, after), last) → Q after

theorem lands_modify {f : σ → σ} (h : Q (f s)) : Lands (modify f) s Q := by
  intro ledger last a after heq
  cases heq
  exact h

theorem lands_set {after : σ} (h : Q after) : Lands (set after : Edit σ PUnit) s Q := by
  intro ledger last a after' heq
  cases heq
  exact h

theorem lands_throw (fault : Fault) : Lands (throw fault : Edit σ α) s Q := by
  intro ledger last a after heq
  cases heq

theorem Lands.bind {x : Edit σ α} (hx : Lands x s M) {next : α → Edit σ β}
    (hnext : ∀ a between, M between → Lands (next a) between Q) : Lands (x >>= next) s Q := by
  intro ledger last b after heq
  rcases hr : x s ledger with ⟨⟨result, between⟩, middle⟩
  cases result with
  | error fault =>
    rw [bind_of_error hr] at heq
    cases heq
  | ok a =>
    rw [bind_of_ok hr] at heq
    exact hnext a between (hx _ _ _ _ hr) _ _ _ _ heq

theorem lands_get_bind {next : σ → Edit σ α} (h : Lands (next s) s Q) :
    Lands (get >>= next) s Q := by
  intro ledger last a after heq
  rw [bind_of_ok (x := get) rfl] at heq
  exact h _ _ _ _ heq

/-- A check leaves the entity alone, and what it yields is known. -/
theorem lands_check_bind {x : Check α} {P : α → Prop} (hx : x.Yields P) {next : α → Edit σ β}
    (hnext : ∀ a, P a → Lands (next a) s Q) : Lands (check x >>= next) s Q := by
  intro ledger last b after heq
  rcases hr : x.alone ledger with ⟨result, middle⟩
  cases result with
  | error problems =>
    have hcheck : (check x : Edit σ α) s ledger = ((.error (.invalid problems), s), middle) := by
      rw [check, hr]
    rw [bind_of_error hcheck] at heq
    cases heq
  | ok a =>
    have hcheck : (check x : Edit σ α) s ledger = ((.ok a, s), middle) := by
      rw [check, hr]
    rw [bind_of_ok hcheck] at heq
    exact hnext a (hx _ a (congrArg Prod.fst hr)) _ _ _ _ heq

/-- An edit of a part leaves what it leaves of the part, put back. -/
theorem Lands.zoom {x : Edit τ α} {get : σ → τ} {P : β → Prop} {f : β → τ}
    (hx : Lands x (get s) fun part => ∃ b, P b ∧ part = f b) (put : τ → σ → σ) :
    Lands (x.zoom get put) s fun new => ∃ b, P b ∧ new = put (f b) s := by
  intro ledger last a after heq
  rw [Edit.zoom] at heq
  rcases hr : x (get s) ledger with ⟨⟨result, part⟩, middle⟩
  rw [hr] at heq
  cases heq
  obtain ⟨b, hb, rfl⟩ := hx _ _ _ _ hr
  exact ⟨b, hb, rfl⟩

/-- A flag that is given up first, where the argument counts as true. -/
theorem Lands.given_up {x : Edit σ Unit} {wanted : Bool} {g : σ → σ}
    (hx : Lands x (if wanted then g s else s) Q) :
    Lands (do
      if wanted then modify g
      x) s Q := by
  cases wanted with
  | true => exact (lands_modify rfl).bind fun _ _ heq => heq ▸ hx
  | false => exact hx

theorem Lands.chained {x : Edit σ Unit} (hx : Lands x s Q) :
    Lands (x *> pure Reply.itself) s Q :=
  Lands.bind hx fun _ between hbetween => by
    intro ledger last a after heq
    cases heq
    exact hbetween

end Edit

namespace Check

/-- A list is accepted item by item, so none is lost. -/
theorem yields_each_length {α : Type} (f : Value → Check α) (position : Nat) (items : List Value) :
    (each f position items).Yields fun accepted => accepted.length = items.length := by
  induction items generalizing position with
  | nil => exact yields_pure rfl
  | cons v rest ih =>
    have hfirst : (within (toString position) (f v)).Yields fun _ => True :=
      yields_of_forall fun _ => trivial
    exact Yields.map ((hfirst.both (ih (position + 1))).imp fun _ h =>
      congrArg Nat.succ h.2)

end Check

/-- What lists something counts as true. -/
theorem Value.countsAsTrue_of_listed {v first : Value} {rest : List Value}
    (h : v.listed? = some (first :: rest)) : v.countsAsTrue = true := by
  cases v with
  | null | bool | int | float => cases h
  | word | type | expr | entity => rfl
  | str s =>
    have hcs : s.toList.map (fun c => Value.str c.toString) = first :: rest := Option.some.inj h
    have hne : s ≠ "" := by
      rintro rfl
      cases hcs
    simpa [countsAsTrue] using hne
  | list items | tuple items =>
    have hitems : items = first :: rest := Option.some.inj h
    rw [hitems]
    rfl
  | object members =>
    obtain ⟨m, more, rfl, -, -⟩ := List.map_eq_cons_iff.mp (Option.some.inj h)
    rfl

/-- The calls that fill a body: one item is added, or there are items to put into its place. -/
def Verb.Fills (verb : Verb) (v : Value) : Prop :=
  verb = .pushLine ∨ verb = .setBody ∧ ∃ first rest, v.listed? = some (first :: rest)

/-- What a call that fills the body makes of a body: a line is added behind it, and other items
take its place one for one. -/
def Verb.Filled (verb : Verb) (v : Value) (old new : List BodyItem) : Prop :=
  match verb with
  | .pushLine => ∃ item, new = old ++ [item]
  | _ => ∃ items, v.listed? = some items ∧ new.length = items.length

theorem Verb.Filled.ne_nil {verb : Verb} {v : Value} {old new : List BodyItem}
    (h : verb.Filled v old new) (hfills : verb.Fills v) : new ≠ [] := by
  obtain rfl | ⟨rfl, first, rest, hlisted⟩ := hfills
  · obtain ⟨item, rfl⟩ := h
    simp
  · obtain ⟨items, hitems, hlength⟩ := h
    rintro rfl
    cases hlisted.symm.trans hitems
    cases hlength

open Edit

namespace Routine

theorem lands_pushLine (line : Value) (r : Routine) :
    Lands (pushLine line) r fun new =>
      ∃ body, Verb.pushLine.Filled line r.body body ∧ new = { r with body } := by
  refine lands_check_bind (P := fun _ => True) (Check.yields_of_forall fun _ => trivial)
    fun item _ => lands_modify ?_
  exact ⟨r.body ++ [item], ⟨item, rfl⟩, rfl⟩

theorem lands_setBody (lines : Value) (r : Routine) :
    Lands (setBody lines) r fun new =>
      ∃ body, Verb.setBody.Filled lines r.body body ∧ new = { r with body } := by
  refine lands_get_bind ?_
  cases hlisted : lines.listed? with
  | none => exact lands_throw _
  | some items =>
    have haccepted : ((Rule.list BodyItem.rule).accept (.list items)).Yields
        fun body => body.length = items.length := fun ledger body hbody =>
      Check.yields_each_length _ 0 items ledger body hbody
    have hstored : (bodySlot.store r (.list items)).Yields fun new =>
        ∃ body, body.length = items.length ∧ new = { r with body } :=
      Check.Yields.map (haccepted.imp fun body hlength => ⟨body, hlength, rfl⟩)
    refine lands_check_bind ((hstored.within "body").entering .entity) fun new hnew => ?_
    obtain ⟨body, hlength, hbody⟩ := hnew
    exact lands_set ⟨body, ⟨items, hlisted, hlength⟩, hbody⟩

end Routine

/-- Three classes take a flag away with the body: when the line is accepted, and before the body
is checked. -/
theorem lands_pushLine_clearing {σ : Type} (get : σ → Routine) (put : Routine → σ → σ)
    (clear : σ → σ) (line : Value) (s : σ) :
    Lands (do
      Edit.zoom get put (Routine.pushLine line)
      modify clear) s fun new =>
        ∃ body, Verb.pushLine.Filled line (get s).body body ∧
          new = clear (put { get s with body } s) := by
  refine Lands.bind (Lands.zoom (Routine.lands_pushLine line (get s)) put) ?_
  rintro _ _ ⟨body, hbody, rfl⟩
  exact lands_modify ⟨body, hbody, rfl⟩

theorem lands_setBody_clearing {σ : Type} (get : σ → Routine) (put : Routine → σ → σ)
    (clear : σ → σ) {lines : Value} (h : lines.countsAsTrue = true) (s : σ) :
    Lands (do
      if lines.countsAsTrue then modify clear
      Edit.zoom get put (Routine.setBody lines)) s fun new =>
        ∃ body, Verb.setBody.Filled lines (get (clear s)).body body ∧
          new = put { get (clear s) with body } (clear s) := by
  rw [h]
  exact Lands.given_up (Lands.zoom (Routine.lands_setBody lines (get (clear s))) put)

namespace Entity

/-- What an entity has of a routine. -/
def routine? : Entity → Option Routine
  | function f => some f.toRoutine
  | method m => some m.toRoutine
  | constructor c => some c.toRoutine
  | destructor d => some d.toRoutine
  | _ => none

/-- An entity with another body, if it is one that has a body. -/
def withBody (body : List BodyItem) : Entity → Entity
  | function f => function { f with body }
  | method m => method { m with body }
  | constructor c => constructor { c with body }
  | destructor d => destructor { d with body }
  | e => e

/-- Where an edit of its class leaves an entity with another body and nothing else, so does the
call that makes this edit. -/
theorem exists_call_of_lands {σ : Type} {c : EntityClass σ} {s : σ} {x : Edit σ Reply}
    {e : Entity} {r : Routine} {verb : Verb} {v : Value} {filled : List BodyItem → σ}
    (hcall : e.call? verb [v] = some (edited c s x))
    (hx : Lands x s fun new => ∃ body, verb.Filled v r.body body ∧ new = filled body)
    (hfilled : ∀ body, c.entity (filled body) = e.bodied.withBody body) :
    ∃ call, e.call? verb [v] = some call ∧
      ∀ (ledger last : Ledger) (reply : Reply) (after : Entity),
        call ledger = ((.ok reply, after), last) →
          ∃ body, verb.Filled v r.body body ∧ after = e.bodied.withBody body := by
  refine ⟨_, hcall, fun ledger last reply after heq => ?_⟩
  rcases hr : x s ledger with ⟨⟨result, new⟩, middle⟩
  rw [edited, hr] at heq
  cases heq
  obtain ⟨body, hbody, rfl⟩ := hx _ _ _ _ hr
  exact ⟨body, hbody, hfilled body⟩

/-- A call that fills a body leaves the entity with the new body and without the flag that rules
a body out, and with nothing else changed. -/
theorem exists_call_filled {e : Entity} {r : Routine} (hroutine : e.routine? = some r)
    {verb : Verb} {v : Value} (hfills : verb.Fills v) :
    ∃ call, e.call? verb [v] = some call ∧
      ∀ (ledger last : Ledger) (reply : Reply) (after : Entity),
        call ledger = ((.ok reply, after), last) →
          ∃ body, verb.Filled v r.body body ∧ after = e.bodied.withBody body := by
  obtain rfl | ⟨rfl, first, rest, hlisted⟩ := hfills
  · cases e with
    | function f =>
      cases hroutine
      exact exists_call_of_lands rfl (Lands.chained (lands_pushLine_clearing _ _ _ v f))
        fun _ => rfl
    | method m =>
      cases hroutine
      exact exists_call_of_lands rfl (Lands.chained (lands_pushLine_clearing _ _ _ v m))
        fun _ => rfl
    | destructor d =>
      cases hroutine
      exact exists_call_of_lands rfl (Lands.chained (lands_pushLine_clearing _ _ _ v d))
        fun _ => rfl
    | constructor c =>
      cases hroutine
      have hedit : Lands (Routine.pushLine v *> pure Reply.itself) c.toRoutine _ :=
        Lands.chained (Routine.lands_pushLine v c.toRoutine)
      exact exists_call_of_lands rfl (Lands.zoom (Lands.zoom hedit _) _) fun _ => rfl
    | _ => cases hroutine
  · have htrue := Value.countsAsTrue_of_listed hlisted
    cases e with
    | function f =>
      cases hroutine
      exact exists_call_of_lands rfl (Lands.chained (lands_setBody_clearing _ _ _ htrue f))
        fun _ => rfl
    | method m =>
      cases hroutine
      exact exists_call_of_lands rfl (Lands.chained (lands_setBody_clearing _ _ _ htrue m))
        fun _ => rfl
    | destructor d =>
      cases hroutine
      exact exists_call_of_lands rfl (Lands.chained (lands_setBody_clearing _ _ _ htrue d))
        fun _ => rfl
    | constructor c =>
      cases hroutine
      have hedit : Lands (Routine.setBody v *> pure Reply.itself) c.toRoutine _ :=
        Lands.chained (Routine.lands_setBody v c.toRoutine)
      exact exists_call_of_lands rfl (Lands.zoom (Lands.zoom hedit _) _) fun _ => rfl
    | _ => cases hroutine

end Entity

end CWriter

import CWriter.Session.Classes

/-!
# Edits and assignments

What an edit leaves where it fails is computed along its steps: a check leaves everything, a
change that comes before it stays. An assignment is a check, a store and a second check of the
whole. For classes without a second check it therefore changes nothing where it is refused. How
a check decides is not looked at here, except that checks of plain values depend on nothing but
the value.
-/
namespace CWriter

namespace Check

variable {α β : Type}

/-- A check that comes to `r` in any state of the ledger, and leaves the ledger as it is. -/
def Settles (x : Check α) (r : Except (List Problem) α) : Prop := ∀ ledger, x ledger = (r, ledger)

theorem settles_pure (a : α) : (pure a : Check α).Settles (.ok a) := fun _ => rfl

theorem settles_fail (c : Complaint) : (fail c : Check α).Settles (.error [⟨[], c⟩]) := fun _ => rfl

theorem settles_ofOption (c : Complaint) (a : Option α) :
    (ofOption c a).Settles (a.elim (.error [⟨[], c⟩]) .ok) := by
  cases a with
  | none => exact settles_fail c
  | some a => exact settles_pure a

theorem Settles.map {x : Check α} {r : Except (List Problem) α} (hx : x.Settles r) (f : α → β) :
    (f <$> x).Settles (r.map f) := by
  intro ledger
  simp only [Functor.map, ExceptT.map, ExceptT.mk, bind, StateT.bind, hx ledger]
  cases r <;> rfl

theorem Settles.within {x : Check α} {r : Except (List Problem) α} (hx : x.Settles r)
    (name : String) : (within name x).Settles (r.mapError (List.map (Problem.under name))) := by
  intro ledger
  rw [Check.within, hx ledger]
  cases r <;> rfl

/-- An entity other than a block or a scope takes no level where it is entered. -/
theorem entering_entity (x : Check α) (ledger : Ledger) :
    entering .entity x ledger =
      let (result, after) := x { ledger with frame := {} }
      (result, { after with frame := ledger.frame }) := by
  obtain ⟨next, warnings, depth, ⟨outermost, -⟩, edited⟩ := ledger
  cases outermost <;> rfl

/-- A check of its own starts with no level taken, under the identity of what is edited. -/
theorem alone_entering (id : Option Id) (x : Check α) (ledger : Ledger) :
    (editing id (entering .entity x)).alone ledger =
      let (result, after) := x { ledger with depth := 0, frame := {}, edited := id }
      (result, { after with frame := { outermost := true } }) := rfl

end Check

namespace Edit

variable {σ τ α β : Type}

/-- Where an edit fails, it leaves `f` of what it was made on. -/
def FailsTo (x : Edit σ α) (f : σ → σ) : Prop :=
  ∀ (s after : σ) (ledger last : Ledger) (fault : Fault),
    x s ledger = ((.error fault, after), last) → after = f s

/-- Where an edit fails, it leaves what it was made on. -/
def Keeps (x : Edit σ α) : Prop := FailsTo x id

/-- An edit that never fails. -/
def Succeeds (x : Edit σ α) : Prop :=
  ∀ (s : σ) (ledger : Ledger), ∃ a after last, x s ledger = ((.ok a, after), last)

/-- An edit goes on from what the first part has left, its ledger included, -/
theorem bind_of_ok {x : Edit σ α} {s after : σ} {ledger last : Ledger} {a : α}
    (h : x s ledger = ((.ok a, after), last)) (next : α → Edit σ β) :
    (x >>= next) s ledger = next a after last := by
  change ExceptT.bindCont next (x s ledger).1.1 (x s ledger).1.2 (x s ledger).2 = _
  rw [h]
  rfl

/-- and stops at a fault, with all that was changed before it still in place. -/
theorem bind_of_error {x : Edit σ α} {s after : σ} {ledger last : Ledger} {fault : Fault}
    (h : x s ledger = ((.error fault, after), last)) (next : α → Edit σ β) :
    (x >>= next) s ledger = ((.error fault, after), last) := by
  change ExceptT.bindCont next (x s ledger).1.1 (x s ledger).1.2 (x s ledger).2 = _
  rw [h]
  rfl

theorem succeeds_pure (a : α) : Succeeds (pure a : Edit σ α) :=
  fun s ledger => ⟨a, s, ledger, rfl⟩

theorem succeeds_modify (f : σ → σ) : Succeeds (modify f : Edit σ Unit) :=
  fun s ledger => ⟨(), f s, ledger, rfl⟩

theorem succeeds_set (s : σ) : Succeeds (set s : Edit σ PUnit) :=
  fun _ ledger => ⟨⟨⟩, s, ledger, rfl⟩

theorem keeps_throw (fault : Fault) : Keeps (throw fault : Edit σ α) := by
  intro s after ledger last problem h
  cases h
  rfl

/-- A check looks at its argument only. -/
theorem keeps_check (x : Check α) : Keeps (check x : Edit σ α) := by
  intro s after ledger last fault h
  rw [check] at h
  split at h
  · cases h
  · cases h
    rfl

/-- A check whose result does not depend on the ledger, as the first part of an edit. -/
theorem check_of_settles {x : Check α} {r : Except (List Problem) α} (hx : x.Settles r) (s : σ)
    (ledger : Ledger) :
    ∃ last, (check x : Edit σ α) s ledger = ((r.mapError .invalid, s), last) := by
  rw [check, Check.alone, hx]
  cases r <;> exact ⟨_, rfl⟩

/-- What is done once nothing can fail any more does not matter. -/
theorem FailsTo.bind {x : Edit σ α} {f : σ → σ} (hx : FailsTo x f) {next : α → Edit σ β}
    (hnext : ∀ a, Succeeds (next a)) : FailsTo (x >>= next) f := by
  intro s after ledger last fault h
  rcases hr : x s ledger with ⟨⟨result, between⟩, middle⟩
  cases result with
  | error problem =>
    rw [bind_of_error hr] at h
    cases h
    exact hx _ _ _ _ _ hr
  | ok a =>
    rw [bind_of_ok hr] at h
    obtain ⟨b, final, written, hb⟩ := hnext a between middle
    cases h.symm.trans hb

/-- Looking at what is edited changes nothing. -/
theorem FailsTo.get_bind {next : σ → Edit σ α} {f : σ → σ} (h : ∀ s, FailsTo (next s) f) :
    FailsTo (get >>= next) f := by
  intro s after ledger last fault hr
  rw [bind_of_ok (x := get) rfl] at hr
  exact h s _ _ _ _ _ hr

/-- What is changed first stays changed. -/
theorem FailsTo.modify_bind {x : Edit σ α} {f : σ → σ} (hx : FailsTo x f) (g : σ → σ) :
    FailsTo (modify g >>= fun _ => x) (f ∘ g) := by
  intro s after ledger last fault h
  rw [bind_of_ok (x := modify g) rfl] at h
  exact hx _ _ _ _ _ h

/-- An edit of a part that keeps the part keeps the whole. -/
theorem Keeps.zoom {x : Edit τ α} (hx : Keeps x) {get : σ → τ} {put : τ → σ → σ}
    (hput : ∀ s, put (get s) s = s) : Keeps (x.zoom get put) := by
  intro s after ledger last fault h
  rw [Edit.zoom] at h
  rcases hr : x (get s) ledger with ⟨⟨result, part⟩, middle⟩
  rw [hr] at h
  cases h
  have hpart : part = get s := hx _ _ _ _ _ hr
  rw [hpart]
  exact hput s

/-- A flag that is given up first, where the argument counts as true. -/
theorem Keeps.given_up {x : Edit σ Unit} (hx : Keeps x) (wanted : Bool) (g : σ → σ) :
    FailsTo (do
      if wanted then modify g
      x) (if wanted then g else id) := by
  cases wanted with
  | true => exact FailsTo.modify_bind hx g
  | false => exact hx

/-- The answer of a chained call is the object, whether it has changed or not. -/
theorem FailsTo.chained {x : Edit σ Unit} {f : σ → σ} (hx : FailsTo x f) :
    FailsTo (x *> pure Reply.itself) f :=
  FailsTo.bind hx fun _ => succeeds_pure _

end Edit

namespace Check

variable {α β : Type}

/-- Whatever a check yields has the property. -/
def Yields (x : Check α) (P : α → Prop) : Prop :=
  ∀ (ledger : Ledger) (a : α), (x ledger).1 = .ok a → P a

theorem yields_of_forall {x : Check α} {P : α → Prop} (h : ∀ a, P a) : x.Yields P :=
  fun _ a _ => h a

theorem yields_pure {a : α} {P : α → Prop} (h : P a) : (pure a : Check α).Yields P := by
  intro ledger b hb
  cases hb
  exact h

theorem yields_fail (c : Complaint) (P : α → Prop) : (fail c : Check α).Yields P :=
  fun _ _ => nofun

theorem Yields.imp {x : Check α} {P Q : α → Prop} (hx : x.Yields P) (h : ∀ a, P a → Q a) :
    x.Yields Q := fun ledger a ha => h a (hx ledger a ha)

/-- What a check yields is known of what is made from it. -/
theorem Yields.map {x : Check α} {f : α → β} {P : β → Prop} (hx : x.Yields fun a => P (f a)) :
    (f <$> x).Yields P := by
  intro ledger b hb
  simp only [Functor.map, ExceptT.map, ExceptT.mk, bind, StateT.bind] at hb
  rcases hr : x ledger with ⟨result, after⟩
  rw [hr] at hb
  cases result with
  | error ps => cases hb
  | ok a =>
    cases hb
    exact hx ledger a (by rw [hr])

/-- A second check may rely on what the first has yielded. -/
theorem Yields.bind {x : Check α} {P : α → Prop} (hx : x.Yields P) {next : α → Check β}
    {Q : β → Prop} (hnext : ∀ a, P a → (next a).Yields Q) : (x >>= next).Yields Q := by
  intro ledger b hb
  simp only [Bind.bind, ExceptT.bind, ExceptT.mk, StateT.bind, ExceptT.bindCont] at hb
  rcases hr : x ledger with ⟨result, after⟩
  rw [hr] at hb
  cases result with
  | error ps => cases hb
  | ok a => exact hnext a (hx ledger a (by rw [hr])) after b hb

/-- A form yields what both of its parts yield. -/
theorem Yields.both {x : Check α} {y : Check β} {P : α → Prop} {Q : β → Prop} (hx : x.Yields P)
    (hy : y.Yields Q) : (Form.both x y).Yields fun pair => P pair.1 ∧ Q pair.2 := by
  intro ledger pair hpair
  rcases hr : x ledger with ⟨result, middle⟩
  rcases hs : y middle with ⟨other, last⟩
  cases result with
  | error problems =>
    cases other <;> simp [Form.both, hr, hs] at hpair
  | ok a =>
    cases other with
    | error problems => simp [Form.both, hr, hs] at hpair
    | ok b =>
      simp only [Form.both, hr, hs, Except.ok.injEq] at hpair
      subst hpair
      exact ⟨hx ledger a (congrArg Prod.fst hr), hy middle b (congrArg Prod.fst hs)⟩

/-- The place that problems are reported at does not bear on what is yielded. -/
theorem Yields.within {x : Check α} {P : α → Prop} (hx : x.Yields P) (name : String) :
    (within name x).Yields P := by
  intro ledger a ha
  rw [Check.within] at ha
  split at ha
  · next hr =>
    cases ha
    exact hx ledger a (by rw [hr])
  · cases ha

/-- Neither do the levels that are counted on the way down. -/
theorem Yields.levels {x : Check α} {P : α → Prop} (hx : x.Yields P) (n : Nat) :
    (levels n x).Yields P := by
  induction n with
  | zero => exact hx
  | succ n ih =>
    intro ledger a ha
    rw [Check.levels, level] at ha
    split at ha
    · cases ha
    · exact ih _ a ha

theorem Yields.entering {x : Check α} {P : α → Prop} (hx : x.Yields P) (layer : Layer) :
    (entering layer x).Yields P := by
  intro ledger a ha
  have hinside : Yields (fun inner => x { inner with frame := (ledger.frame.enter layer).2 }) P :=
    fun _ _ h => hx _ _ h
  exact hinside.levels (ledger.frame.enter layer).1 ledger a ha

end Check

namespace Edit

variable {σ τ α β : Type}

/-- Wherever an edit of `s` ends, be it with an answer or with a fault, the property holds. -/
def Ends (x : Edit σ α) (s : σ) (Q : σ → Prop) : Prop := ∀ ledger, Q (x s ledger).1.2

theorem ends_pure {s : σ} {Q : σ → Prop} (h : Q s) (a : α) : Ends (pure a) s Q := fun _ => h

theorem ends_throw {s : σ} {Q : σ → Prop} (h : Q s) (fault : Fault) :
    Ends (throw fault : Edit σ α) s Q := fun _ => h

theorem ends_modify {s : σ} {Q : σ → Prop} {f : σ → σ} (h : Q (f s)) : Ends (modify f) s Q :=
  fun _ => h

/-- A check that is part of an edit does not touch what is edited. -/
theorem ends_check {s : σ} {Q : σ → Prop} (h : Q s) (x : Check α) : Ends (check x) s Q := by
  intro ledger
  rw [check]
  split <;> exact h

/-- Between two steps the first property holds; if there is no second step, it is enough. -/
theorem Ends.bind {x : Edit σ α} {s : σ} {M Q : σ → Prop} (hx : Ends x s M) (hM : ∀ s, M s → Q s)
    {next : α → Edit σ β} (hnext : ∀ a s, M s → Ends (next a) s Q) : Ends (x >>= next) s Q := by
  intro ledger
  rcases hr : x s ledger with ⟨⟨result, after⟩, last⟩
  have hafter : M after := by simpa only [hr] using hx ledger
  cases result with
  | error fault =>
    rw [bind_of_error hr]
    exact hM _ hafter
  | ok a =>
    rw [bind_of_ok hr]
    exact hnext a after hafter last

theorem ends_get_bind {s : σ} {Q : σ → Prop} {next : σ → Edit σ α} (h : Ends (next s) s Q) :
    Ends (get >>= next) s Q := by
  intro ledger
  rw [bind_of_ok (x := get) rfl]
  exact h ledger

theorem Ends.map {x : Edit σ α} {s : σ} {Q : σ → Prop} (hx : Ends x s Q) (f : α → β) :
    Ends (f <$> x) s Q := by
  rw [map_eq_pure_bind]
  exact hx.bind (fun _ h => h) fun a _ h => ends_pure h (f a)

theorem Ends.chained {x : Edit σ Unit} {s : σ} {Q : σ → Prop} (hx : Ends x s Q) :
    Ends (x *> pure Reply.itself) s Q :=
  Ends.bind hx (fun _ h => h) fun _ _ h => ends_pure h _

theorem ends_looking {s : σ} {Q : σ → Prop} (h : Q s) (f : σ → Value) :
    Ends (Reply.value <$> (f <$> get)) s Q :=
  fun _ => h

theorem ends_ofExcept {ε : Type} {s : σ} {Q : σ → Prop} (h : Q s) (f : ε → Fault)
    (result : Except ε α) : Ends (ofExcept f result) s Q := by
  cases result with
  | ok a => exact ends_pure h a
  | error e => exact ends_throw h (f e)

/-- An answer that may have too many digits. -/
theorem ends_spelling {s : σ} {Q : σ → Prop} (h : Q s) (numerals : σ → List Int)
    (f : σ → String) :
    Ends (Reply.value <$> (do
      let s ← get
      .str <$> ofExcept .layout (LayoutFault.spelt (numerals s) (f s)) : Edit σ Value)) s Q :=
  (ends_get_bind ((ends_ofExcept h _ _).map _)).map _

/-- An answer that takes a check, and leaves what it looks at. -/
theorem ends_reading {s : σ} {Q : σ → Prop} (h : Q s) (x : Check α) (f : α → σ → Value) :
    Ends (Reply.value <$> (do
      let a ← check x
      pure (f a (← get)) : Edit σ Value)) s Q :=
  ((ends_check h x).bind (fun _ h => h) fun a _ h => ends_get_bind (ends_pure h (f a _))).map _

/-- An edit of a part, where any part will do. -/
theorem ends_zoom {x : Edit τ α} {s : σ} {Q : σ → Prop} {get : σ → τ} {put : τ → σ → σ}
    (h : ∀ part, Q (put part s)) : Ends (x.zoom get put) s Q := fun _ => h _

/-- The methods of a part, called on the whole. -/
theorem ends_zoomMethods {methods : Methods τ} {get : σ → τ} {put : τ → σ → σ} {verb : Verb}
    {args : List Value} {x : Edit σ Reply} (hx : zoomMethods get put methods verb args = some x)
    {s : σ} {Q : σ → Prop} (h : ∀ part, Q (put part s)) : Ends x s Q := by
  obtain ⟨y, -, rfl⟩ := Option.map_eq_some_iff.mp hx
  exact ends_zoom h

/-- An edit before which a flag may be given up. -/
theorem ends_given_up {x : Edit σ Unit} {wanted : Bool} {g : σ → σ} {s : σ} {Q : σ → Prop}
    (h : Ends x (if wanted then g s else s) Q) :
    Ends (do
      if wanted then modify g
      x) s Q := by
  cases wanted with
  | true =>
    intro ledger
    exact h ledger
  | false => exact h

end Edit

namespace Slot

variable {σ τ α : Type} {members : Members} {Q : σ → Prop}

/-- Reading the field, or going on without it, keeps the property. -/
def Frames (members : Members) (Q : σ → Prop) (slot : Slot σ) : Prop :=
  ∀ s, Q s → (slot.read members s).Yields Q

/-- A field that keeps the property both where it is stored and where it is left out. -/
theorem frames_of_store {slot : Slot σ} (hstore : ∀ s v, Q s → (slot.store s v).Yields Q)
    (habsent : ∀ s, Q s → (slot.absent s).Yields Q) : slot.Frames members Q := by
  intro s hs
  refine Check.Yields.within ?_ slot.name
  split
  · exact hstore s _ hs
  · exact habsent s hs

/-- Each kind of field stores what its rule accepts, by the function that it is given. -/
theorem frames_required {name : String} {rule : Rule α} {set : α → σ → σ}
    (h : ∀ a s, Q s → Q (set a s)) : (required name rule set).Frames members Q :=
  frames_of_store (fun s _ hs => (Check.yields_of_forall fun a => h a s hs).map)
    fun _ _ => Check.yields_fail _ _

theorem frames_optional {name : String} {rule : Rule α} {set : α → σ → σ}
    (h : ∀ a s, Q s → Q (set a s)) : (optional name rule set).Frames members Q :=
  frames_of_store (fun s _ hs => (Check.yields_of_forall fun a => h a s hs).map)
    fun _ hs => Check.yields_pure hs

theorem frames_made {name : String} {rule : Rule α} {make : Check α} {set : α → σ → σ}
    (h : ∀ a s, Q s → Q (set a s)) : (made name rule make set).Frames members Q :=
  frames_of_store (fun s _ hs => (Check.yields_of_forall fun a => h a s hs).map)
    fun s hs => (Check.yields_of_forall fun a => h a s hs).map

theorem frames_fixed (name word : String) : (fixed name word : Slot σ).Frames members Q :=
  frames_of_store (fun _ _ hs => (Check.yields_of_forall fun _ => hs).map)
    fun _ hs => Check.yields_pure hs

theorem frames_never (name : String) : (never name : Slot σ).Frames members Q := by
  refine frames_of_store (fun s v hs => ?_) fun _ hs => Check.yields_pure hs
  change (if v.isZero then pure s else Check.fail _ : Check σ).Yields Q
  split
  · exact Check.yields_pure hs
  · exact Check.yields_fail _ _

/-- A field of a part changes the part alone. -/
theorem frames_zoom {get : σ → τ} {set : τ → σ → σ} {slot : Slot τ}
    (h : ∀ part s, Q s → Q (set part s)) : (slot.zoom get set).Frames members Q :=
  frames_of_store (fun s _ hs => (Check.yields_of_forall fun part => h part s hs).map)
    fun s hs => (Check.yields_of_forall fun part => h part s hs).map

theorem read_of_mentioned {slot : Slot σ} {v : Value}
    (h : Value.member? members slot.name = some v) (s : σ) :
    slot.read members s = Check.within slot.name (slot.store s v) := by
  rw [read, h]

theorem read_of_unmentioned {slot : Slot σ} (h : Value.member? members slot.name = none) (s : σ) :
    slot.read members s = Check.within slot.name (slot.absent s) := by
  rw [read, h]

/-- A field that the members leave out keeps its initial value. -/
theorem frames_unmentioned {name : String} {rule : Rule α} {set : α → σ → σ}
    (hname : Value.member? members name = none) : (optional name rule set).Frames members Q := by
  intro s hs
  rw [read_of_unmentioned hname]
  exact (Check.yields_pure hs).within name

/-- Fields are read one after the other, and the property passes through each of them. -/
theorem yields_readAll {slots : List (Slot σ)} (hslots : ∀ slot ∈ slots, slot.Frames members Q)
    (problems : List Problem) {s : σ} (hs : Q s) :
    (readAll members slots problems s).Yields Q := by
  induction slots generalizing problems s with
  | nil =>
    cases problems with
    | nil => exact Check.yields_pure hs
    | cons p ps => exact fun _ _ => nofun
  | cons slot rest ih =>
    intro ledger a ha
    have hrest : ∀ slot ∈ rest, slot.Frames members Q :=
      fun other hother => hslots other (List.mem_cons_of_mem _ hother)
    rw [readAll] at ha
    dsimp only at ha
    split at ha
    · next read after hr =>
      have hread : Q read := hslots slot List.mem_cons_self s hs ledger read (congrArg Prod.fst hr)
      exact ih hrest problems hread after a ha
    · exact ih hrest _ hs _ a ha

end Slot

/-- What is built is what comes of reading the fields. -/
theorem Schema.yields_build_of_readAll {σ : Type} {schema : Schema σ} {members : Members}
    {Q : σ → Prop}
    (hread : ∀ id, (Slot.readAll members schema.slots [] (schema.start id)).Yields Q) :
    (schema.build members).Yields Q := by
  refine Check.Yields.entering ?_ schema.layer
  refine (Check.yields_of_forall (P := fun _ => True) fun _ => trivial).bind fun id _ => ?_
  refine (hread id).bind fun s hs => ?_
  exact (Check.yields_of_forall (P := fun _ => True) fun _ => trivial).bind fun _ _ =>
    Check.yields_pure hs

/-- What an entity holds before its fields are read, and what no field changes, it holds then. -/
theorem Schema.yields_build {σ : Type} {schema : Schema σ} {members : Members} {Q : σ → Prop}
    (hstart : ∀ id, Q (schema.start id)) (hslots : ∀ slot ∈ schema.slots, slot.Frames members Q) :
    (schema.build members).Yields Q :=
  yields_build_of_readAll fun id => Slot.yields_readAll hslots [] (hstart id)

namespace Schema

variable {σ : Type} {schema : Schema σ} {slot : Slot σ} {name : String} {s : σ}

/-- The value is checked and stored, and then the whole is checked. -/
theorem assign_of_find (hfind : schema.assigned.find? (·.name == name) = some slot) (v : Value)
    (s : σ) (ledger : Ledger) :
    schema.assign name v s ledger =
      match (Check.editing (schema.holder? s)
          (Check.entering schema.layer (Check.within name (slot.store s v)))).alone ledger with
      | (.ok changed, after) => Edit.check (schema.finish changed) changed after
      | (.error ps, after) => ((.error (.invalid ps), s), after) := by
  rw [assign, hfind]
  refine (Edit.bind_of_ok (x := get) rfl _).trans ?_
  generalize Check.entering schema.layer (Check.within name (slot.store s v)) = stored
  rcases hr : (Check.editing (schema.holder? s) stored).alone ledger with ⟨result, after⟩
  cases result with
  | error ps =>
    have hcheck : Edit.check (Check.editing (schema.holder? s) stored) s ledger =
        ((.error (.invalid ps), s), after) := by rw [Edit.check, hr]
    exact Edit.bind_of_error hcheck _
  | ok changed =>
    have hcheck : Edit.check (Check.editing (schema.holder? s) stored) s ledger =
        ((.ok changed, s), after) := by rw [Edit.check, hr]
    exact (Edit.bind_of_ok hcheck _).trans (Edit.bind_of_ok (x := set changed) rfl _)

/-- Without a check of the whole, an assignment that is refused changes nothing. -/
theorem keeps_assign (hfinish : ∀ s, schema.finish s = pure ()) (name : String) (v : Value) :
    Edit.Keeps (schema.assign name v) := by
  intro s after ledger last fault h
  cases hfind : schema.assigned.find? (·.name == name) with
  | none =>
    rw [assign, hfind] at h
    exact Edit.keeps_throw _ _ _ _ _ _ h
  | some slot =>
    rw [assign_of_find hfind] at h
    split at h
    · rw [hfinish] at h
      cases h
    · cases h
      rfl

/-- A value that the field takes is stored, and the whole is left to be checked. -/
theorem assign_of_settles_ok (hlayer : schema.layer = .entity)
    (hfind : schema.assigned.find? (·.name == name) = some slot) {v : Value} {changed : σ}
    (hslot : (slot.store s v).Settles (.ok changed)) (ledger : Ledger) :
    ∃ after, schema.assign name v s ledger = Edit.check (schema.finish changed) changed after := by
  rw [assign_of_find hfind, hlayer, Check.alone_entering, hslot.within name _]
  exact ⟨_, rfl⟩

/-- A value that the field does not take is not stored. -/
theorem assign_of_settles_error (hlayer : schema.layer = .entity)
    (hfind : schema.assigned.find? (·.name == name) = some slot) {v : Value} {ps : List Problem}
    (hslot : (slot.store s v).Settles (.error ps)) (ledger : Ledger) :
    ∃ fault last, schema.assign name v s ledger = ((.error fault, s), last) := by
  rw [assign_of_find hfind, hlayer, Check.alone_entering, hslot.within name _]
  exact ⟨_, _, rfl⟩

/-- An assignment ends with the old fields or with the ones that the field's check yields. -/
theorem ends_assign (hfind : schema.assigned.find? (·.name == name) = some slot) {v : Value}
    {Q : σ → Prop} (hs : Q s) (hslot : (slot.store s v).Yields Q) :
    Edit.Ends (schema.assign name v) s Q := by
  intro ledger
  rw [assign_of_find hfind]
  have hstored := (hslot.within name).entering schema.layer
  split
  · next changed after hr =>
    have hchanged : Q changed := hstored _ changed (congrArg Prod.fst hr)
    exact Edit.ends_check hchanged _ _
  · exact hs

end Schema

/-- An edit of an entity that fails is an edit of its data that failed. -/
theorem Entity.edited_eq_error {σ α : Type} {c : EntityClass σ} {s : σ} {x : Edit σ α}
    {f : σ → σ} (hx : Edit.FailsTo x f) {ledger last : Ledger} {fault : Fault} {after : Entity}
    (h : Entity.edited c s x ledger = ((.error fault, after), last)) : after = c.entity (f s) := by
  rw [Entity.edited] at h
  rcases hr : x s ledger with ⟨⟨result, part⟩, final⟩
  rw [hr] at h
  cases h
  rw [hx _ _ _ _ _ hr]

end CWriter

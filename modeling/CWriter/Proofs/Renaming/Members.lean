import CWriter.Proofs.Edits

/-!
# Edits that do not look at a name

Whatever is called on a constructor or a destructor does to it under another name what it does
to it under its own. Only the answer may tell the names apart. The argument is by the steps of
an edit: none of the checks is handed the name, and none of the changes touches it.
-/
namespace CWriter

namespace Check

variable {α β : Type}

theorem map_apply (f : α → β) (x : Check α) (ledger : Ledger) :
    (f <$> x) ledger = ((x ledger).1.map f, (x ledger).2) := by
  simp only [Functor.map, ExceptT.map, ExceptT.mk, bind, StateT.bind]
  rcases x ledger with ⟨result, after⟩
  cases result <;> rfl

theorem within_map (name : String) (f : α → β) (x : Check α) :
    within name (f <$> x) = f <$> within name x := by
  funext ledger
  rw [map_apply, within, within, map_apply]
  rcases x ledger with ⟨result, after⟩
  cases result <;> rfl

theorem level_map (f : α → β) (x : Check α) : level (f <$> x) = f <$> level x := by
  funext ledger
  rw [map_apply, level, level]
  split
  · rfl
  · rw [map_apply]
    rfl

theorem levels_map (n : Nat) (f : α → β) (x : Check α) : levels n (f <$> x) = f <$> levels n x := by
  induction n with
  | zero => rfl
  | succ n ih => rw [levels, levels, ih, level_map]

theorem entering_map (layer : Layer) (f : α → β) (x : Check α) :
    entering layer (f <$> x) = f <$> entering layer x := by
  funext ledger
  let inside : Check α := fun other => x { other with frame := (ledger.frame.enter layer).2 }
  have hinside : (fun other => (f <$> x) { other with frame := (ledger.frame.enter layer).2 }) =
      f <$> inside := by
    funext other
    rw [map_apply, map_apply]
  rw [map_apply, entering, entering]
  dsimp only
  rw [hinside, levels_map, map_apply]
  rfl

theorem editing_map (id : Option Id) (f : α → β) (x : Check α) :
    editing id (f <$> x) = f <$> editing id x := by
  funext ledger
  rw [map_apply, editing, editing, map_apply]

theorem alone_map (f : α → β) (x : Check α) : (f <$> x).alone = f <$> x.alone := by
  funext ledger
  rw [map_apply, alone, alone, map_apply]

end Check

namespace Edit

variable {σ τ α β : Type} {f : σ → σ}

/-- An edit that answers the same to `f` of something and does the same to it. -/
def Blind (f : σ → σ) (x : Edit σ α) : Prop :=
  ∀ s ledger, x (f s) ledger = (((x s ledger).1.1, f (x s ledger).1.2), (x s ledger).2)

/-- An edit that does the same to `f` of something, whatever it answers. -/
def Commutes (f : σ → σ) (x : Edit σ α) : Prop :=
  ∀ s ledger, (x (f s) ledger).1.2 = f (x s ledger).1.2 ∧ (x (f s) ledger).2 = (x s ledger).2

theorem Blind.commutes {x : Edit σ α} (hx : Blind f x) : Commutes f x := by
  intro s ledger
  rw [hx s ledger]
  exact ⟨rfl, rfl⟩

theorem blind_pure (a : α) : Blind f (pure a) := fun _ _ => rfl

theorem blind_modify {g : σ → σ} (hg : ∀ s, g (f s) = f (g s)) : Blind f (modify g) := by
  intro s ledger
  change ((Except.ok (), g (f s)), ledger) = ((Except.ok (), f (g s)), ledger)
  rw [hg]

theorem blind_check (x : Check α) : Blind f (check x) := by
  intro s ledger
  rw [check, check]
  rcases x.alone ledger with ⟨result, after⟩
  cases result <;> rfl

theorem Blind.bind {x : Edit σ α} (hx : Blind f x) {next : α → Edit σ β}
    (hnext : ∀ a, Blind f (next a)) : Blind f (x >>= next) := by
  intro s ledger
  have hs := hx s ledger
  rcases hr : x s ledger with ⟨⟨result, after⟩, last⟩
  rw [hr] at hs
  cases result with
  | error fault => rw [bind_of_error hr, bind_of_error hs]
  | ok a =>
    rw [bind_of_ok hr, bind_of_ok hs]
    exact hnext a after last

/-- What is looked at is not what `f` changes. -/
theorem blind_get_bind {next : σ → Edit σ α} (hsame : ∀ s, next (f s) = next s)
    (hnext : ∀ s, Blind f (next s)) : Blind f (get >>= next) := by
  intro s ledger
  rw [bind_of_ok (x := get) rfl, bind_of_ok (x := get) rfl, hsame]
  exact hnext s s ledger

/-- A check of the whole that does not look at what `f` changes, and takes the place of it. -/
theorem blind_store {x : σ → Check σ} (hx : ∀ s, x (f s) = f <$> x s) :
    Blind f (do
      let s ← get
      set (← check (x s)) : Edit σ PUnit) := by
  intro s ledger
  rw [bind_of_ok (x := get) rfl, bind_of_ok (x := get) rfl]
  rcases hr : (x s).alone ledger with ⟨result, after⟩
  have hf : (x (f s)).alone ledger = (result.map f, after) := by
    rw [hx, Check.alone_map, Check.map_apply, hr]
  cases result with
  | error ps =>
    have hs : (check (x s) : Edit σ σ) s ledger = ((.error (.invalid ps), s), after) := by
      rw [check, hr]
    have hfs : (check (x (f s)) : Edit σ σ) (f s) ledger =
        ((.error (.invalid ps), f s), after) := by
      rw [check, hf]
      rfl
    rw [bind_of_error hs, bind_of_error hfs]
  | ok changed =>
    have hs : (check (x s) : Edit σ σ) s ledger = ((.ok changed, s), after) := by
      rw [check, hr]
    have hfs : (check (x (f s)) : Edit σ σ) (f s) ledger = ((.ok (f changed), f s), after) := by
      rw [check, hf]
      rfl
    rw [bind_of_ok hs, bind_of_ok hfs]
    rfl

theorem blind_given_up {x : Edit σ Unit} (hx : Blind f x) (wanted : Bool) {g : σ → σ}
    (hg : ∀ s, g (f s) = f (g s)) :
    Blind f (do
      if wanted then modify g
      x) := by
  cases wanted with
  | true => exact (blind_modify hg).bind fun _ => hx
  | false => exact hx

theorem Blind.chained {x : Edit σ Unit} (hx : Blind f x) : Commutes f (x *> pure Reply.itself) :=
  Blind.commutes (Blind.bind hx fun _ => blind_pure _)

theorem map_apply (g : α → β) (x : Edit σ α) (s : σ) (ledger : Ledger) :
    (g <$> x) s ledger = (((x s ledger).1.1.map g, (x s ledger).1.2), (x s ledger).2) := by
  rw [map_eq_pure_bind]
  rcases hr : x s ledger with ⟨⟨result, after⟩, last⟩
  cases result with
  | error fault => exact bind_of_error hr _
  | ok a => exact bind_of_ok hr _

theorem Commutes.map {x : Edit σ α} (hx : Commutes f x) (g : α → β) : Commutes f (g <$> x) := by
  intro s ledger
  rw [map_apply, map_apply]
  exact hx s ledger

theorem commutes_looking (g : σ → Value) : Commutes f (Reply.value <$> (g <$> get)) :=
  fun _ _ => ⟨rfl, rfl⟩

/-- An answer that takes a check, and leaves what it looks at. -/
theorem commutes_reading (x : Check α) (g : α → σ → Value) :
    Commutes f (Reply.value <$> (do
      let a ← check x
      pure (g a (← get)) : Edit σ Value)) := by
  refine Commutes.map (fun s ledger => ?_) _
  have hs : (check x : Edit σ α) (f s) ledger = _ := blind_check (f := f) x s ledger
  rcases hr : (check x : Edit σ α) s ledger with ⟨⟨result, after⟩, last⟩
  rw [hr] at hs
  cases result with
  | error fault =>
    rw [bind_of_error hr, bind_of_error hs]
    exact ⟨rfl, rfl⟩
  | ok a =>
    rw [bind_of_ok hr, bind_of_ok hs]
    exact ⟨rfl, rfl⟩

theorem Commutes.zoom {g : τ → τ} {x : Edit τ α} (hx : Commutes g x) {get : σ → τ}
    {put : τ → σ → σ} (hget : ∀ s, get (f s) = g (get s))
    (hput : ∀ part s, put (g part) (f s) = f (put part s)) : Commutes f (x.zoom get put) := by
  intro s ledger
  obtain ⟨hpart, hledger⟩ := hx (get s) ledger
  refine ⟨?_, ?_⟩
  · change put (x (get (f s)) ledger).1.2 (f s) = f (put (x (get s) ledger).1.2 s)
    rw [hget, hpart, hput]
  · change (x (get (f s)) ledger).2 = (x (get s) ledger).2
    rw [hget, hledger]

theorem Blind.zoom {g : τ → τ} {x : Edit τ α} (hx : Blind g x) {get : σ → τ} {put : τ → σ → σ}
    (hget : ∀ s, get (f s) = g (get s)) (hput : ∀ part s, put (g part) (f s) = f (put part s)) :
    Blind f (x.zoom get put) := by
  intro s ledger
  have hs := hx (get s) ledger
  rw [← hget] at hs
  change ((_, put _ (f s)), _) = ((_, f (put _ s)), _)
  rw [hs, hput]
  rfl

/-- A class all of whose calls commute. -/
def MethodsCommute (f : σ → σ) (methods : Methods σ) : Prop :=
  ∀ verb args x, methods verb args = some x → Commutes f x

theorem commutes_zoomMethods {g : τ → τ} {methods : Methods τ} {get : σ → τ} {put : τ → σ → σ}
    {verb : Verb} {args : List Value} {x : Edit σ Reply}
    (hx : zoomMethods get put methods verb args = some x) (hmethods : MethodsCommute g methods)
    (hget : ∀ s, get (f s) = g (get s)) (hput : ∀ part s, put (g part) (f s) = f (put part s)) :
    Commutes f x := by
  obtain ⟨y, hy, rfl⟩ := Option.map_eq_some_iff.mp hx
  exact (hmethods verb args y hy).zoom hget hput

end Edit

/-- An assignment to a field whose check does not look at what `f` changes. -/
theorem Schema.blind_assign {σ : Type} {schema : Schema σ} {slot : Slot σ} {name : String}
    {f : σ → σ} {v : Value} (hfind : schema.assigned.find? (·.name == name) = some slot)
    (hfinish : ∀ s, schema.finish s = pure ())
    (hholder : ∀ s, schema.holder? (f s) = schema.holder? s)
    (hstore : ∀ s, slot.store (f s) v = f <$> slot.store s v) :
    Edit.Blind f (schema.assign name v) := by
  intro s ledger
  rw [assign_of_find hfind, assign_of_find hfind, hholder, hstore, Check.within_map,
    Check.entering_map, Check.editing_map, Check.alone_map, Check.map_apply]
  rcases (Check.editing (schema.holder? s)
    (Check.entering schema.layer (Check.within name (slot.store s v)))).alone ledger with
    ⟨result, after⟩
  cases result with
  | error ps => rfl
  | ok changed =>
    change Edit.check (schema.finish (f changed)) (f changed) after = _
    rw [hfinish]
    dsimp only
    rw [hfinish]
    rfl

/-- A field that a rule governs, and whose place is not the one that `f` changes. -/
theorem Schema.blind_assign_field {σ α : Type} {schema : Schema σ} {rule : Rule α}
    {put : α → σ → σ} {absent : σ → Check σ} {name : String} {f : σ → σ} {v : Value}
    (hfind : schema.assigned.find? (·.name == name) =
      some { Slot.required name rule put with absent })
    (hfinish : ∀ s, schema.finish s = pure ())
    (hholder : ∀ s, schema.holder? (f s) = schema.holder? s)
    (hput : ∀ a s, put a (f s) = f (put a s)) : Edit.Blind f (schema.assign name v) := by
  refine blind_assign hfind hfinish hholder fun s => ?_
  change (put · (f s)) <$> rule.accept v = f <$> (put · s) <$> rule.accept v
  rw [Functor.map_map]
  simp only [hput]

open Edit

section Members

variable (n : Identifier)

def Documented.renamed (d : Documented) : Documented := { d with name := n }
def Routine.renamed (r : Routine) : Routine := { r with name := n }
def Callable.renamed (c : Callable) : Callable := { c with name := n }
def Constructor.renamed (c : Constructor) : Constructor := { c with name := n }
def Destructor.renamed (d : Destructor) : Destructor := { d with name := n }

theorem Documented.methods_commute : MethodsCommute (renamed n) methods := by
  intro verb args x hx
  unfold methods at hx
  split at hx
  · obtain rfl := Option.some.inj hx
    refine Blind.chained (blind_get_bind (fun _ => rfl) fun d => ?_)
    exact Blind.bind (blind_check _) fun _ => blind_modify fun _ => rfl
  · cases hx

theorem Routine.blind_setBody (lines : Value) : Blind (renamed n) (setBody lines) := by
  unfold setBody
  cases lines.listed? with
  | none => exact fun _ _ => rfl
  | some items =>
    refine blind_store fun s => ?_
    have hstore : bodySlot.store (s.renamed n) (.list items) =
        renamed n <$> bodySlot.store s (.list items) := by
      change (_ <$> _) = _ <$> (_ <$> _)
      rw [Functor.map_map]
      rfl
    rw [hstore, Check.within_map, Check.entering_map]

theorem Routine.blind_pushLine (line : Value) : Blind (renamed n) (pushLine line) :=
  (blind_check _).bind fun _ => blind_modify fun _ => rfl

theorem Routine.methods_commute : MethodsCommute (renamed n) methods := by
  intro verb args x hx
  unfold methods at hx
  split at hx
  · obtain rfl := Option.some.inj hx
    exact (blind_setBody n _).chained
  · obtain rfl := Option.some.inj hx
    exact (blind_pushLine n _).chained
  · obtain rfl := Option.some.inj hx
    exact Blind.chained (Blind.bind (blind_check _) fun _ => blind_modify fun _ => rfl)
  · obtain rfl := Option.some.inj hx
    exact commutes_looking _
  · exact commutes_zoomMethods hx (Documented.methods_commute n) (fun _ => rfl) fun _ _ => rfl

theorem Callable.methods_commute : MethodsCommute (renamed n) methods := by
  intro verb args x hx
  unfold methods at hx
  split at hx
  · obtain rfl := Option.some.inj hx
    refine Commutes.map (Commutes.map (Blind.commutes ?_) _) _
    refine Blind.bind (blind_check _) fun p => Blind.bind (blind_modify ?_) fun _ => blind_pure p
    exact fun _ => rfl
  · obtain rfl := Option.some.inj hx
    exact Blind.chained (Blind.bind (blind_check _) fun _ => blind_modify fun _ => rfl)
  · obtain rfl := Option.some.inj hx
    exact commutes_looking _
  · exact commutes_zoomMethods hx (Routine.methods_commute n) (fun _ => rfl) fun _ _ => rfl

theorem Constructor.methods_commute : MethodsCommute (renamed n) methods := by
  intro verb args x hx
  unfold methods at hx
  split at hx
  · obtain rfl := Option.some.inj hx
    exact Blind.chained (blind_modify fun _ => rfl)
  · obtain rfl := Option.some.inj hx
    exact Blind.chained (Schema.blind_assign_field rfl (fun _ => rfl) (fun _ => rfl) fun _ _ => rfl)
  · obtain rfl := Option.some.inj hx
    refine Blind.chained (blind_given_up ?_ _ fun _ => rfl)
    exact Schema.blind_assign_field rfl (fun _ => rfl) (fun _ => rfl) fun _ _ => rfl
  · obtain rfl := Option.some.inj hx
    refine Blind.chained (blind_given_up ?_ _ fun _ => rfl)
    exact Schema.blind_assign_field rfl (fun _ => rfl) (fun _ => rfl) fun _ _ => rfl
  · obtain rfl := Option.some.inj hx
    refine Blind.chained (blind_given_up ?_ _ fun _ => rfl)
    exact Schema.blind_assign_field rfl (fun _ => rfl) (fun _ => rfl) fun _ _ => rfl
  · obtain rfl := Option.some.inj hx
    refine Blind.chained (blind_given_up ?_ _ fun _ => rfl)
    exact Schema.blind_assign_field rfl (fun _ => rfl) (fun _ => rfl) fun _ _ => rfl
  · obtain rfl := Option.some.inj hx
    exact Blind.chained (Schema.blind_assign_field rfl (fun _ => rfl) (fun _ => rfl) fun _ _ => rfl)
  · obtain rfl := Option.some.inj hx
    exact commutes_looking _
  · obtain rfl := Option.some.inj hx
    exact commutes_reading _ _
  · exact commutes_zoomMethods hx (Callable.methods_commute n) (fun _ => rfl) fun _ _ => rfl

theorem Destructor.methods_commute : MethodsCommute (renamed n) methods := by
  intro verb args x hx
  unfold methods at hx
  split at hx
  · obtain rfl := Option.some.inj hx
    refine Blind.chained (blind_given_up ?_ _ fun _ => rfl)
    exact Schema.blind_assign_field rfl (fun _ => rfl) (fun _ => rfl) fun _ _ => rfl
  · obtain rfl := Option.some.inj hx
    refine Blind.chained (blind_given_up ?_ _ fun _ => rfl)
    exact Schema.blind_assign_field rfl (fun _ => rfl) (fun _ => rfl) fun _ _ => rfl
  · obtain rfl := Option.some.inj hx
    refine Blind.chained (blind_given_up ?_ _ fun _ => rfl)
    exact Schema.blind_assign_field rfl (fun _ => rfl) (fun _ => rfl) fun _ _ => rfl
  · obtain rfl := Option.some.inj hx
    exact Blind.chained (Schema.blind_assign_field rfl (fun _ => rfl) (fun _ => rfl) fun _ _ => rfl)
  · obtain rfl := Option.some.inj hx
    refine Blind.chained (blind_given_up ?_ _ fun _ => rfl)
    exact (Routine.blind_setBody n _).zoom (fun _ => rfl) fun _ _ => rfl
  · obtain rfl := Option.some.inj hx
    refine Blind.chained (Blind.bind ?_ fun _ => blind_modify fun _ => rfl)
    exact (Routine.blind_pushLine n _).zoom (fun _ => rfl) fun _ _ => rfl
  · obtain rfl := Option.some.inj hx
    exact commutes_reading _ _
  · exact commutes_zoomMethods hx (Routine.methods_commute n) (fun _ => rfl) fun _ _ => rfl

end Members

end CWriter

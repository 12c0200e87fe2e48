import CWriter.Proofs.Renaming.Steps

/-!
# Classes that are renamed while they are built

Renamings can be moved to the front of a run, where the last accepted one decides. All along a
run constructors and destructors carry the name of the class, and there is one destructor at
most.
-/
namespace CWriter

open Edit

namespace Class

def run (c : Class) (ledger : Ledger) : List BuildStep → Class × Ledger
  | [] => (c, ledger)
  | step :: rest => run (c.perform ledger step).1 (c.perform ledger step).2 rest

/-- Of two renamings the later one counts. -/
theorem named_named (m n : Identifier) (c : Class) : (c.named n).named m = c.named m := by
  have hmember : Member.renamed m ∘ Member.renamed n = Member.renamed m := by
    funext k
    cases k <;> rfl
  simp only [named, List.map_map, hmember]

/-- A run does not depend on a check that was under way before it. -/
theorem run_idle (c : Class) (ledger : Ledger) (steps : List BuildStep) :
    (c.run ledger.idle steps).1 = (c.run ledger steps).1 := by
  cases steps with
  | nil => rfl
  | cons step rest => rw [run, run, perform_idle]

/-- The last of the names that are accepted. -/
def lastName (v : Value) : List BuildStep → Value
  | [] => v
  | .rename w :: rest => lastName (if w.identifier?.isSome then w else v) rest
  | _ :: rest => lastName v rest

/-- Steps that rename nothing leave the last name as it is. -/
theorem lastName_cons {step : BuildStep} (hstep : step.isRename = false) (v : Value)
    (rest : List BuildStep) : lastName v (step :: rest) = lastName v rest := by
  cases step with
  | rename w => cases hstep
  | _ => rfl

/-- A class whose constructors and destructors carry its name. -/
def Coherent (c : Class) : Prop := c.named c.name = c

theorem coherent_named (n : Identifier) (c : Class) : (c.named n).Coherent := named_named n n c

/-- Nothing but a renaming changes the name, and the members follow. -/
theorem Coherent.perform {step : BuildStep} (hstep : step.isRename = false) {c : Class}
    (hc : c.Coherent) (ledger : Ledger) :
    (c.perform ledger step).1.name = c.name ∧ (c.perform ledger step).1.Coherent := by
  -- The class is itself under its own name, so the step commutes with giving it that name.
  have hnamed : (c.perform ledger step).1 = (c.perform ledger step).1.named c.name := by
    have hstate := congrArg Prod.fst (perform_named hstep c.name c ledger)
    rwa [hc] at hstate
  have hname : (c.perform ledger step).1.name = c.name := by
    rw [hnamed]
    rfl
  refine ⟨hname, ?_⟩
  rw [Coherent, hname]
  exact hnamed.symm

/-- However long a class is built on, its constructors and destructors have its name. -/
theorem Coherent.run {c : Class} (hc : c.Coherent) (ledger : Ledger) (steps : List BuildStep) :
    (c.run ledger steps).1.Coherent := by
  induction steps generalizing c ledger with
  | nil => exact hc
  | cons step rest ih =>
    cases hstep : step.isRename with
    | false => exact ih (hc.perform hstep ledger).2 _
    | true =>
      obtain ⟨w, rfl⟩ := BuildStep.exists_of_isRename hstep
      rw [Class.run, perform_rename]
      cases w.identifier? with
      | none => exact ih hc _
      | some i => exact ih (coherent_named i c) _

/-- The name at the end is the last one that was accepted. -/
theorem identifier?_lastName {v : Value} {c : Class} (hv : v.identifier? = some c.name)
    (hc : c.Coherent) (ledger : Ledger) (steps : List BuildStep) :
    (lastName v steps).identifier? = some (c.run ledger steps).1.name := by
  induction steps generalizing v c ledger with
  | nil => exact hv
  | cons step rest ih =>
    cases hstep : step.isRename with
    | false =>
      obtain ⟨hname, hcoherent⟩ := hc.perform hstep ledger
      rw [lastName_cons hstep]
      exact ih (hname ▸ hv) hcoherent _
    | true =>
      obtain ⟨w, rfl⟩ := BuildStep.exists_of_isRename hstep
      rw [lastName, Class.run, perform_rename]
      cases hw : w.identifier? with
      | none => exact ih hv hc _
      | some i => exact ih (c := c.named i) hw (coherent_named i c) _

/-- A run with renamings is the run without them on a class that has the last name from the
start. -/
theorem run_eq_run_named {v : Value} {c : Class} (hv : v.identifier? = some c.name)
    (hc : c.Coherent) (ledger : Ledger) (steps : List BuildStep) :
    (c.run ledger steps).1 =
      ((c.named (c.run ledger steps).1.name).run ledger (steps.filter (!·.isRename))).1 := by
  induction steps generalizing v c ledger with
  | nil => exact hc.symm
  | cons step rest ih =>
    cases hstep : step.isRename with
    | false =>
      obtain ⟨hname, hcoherent⟩ := hc.perform hstep ledger
      have hrest := ih (hname ▸ hv) hcoherent (c.perform ledger step).2
      rw [List.filter_cons_of_pos (by rw [hstep]; rfl), Class.run, Class.run, perform_named hstep]
      exact hrest
    | true =>
      obtain ⟨w, rfl⟩ := BuildStep.exists_of_isRename hstep
      -- The class that has the last name from the start is not touched by an earlier one.
      rw [List.filter_cons_of_neg (by rw [hstep]; decide), Class.run, perform_rename, run_idle]
      cases hw : w.identifier? with
      | none => exact ih hv hc ledger
      | some i =>
        have hrest := ih (c := c.named i) hw (coherent_named i c) ledger
        rwa [named_named] at hrest

theorem putDestructor_cons {m : Member} (hm : (m.sort == .destructor) = false) (d : Destructor)
    (rest : List Member) : putDestructor d (m :: rest) = m :: putDestructor d rest := by
  cases m with
  | destructor old => cases hm
  | _ => rfl

/-- The destructor takes the place of the first one, or the last place. -/
theorem putDestructor_eq (d : Destructor) (ms : List Member) :
    putDestructor d ms =
      match ms.findIdx? (·.sort == .destructor) with
      | some i => ms.set i (.destructor d)
      | none => ms ++ [.destructor d] := by
  induction ms with
  | nil => rfl
  | cons m rest ih =>
    rw [List.findIdx?_cons]
    cases hm : m.sort == .destructor with
    | true =>
      cases m with
      | destructor old => rfl
      | _ => cases hm
    | false =>
      rw [putDestructor_cons hm, ih]
      cases rest.findIdx? (·.sort == .destructor) <;> rfl

/-- A class with one destructor, or none. -/
def SingleDestructor (c : Class) : Prop := c.members.countP (·.sort == .destructor) ≤ 1

theorem singleDestructor_map {f : Member → Member} (hf : ∀ m, (f m).sort = m.sort) {c : Class}
    (hc : c.SingleDestructor) : SingleDestructor { c with members := c.members.map f } := by
  have hsort : ((fun m : Member => m.sort == .destructor) ∘ f) = fun m => m.sort == .destructor :=
    funext fun m => congrArg (· == MemberSort.destructor) (hf m)
  rw [SingleDestructor, List.countP_map, hsort]
  exact hc

/-- Members of other kinds do not count. -/
theorem singleDestructor_addMember {m : Member} (hm : (m.sort == .destructor) = false) {c : Class}
    (hc : c.SingleDestructor) : (c.addMember m).SingleDestructor := by
  have hcount : [m].countP (·.sort == .destructor) = 0 := by
    rw [List.countP_singleton, hm]
    rfl
  rw [SingleDestructor, addMember, List.countP_append, hcount]
  exact hc

/-- A destructor is put in the place of another, so that one is enough. -/
theorem countP_putDestructor (d : Destructor) (ms : List Member) :
    (putDestructor d ms).countP (·.sort == .destructor) =
      max 1 (ms.countP (·.sort == .destructor)) := by
  induction ms with
  | nil => rfl
  | cons m rest ih =>
    cases hm : m.sort == .destructor with
    | true =>
      cases m with
      | destructor old =>
        simp only [putDestructor, List.countP_cons, Member.sort, beq_self_eq_true, if_true]
        omega
      | _ => cases hm
    | false =>
      rw [putDestructor_cons hm, List.countP_cons, List.countP_cons, hm, ih]
      rfl

/-- A member is added once it is checked, and not at all where it is refused. -/
theorem ends_add {α : Type} {member : α → Member} {c : Class} {Q : Class → Prop} (hc : Q c)
    (hadd : ∀ c a, Q c → Q (c.addMember (member a))) (x : Check α) : Ends (add member x) c Q := by
  unfold add
  rw [map_eq_pure_bind, bind_assoc]
  have hchecked : Ends (check x) c fun after => Q after ∧ ∀ a, Q (after.addMember (member a)) :=
    ends_check ⟨hc, fun a => hadd c a hc⟩ x
  refine hchecked.bind (fun _ h => h.1) fun a after h => ?_
  rw [pure_bind]
  have hadded : Ends (modify (addMember (member a))) after Q := ends_modify (h.2 a)
  exact hadded.bind (fun _ h => h) fun _ _ h => ends_pure h _

theorem singleDestructor_called {verb : Verb} {args : List Value} {x : Edit Class Reply}
    (hx : methods verb args = some x) {c : Class} (hends : Ends x c SingleDestructor)
    (ledger : Ledger) : (c.called verb args ledger).1.SingleDestructor := by
  rw [called, hx]
  exact hends ledger

/-- No step adds a second destructor. -/
theorem SingleDestructor.perform {c : Class} (hc : c.SingleDestructor) (ledger : Ledger)
    (step : BuildStep) : (c.perform ledger step).1.SingleDestructor := by
  have hbase : ∀ (x : Check BaseClass) (bases : BaseClass → Class → List BaseClass),
      Ends (do
        let b ← check x
        modify fun c => { c with bases := bases b c } : Edit Class Unit) c SingleDestructor :=
    fun x bases => (ends_check hc x).bind (fun _ h => h) fun _ _ h => ends_modify h
  have hpush : ∀ {v : Value} {m : Member}, (m.sort == .destructor) = false →
      (∀ c ledger, push v c ledger = ((.ok (), c.addMember m), Ledger.idle ledger)) →
        Ends (push v) c SingleDestructor := by
    intro v m hm hpush ledger
    rw [hpush]
    exact singleDestructor_addMember hm hc
  cases step with
  | setBase name visibility =>
    rw [Class.perform]
    exact singleDestructor_called rfl (hbase _ _).chained _
  | addBase name visibility =>
    rw [Class.perform]
    exact singleDestructor_called rfl (hbase _ _).chained _
  | newAttribute name type =>
    have hadd : Ends (newAttribute name type) c SingleDestructor :=
      ends_add hc (fun _ _ => singleDestructor_addMember rfl) _
    rw [Class.perform]
    exact singleDestructor_called rfl ((hadd.map _).map _) _
  | pushAttribute a =>
    rw [Class.perform]
    exact singleDestructor_called rfl (hpush rfl (push_attr a)).chained _
  | newMethod name ret =>
    have hadd : Ends (newMethod name ret) c SingleDestructor :=
      ends_add hc (fun _ _ => singleDestructor_addMember rfl) _
    rw [Class.perform]
    exact singleDestructor_called rfl ((hadd.map _).map _) _
  | pushMethod m =>
    rw [Class.perform]
    exact singleDestructor_called rfl (hpush rfl (push_method m)).chained _
  | newConstructor =>
    have hnew : Ends newConstructor c SingleDestructor := by
      intro ledger
      rw [newConstructor_apply]
      exact singleDestructor_addMember rfl hc
    rw [Class.perform]
    exact singleDestructor_called rfl ((hnew.map _).map _) _
  | newDestructor =>
    have hnew : Ends newDestructor c SingleDestructor := by
      intro ledger
      rw [newDestructor_apply, SingleDestructor, countP_putDestructor]
      exact Nat.max_le.mpr ⟨Nat.le_refl 1, hc⟩
    rw [Class.perform]
    exact singleDestructor_called rfl ((hnew.map _).map _) _
  | onMember id verb args =>
    rw [Class.perform, callMember]
    cases (c.members.find? (·.entity.id == id)).bind (·.entity.call? verb args) with
    | none => exact hc
    | some call =>
      refine singleDestructor_map (fun m => ?_) hc
      cases m <;> rfl
  | rename v =>
    rw [perform_rename]
    cases v.identifier? with
    | none => exact hc
    | some n =>
      refine singleDestructor_map (fun m => ?_) hc
      cases m <;> rfl

/-- A class that starts with one destructor at most never has two. -/
theorem SingleDestructor.run {c : Class} (hc : c.SingleDestructor) (ledger : Ledger)
    (steps : List BuildStep) : (c.run ledger steps).1.SingleDestructor := by
  induction steps generalizing c ledger with
  | nil => exact hc
  | cons step rest ih => exact ih (hc.perform ledger step) _

end Class

end CWriter

import CWriter.Proofs.Renaming.Members

/-!
# Steps of building a class

A step is a call on a class, a call on one of its members or an assignment to its name, and it
may fail: what it leaves is the class as it is then. Every step but a renaming does to a class
under another name what it does to the class.

A member that a class no longer holds, such as a destructor that was replaced, is called without
any effect on the class. The names of constructors and destructors are not assigned to on their
own.
-/
namespace CWriter

open Edit

/-- The same ledger with no check under way. -/
def Ledger.idle (ledger : Ledger) : Ledger :=
  { ledger with depth := 0, frame := { outermost := true }, edited := none }

/-- The name that a value is accepted as. -/
def Value.identifier? (v : Value) : Option Identifier :=
  v.text?.bind fun s => (Identifier.check s).toOption

theorem Check.Settles.bind {x : Check α} {a : α} (hx : x.Settles (.ok a)) (next : α → Check β)
    (ledger : Ledger) : (x >>= next) ledger = next a ledger := by
  simp only [Bind.bind, ExceptT.bind, ExceptT.mk, StateT.bind, ExceptT.bindCont, hx ledger]

/-- The check of names accepts what spells a name, whatever is in the ledger, -/
theorem Rule.settles_identifier_of_some {v : Value} {i : Identifier} (h : v.identifier? = some i) :
    (Rule.identifier.accept v).Settles (.ok i) := by
  obtain ⟨s, hs, hi⟩ := Option.bind_eq_some_iff.mp h
  intro ledger
  have htext : (Check.ofOption .notText v.text?).Settles (.ok s) := by
    rw [hs]
    exact Check.settles_pure s
  change (Check.ofOption .notText v.text? >>= Rule.identifierOf) ledger = _
  rw [htext.bind, Rule.identifierOf]
  cases hc : Identifier.check s with
  | error fault => simp [hc, Except.toOption] at hi
  | ok j =>
    rw [hc] at hi
    obtain rfl := Option.some.inj hi
    rfl

/-- and reports one problem of anything else. -/
theorem Rule.settles_identifier_of_none {v : Value} (h : v.identifier? = none) :
    ∃ p, (Rule.identifier.accept v).Settles (.error [p]) := by
  change ∃ p, (Check.ofOption .notText v.text? >>= Rule.identifierOf).Settles (.error [p])
  cases hs : v.text? with
  | none => exact ⟨_, fun _ => rfl⟩
  | some s =>
    cases hc : Identifier.check s with
    | error fault =>
      refine ⟨⟨[], .identifier fault⟩, fun ledger => ?_⟩
      change (pure s >>= Rule.identifierOf) ledger = _
      rw [(Check.settles_pure s).bind, Rule.identifierOf, hc]
      rfl
    | ok i => simp [Value.identifier?, hs, hc, Except.toOption] at h

theorem Identifier.identifier?_text (i : Identifier) : (Value.str i.text).identifier? = some i := by
  have hchecked : Identifier.check i.text = .ok i := Identifier.check_eq_ok_iff.mpr rfl
  change (Identifier.check i.text).toOption = some i
  rw [hchecked]
  rfl

/-- A field that is read is in the object from then on, -/
theorem Slot.readAll_cons_of_ok {σ : Type} {slot : Slot σ} {members : Members} {s read : σ}
    (h : (slot.read members s).Settles (.ok read)) (rest : List (Slot σ))
    (problems : List Problem) :
    readAll members (slot :: rest) problems s = readAll members rest problems read := by
  funext ledger
  rw [readAll]
  dsimp only
  rw [h ledger]

/-- and of one that is refused the problems are kept. -/
theorem Slot.readAll_cons_of_error {σ : Type} {slot : Slot σ} {members : Members} {s : σ}
    {more : List Problem} (h : (slot.read members s).Settles (.error more)) (rest : List (Slot σ))
    (problems : List Problem) :
    readAll members (slot :: rest) problems s = readAll members rest (problems ++ more) s := by
  funext ledger
  rw [readAll]
  dsimp only
  rw [h ledger]

/-- A build that reads all fields without a look at the ledger takes one identity. -/
theorem Schema.build_eq {σ : Type} {schema : Schema σ} (hlayer : schema.layer = .entity)
    (hfinish : ∀ s, schema.finish s = pure ()) {members : Members} {built : Id → σ}
    (hread : ∀ id, Slot.readAll members schema.slots [] (schema.start id) = pure (built id))
    (ledger : Ledger) :
    schema.build members ledger =
      (.ok (built ledger.next), { ledger with next := ledger.next + 1 }) := by
  have hsteps : (do
      let id ← Check.fresh
      let s ← Slot.readAll members schema.slots [] (schema.start id)
      schema.finish s
      pure s : Check σ) = fun ledger =>
        (.ok (built ledger.next), { ledger with next := ledger.next + 1 }) := by
    simp only [hread, hfinish, pure_bind]
    rfl
  rw [build, hlayer, hsteps, Check.entering_entity]

/-- The constructor of a class is built from its name alone, and so is the destructor. -/
theorem Constructor.build_name (i : Identifier) (ledger : Ledger) :
    (Constructor.schema.build [("name", .str i.text)]).alone ledger =
      (.ok { id := ledger.next, name := i }, { ledger.idle with next := ledger.next + 1 }) := by
  have hread : ∀ id, Slot.readAll [("name", .str i.text)] schema.slots [] (schema.start id) =
      pure { id, name := i } := by
    intro id
    have hname : (Slot.read (Callable.nameSlot.zoom (·.toCallable)
        fun x s => { s with toCallable := x }) [("name", .str i.text)] (schema.start id)).Settles
          (.ok { id, name := i }) := by
      have hi := Rule.settles_identifier_of_some i.identifier?_text
      exact (((((hi.map _).map _).map _).map _).map _).within _
    exact Slot.readAll_cons_of_ok hname _ _
  exact Schema.build_eq rfl (fun _ => rfl) hread ledger.idle

theorem Destructor.build_name (i : Identifier) (ledger : Ledger) :
    (Destructor.schema.build [("name", .str i.text)]).alone ledger =
      (.ok { id := ledger.next, name := i }, { ledger.idle with next := ledger.next + 1 }) := by
  have hread : ∀ id, Slot.readAll [("name", .str i.text)] schema.slots [] (schema.start id) =
      pure { id, name := i } := by
    intro id
    have hname : (Slot.read (Routine.nameSlot.zoom (·.toRoutine)
        fun x s => { s with toRoutine := x }) [("name", .str i.text)] (schema.start id)).Settles
          (.ok { id, name := i }) := by
      have hi := Rule.settles_identifier_of_some i.identifier?_text
      exact ((((hi.map _).map _).map _).map _).within _
    exact Slot.readAll_cons_of_ok hname _ _
  exact Schema.build_eq rfl (fun _ => rfl) hread ledger.idle

namespace Class

/-- The class under another name, which its constructors and destructors follow. -/
def named (n : Identifier) (c : Class) : Class :=
  { c with name := n, members := c.members.map (Member.renamed n) }

def nameSlot : Slot Class :=
  Documented.nameSlot.zoom (·.toDocumented) fun x s => { s with toDocumented := x }

/-- A class stores its name like any other field; what follows the name is another step. -/
theorem settles_nameSlot_of_some {v : Value} {n : Identifier} (hv : v.identifier? = some n)
    (c : Class) : (nameSlot.store c v).Settles (.ok { c with name := n }) :=
  (((Rule.settles_identifier_of_some hv).map _).map _).map _

theorem settles_nameSlot_of_none {v : Value} (hv : v.identifier? = none) (c : Class) :
    ∃ p, (nameSlot.store c v).Settles (.error [p]) := by
  obtain ⟨p, hp⟩ := Rule.settles_identifier_of_none hv
  exact ⟨p, ((hp.map _).map _).map _⟩

/-- An accepted name is handed on; any other value changes nothing. -/
theorem assign_name (v : Value) (c : Class) (ledger : Ledger) :
    ∃ result, assign "name" v c ledger.idle =
      ((result, v.identifier?.elim c (named · c)), ledger.idle) ∧
      (result = .ok () ↔ v.identifier?.isSome = true) := by
  have hfind : schema.assigned.find? (·.name == "name") = some nameSlot := rfl
  have hassign := Schema.assign_of_find hfind v c ledger.idle
  have hlayer : schema.layer = .entity := rfl
  rw [hlayer, Check.alone_entering] at hassign
  cases hv : v.identifier? with
  | none =>
    obtain ⟨p, hp⟩ := settles_nameSlot_of_none hv c
    rw [hp.within "name"] at hassign
    exact ⟨_, Edit.bind_of_error hassign _, nofun, nofun⟩
  | some n =>
    rw [(settles_nameSlot_of_some hv c).within "name"] at hassign
    exact ⟨_, Edit.bind_of_ok hassign _, fun _ => rfl, fun _ => rfl⟩

/-- What is done to a class while it is built. -/
inductive BuildStep where
  | setBase (name visibility : Value)
  | addBase (name visibility : Value)
  | newAttribute (name type : Value)
  | pushAttribute (a : Attribute)
  | newMethod (name ret : Value)
  | pushMethod (m : Method)
  | newConstructor
  | newDestructor
  /-- A call on a member of the class, which its identity tells. -/
  | onMember (id : Id) (verb : Verb) (args : List Value)
  | rename (v : Value)

def BuildStep.isRename : BuildStep → Bool
  | rename _ => true
  | _ => false

theorem BuildStep.exists_of_isRename {step : BuildStep} (h : step.isRename = true) :
    ∃ v, step = .rename v := by
  cases step with
  | rename v => exact ⟨v, rfl⟩
  | _ => cases h

/-- A member that has been edited, wherever the class holds it. -/
def putMember (id : Id) (e : Entity) (c : Class) : Class :=
  { c with members := c.members.map (Member.mapped fun old => if old.id = id then e else old) }

/-- A call on the member with an identity. Where there is no such member, or nothing that it can
be asked, the class stays as it is. -/
def callMember (id : Id) (verb : Verb) (args : List Value) (c : Class) (ledger : Ledger) :
    Class × Ledger :=
  match (c.members.find? (·.entity.id == id)).bind (·.entity.call? verb args) with
  | none => (c, ledger)
  | some call => (c.putMember id (call ledger).1.2, (call ledger).2)

/-- What a call leaves of the class, whether it answers or fails. -/
def called (verb : Verb) (args : List Value) (c : Class) (ledger : Ledger) : Class × Ledger :=
  match methods verb args with
  | none => (c, ledger)
  | some x => ((x c ledger).1.2, (x c ledger).2)

def perform (c : Class) (ledger : Ledger) : BuildStep → Class × Ledger
  | .setBase name visibility => c.called .setBase [name, visibility] ledger.idle
  | .addBase name visibility => c.called .addBase [name, visibility] ledger.idle
  | .newAttribute name type => c.called .newAttribute [name, type] ledger.idle
  | .pushAttribute a => c.called .pushMember [.entity (.attr a)] ledger.idle
  | .newMethod name ret => c.called .newMethod [name, ret] ledger.idle
  | .pushMethod m => c.called .pushMember [.entity (.method m)] ledger.idle
  | .newConstructor => c.called .newConstructor [] ledger.idle
  | .newDestructor => c.called .newDestructor [] ledger.idle
  | .onMember id verb args => c.callMember id verb args ledger.idle
  | .rename v => ((assign "name" v c ledger.idle).1.2, (assign "name" v c ledger.idle).2)

/-- A method that commutes with renaming does so when it is called. -/
theorem called_named {verb : Verb} {args : List Value} {x : Edit Class Reply}
    (hx : methods verb args = some x) {n : Identifier} (hcommutes : Commutes (named n) x)
    (c : Class) (ledger : Ledger) :
    (c.named n).called verb args ledger =
      ((c.called verb args ledger).1.named n, (c.called verb args ledger).2) := by
  obtain ⟨hstate, hledger⟩ := hcommutes c ledger
  rw [called, called, hx]
  dsimp only
  rw [hstate, hledger]

/-- Members that have no name of their class are added as they are. -/
theorem named_addMember {n : Identifier} {m : Member} (hm : m.renamed n = m) (c : Class) :
    (c.named n).addMember m = (c.addMember m).named n := by
  simp [addMember, named, hm]

/-- What is added is checked without a look at the class. -/
theorem blind_add {α : Type} {member : α → Member} (n : Identifier)
    (hmember : ∀ a, (member a).renamed n = member a) (x : Check α) :
    Blind (named n) (add member x) := by
  unfold add
  rw [map_eq_pure_bind, bind_assoc]
  refine Blind.bind (blind_check _) fun a => ?_
  rw [pure_bind]
  exact Blind.bind (blind_modify (named_addMember (hmember a))) fun _ => blind_pure _

/-- The new destructor takes the same place under either name. -/
theorem putDestructor_renamed (n : Identifier) (d : Destructor) (ms : List Member) :
    putDestructor (d.renamed n) (ms.map (Member.renamed n)) =
      (putDestructor d ms).map (Member.renamed n) := by
  induction ms with
  | nil => rfl
  | cons m rest ih =>
    cases m with
    | destructor old => rfl
    | _ =>
      simp only [List.map_cons, Member.renamed, putDestructor, ih]

/-- A new constructor has the name of its class, and takes the next identity. -/
theorem newConstructor_apply (c : Class) (ledger : Ledger) :
    newConstructor c ledger =
      ((.ok (.constructor { id := ledger.next, name := c.name }),
        c.addMember (.constructor { id := ledger.next, name := c.name })),
        { ledger.idle with next := ledger.next + 1 }) := by
  let new : Member := .constructor { id := ledger.next, name := c.name }
  have hbuilt : (Member.constructor <$>
      check (Constructor.schema.build [("name", .str c.name.text)]) : Edit Class Member) c ledger =
        ((.ok new, c), { ledger.idle with next := ledger.next + 1 }) := by
    rw [map_apply, check, Constructor.build_name]
    rfl
  exact (bind_of_ok (x := get) rfl _).trans (bind_of_ok hbuilt _)

theorem newDestructor_apply (c : Class) (ledger : Ledger) :
    newDestructor c ledger =
      ((.ok (.destructor { id := ledger.next, name := c.name }),
        { c with members := putDestructor { id := ledger.next, name := c.name } c.members }),
        { ledger.idle with next := ledger.next + 1 }) := by
  have hbuilt : (check (Destructor.schema.build [("name", .str c.name.text)]) :
      Edit Class Destructor) c ledger =
        ((.ok { id := ledger.next, name := c.name }, c),
          { ledger.idle with next := ledger.next + 1 }) := by
    rw [check, Destructor.build_name]
  exact (bind_of_ok (x := get) rfl _).trans (bind_of_ok hbuilt _)

theorem commutes_newConstructor (n : Identifier) : Commutes (named n) newConstructor := by
  intro c ledger
  rw [newConstructor_apply, newConstructor_apply]
  refine ⟨?_, rfl⟩
  simp [addMember, named, Member.renamed]

theorem commutes_newDestructor (n : Identifier) : Commutes (named n) newDestructor := by
  intro c ledger
  rw [newDestructor_apply, newDestructor_apply]
  refine ⟨?_, rfl⟩
  simp only [named, ← putDestructor_renamed]
  rfl

theorem push_attr (a : Attribute) (c : Class) (ledger : Ledger) :
    push (.entity (.attr a)) c ledger = ((.ok (), c.addMember (.attr a)), ledger.idle) := by
  have haccepted : (check (Member.rule.accept (.entity (.attr a))) : Edit Class Member) c ledger =
      ((.ok (.attr a), c), ledger.idle) := rfl
  exact bind_of_ok haccepted _

theorem push_method (m : Method) (c : Class) (ledger : Ledger) :
    push (.entity (.method m)) c ledger = ((.ok (), c.addMember (.method m)), ledger.idle) := by
  have haccepted : (check (Member.rule.accept (.entity (.method m))) : Edit Class Member) c ledger =
      ((.ok (.method m), c), ledger.idle) := rfl
  exact bind_of_ok haccepted _

/-- A member that stands alone already is added as it is, unless it follows the name. -/
theorem blind_push {v : Value} {m : Member}
    (hpush : ∀ c ledger, push v c ledger = ((.ok (), c.addMember m), Ledger.idle ledger))
    {n : Identifier} (hm : m.renamed n = m) : Blind (named n) (push v) := by
  intro c ledger
  rw [hpush, hpush, named_addMember hm]

end Class

/-- What is called on a member of a class under another name. -/
def Entity.renamed (n : Identifier) : Entity → Entity
  | constructor k => constructor (k.renamed n)
  | destructor d => destructor (d.renamed n)
  | e => e

/-- A part is edited under another name as it is under its own, if its class follows renamings
by `g`. -/
theorem Part.mapped_renamed {α : Type} [Part α] {g : α → α} {n : Identifier} {e : Entity} (id : Id)
    (hid : ∀ x, (Part.entity (g x)).id = (Part.entity x).id)
    (hself : ∀ x : α, Part.ofEntity? (Part.entity x) = some x)
    (he : (Part.ofEntity? (e.renamed n) : Option α) = (Part.ofEntity? e).map g) (x : α) :
    Part.mapped (fun old => if old.id = id then e.renamed n else old) (g x) =
      g (Part.mapped (fun old => if old.id = id then e else old) x) := by
  unfold Part.mapped
  dsimp only
  by_cases hx : (Part.entity x).id = id
  · rw [if_pos ((hid x).trans hx), if_pos hx, he]
    cases (Part.ofEntity? e : Option α) <;> rfl
  · rw [if_neg (hid x ▸ hx), if_neg hx, hself, hself]
    rfl

namespace Member

variable (n : Identifier)

theorem id_renamed (m : Member) : (m.renamed n).entity.id = m.entity.id := by
  cases m <;> rfl

/-- A call does to a renamed member what it does to the member. -/
theorem call_renamed (m : Member) (verb : Verb) (args : List Value) (ledger : Ledger) :
    ((m.renamed n).entity.call? verb args).map
        (fun call => ((call ledger).1.2, (call ledger).2)) =
      (m.entity.call? verb args).map
        fun call => ((call ledger).1.2.renamed n, (call ledger).2) := by
  cases m with
  | constructor k =>
    change ((Constructor.methods verb args).map (Entity.edited .constructor (k.renamed n))).map _ =
      ((Constructor.methods verb args).map (Entity.edited .constructor k)).map _
    cases hx : Constructor.methods verb args with
    | none => rfl
    | some x =>
      obtain ⟨hstate, hledger⟩ := Constructor.methods_commute n verb args x hx k ledger
      change some (Entity.constructor (x (k.renamed n) ledger).1.2, (x (k.renamed n) ledger).2) = _
      rw [hstate, hledger]
      rfl
  | destructor d =>
    change ((Destructor.methods verb args).map (Entity.edited .destructor (d.renamed n))).map _ =
      ((Destructor.methods verb args).map (Entity.edited .destructor d)).map _
    cases hx : Destructor.methods verb args with
    | none => rfl
    | some x =>
      obtain ⟨hstate, hledger⟩ := Destructor.methods_commute n verb args x hx d ledger
      change some (Entity.destructor (x (d.renamed n) ledger).1.2, (x (d.renamed n) ledger).2) = _
      rw [hstate, hledger]
      rfl
  | attr a =>
    change ((Attribute.methods verb args).map (Entity.edited .attr a)).map _ =
      ((Attribute.methods verb args).map (Entity.edited .attr a)).map _
    cases Attribute.methods verb args <;> rfl
  | method m =>
    change ((Method.methods verb args).map (Entity.edited .method m)).map _ =
      ((Method.methods verb args).map (Entity.edited .method m)).map _
    cases Method.methods verb args <;> rfl

/-- Edited members are renamed as members are. -/
theorem mapped_renamed (id : Id) (e : Entity) (m : Member) :
    (m.renamed n).mapped (fun old => if old.id = id then e.renamed n else old) =
      (m.mapped fun old => if old.id = id then e else old).renamed n := by
  cases m with
  | attr a =>
    have he : (Part.ofEntity? (e.renamed n) : Option Attribute) =
        (Part.ofEntity? e).map fun a => a := by
      cases e <;> rfl
    exact congrArg attr (Part.mapped_renamed id (fun _ => rfl) (fun _ => rfl) he a)
  | method m =>
    have he : (Part.ofEntity? (e.renamed n) : Option Method) =
        (Part.ofEntity? e).map fun a => a := by
      cases e <;> rfl
    exact congrArg method (Part.mapped_renamed id (fun _ => rfl) (fun _ => rfl) he m)
  | constructor k =>
    have he : (Part.ofEntity? (e.renamed n) : Option Constructor) =
        (Part.ofEntity? e).map (Constructor.renamed n) := by
      cases e <;> rfl
    have hk :=
      Part.mapped_renamed (g := Constructor.renamed n) id (fun _ => rfl) (fun _ => rfl) he k
    exact congrArg constructor hk
  | destructor d =>
    have he : (Part.ofEntity? (e.renamed n) : Option Destructor) =
        (Part.ofEntity? e).map (Destructor.renamed n) := by
      cases e <;> rfl
    have hd := Part.mapped_renamed (g := Destructor.renamed n) id (fun _ => rfl) (fun _ => rfl) he d
    exact congrArg destructor hd

end Member

namespace Class

/-- A member that was edited goes back to the place where it is found. -/
theorem putMember_named (n : Identifier) (id : Id) (e : Entity) (c : Class) :
    (c.named n).putMember id (e.renamed n) = (c.putMember id e).named n := by
  have hmember : (Member.mapped fun old => if old.id = id then e.renamed n else old) ∘
      Member.renamed n =
        Member.renamed n ∘ Member.mapped fun old => if old.id = id then e else old :=
    funext fun m => m.mapped_renamed n id e
  simp only [putMember, named, List.map_map, hmember]

/-- Members keep their identities, by which they are found. -/
theorem find?_named (n : Identifier) (id : Id) (c : Class) :
    (c.named n).members.find? (·.entity.id == id) =
      (c.members.find? (·.entity.id == id)).map (Member.renamed n) := by
  have hid : (fun m : Member => m.entity.id == id) ∘ Member.renamed n =
      fun m => m.entity.id == id := by
    funext m
    exact congrArg (· == id) (m.id_renamed n)
  rw [named, List.find?_map, hid]

/-- So a call on a member commutes with renaming. -/
theorem callMember_named (n : Identifier) (id : Id) (verb : Verb) (args : List Value) (c : Class)
    (ledger : Ledger) :
    (c.named n).callMember id verb args ledger =
      ((c.callMember id verb args ledger).1.named n, (c.callMember id verb args ledger).2) := by
  rw [callMember, callMember, find?_named]
  cases c.members.find? (·.entity.id == id) with
  | none => rfl
  | some m =>
    have hcall := m.call_renamed n verb args ledger
    simp only [Option.map_some, Option.bind_some]
    cases hm : m.entity.call? verb args with
    | none =>
      rw [hm, Option.map_none, Option.map_eq_none_iff] at hcall
      rw [hcall]
    | some call =>
      rw [hm, Option.map_some] at hcall
      obtain ⟨call', hcall', heq⟩ := Option.map_eq_some_iff.mp hcall
      obtain ⟨hstate, hledger⟩ := Prod.mk.inj heq
      rw [hcall']
      dsimp only
      rw [hstate, hledger, putMember_named]

/-- Every step but a renaming does to a class under another name what it does to the class. -/
theorem perform_named {step : BuildStep} (hstep : step.isRename = false) (n : Identifier)
    (c : Class) (ledger : Ledger) :
    (c.named n).perform ledger step =
      ((c.perform ledger step).1.named n, (c.perform ledger step).2) := by
  have hbase : ∀ (x : Check BaseClass) (bases : BaseClass → Class → List BaseClass),
      (∀ b c, bases b (c.named n) = bases b c) → Blind (named n) (do
        let b ← check x
        modify fun c => { c with bases := bases b c } : Edit Class Unit) :=
    fun x bases hsame => (blind_check x).bind fun b => blind_modify fun c => by
      rw [hsame]
      rfl
  cases step with
  | setBase name visibility =>
    rw [perform, perform]
    exact called_named rfl (hbase _ (fun b _ => [b]) fun _ _ => rfl).chained c _
  | addBase name visibility =>
    rw [perform, perform]
    exact called_named rfl (hbase _ (fun b c => c.bases ++ [b]) fun _ _ => rfl).chained c _
  | newAttribute name type =>
    have hadd : Blind (named n) (newAttribute name type) := blind_add n (fun _ => rfl) _
    rw [perform, perform]
    exact called_named rfl ((hadd.commutes.map _).map _) c _
  | pushAttribute a =>
    rw [perform, perform]
    exact called_named rfl (blind_push (push_attr a) rfl).chained c _
  | newMethod name ret =>
    have hadd : Blind (named n) (newMethod name ret) := blind_add n (fun _ => rfl) _
    rw [perform, perform]
    exact called_named rfl ((hadd.commutes.map _).map _) c _
  | pushMethod m =>
    rw [perform, perform]
    exact called_named rfl (blind_push (push_method m) rfl).chained c _
  | newConstructor =>
    rw [perform, perform]
    exact called_named rfl (((commutes_newConstructor n).map _).map _) c _
  | newDestructor =>
    rw [perform, perform]
    exact called_named rfl (((commutes_newDestructor n).map _).map _) c _
  | onMember id verb args => exact callMember_named n id verb args c _
  | rename v => cases hstep

theorem perform_idle (c : Class) (ledger : Ledger) (step : BuildStep) :
    c.perform ledger.idle step = c.perform ledger step := by
  cases step <;> rfl

/-- A renaming hands on the name that it accepts. -/
theorem perform_rename (v : Value) (c : Class) (ledger : Ledger) :
    c.perform ledger (.rename v) = (v.identifier?.elim c (named · c), ledger.idle) := by
  obtain ⟨result, hassign, -⟩ := assign_name v c ledger
  rw [perform, hassign]

end Class

end CWriter

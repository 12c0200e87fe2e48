import CWriter.Proofs.Renaming.Runs

/-!
# Classes that are created under one name or another

Two objects that differ in nothing but an accepted name make classes that differ in nothing but
that name: no field behind the name is read with a look at it. A class without members that is
then built and renamed in turns is therefore the class that has the last name from the start.

The objects are those that mention one name. What else they mention is free, and whether it is
accepted at all is a premise here, as it does not depend on the name.
-/
namespace CWriter

namespace Slot

variable {σ τ α : Type}

/-- A field that is stored, or left out, without a look at what `f` changes. -/
structure Ignores (f : σ → σ) (slot : Slot σ) : Prop where
  store : ∀ s v, slot.store (f s) v = f <$> slot.store s v
  absent : ∀ s, slot.absent (f s) = f <$> slot.absent s

theorem ignores_optional (name : String) (rule : Rule α) {f : σ → σ} {set : α → σ → σ}
    (hset : ∀ a s, set a (f s) = f (set a s)) : (optional name rule set).Ignores f where
  store s v := by
    change (set · (f s)) <$> rule.accept v = f <$> (set · s) <$> rule.accept v
    rw [Functor.map_map]
    simp only [hset]
  absent _ := rfl

theorem ignores_fixed (f : σ → σ) (name word : String) : (fixed name word).Ignores f where
  store s v := by
    change (fun _ => f s) <$> Rule.acceptFixed word v =
      f <$> (fun _ => s) <$> Rule.acceptFixed word v
    rw [Functor.map_map]
  absent _ := rfl

theorem Ignores.zoom {g : τ → τ} {slot : Slot τ} (h : slot.Ignores g) {f : σ → σ} {get : σ → τ}
    {set : τ → σ → σ} (hget : ∀ s, get (f s) = g (get s))
    (hset : ∀ x s, set (g x) (f s) = f (set x s)) : (slot.zoom get set).Ignores f where
  store s v := by
    change (set · (f s)) <$> slot.store (get (f s)) v = f <$> (set · s) <$> slot.store (get s) v
    rw [hget, h.store, Functor.map_map, Functor.map_map]
    simp only [hset]
  absent s := by
    change (set · (f s)) <$> slot.absent (get (f s)) = f <$> (set · s) <$> slot.absent (get s)
    rw [hget, h.absent, Functor.map_map, Functor.map_map]
    simp only [hset]

/-- Two objects that say the same of a field are read alike. -/
theorem Ignores.read {f : σ → σ} {slot : Slot σ} (h : slot.Ignores f) {members others : Members}
    (hmember : Value.member? others slot.name = Value.member? members slot.name) (s : σ) :
    slot.read others (f s) = f <$> slot.read members s := by
  rw [Slot.read, Slot.read, hmember, ← Check.within_map]
  cases Value.member? members slot.name with
  | none => exact congrArg (Check.within slot.name) (h.absent s)
  | some v => exact congrArg (Check.within slot.name) (h.store s v)

/-- Reading goes on behind a problem, so that problems are carried along on both sides. -/
theorem readAll_of_ignores {members others : Members} {f : σ → σ} {slots : List (Slot σ)}
    (hslots : ∀ slot ∈ slots, slot.Ignores f)
    (hmembers : ∀ slot ∈ slots, Value.member? others slot.name = Value.member? members slot.name)
    (problems : List Problem) (s : σ) :
    readAll others slots problems (f s) = f <$> readAll members slots problems s := by
  induction slots generalizing problems s with
  | nil =>
    funext ledger
    rw [Check.map_apply]
    cases problems <;> rfl
  | cons slot rest ih =>
    obtain ⟨hslot, hrest⟩ := List.forall_mem_cons.mp hslots
    obtain ⟨hmember, hothers⟩ := List.forall_mem_cons.mp hmembers
    have hread := ih hrest hothers
    funext ledger
    rw [Check.map_apply, readAll, readAll]
    dsimp only
    rw [hslot.read hmember, Check.map_apply]
    rcases slot.read members s ledger with ⟨result, after⟩
    cases result with
    | error more => exact (congrFun (hread (problems ++ more) s) after).trans (Check.map_apply ..)
    | ok read => exact (congrFun (hread problems read) after).trans (Check.map_apply ..)

/-- Once there is a problem, nothing is read. -/
theorem yields_readAll_problems {members : Members} {slots : List (Slot σ)}
    {problems : List Problem} (hproblems : problems ≠ []) (s : σ) :
    (readAll members slots problems s).Yields fun _ => False := by
  induction slots generalizing problems s with
  | nil =>
    cases problems with
    | nil => exact absurd rfl hproblems
    | cons p ps => exact fun ledger a h => nomatch h
  | cons slot rest ih =>
    intro ledger a h
    rw [readAll] at h
    dsimp only at h
    rcases hread : slot.read members s ledger with ⟨result, after⟩
    rw [hread] at h
    cases result with
    | error more => exact ih (by simp [hproblems]) s after a h
    | ok read => exact ih hproblems read after a h

end Slot

theorem Value.member?_of_ne (v w : Value) {key name : String} (hname : name ≠ key)
    (data : Members) :
    Value.member? ((key, w) :: data) name = Value.member? ((key, v) :: data) name := by
  have hother : ∀ v : Value, [(key, v)].lookup name = none := by
    intro v
    rw [List.lookup_eq_none_iff]
    intro m hm
    obtain rfl := List.mem_singleton.mp hm
    simpa using hname
  rw [Value.member?, Value.member?, List.reverse_cons, List.reverse_cons, List.lookup_append,
    List.lookup_append, hother, hother]

theorem Value.member?_of_forall_ne {key : String} {data : Members} (h : ∀ m ∈ data, m.1 ≠ key)
    (v : Value) : Value.member? ((key, v) :: data) key = some v := by
  have hnone : data.reverse.lookup key = none := by
    rw [List.lookup_eq_none_iff]
    intro m hm
    simpa using (h m (List.mem_reverse.mp hm)).symm
  rw [Value.member?, List.reverse_cons, List.lookup_append, hnone]
  simp

namespace Class

/-- The fields of a class behind its name. -/
def laterSlots : List (Slot Class) := schema.slots.tail

theorem forall_laterSlots {P : Slot Class → Prop}
    (hdoc : P (Documented.docSlot.zoom (·.toDocumented) fun x s => { s with toDocumented := x }))
    (hkind : P (.fixed "kind" "class"))
    (hbases : P (.optional "bases" (.list BaseClass.schema.rule) fun x s => { s with bases := x }))
    (hmembers : P (.optional "members" (.list Member.rule) fun x s => { s with members := x })) :
    ∀ slot ∈ laterSlots, P slot :=
  List.forall_mem_cons.mpr ⟨hdoc, List.forall_mem_cons.mpr ⟨hkind, List.forall_mem_cons.mpr
    ⟨hbases, List.forall_mem_singleton.mpr hmembers⟩⟩⟩

theorem ignores_laterSlots (n : Identifier) :
    ∀ slot ∈ laterSlots, slot.Ignores fun c => { c with name := n } := by
  refine forall_laterSlots ?_ (Slot.ignores_fixed _ _ _) (Slot.ignores_optional _ _ ?_)
    (Slot.ignores_optional _ _ ?_)
  · have hdoc : Documented.docSlot.Ignores (Documented.renamed n) := by
      refine Slot.ignores_optional _ _ ?_
      exact fun _ _ => rfl
    exact hdoc.zoom (fun _ => rfl) fun _ _ => rfl
  · exact fun _ _ => rfl
  · exact fun _ _ => rfl

theorem readAll_laterSlots (n : Identifier) (v w : Value) (data : Members) (problems : List Problem)
    (c : Class) :
    Slot.readAll (("name", w) :: data) laterSlots problems { c with name := n } =
      (fun c => { c with name := n }) <$>
        Slot.readAll (("name", v) :: data) laterSlots problems c := by
  refine Slot.readAll_of_ignores (ignores_laterSlots n) (fun slot hslot => ?_) problems c
  refine Value.member?_of_ne v w ?_ data
  revert slot
  apply forall_laterSlots <;> decide

variable {data : Members} {v w : Value}

theorem read_nameSlot (hdata : ∀ m ∈ data, m.1 ≠ "name") (v : Value) (c : Class) :
    nameSlot.read (("name", v) :: data) c = Check.within "name" (nameSlot.store c v) :=
  Slot.read_of_mentioned (Value.member?_of_forall_ne hdata v) c

theorem readAll_slots {n : Identifier} (hdata : ∀ m ∈ data, m.1 ≠ "name")
    (hv : v.identifier? = some n) (problems : List Problem) (c : Class) :
    Slot.readAll (("name", v) :: data) schema.slots problems c =
      Slot.readAll (("name", v) :: data) laterSlots problems { c with name := n } := by
  have hread : (nameSlot.read (("name", v) :: data) c).Settles (.ok { c with name := n }) := by
    rw [read_nameSlot hdata]
    exact (settles_nameSlot_of_some hv c).within "name"
  exact Slot.readAll_cons_of_ok hread laterSlots problems

/-- Creating a class under another name changes the name and nothing else. -/
theorem build_named {m n : Identifier} (hdata : ∀ m ∈ data, m.1 ≠ "name")
    (hv : v.identifier? = some m) (hw : w.identifier? = some n) :
    schema.build (("name", w) :: data) =
      (fun c => { c with name := n }) <$> schema.build (("name", v) :: data) := by
  have hread : ∀ c, Slot.readAll (("name", w) :: data) schema.slots [] c =
      (fun c => { c with name := n }) <$> Slot.readAll (("name", v) :: data) schema.slots [] c := by
    intro c
    rw [readAll_slots hdata hw, readAll_slots hdata hv]
    exact readAll_laterSlots n v w data [] { c with name := m }
  have hfinish : ∀ c, schema.finish c = pure () := fun _ => rfl
  rw [Schema.build, Schema.build, ← Check.entering_map]
  simp only [hread, hfinish, pure_bind, bind_pure, map_bind]

/-- A class is only created with a name that is accepted. -/
theorem yields_build (hdata : ∀ m ∈ data, m.1 ≠ "name") (v : Value) :
    (schema.build (("name", v) :: data)).Yields fun c => v.identifier? = some c.name := by
  cases hv : v.identifier? with
  | some n =>
    rw [build_named hdata hv hv]
    exact Check.Yields.map (Check.yields_of_forall fun _ => rfl)
  | none =>
    -- The name is read first, and its problem stays to the end whatever else is accepted.
    have hread : ∀ c, (Slot.readAll (("name", v) :: data) schema.slots [] c).Yields
        fun _ => False := by
      intro c
      obtain ⟨p, hp⟩ := settles_nameSlot_of_none hv c
      have hname := hp.within "name"
      rw [← read_nameSlot hdata] at hname
      have hrest := Slot.readAll_cons_of_error hname laterSlots []
      change Slot.readAll _ schema.slots [] c = _ at hrest
      rw [hrest]
      exact Slot.yields_readAll_problems (by simp) c
    have hbuild : (schema.build (("name", v) :: data)).Yields fun _ => False :=
      Schema.yields_build_of_readAll fun id => hread (schema.start id)
    exact hbuild.imp fun _ h => h.elim

theorem coherent_of_no_members {c : Class} (hempty : c.members = []) : c.Coherent := by
  cases c
  cases hempty
  rfl

theorem Coherent.member_name {c : Class} (hc : c.Coherent) {m : Member} (hm : m ∈ c.members)
    (hsort : m.sort = .constructor ∨ m.sort = .destructor) : m.name = c.name := by
  rw [← hc] at hm
  obtain ⟨old, -, rfl⟩ := List.mem_map.mp hm
  cases old with
  | constructor k => rfl
  | destructor d => rfl
  | attr a => rcases hsort with h | h <;> cases h
  | method m => rcases hsort with h | h <;> cases h

end Class

theorem Constructor.otherParam_eq (k : Constructor) :
    k.otherParam =
      if k.isMove then k.name.text ++ " && other" else "const " ++ k.name.text ++ " & other" := by
  rw [otherParam]
  cases k.isMove with
  | true =>
    change k.name.text ++ " " ++ "&& other" = k.name.text ++ " && other"
    rw [String.append_assoc]
    rfl
  | false =>
    change "const " ++ k.name.text ++ " " ++ "& other" = "const " ++ k.name.text ++ " & other"
    rw [String.append_assoc]
    rfl

namespace Class

/-- Renaming a class commutes with building it. -/
theorem renaming_commutes {data : Members} {v : Value} {c : Class} {ledger start : Ledger}
    (hdata : ∀ m ∈ data, m.1 ≠ "name")
    (hbuilt : (schema.build (("name", v) :: data)).alone ledger = (.ok c, start))
    (hempty : c.members = []) (steps : List BuildStep) :
    let built := (c.run start steps).1
    (∃ c', (schema.build (("name", lastName v steps) :: data)).alone ledger = (.ok c', start) ∧
        built = (c'.run start (steps.filter (!·.isRename))).1) ∧
      (lastName v steps).identifier? = some built.name ∧
      (∀ m ∈ built.members, m.sort = .constructor ∨ m.sort = .destructor → m.name = built.name) ∧
      (∀ k, Member.constructor k ∈ built.members → (k.isCopy || k.isMove) = true → ∀ style,
        k.paramText style = ", ".intercalate
          ((if k.isMove then built.name.text ++ " && other"
            else "const " ++ built.name.text ++ " & other") :: paramTexts k.params)) ∧
      (built.ofSort .destructor).length ≤ 1 ∧
      ∀ later : Ledger,
        let new : Member := .destructor { id := later.next, name := built.name }
        newDestructor built later =
          ((.ok new,
            { built with
              members := match built.members.findIdx? (·.sort == .destructor) with
                | some i => built.members.set i new
                | none => built.members ++ [new] }),
            { later.idle with next := later.next + 1 }) := by
  intro built
  have hv : v.identifier? = some c.name :=
    yields_build hdata v _ c (congrArg Prod.fst hbuilt)
  have hc : c.Coherent := coherent_of_no_members hempty
  have hlast : (lastName v steps).identifier? = some built.name :=
    identifier?_lastName hv hc start steps
  have hcoherent : built.Coherent := hc.run start steps
  have hname : ∀ m ∈ built.members, m.sort = .constructor ∨ m.sort = .destructor →
      m.name = built.name := fun m hm hsort => hcoherent.member_name hm hsort
  refine ⟨⟨{ c with name := built.name }, ?_, ?_⟩, hlast, hname, fun k hk hother style => ?_, ?_,
    fun later => ?_⟩
  · rw [build_named hdata hv hlast, Check.alone_map, Check.map_apply, hbuilt]
    rfl
  · have hnamed : c.named built.name = { c with name := built.name } := by
      rw [named, hempty]
      rfl
    rw [← hnamed]
    exact run_eq_run_named hv hc start steps
  · have hk : k.name = built.name := hname _ hk (.inl rfl)
    rw [Constructor.paramText, if_pos hother, Constructor.otherParam_eq, hk]
  · have hsingle : c.SingleDestructor := by
      rw [SingleDestructor, hempty]
      decide
    rw [ofSort, ← List.countP_eq_length_filter]
    exact hsingle.run start steps
  · have hplaced := newDestructor_apply built later
    rw [putDestructor_eq] at hplaced
    exact hplaced

/-- A class that is renamed once with success and once without, and given two destructors. -/
theorem renaming_commutes_two_destructors :
    let steps : List BuildStep := [.newConstructor, .onMember 1 .setCopy [.bool true],
      .newDestructor, .rename (.str "B"), .rename (.str ""), .newDestructor]
    ∃ c start c', (schema.build [("name", .str "A")]).alone {} = (.ok c, start) ∧
      (schema.build [("name", .str "B")]).alone {} = (.ok c', start) ∧
      (c.run start steps).1 =
        (c'.run start [.newConstructor, .onMember 1 .setCopy [.bool true], .newDestructor,
          .newDestructor]).1 ∧
      (c.run start steps).1.members.map (fun m => (m.sort, m.name.text)) =
        [(.constructor, "B"), (.destructor, "B")] := by
  intro steps
  let c : Class := { id := 0, name := ⟨"A", by decide⟩ }
  let start : Ledger := { Ledger.idle {} with next := 1 }
  have hbuilt : (schema.build [("name", .str "A")]).alone {} = (.ok c, start) := rfl
  have hlast : lastName (.str "A") steps = .str "B" := rfl
  have hmembers : (c.run start steps).1.members.map (fun m => (m.sort, m.name.text)) =
      [(.constructor, "B"), (.destructor, "B")] := by decide +kernel
  have hnone : ∀ m ∈ ([] : Members), m.1 ≠ "name" := List.forall_mem_nil _
  obtain ⟨⟨c', hbuilt', hrun⟩, -⟩ := renaming_commutes hnone hbuilt rfl steps
  rw [hlast] at hbuilt'
  exact ⟨c, start, c', hbuilt, hbuilt', hrun, hmembers⟩

end Class

end CWriter

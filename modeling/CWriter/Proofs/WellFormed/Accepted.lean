import CWriter.Proofs.Renaming.Creation
import Mathlib.Tactic.FinCases

/-!
# Names that are accepted

An object of data is accepted for a class with a name only if it gives a text that can stand in a
declaration, and what is built shows this text. An assignment to the name is held to the same
rule. The argument is by the tables of fields: in each of them one field is read by the check of
names, and no other field is stored in its place.
-/
namespace CWriter

/-- The fields that hold names, by classes. The name of a base is not among them: it is read as a
name and may be given any text afterwards. -/
def nameFields : List (String × String) := [
  ("Include", "path"), ("Macro", "name"), ("Field", "name"), ("Attribute", "name"),
  ("Param", "name"), ("Variable", "name"), ("Struct", "name"), ("Union", "name"),
  ("Variant", "name"), ("Enum", "name"), ("Function", "name"), ("Method", "name"),
  ("Constructor", "name"), ("Destructor", "name"), ("Class", "name"), ("IfDef", "symbol"),
  ("Label", "name"), ("Var", "name"), ("Call", "name"), ("NamedType", "name"),
  ("TemplateType", "name")]

/-- No class has two of them. -/
theorem key_eq_of_mem {className key only : String} (h : (className, key) ∈ nameFields)
    (honly : nameFields.lookup className = some only) : key = only := by
  have hall : ∀ m ∈ nameFields, nameFields.lookup m.1 = some m.2 := by decide +kernel
  exact Option.some.inj ((hall _ h).symm.trans honly)

/-- The member of that name is a text that is accepted as the name. -/
def Given (members : Members) (key : String) (i : Identifier) : Prop :=
  (Value.member? members key).bind Value.identifier? = some i

/-- The check of names gives back what the value spells as a name. -/
theorem Rule.yields_identifier (v : Value) :
    (identifier.accept v).Yields fun i => v.identifier? = some i := by
  intro ledger i hi
  cases hv : v.identifier? with
  | some n =>
    rw [settles_identifier_of_some hv ledger] at hi
    exact congrArg some (Except.ok.inj hi)
  | none =>
    obtain ⟨p, hp⟩ := settles_identifier_of_none hv
    rw [hp ledger] at hi
    cases hi

namespace Slot

variable {σ τ α : Type} {members : Members}

/-- Reading the field leads to the property, whatever was there before. -/
def Establishes (members : Members) (Q : σ → Prop) (slot : Slot σ) : Prop :=
  ∀ s, (slot.read members s).Yields Q

/-- A field that is stored beside what `get` looks at. -/
def Beside (get : σ → Identifier) (slot : Slot σ) : Prop :=
  ∀ (members : Members) (P : Identifier → Prop), slot.Frames members fun s => P (get s)

theorem Establishes.frames {Q : σ → Prop} {slot : Slot σ} (h : slot.Establishes members Q) :
    slot.Frames members Q := fun s _ => h s

/-- Reading a field of a part is reading it there and putting the part back. -/
theorem read_zoom (get : σ → τ) (set : τ → σ → σ) (slot : Slot τ) (members : Members) (s : σ) :
    (slot.zoom get set).read members s = (set · s) <$> slot.read members (get s) := by
  cases hv : Value.member? members slot.name with
  | none =>
    have hzoom : Value.member? members (slot.zoom get set).name = none := hv
    rw [read_of_unmentioned hzoom, read_of_unmentioned hv, ← Check.within_map]
    rfl
  | some v =>
    have hzoom : Value.member? members (slot.zoom get set).name = some v := hv
    rw [read_of_mentioned hzoom, read_of_mentioned hv, ← Check.within_map]
    rfl

theorem Establishes.zoom {P : τ → Prop} {slot : Slot τ} (h : slot.Establishes members P)
    {get : σ → τ} {set : τ → σ → σ} (hset : ∀ part s, get (set part s) = part) :
    (slot.zoom get set).Establishes members fun s => P (get s) := by
  intro s
  rw [read_zoom]
  exact ((h (get s)).imp fun part hpart => by rwa [hset]).map

theorem Beside.zoom {look : τ → Identifier} {slot : Slot τ} (h : slot.Beside look)
    {get : σ → τ} {set : τ → σ → σ} (hset : ∀ part s, get (set part s) = part) :
    (slot.zoom get set).Beside fun s => look (get s) := by
  intro members P s hs
  rw [read_zoom]
  refine ((h members P (get s) hs).imp fun part hpart => ?_).map
  dsimp only
  rwa [hset]

section Beside

variable {get : σ → Identifier} {name : String} {rule : Rule α} {set : α → σ → σ}

@[simp] theorem beside_required (h : ∀ a s, get (set a s) = get s) :
    (required name rule set).Beside get :=
  fun _ P => frames_required fun a s hs => (congrArg P (h a s)).mpr hs

@[simp] theorem beside_optional (h : ∀ a s, get (set a s) = get s) :
    (optional name rule set).Beside get :=
  fun _ P => frames_optional fun a s hs => (congrArg P (h a s)).mpr hs

@[simp] theorem beside_made {make : Check α} (h : ∀ a s, get (set a s) = get s) :
    (made name rule make set).Beside get :=
  fun _ P => frames_made fun a s hs => (congrArg P (h a s)).mpr hs

@[simp] theorem beside_fixed (word : String) : (fixed name word).Beside get :=
  fun _ _ => frames_fixed name word

@[simp] theorem beside_never : (never name).Beside get := fun _ _ => frames_never name

end Beside

/-- A field that is read by the check of names and is what `get` looks at. Where it is refused
there is a problem to report. -/
structure ReadsName (key : String) (get : σ → Identifier) (slot : Slot σ) : Prop where
  name_eq : slot.name = key
  stored : ∀ s v, (slot.store s v).Yields fun after => v.identifier? = some (get after)
  given : ∀ members, slot.Establishes members fun s => Given members key (get s)
  reported : ∀ members s ledger, (slot.read members s ledger).1 ≠ .error []

/-- A required name is read or reported, and the ledger does not matter. -/
theorem exists_settles_required (members : Members) (key : String) (set : Identifier → σ → σ)
    (s : σ) :
    (∃ i, Given members key i ∧
      ((required key .identifier set).read members s).Settles (.ok (set i s))) ∨
    ∃ p, ((required key .identifier set).read members s).Settles (.error [p]) := by
  let slot : Slot σ := required key .identifier set
  unfold Given
  cases hmember : Value.member? members key with
  | none =>
    have hread : slot.read members s = Check.within key (slot.absent s) :=
      read_of_unmentioned hmember s
    change _ ∨ ∃ p, (slot.read members s).Settles (.error [p])
    rw [hread]
    exact .inr ⟨_, (Check.settles_fail .missing).within key⟩
  | some v =>
    have hread : slot.read members s = Check.within key (slot.store s v) :=
      read_of_mentioned hmember s
    change (∃ i, _ ∧ (slot.read members s).Settles (.ok (set i s))) ∨
      ∃ p, (slot.read members s).Settles (.error [p])
    rw [hread]
    cases hv : v.identifier? with
    | some i =>
      exact .inl ⟨i, hv, ((Rule.settles_identifier_of_some hv).map (set · s)).within key⟩
    | none =>
      obtain ⟨p, hp⟩ := Rule.settles_identifier_of_none hv
      exact .inr ⟨_, (hp.map (set · s)).within key⟩

/-- The field in which a class keeps its name. -/
theorem readsName_required {key : String} {get : σ → Identifier} {set : Identifier → σ → σ}
    (hset : ∀ i s, get (set i s) = i) : (required key .identifier set).ReadsName key get where
  name_eq := rfl
  stored s v := ((Rule.yields_identifier v).imp fun i hi => by rwa [hset]).map
  given members s ledger after hafter := by
    obtain ⟨i, hi, hread⟩ | ⟨p, hread⟩ := exists_settles_required members key set s
    · rw [hread ledger] at hafter
      cases hafter
      rwa [hset]
    · rw [hread ledger] at hafter
      cases hafter
  reported members s ledger := by
    obtain ⟨i, -, hread⟩ | ⟨p, hread⟩ := exists_settles_required members key set s
    · rw [hread ledger]
      nofun
    · rw [hread ledger]
      nofun

/-- The name of a part is a name of the whole. -/
theorem ReadsName.zoom {key : String} {look : τ → Identifier} {slot : Slot τ}
    (h : slot.ReadsName key look) {get : σ → τ} {set : τ → σ → σ}
    (hset : ∀ part s, get (set part s) = part) :
    (slot.zoom get set).ReadsName key fun s => look (get s) where
  name_eq := h.name_eq
  stored s v := ((h.stored (get s) v).imp fun part hpart => by rwa [hset]).map
  given members := (h.given members).zoom hset
  reported members s ledger hnone := by
    rw [read_zoom, Check.map_apply] at hnone
    rcases hr : (slot.read members (get s) ledger).1 with ps | part
    · rw [hr] at hnone
      exact h.reported members (get s) ledger (hr.trans (congrArg _ (Except.error.inj hnone)))
    · rw [hr] at hnone
      cases hnone

/-- A field that leads to the property wherever it is read. Where it is refused there is a problem
to report. -/
structure Decides (members : Members) (Q : σ → Prop) (slot : Slot σ) : Prop where
  established : slot.Establishes members Q
  reported : ∀ s ledger, (slot.read members s ledger).1 ≠ .error []

/-- Once a field that decides on a property is refused, nothing comes of the other fields, and once
it is read, they leave the property. -/
theorem yields_readAll_of_decides {Q : σ → Prop} {slots : List (Slot σ)}
    (read : ∃ slot ∈ slots, slot.Decides members Q)
    (kept : ∀ slot ∈ slots, slot.Frames members Q) (s : σ) :
    (readAll members slots [] s).Yields Q := by
  induction slots generalizing s with
  | nil => simp at read
  | cons slot rest ih =>
    obtain ⟨-, hrest⟩ := List.forall_mem_cons.mp kept
    have hlater (hslot : ¬slot.Decides members Q) : ∃ slot ∈ rest, slot.Decides members Q := by
      obtain ⟨other, hother, hread⟩ := read
      obtain rfl | hother := List.mem_cons.mp hother
      · exact absurd hread hslot
      · exact ⟨other, hother, hread⟩
    intro ledger a ha
    rw [Slot.readAll] at ha
    dsimp only at ha
    split at ha
    · next between after hr =>
      by_cases hslot : slot.Decides members Q
      · have hbetween : Q between := hslot.established s ledger between (congrArg Prod.fst hr)
        exact Slot.yields_readAll hrest [] hbetween after a ha
      · exact ih (hlater hslot) hrest between after a ha
    · next more after hr =>
      rcases more with _ | ⟨p, ps⟩
      · have hslot : ¬slot.Decides members Q := fun hslot =>
          hslot.reported s ledger (congrArg Prod.fst hr)
        exact ih (hlater hslot) hrest s after a ha
      · exact (yields_readAll_problems (by simp) s after a ha).elim

/-- The field is found and is the name, and every other field stands beside it. -/
structure Names (key : String) (get : σ → Identifier) (slots : List (Slot σ)) : Prop where
  found : ∃ slot, slots.find? (·.name == key) = some slot ∧ slot.ReadsName key get
  kept : ∀ slot ∈ slots, slot.ReadsName key get ∨ slot.Beside get

namespace Names

variable {key : String} {get : σ → Identifier} {slot : Slot σ} {slots more : List (Slot σ)}

/-- The name may be the first of the fields, with the others beside it, -/
theorem first (hslot : slot.ReadsName key get) (hmore : ∀ slot ∈ more, slot.Beside get) :
    Names key get (slot :: more) where
  found := ⟨slot, List.find?_cons_of_pos (beq_iff_eq.mpr hslot.name_eq), hslot⟩
  kept := List.forall_mem_cons.mpr ⟨.inl hslot, fun other hother => .inr (hmore other hother)⟩

/-- or stand behind fields that are called otherwise, -/
theorem later (hslot : slot.Beside get) (hname : slot.name ≠ key) (h : Names key get slots) :
    Names key get (slot :: slots) where
  found := by
    obtain ⟨other, hother, hread⟩ := h.found
    exact ⟨other, (List.find?_cons_of_neg (by simpa using hname)).trans hother, hread⟩
  kept := List.forall_mem_cons.mpr ⟨.inr hslot, h.kept⟩

/-- and fields may follow, -/
theorem append (h : Names key get slots) (hmore : ∀ slot ∈ more, slot.Beside get) :
    Names key get (slots ++ more) where
  found := by
    obtain ⟨slot, hslot, hread⟩ := h.found
    exact ⟨slot, by rw [List.find?_append, hslot, Option.some_or], hread⟩
  kept := List.forall_mem_append.mpr ⟨h.kept, fun slot hslot => .inr (hmore slot hslot)⟩

/-- and all of them may be those of a part. -/
theorem map_zoom {look : τ → Identifier} {parts : List (Slot τ)} (h : Names key look parts)
    {get : σ → τ} {set : τ → σ → σ} (hset : ∀ part s, get (set part s) = part) :
    Names key (fun s => look (get s)) (parts.map (zoom get set)) where
  found := by
    obtain ⟨slot, hslot, hread⟩ := h.found
    have hzoom : (parts.map (zoom get set)).find? (·.name == key) =
        (parts.find? (·.name == key)).map (zoom get set) := List.find?_map
    exact ⟨_, by rw [hzoom, hslot, Option.map_some], hread.zoom hset⟩
  kept := List.forall_mem_map.mpr fun slot hslot =>
    (h.kept slot hslot).imp (·.zoom hset) (·.zoom hset)

theorem exists_mem (h : Names key get slots) : ∃ slot ∈ slots, slot.ReadsName key get := by
  obtain ⟨slot, hslot, hread⟩ := h.found
  exact ⟨slot, List.mem_of_find?_eq_some hslot, hread⟩

/-- What is read in full has the name that is given. -/
theorem yields_readAll (h : Names key get slots) (members : Members) (s : σ) :
    (readAll members slots [] s).Yields fun s => Given members key (get s) := by
  obtain ⟨slot, hslot, hread⟩ := h.exists_mem
  refine yields_readAll_of_decides
    ⟨slot, hslot, hread.given members, hread.reported members⟩ (fun other hother => ?_) s
  exact (h.kept other hother).elim (fun hname => (hname.given members).frames) fun hbeside =>
    hbeside members (Given members key)

end Names

theorem beside_map_zoom {look : τ → Identifier} {slots : List (Slot τ)}
    (h : ∀ slot ∈ slots, slot.Beside look) {get : σ → τ} {set : τ → σ → σ}
    (hset : ∀ part s, get (set part s) = part) :
    ∀ slot ∈ slots.map (zoom get set), slot.Beside fun s => look (get s) :=
  List.forall_mem_map.mpr fun slot hslot => (h slot hslot).zoom hset

end Slot

open Slot (Names readsName_required beside_map_zoom)

theorem Documented.readsName_nameSlot : nameSlot.ReadsName "name" (·.name) :=
  (readsName_required fun _ _ => rfl).zoom fun _ _ => rfl

theorem Documented.beside_docSlot : docSlot.Beside (·.name) := by
  simp [docSlot]

theorem Documented.names_slots : Names "name" (·.name) slots :=
  .first readsName_nameSlot (List.forall_mem_singleton.mpr beside_docSlot)

theorem Field.readsName_nameSlot : nameSlot.ReadsName "name" (·.name) :=
  Documented.readsName_nameSlot.zoom fun _ _ => rfl

theorem Field.beside_ownSlots : ∀ slot ∈ ownSlots, slot.Beside (·.name) :=
  List.forall_mem_cons.mpr ⟨Documented.beside_docSlot.zoom fun _ _ => rfl, by simp⟩

theorem Routine.readsName_nameSlot : nameSlot.ReadsName "name" (·.name) :=
  Documented.readsName_nameSlot.zoom fun _ _ => rfl

theorem Routine.beside_ownSlots : ∀ slot ∈ ownSlots, slot.Beside (·.name) :=
  List.forall_mem_cons.mpr ⟨Documented.beside_docSlot.zoom fun _ _ => rfl, by simp⟩

theorem Callable.readsName_nameSlot : nameSlot.ReadsName "name" (·.name) :=
  Routine.readsName_nameSlot.zoom fun _ _ => rfl

theorem Callable.beside_ownSlots : ∀ slot ∈ ownSlots, slot.Beside (·.name) :=
  List.forall_mem_append.mpr
    ⟨beside_map_zoom Routine.beside_ownSlots fun _ _ => rfl, by simp⟩

/-- A class keeps its name among fields of its own. -/
theorem Class.names : Names "name" (·.name) schema.slots :=
  (Documented.names_slots.map_zoom fun _ _ => rfl).append (by simp)

/-- Where an edit of `s` succeeds, the property holds. -/
def Edit.Grants {σ α : Type} (x : Edit σ α) (s : σ) (Q : σ → Prop) : Prop :=
  ∀ ledger a, (x s ledger).1.1 = .ok a → Q (x s ledger).1.2

/-- An assignment is read by the same fields as the data of a new object. -/
theorem Slot.Names.grants_assign {σ : Type} {schema : Schema σ} {key : String}
    {get : σ → Identifier} (h : Names key get schema.slots)
    (hassigned : schema.assigned = schema.slots) (v : Value) (s : σ) :
    Edit.Grants (schema.assign key v) s fun after => v.identifier? = some (get after) := by
  intro ledger a hok
  obtain ⟨slot, hslot, hread⟩ := h.found
  rw [← hassigned] at hslot
  rw [Schema.assign_of_find hslot] at hok ⊢
  have hstored := ((hread.stored s v).within key).entering schema.layer
  split at hok
  · next changed after hr =>
    have hchanged : v.identifier? = some (get changed) :=
      hstored _ changed (congrArg Prod.fst hr)
    exact Edit.ends_check (Q := fun after => v.identifier? = some (get after)) hchanged
      (schema.finish changed) after
  · cases hok

/-- Renaming a class renames its constructors and destructor too, and first of all the class. -/
theorem Class.grants_assign_name (v : Value) (c : Class) :
    Edit.Grants (assign "name" v) c fun after => v.identifier? = some after.name := by
  intro ledger a hok
  have hname := names.grants_assign rfl v c ledger
  have hsteps : assign "name" v =
      (schema.assign "name" v >>= fun _ => modify fun c =>
        { c with members := c.members.map (Member.renamed c.name) }) := rfl
  rw [hsteps] at hok ⊢
  rcases hr : schema.assign "name" v c ledger with ⟨⟨result, after⟩, last⟩
  rw [hr] at hname
  cases result with
  | error fault =>
    rw [Edit.bind_of_error hr] at hok
    cases hok
  | ok done =>
    rw [Edit.bind_of_ok hr]
    exact hname done rfl

/-- The field of a class is the name, for assignments too, and is shown as it is. -/
structure EntityClass.Named {σ : Type} (c : EntityClass σ) (key : String)
    (get : σ → Identifier) : Prop where
  names : Names key get c.slots
  grants : ∀ v s, Edit.Grants (c.assign key v) s fun after => v.identifier? = some (get after)
  shown : ∀ s, (c.entity s).fields.lookup key = some (.str (get s).text)

namespace EntityClass

variable {σ : Type} {key : String} {get : σ → Identifier}

/-- Classes whose assignments are those of their fields. -/
theorem Named.of_names {c : EntityClass σ} (h : Names key get c.slots)
    (hassigned : c.assigned = c.slots) (hassign : c.assign = c.toSchema.assign)
    (hshown : ∀ s, (c.entity s).fields.lookup key = some (.str (get s).text)) :
    c.Named key get where
  names := h
  grants := by
    rw [hassign]
    exact h.grants_assign hassigned
  shown := hshown

/-- What an assignment to the name leaves behind shows the name that was assigned. -/
theorem Named.edited_shows {c : EntityClass σ} (hc : c.Named key get) {s : σ} {v : Value}
    {ledger last : Ledger} {after : Entity}
    (hok : Entity.edited c s (c.assign key v) ledger = ((.ok (), after), last)) :
    ∃ i, v.identifier? = some i ∧ after.fields.lookup key = some (.str i.text) := by
  rw [Entity.edited] at hok
  have hname := hc.grants v s ledger ()
  rcases hr : c.assign key v s ledger with ⟨⟨result, part⟩, final⟩
  rw [hr] at hok hname
  cases hok
  exact ⟨get part, hname rfl, hc.shown part⟩

theorem named_inclusion : inclusion.Named "path" (·.path) :=
  .of_names (.later (by simp) (by decide) (.first (readsName_required fun _ _ => rfl) (by simp)))
    rfl rfl fun _ => rfl

theorem named_definition : definition.Named "name" (·.name) :=
  .of_names ((Documented.names_slots.map_zoom fun _ _ => rfl).append (by simp))
    rfl rfl fun _ => rfl

theorem named_field : field.Named "name" (·.name) :=
  .of_names (.first Field.readsName_nameSlot Field.beside_ownSlots)
    rfl rfl fun _ => rfl

theorem named_attr : attr.Named "name" (·.name) :=
  .of_names (((Names.first (Field.readsName_nameSlot.zoom fun _ _ => rfl) (by simp)).append
    (beside_map_zoom Field.beside_ownSlots fun _ _ => rfl)).append (by simp))
    rfl rfl fun _ => rfl

theorem named_param : param.Named "name" (·.name) :=
  .of_names (.first ((readsName_required fun _ _ => rfl).zoom fun _ _ => rfl) (by simp))
    rfl rfl fun _ => rfl

theorem named_global : global.Named "name" (·.name) :=
  .of_names ((Documented.names_slots.map_zoom fun _ _ => rfl).append (by simp))
    rfl rfl fun _ => rfl

theorem named_variant : variant.Named "name" (·.name) :=
  .of_names ((Documented.names_slots.map_zoom fun _ _ => rfl).append (by simp))
    rfl rfl fun _ => rfl

theorem named_enumeration : enumeration.Named "name" (·.name) :=
  .of_names ((Documented.names_slots.map_zoom fun _ _ => rfl).append (by simp))
    rfl rfl fun _ => rfl

theorem named_function : function.Named "name" (·.name) :=
  .of_names (((Names.first Callable.readsName_nameSlot Callable.beside_ownSlots).map_zoom
    fun _ _ => rfl).append (by simp))
    rfl rfl fun _ => rfl

theorem named_method : method.Named "name" (·.name) :=
  .of_names (((Names.first (Callable.readsName_nameSlot.zoom fun _ _ => rfl) (by simp)).append
    (beside_map_zoom Callable.beside_ownSlots fun _ _ => rfl)).append (by simp))
    rfl rfl fun _ => rfl

theorem named_constructor : constructor.Named "name" (·.name) :=
  .of_names (((Names.first (Callable.readsName_nameSlot.zoom fun _ _ => rfl) (by simp)).append
    (beside_map_zoom Callable.beside_ownSlots fun _ _ => rfl)).append (by simp))
    rfl rfl fun _ => rfl

theorem named_destructor : destructor.Named "name" (·.name) :=
  .of_names (((Names.first (Routine.readsName_nameSlot.zoom fun _ _ => rfl) (by simp)).append
    (beside_map_zoom Routine.beside_ownSlots fun _ _ => rfl)).append (by simp))
    rfl rfl fun _ => rfl

theorem named_ifDef : ifDef.Named "symbol" (·.symbol) :=
  .of_names (.later (by simp) (by decide) (.first (readsName_required fun _ _ => rfl) (by simp)))
    rfl rfl fun _ => rfl

theorem named_label : label.Named "name" (·.name) :=
  .of_names (.later (by simp) (by decide) (.first (readsName_required fun _ _ => rfl) (by simp)))
    rfl rfl fun _ => rfl

theorem named_record (kind : RecordKind) : (record kind).Named "name" (·.name) :=
  .of_names ((Documented.names_slots.map_zoom fun _ _ => rfl).append (by simp))
    rfl rfl fun _ => rfl

theorem named_cls : cls.Named "name" (·.name) where
  names := Class.names
  grants := Class.grants_assign_name
  shown _ := rfl

end EntityClass

open EntityClass in
/-- An entity of a class with a name is of a class in which the field is the name. -/
theorem Entity.exists_named {e : Entity} {key : String}
    (h : (e.className, key) ∈ nameFields) :
    ∃ (σ : Type) (c : EntityClass σ) (s : σ) (get : σ → Identifier), c.Named key get ∧
      e = c.entity s ∧ ∀ v, e.assignTo key v = edited c s (c.assign key v) := by
  cases e with
  | inclusion s =>
    obtain rfl : key = "path" := key_eq_of_mem h rfl
    exact ⟨_, .inclusion, s, _, named_inclusion, rfl, fun _ => rfl⟩
  | definition s =>
    obtain rfl : key = "name" := key_eq_of_mem h rfl
    exact ⟨_, .definition, s, _, named_definition, rfl, fun _ => rfl⟩
  | field s =>
    obtain rfl : key = "name" := key_eq_of_mem h rfl
    exact ⟨_, .field, s, _, named_field, rfl, fun _ => rfl⟩
  | attr s =>
    obtain rfl : key = "name" := key_eq_of_mem h rfl
    exact ⟨_, .attr, s, _, named_attr, rfl, fun _ => rfl⟩
  | param s =>
    obtain rfl : key = "name" := key_eq_of_mem h rfl
    exact ⟨_, .param, s, _, named_param, rfl, fun _ => rfl⟩
  | global s =>
    obtain rfl : key = "name" := key_eq_of_mem h rfl
    exact ⟨_, .global, s, _, named_global, rfl, fun _ => rfl⟩
  | variant s =>
    obtain rfl : key = "name" := key_eq_of_mem h rfl
    exact ⟨_, .variant, s, _, named_variant, rfl, fun _ => rfl⟩
  | enumeration s =>
    obtain rfl : key = "name" := key_eq_of_mem h rfl
    exact ⟨_, .enumeration, s, _, named_enumeration, rfl, fun _ => rfl⟩
  | function s =>
    obtain rfl : key = "name" := key_eq_of_mem h rfl
    exact ⟨_, .function, s, _, named_function, rfl, fun _ => rfl⟩
  | method s =>
    obtain rfl : key = "name" := key_eq_of_mem h rfl
    exact ⟨_, .method, s, _, named_method, rfl, fun _ => rfl⟩
  | constructor s =>
    obtain rfl : key = "name" := key_eq_of_mem h rfl
    exact ⟨_, .constructor, s, _, named_constructor, rfl, fun _ => rfl⟩
  | destructor s =>
    obtain rfl : key = "name" := key_eq_of_mem h rfl
    exact ⟨_, .destructor, s, _, named_destructor, rfl, fun _ => rfl⟩
  | label s =>
    obtain rfl : key = "name" := key_eq_of_mem h rfl
    exact ⟨_, .label, s, _, named_label, rfl, fun _ => rfl⟩
  | cls s =>
    obtain rfl : key = "name" := key_eq_of_mem h rfl
    exact ⟨_, .cls, s, _, named_cls, rfl, fun _ => rfl⟩
  | ifDef s =>
    obtain rfl : key = "symbol" := key_eq_of_mem h rfl
    exact ⟨_, .ifDef, s, _, named_ifDef, rfl, fun _ => rfl⟩
  | record r =>
    obtain rfl : key = "name" := by
      cases hkind : r.kind <;> simpa [className, nameFields, hkind] using h
    exact ⟨_, .record r.kind, r, _, named_record r.kind, rfl, fun _ => rfl⟩
  | loop l => cases hkind : l.kind <;> simp [className, nameFields, hkind] at h
  | _ => simp [className, nameFields] at h

/-- An assignment to a name is only carried out if a name is assigned, and the entity shows it
then. -/
theorem Entity.assignTo_shows {e : Entity} {key : String}
    (h : (e.className, key) ∈ nameFields) {v : Value} {ledger last : Ledger} {after : Entity}
    (hok : e.assignTo key v ledger = ((.ok (), after), last)) :
    ∃ i, v.identifier? = some i ∧ after.fields.lookup key = some (.str i.text) := by
  obtain ⟨σ, c, s, get, hc, -, hassign⟩ := exists_named h
  rw [hassign] at hok
  exact hc.edited_shows hok

/-- The name of a base is the exception: whatever text is assigned, the base takes it. -/
theorem Entity.assignTo_name_of_base (b : BaseClass) (text : String) (ledger : Ledger) :
    ∃ last, (baseClass b).assignTo "name" (.str text) ledger =
      ((.ok (), baseClass { b with name := text }), last) := by
  let slot : Slot BaseClass := .required "name" .text fun x s => { s with name := x }
  have hfind : BaseClass.schema.assigned.find? (·.name == "name") = some slot := rfl
  have hstore : (slot.store b (.str text)).Settles (.ok { b with name := text }) :=
    Check.Settles.map (Check.settles_pure text) _
  obtain ⟨after, hassign⟩ := Schema.assign_of_settles_ok rfl hfind hstore ledger
  change ∃ last, edited .baseClass b (BaseClass.schema.assign "name" (.str text)) ledger = _
  rw [edited, hassign]
  exact ⟨_, rfl⟩

/-- The object shows in the field the name that the members give. -/
def Value.ShowsGiven (members : Members) (key : String) (v : Value) : Prop :=
  ∃ i, Given members key i ∧ v.fields.lookup key = some (.str i.text)

/-- An object that is built has the name that the members give. -/
theorem Slot.Names.yields_build {σ : Type} {schema : Schema σ} {key : String}
    {get : σ → Identifier} (h : Names key get schema.slots) (members : Members) :
    (schema.build members).Yields fun s => Given members key (get s) :=
  Schema.yields_build_of_readAll fun id => h.yields_readAll members (schema.start id)

/-- The check of a class builds an entity that shows it. -/
theorem EntityClass.Named.yields_shown {σ : Type} {c : EntityClass σ} {key : String}
    {get : σ → Identifier} (hc : c.Named key get) (members : Members) :
    (c.accept (.object members)).Yields fun s =>
      (Value.entity (c.entity s)).ShowsGiven members key :=
  (hc.names.yields_build members).imp fun s hs => ⟨get s, hs, hc.shown s⟩

namespace Form

variable {α β γ : Type} {members : Members}

/-- The members of a form are read one by one, and what is known of each is known of the result. -/
theorem yields_seq {f : Form (α → β)} {x : Form α} {F : (α → β) → Prop} {P : α → Prop}
    {Q : β → Prop} (hf : f.check.Yields F) (hx : x.check.Yields P)
    (h : ∀ g a, F g → P a → Q (g a)) : (f <*> x).check.Yields Q := by
  exact ((hf.both hx).imp fun both hga => h both.1 both.2 hga.1 hga.2).map

theorem yields_seq_of_forall {f : Form (α → β)} {x : Form α} {Q : β → Prop}
    (hf : f.check.Yields fun g => ∀ a, Q (g a)) : (f <*> x).check.Yields Q :=
  yields_seq hf (Check.yields_of_forall (P := fun _ => True) fun _ => trivial)
    fun _ a hg _ => hg a

theorem yields_map_of_forall {f : α → β} {x : Form α} {Q : β → Prop} (hf : ∀ a, Q (f a)) :
    (f <$> x).check.Yields Q :=
  Form.yields_seq_of_forall (f := pure f) (Check.yields_pure hf)

/-- A form in which the member before the last one is read by the check of names. -/
theorem yields_named {f : Form (Identifier → α → β)} {last : Form α} {Q : β → Prop}
    (hf : f.check.Yields fun g => ∀ i, Given members "name" i → ∀ a, Q (g i a)) :
    (f <*> required members "name" Rule.identifier.accept <*> last).check.Yields Q := by
  have hname : (required members "name" Rule.identifier.accept).check.Yields
      (Given members "name") := by
    refine Check.Yields.within ?_ "name"
    unfold Given
    cases Value.member? members "name" with
    | none => exact Check.yields_fail _ _
    | some v => exact Rule.yields_identifier v
  exact yields_seq_of_forall (yields_seq hf hname fun _ i hg hi => hg i hi)

end Form

/-- The identity that a new type is given does not show. -/
theorem CType.yields_identified (t : CType) :
    t.identified.Yields fun after => after.className = t.className ∧ after.fields = t.fields := by
  cases t with
  | shared id t => exact Check.yields_pure ⟨rfl, rfl⟩
  | _ => exact Check.Yields.map (Check.yields_of_forall fun _ => ⟨rfl, rfl⟩)

/-- What the form of a class yields is what its check yields, apart from the identity that the type
is given. -/
theorem CType.yields_acceptClass {members : Members} {variant : String} {P : CType → Prop}
    (h : (form accept members variant).check.Yields P)
    (hP : ∀ t after : CType, after.className = t.className → after.fields = t.fields →
      P t → P after)
    (className : String) : (acceptClass className variant (.object members)).Yields P :=
  (h.entering _).bind fun t ht =>
    (yields_identified t).imp fun after hafter => hP t after hafter.1 hafter.2 ht

theorem Expr.yields_identified (e : Expr) :
    e.identified.Yields fun after => after.fields = e.fields := by
  cases e with
  | shared id e => exact Check.yields_pure rfl
  | _ => exact Check.Yields.map (Check.yields_of_forall fun _ => rfl)

/-- The two forms of a type that hold a name. -/
theorem CType.yields_shown (inner : Value → Check CType) (members : Members) {variant : String}
    (h : variant = "named" ∨ variant = "template") :
    (form inner members variant).check.Yields fun t =>
      (Value.type t).ShowsGiven members "name" := by
  rcases h with rfl | rfl
  · exact Form.yields_named <| Form.yields_seq_of_forall <| Form.yields_map_of_forall
      fun _ _ i hi _ => ⟨i, hi, rfl⟩
  · exact Form.yields_named <| Form.yields_seq_of_forall <| Form.yields_map_of_forall
      fun _ _ i hi _ => ⟨i, hi, rfl⟩

/-- The two forms of an expression that hold a name. -/
theorem Expr.yields_shown (inner : Value → Check Expr) (members : Members) {variant : String}
    (h : variant = "var" ∨ variant = "call") :
    (form inner members variant).check.Yields fun e =>
      (Value.expr e).ShowsGiven members "name" := by
  rcases h with rfl | rfl
  · exact Form.yields_named <| Form.yields_map_of_forall fun _ i hi _ => ⟨i, hi, rfl⟩
  · exact Form.yields_named <| Form.yields_map_of_forall fun _ i hi _ => ⟨i, hi, rfl⟩

theorem CType.yields_acceptClass_shown {members : Members} {variant : String}
    (h : variant = "named" ∨ variant = "template") (className : String) :
    (acceptClass className variant (.object members)).Yields fun t =>
      (Value.type t).ShowsGiven members "name" :=
  yields_acceptClass (yields_shown accept members h)
    (fun _ _ _ hfields ⟨i, hi, hshown⟩ =>
      ⟨i, hi, (congrArg (·.lookup "name") hfields).trans hshown⟩) className

theorem Expr.yields_acceptClass {members : Members} {variant : String}
    (h : variant = "var" ∨ variant = "call") (className : String) :
    (acceptClass className variant (.object members)).Yields fun e =>
      (Value.expr e).ShowsGiven members "name" := by
  refine ((yields_shown accept members h).entering _).bind fun e ⟨i, hi, hshown⟩ => ?_
  refine (yields_identified e).imp fun after hafter => ⟨i, hi, ?_⟩
  exact (congrArg (·.lookup "name") hafter).trans hshown

theorem RecordField.yields_shown (members : Members) :
    (accept (.object members)).Yields fun x =>
      (Value.entity x.entity).ShowsGiven members "name" :=
  Check.Yields.map (f := RecordField.plain) (EntityClass.named_field.yields_shown members)

theorem Function.yields_shown (members : Members) :
    (acceptFunction (.object members)).Yields fun e =>
      (Value.entity e).ShowsGiven members "name" :=
  Check.Yields.map (f := Entity.function) (EntityClass.named_function.yields_shown members)

open EntityClass in
/-- Every class with a name has a check, and an object that it accepts gives the name: the result
shows it as it is given. -/
theorem acceptNamed_shows_given {className key : String} (h : (className, key) ∈ nameFields)
    (members : Members) :
    ∃ check, acceptNamed className (.object members) = some check ∧
      check.Yields (Value.ShowsGiven members key) := by
  fin_cases h
  · exact ⟨_, rfl, (named_inclusion.yields_shown members).map⟩
  · exact ⟨_, rfl, (named_definition.yields_shown members).map⟩
  · exact ⟨_, rfl, (RecordField.yields_shown members).map⟩
  · exact ⟨_, rfl, (named_attr.yields_shown members).map⟩
  · exact ⟨_, rfl, (named_param.yields_shown members).map⟩
  · exact ⟨_, rfl, (named_global.yields_shown members).map⟩
  · exact ⟨_, rfl, ((named_record .struct).yields_shown members).map⟩
  · exact ⟨_, rfl, ((named_record .union).yields_shown members).map⟩
  · exact ⟨_, rfl, (named_variant.yields_shown members).map⟩
  · exact ⟨_, rfl, (named_enumeration.yields_shown members).map⟩
  · exact ⟨_, rfl, (Function.yields_shown members).map⟩
  · exact ⟨_, rfl, (named_method.yields_shown members).map⟩
  · exact ⟨_, rfl, (named_constructor.yields_shown members).map⟩
  · exact ⟨_, rfl, (named_destructor.yields_shown members).map⟩
  · exact ⟨_, rfl, (named_cls.yields_shown members).map⟩
  · exact ⟨_, rfl, (named_ifDef.yields_shown members).map⟩
  · exact ⟨_, rfl, (named_label.yields_shown members).map⟩
  · exact ⟨_, rfl, (Expr.yields_acceptClass (.inl rfl) _).map⟩
  · exact ⟨_, rfl, (Expr.yields_acceptClass (.inr rfl) _).map⟩
  · exact ⟨_, rfl, (CType.yields_acceptClass_shown (.inl rfl) _).map⟩
  · exact ⟨_, rfl, (CType.yields_acceptClass_shown (.inr rfl) _).map⟩

end CWriter

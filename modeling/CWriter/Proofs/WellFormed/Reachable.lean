import CWriter.Proofs.WellFormed.Numbers
import CWriter.Session.Basic
import Mathlib.Data.List.TakeWhile
import Mathlib.Logic.Relation

/-!
# What can be reached in a session is well formed

Names, the widths of bit fields, the sizes of arrays and the widths of integers are held as what
passes their checks and as nothing else, so that no command can put anything else in their place,
be it carried out or refused. What follows from this for the fields of an object is said here once
for every object, and then for all that can be reached after any commands: what a handle stands
for, what is found on any path from there, and every part of it.
-/
namespace CWriter

/-- Not blank, and on one line. -/
def IsName (s : String) : Prop :=
  Text.trim s.toList ≠ [] ∧ '\n' ∉ s.toList ∧ '\r' ∉ s.toList

theorem Text.allBlank_of_trim_eq_nil {cs : List Char} (h : trim cs = []) : allBlank cs = true := by
  rw [trim, trimEnd, List.reverse_eq_nil_iff, List.dropWhile_eq_nil_iff] at h
  have hstart : ∀ c ∈ trimStart cs, isBlank c = true := fun c hc => h c (List.mem_reverse.mpr hc)
  have hnil : trimStart cs = [] := by
    by_contra hne
    have hhead : isBlank ((trimStart cs).head hne) = false := List.head_dropWhile_not isBlank hne
    rw [hstart _ (List.head_mem hne)] at hhead
    cases hhead
  rw [allBlank, List.all_eq_true]
  exact List.dropWhile_eq_nil_iff.mp hnil

theorem Identifier.isName (i : Identifier) : IsName i.text := by
  obtain ⟨hblank, hfeed, hreturn⟩ := i.acceptable
  refine ⟨fun htrim => ?_, hfeed, hreturn⟩
  rw [Text.allBlank_of_trim_eq_nil htrim] at hblank
  cases hblank

/-- The integer types of a fixed width. -/
def fixedWidthNames : List String :=
  ["int8_t", "int16_t", "int32_t", "int64_t", "uint8_t", "uint16_t", "uint32_t", "uint64_t"]

namespace Value

/-- The object shows in the field nothing, or an integer as asked. -/
def ShowsOptional (v : Value) (key : String) (P : Int → Prop) : Prop :=
  v.fields.lookup key = some .null ∨ ∃ n, v.fields.lookup key = some (.int n) ∧ P n

/-- What the fields of an object must be like. -/
structure WellFormed (v : Value) : Prop where
  name : ∀ key, (v.className, key) ∈ nameFields →
    ∃ s, v.fields.lookup key = some (.str s) ∧ IsName s
  bitWidth : v.className = "Field" ∨ v.className = "Attribute" → v.ShowsOptional "width" (1 ≤ ·)
  arraySize : v.className = "ArrayType" → v.ShowsOptional "size" (0 ≤ ·)
  integerWidth : v.IsInteger → v.ShowsOptional "width" (· ∈ [8, 16, 32, 64])
  integerText : v.IsInteger → ∀ t, v = .type t → ∃ (quals : Qualifiers) (name : String),
    quals.fields ⊆ v.fields ∧ name ∈ fixedWidthNames ∧ t.text = CType.qualify quals name

/-- The classes of which a width or a size is asked. -/
def sizedClasses : List String := ["Field", "Attribute", "ArrayType", "PrimitiveType"]

/-- Where no width and no size is asked, the names are all. -/
theorem WellFormed.of_name {v : Value}
    (hname : ∀ key, (v.className, key) ∈ nameFields →
      ∃ i : Identifier, v.fields.lookup key = some (.str i.text))
    (hclass : v.className ∉ sizedClasses) : v.WellFormed where
  name key h := by
    obtain ⟨i, hi⟩ := hname key h
    exact ⟨i.text, hi, i.isName⟩
  bitWidth h := by
    rcases h with h | h <;> exact absurd (by rw [h]; decide) hclass
  arraySize h := absurd (by rw [h]; decide) hclass
  integerWidth h := absurd (by rw [h.1]; decide) hclass
  integerText h := absurd (by rw [h.1]; decide) hclass

end Value

namespace CType

/-- A type with a name shows it, and no other type is of a class that has one. -/
theorem exists_name : (t : CType) → ∀ {key : String}, (t.className, key) ∈ nameFields →
    ∃ i : Identifier, t.fields.lookup key = some (.str i.text)
  | shared _ t, _, h => t.exists_name h
  | named _ name _, key, h | template _ name _, key, h => by
    obtain rfl : key = "name" := key_eq_of_mem h rfl
    exact ⟨name, rfl⟩
  | integer .., _, h | scalar .., _, h | pointer .., _, h | reference .., _, h
  | array .., _, h => by
    simp [className, nameFields] at h

theorem showsOptional_size : (t : CType) → t.className = "ArrayType" →
    (Value.type t).ShowsOptional "size" (0 ≤ ·)
  | shared _ t, h => t.showsOptional_size h
  | array _ none, _ => .inl rfl
  | array _ (some n), _ => .inr ⟨n, rfl, Int.natCast_nonneg n⟩
  | integer .., h | scalar .., h | named .., h | template .., h | pointer .., h
  | reference .., h => by
    simp [className] at h

theorem className_mem_classes : (t : CType) → t.className ∈ classes.map Prod.fst
  | shared _ t => t.className_mem_classes
  | integer .. | scalar .. | named .. | template .. | pointer .. | reference .. | array .. => by
    simp [className, classes]

/-- A built-in type of the kind of integers is one of the types of a fixed width. -/
theorem exists_integer : (t : CType) → (Value.type t).IsInteger →
    ∃ quals width signed, t.fields = (integer quals width signed).fields ∧
      t.text = (integer quals width signed).text
  | shared _ t, h => t.exists_integer h
  | integer quals width signed, _ => ⟨quals, width, signed, rfl, rfl⟩
  | scalar _ kind _ _, h => by
    have hkind : builtinName (some kind) = builtinName none := Option.some.inj h.2
    have hsame : some (some kind) = some none := by
      rw [← lookup_builtinName, ← lookup_builtinName, hkind]
    cases hsame

theorem showsOptional_width {t : CType} (h : (Value.type t).IsInteger) :
    (Value.type t).ShowsOptional "width" (· ∈ [8, 16, 32, 64]) := by
  obtain ⟨quals, width, signed, hfields, -⟩ := t.exists_integer h
  unfold Value.ShowsOptional
  change t.fields.lookup "width" = _ ∨ ∃ n, t.fields.lookup "width" = _ ∧ _
  rw [hfields]
  cases width with
  | none => exact .inl rfl
  | some w => exact .inr ⟨w.bits, rfl, by cases w <;> decide⟩

theorem integerName_mem (width : Option IntWidth) (signed : Bool) :
    integerName width signed ∈ fixedWidthNames := by
  rcases width with _ | _ | _ | _ | _ <;> cases signed <;> decide +kernel

theorem exists_text {t : CType} (h : (Value.type t).IsInteger) :
    ∃ (quals : Qualifiers) (name : String), quals.fields ⊆ t.fields ∧ name ∈ fixedWidthNames ∧
      t.text = qualify quals name := by
  obtain ⟨quals, width, signed, hfields, htext⟩ := t.exists_integer h
  refine ⟨quals, integerName width signed, ?_, integerName_mem width signed, htext⟩
  rw [hfields]
  exact List.subset_append_left _ _

theorem wellFormed (t : CType) : (Value.type t).WellFormed where
  name _ h := by
    obtain ⟨i, hi⟩ := t.exists_name h
    exact ⟨i.text, hi, i.isName⟩
  bitWidth h := by
    have hclass := t.className_mem_classes
    rcases h with h | h
    · rw [show t.className = "Field" from h] at hclass
      exact absurd hclass (by decide)
    · rw [show t.className = "Attribute" from h] at hclass
      exact absurd hclass (by decide)
  arraySize h := t.showsOptional_size h
  integerWidth := showsOptional_width
  integerText h t' ht := by
    cases ht
    exact exists_text h

end CType

namespace Expr

theorem className_not_mem_sizedClasses : (e : Expr) → e.className ∉ Value.sizedClasses
  | shared _ e => e.className_not_mem_sizedClasses
  | raw .. | var .. | num _ | str _ | bool _ | call .. | field .. | methodCall .. | index ..
  | deref _ | addrOf _ | binop .. | unop .. => by
    simp [className, Value.sizedClasses]

theorem exists_name : (e : Expr) → ∀ {key : String}, (e.className, key) ∈ nameFields →
    ∃ i : Identifier, e.fields.lookup key = some (.str i.text)
  | shared _ e, _, h => e.exists_name h
  | var name _, key, h | call name _, key, h => by
    obtain rfl : key = "name" := key_eq_of_mem h rfl
    exact ⟨name, rfl⟩
  | raw .., _, h | num _, _, h | str _, _, h | bool _, _, h | field .., _, h | methodCall .., _, h
  | index .., _, h | deref _, _, h | addrOf _, _, h | binop .., _, h | unop .., _, h => by
    simp [className, nameFields] at h

theorem wellFormed (e : Expr) : (Value.expr e).WellFormed :=
  .of_name (fun _ h => e.exists_name h) e.className_not_mem_sizedClasses

end Expr

namespace Entity

theorem exists_name {e : Entity} {key : String} (h : (e.className, key) ∈ nameFields) :
    ∃ i : Identifier, e.fields.lookup key = some (.str i.text) := by
  obtain ⟨σ, c, s, get, hc, rfl, -⟩ := exists_named h
  exact ⟨get s, hc.shown s⟩

theorem showsOptional_width {e : Entity} (h : e.className = "Field" ∨ e.className = "Attribute") :
    (Value.entity e).ShowsOptional "width" (1 ≤ ·) := by
  have hwidth (w : Option BitWidth) : some (BitWidth.field? w).2 = some .null ∨
      ∃ n : Int, some (BitWidth.field? w).2 = some (.int n) ∧ 1 ≤ n := by
    cases w with
    | none => exact .inl rfl
    | some w => exact .inr ⟨w.bits, rfl, Int.ofNat_le.mpr w.positive⟩
  cases e with
  | field f => exact hwidth f.width
  | attr a => exact hwidth a.width
  | record r => cases hkind : r.kind <;> simp [className, hkind] at h
  | loop l => cases hkind : l.kind <;> simp [className, hkind] at h
  | _ => simp [className] at h

/-- No entity is of a class of types. -/
theorem className_not_mem_classes (e : Entity) : e.className ∉ CType.classes.map Prod.fst := by
  intro h
  cases e with
  | record r => cases hkind : r.kind <;> simp [className, CType.classes, hkind] at h
  | loop l => cases hkind : l.kind <;> simp [className, CType.classes, hkind] at h
  | _ => simp [className, CType.classes] at h

theorem wellFormed (e : Entity) : (Value.entity e).WellFormed where
  name _ h := by
    obtain ⟨i, hi⟩ := exists_name h
    exact ⟨i.text, hi, i.isName⟩
  bitWidth := showsOptional_width
  arraySize h := by
    have hclass := e.className_not_mem_classes
    rw [show e.className = "ArrayType" from h] at hclass
    exact absurd (by decide) hclass
  integerWidth h := by
    have hclass := e.className_not_mem_classes
    rw [show e.className = "PrimitiveType" from h.1] at hclass
    exact absurd (by decide) hclass
  integerText _ _ ht := nomatch ht

end Entity

namespace Value

theorem wellFormed (v : Value) : v.WellFormed := by
  cases v with
  | type t => exact t.wellFormed
  | expr e => exact e.wellFormed
  | entity e => exact e.wellFormed
  | word w =>
    refine .of_name (fun _ h => ?_) ?_
    · cases w <;> simp [className, Word.enumeration, nameFields] at h
    · cases w <;> simp [className, Word.enumeration, sizedClasses]
  | null | bool _ | int _ | float _ | str _ | list _ | tuple _ | object _ =>
    refine .of_name (fun _ h => ?_) ?_
    · simp [className, nameFields] at h
    · simp [className, sizedClasses]

/-- What stands directly in a value: items, members and the contents of fields. -/
def parts : Value → List Value
  | list items | tuple items => items
  | object members => members.map Prod.snd
  | v => v.fields.map Prod.snd

/-- The parts of a value at any depth, and the value itself. -/
def Holds : Value → Value → Prop := Relation.ReflTransGen fun v part => part ∈ v.parts

end Value

namespace Store

theorem latest_settle (s : Store) (oldest : Id) {e after : Entity} (h : after.id = e.id) :
    (s.settle oldest after).latest e = after := by
  change ((Std.HashMap.insert _ after.id after).get? e.id).getD e = after
  rw [h, Std.HashMap.get?_eq_getElem?, Std.HashMap.getElem?_insert_self]
  rfl

theorem entities_derive (s : Store) (p origin : Place) :
    (s.derive p origin).entities = s.entities := by
  rw [derive]
  split <;> rfl

theorem entities_adopt (s : Store) (atoms : List Held) (places : List (Place × Value)) :
    (s.adopt atoms places).entities = s.entities := by
  induction places generalizing s with
  | nil => rfl
  | cons first rest ih =>
    rw [adopt, List.foldl_cons]
    refine (ih _).trans ?_
    dsimp only
    split
    · exact entities_derive s _ _
    · rfl

end Store

namespace Session

/-- A session after some commands. -/
def after (commands : List Command) : Session :=
  commands.foldl (fun s command => (s.run command).2) {}

/-- The objects whose fields are never changed: types and expressions. -/
def IsFrozen : Value → Prop
  | .type _ | .expr _ => True
  | _ => False

theorem assignTo_of_frozen (s : Session) {receiver : Value} (hfrozen : IsFrozen receiver)
    {attr : String} (hattr : isPrivate attr = false) (atoms : List Held) (h : Held) :
    ∃ fault, s.assignTo receiver attr atoms h = (.error fault, s) := by
  unfold assignTo
  rw [hattr]
  cases receiver with
  | type t => cases hid : (Value.type t).id? <;> exact ⟨_, rfl⟩
  | expr e => cases hid : (Value.expr e).id? <;> exact ⟨_, rfl⟩
  | _ => exact hfrozen.elim

/-- Whatever is assigned to a field of a type or an expression is refused, and the session stays
as it is. Private names are no fields. -/
theorem act_assign_of_frozen {s : Session} {handle attr : String} {receiver : Value}
    (hget : s.get handle = .ok receiver) (hfrozen : IsFrozen receiver)
    (hattr : isPrivate attr = false) (value : Value) :
    ∃ fault, s.act (.assign handle attr value) = (.error fault, s) := by
  cases hvalue : s.resolveHeld value with
  | error fault =>
    refine ⟨fault, ?_⟩
    rw [act]
    simp only [hget, hvalue]
    rfl
  | ok h =>
    obtain ⟨fault, hfault⟩ := s.assignTo_of_frozen hfrozen hattr (s.atoms value) h
    refine ⟨fault, ?_⟩
    rw [act]
    simp only [hget, hvalue]
    exact hfault

/-- What every check of a class yields from data holds of every object that is made of data. -/
theorem act_new_of_yields {s later : Session} {className : String} {members : Members} {h : Held}
    {P : Members → Value → Prop}
    (hchecks : ∀ given, ∃ check, acceptNamed className (.object given) = some check ∧
      check.Yields (P given))
    (hact : s.act (.new className members) = (.ok h, later)) :
    ∃ given, s.resolveMembers members = .ok given ∧ P given h.value := by
  rw [act] at hact
  cases hgiven : s.resolveMembers members with
  | error fault =>
    rw [hgiven] at hact
    cases hact
  | ok given =>
    obtain ⟨check, hcheck, hyields⟩ := hchecks given
    rw [hgiven, withResolved, hcheck, checkedNamed, checked] at hact
    rcases hrun : check.alone s.ledger with ⟨_ | v, ledger⟩
    · rw [hrun] at hact
      cases hact
    · rw [hrun] at hact
      cases hact
      exact ⟨given, rfl, hyields _ v (congrArg Prod.fst hrun)⟩

theorem isPrivate_of_mem_nameFields {className key : String} (h : (className, key) ∈ nameFields) :
    isPrivate key = false := by
  have hall : ∀ m ∈ nameFields, isPrivate m.2 = false := by decide +kernel
  exact hall _ h

theorem act_assign_of_entity {s : Session} {handle key : String} {e : Entity} {value : Value}
    {held : Held} (hget : s.get handle = .ok (.entity e)) (hvalue : s.resolveHeld value = .ok held)
    (hkey : isPrivate key = false) :
    s.act (.assign handle key value) = s.assignToEntity e key (s.atoms value) held.value := by
  rw [act]
  simp only [hget, hvalue]
  change s.assignTo (.entity e) key (s.atoms value) held = _
  unfold assignTo
  rw [hkey]
  rfl

theorem assignToEntity_of_error {s : Session} {e after : Entity} {key : String} {v : Value}
    {fault : Fault} {last : Ledger}
    (h : e.assignTo key v s.ledger = ((.error fault, after), last)) (atoms : List Held) :
    ∃ later, s.assignToEntity e key atoms v = (.error fault, later) := by
  rw [assignToEntity, h]
  exact ⟨_, rfl⟩

/-- After an assignment that is carried out, the entity is kept as the assignment leaves it. -/
theorem assignToEntity_of_ok {s : Session} {e after : Entity} {key : String} {v : Value}
    {last : Ledger} (h : e.assignTo key v s.ledger = ((.ok (), after), last))
    (hid : after.id = e.id) (hclass : after.className ≠ "Class") (atoms : List Held) :
    ∃ later, s.assignToEntity e key atoms v = (.ok (s.answered .null), later) ∧
      later.store.latest e = after := by
  have hhanded : ∀ store : Store, nameHandedOn store key after = store := by
    intro store
    cases after with
    | cls c => exact absurd rfl hclass
    | _ => rfl
  rw [assignToEntity, h]
  refine ⟨_, rfl, ?_⟩
  dsimp only
  rw [hhanded, Store.latest, Store.entities_adopt]
  exact Store.latest_settle _ _ hid

/-- What is no name is never assigned as the name of an entity. -/
theorem act_assign_of_no_name {s : Session} {handle key : String} {e : Entity} {value : Value}
    {held : Held} (hget : s.get handle = .ok (.entity e)) (hkey : (e.className, key) ∈ nameFields)
    (hvalue : s.resolveHeld value = .ok held) (hname : held.value.identifier? = none) :
    ∃ fault later, s.act (.assign handle key value) = (.error fault, later) := by
  rw [act_assign_of_entity hget hvalue (isPrivate_of_mem_nameFields hkey)]
  rcases hassign : e.assignTo key held.value s.ledger with ⟨⟨fault | _, after⟩, last⟩
  · exact ⟨fault, assignToEntity_of_error hassign _⟩
  · obtain ⟨i, hi, -⟩ := Entity.assignTo_shows hkey hassign
    rw [hname] at hi
    cases hi

/-- A width is assigned to a bit field exactly if the value gives one. -/
theorem act_assign_width {s : Session} {handle : String} {e : Entity} {value : Value} {held : Held}
    (hget : s.get handle = .ok (.entity e))
    (hclass : e.className = "Field" ∨ e.className = "Attribute")
    (hvalue : s.resolveHeld value = .ok held) :
    (∀ n, held.value.number? 1 = some n → ∃ later,
      s.act (.assign handle "width" value) = (.ok (s.answered .null), later) ∧
      (later.store.latest e).fields.lookup "width" = some (.ofOption .int n)) ∧
    (held.value.number? 1 = none →
      ∃ fault later, s.act (.assign handle "width" value) = (.error fault, later)) := by
  rw [act_assign_of_entity hget hvalue (by decide +kernel)]
  obtain ⟨hsome, hnone⟩ := Entity.assignTo_width hclass held.value s.ledger
  refine ⟨fun n hn => ?_, fun hn => ?_⟩
  · obtain ⟨after, last, hassign, hid, hsame, hshown⟩ := hsome n hn
    have hother : after.className ≠ "Class" := by
      rcases hclass with h | h <;> rw [hsame, h] <;> decide
    obtain ⟨later, hlater, hlatest⟩ := assignToEntity_of_ok hassign hid hother (s.atoms value)
    exact ⟨later, hlater, by rw [hlatest]; exact hshown⟩
  · obtain ⟨fault, last, hassign⟩ := hnone hn
    exact ⟨fault, assignToEntity_of_error hassign _⟩

/-- The name of a base is the exception: whatever text is assigned, the base takes it. -/
theorem act_assign_name_of_base {s : Session} {handle : String} {b : BaseClass} {value : Value}
    {held : Held} {text : String} (hget : s.get handle = .ok (.entity (.baseClass b)))
    (hvalue : s.resolveHeld value = .ok held) (htext : held.value = .str text) :
    ∃ later, s.act (.assign handle "name" value) = (.ok (s.answered .null), later) ∧
      later.store.latest (.baseClass b) = .baseClass { b with name := text } := by
  rw [act_assign_of_entity hget hvalue (by decide +kernel), htext]
  obtain ⟨last, hassign⟩ := Entity.assignTo_name_of_base b text s.ledger
  exact assignToEntity_of_ok hassign rfl (show "BaseClass" ≠ "Class" by decide) _

/-- After any commands, carried out or refused, whatever a handle stands for and whatever is found
from there is well formed at any depth. Types and expressions stay what they are. What is made of
data has the name, the bit width, the array size and the integer width that the data give, and what
is no name and no bit width is never assigned as one. The name of a base alone takes any text. -/
theorem after_wellFormed (commands : List Command) :
    let s := after commands
    (∀ handle path h part, s.look handle path = .ok h → h.value.Holds part → part.WellFormed) ∧
    (∀ handle attr receiver value, s.get handle = .ok receiver → IsFrozen receiver →
      isPrivate attr = false → ∃ fault, s.act (.assign handle attr value) = (.error fault, s)) ∧
    (∀ className key members h later, (className, key) ∈ nameFields →
      s.act (.new className members) = (.ok h, later) →
        ∃ given, s.resolveMembers members = .ok given ∧ h.value.ShowsGiven given key) ∧
    (∀ handle key e value held, s.get handle = .ok (.entity e) → (e.className, key) ∈ nameFields →
      s.resolveHeld value = .ok held → held.value.identifier? = none →
        ∃ fault later, s.act (.assign handle key value) = (.error fault, later)) ∧
    (∀ className key least members h later, (className, key, least) ∈ numberFields →
      s.act (.new className members) = (.ok h, later) →
        ∃ given, s.resolveMembers members = .ok given ∧ h.value.ShowsNumber least given key) ∧
    (∀ members h later, s.act (.new "PrimitiveType" members) = (.ok h, later) →
      ∃ given, s.resolveMembers members = .ok given ∧
        (h.value.IsInteger → h.value.ShowsIntegerWidth given)) ∧
    (∀ handle e value held, s.get handle = .ok (.entity e) →
      e.className = "Field" ∨ e.className = "Attribute" → s.resolveHeld value = .ok held →
        (∀ n, held.value.number? 1 = some n → ∃ later,
          s.act (.assign handle "width" value) = (.ok (s.answered .null), later) ∧
          (later.store.latest e).fields.lookup "width" = some (.ofOption .int n)) ∧
        (held.value.number? 1 = none →
          ∃ fault later, s.act (.assign handle "width" value) = (.error fault, later))) ∧
    ∀ handle b value held text, s.get handle = .ok (.entity (.baseClass b)) →
      s.resolveHeld value = .ok held → held.value = .str text →
        ∃ later, s.act (.assign handle "name" value) = (.ok (s.answered .null), later) ∧
          later.store.latest (.baseClass b) = .baseClass { b with name := text } :=
  ⟨fun _ _ _ part _ _ => part.wellFormed,
    fun _ _ _ value hget hfrozen hattr => act_assign_of_frozen hget hfrozen hattr value,
    fun _ _ _ _ _ hkey hact => act_new_of_yields (acceptNamed_shows_given hkey) hact,
    fun _ _ _ _ _ hget hkey hvalue hname => act_assign_of_no_name hget hkey hvalue hname,
    fun _ _ _ _ _ _ hkey hact => act_new_of_yields (acceptNamed_shows_number hkey) hact,
    fun _ _ _ hact => act_new_of_yields acceptNamed_shows_integerWidth hact,
    fun _ _ _ _ hget hclass hvalue => act_assign_width hget hclass hvalue,
    fun _ _ _ _ _ hget hvalue htext => act_assign_name_of_base hget hvalue htext⟩

/-- An integer of seven bits, which has 64 of them, a label that is given a blank name, a bit field
that is given no bits, and a base that loses its name. -/
theorem after_wellFormed_label :
    let commands : List Command := [
      ⟨.new "Label" [("name", .str "top")], some "l"⟩,
      ⟨.new "Label" [("name", .str " ")], some "l"⟩,
      ⟨.new "PrimitiveType" [("kind", .str "int"), ("width", .int 7)], some "t"⟩,
      ⟨.new "BaseClass" [("name", .str "B")], some "b"⟩]
    let s := after commands
    (∃ t place, s.look "t" [] = .ok ⟨.type t, place⟩ ∧ t.text = "int64_t" ∧
      (Value.type t).WellFormed ∧
      ∃ fault, s.act (.assign "t" "width" (.int 7)) = (.error fault, s)) ∧
    (∃ h later, s.act (.new "Label" [("name", .str "end")]) = (.ok h, later) ∧
      h.value.ShowsGiven [("name", .str "end")] "name") ∧
    (∃ fault later, s.act (.assign "l" "name" (.str " ")) = (.error fault, later)) ∧
    (∃ h later, s.act (.new "PrimitiveType" [("kind", .str "int"), ("width", .int 7)]) =
        (.ok h, later) ∧
      h.value.ShowsIntegerWidth [("kind", .str "int"), ("width", .int 7)]) ∧
    ∃ b later, s.act (.assign "b" "name" (.str "")) = (.ok (s.answered .null), later) ∧
      later.store.latest (.baseClass b) = .baseClass { b with name := "" } := by
  intro commands s
  obtain ⟨hparts, hfrozen, hgiven, hrefused, -, hwidths, -, hbases⟩ := after_wellFormed commands
  refine ⟨?_, ?_, ?_, ?_, ?_⟩
  · let t : CType := .shared 2 (.integer {} (some .w64) true)
    have hlook : s.look "t" [] = .ok ⟨.type t, .answer 3⟩ := rfl
    have hget : s.get "t" = .ok (.type t) := rfl
    exact ⟨t, _, hlook, by decide, hparts _ _ _ _ hlook .refl,
      hfrozen _ _ _ _ hget trivial (by decide +kernel)⟩
  · have hnew : ∃ h later, s.act (.new "Label" [("name", .str "end")]) = (.ok h, later) :=
      ⟨_, _, rfl⟩
    obtain ⟨h, later, hnew⟩ := hnew
    obtain ⟨given, hsame, hshown⟩ := hgiven _ "name" _ _ _ (by decide) hnew
    cases hsame
    exact ⟨h, later, hnew, hshown⟩
  · let l : Entity := .label ⟨0, ⟨"top", by decide⟩⟩
    have hget : s.get "l" = .ok (.entity (s.store.now l)) := rfl
    have hlatest : s.store.latest l = l := by
      change ((Std.HashMap.insert (Std.HashMap.insert ∅ 0 l) 3 _).get? 0).getD l = l
      rw [Std.HashMap.get?_eq_getElem?, Std.HashMap.getElem?_insert, if_neg (by decide),
        Std.HashMap.getElem?_insert_self]
      rfl
    have hclass : (s.store.now l).className = "Label" := by
      rw [Store.now, hlatest]
      rfl
    exact hrefused _ _ _ _ _ hget (by rw [hclass]; decide) rfl rfl
  · let t : CType := .shared 4 (.integer {} (some .w64) true)
    have hnew : ∃ later, s.act (.new "PrimitiveType" [("kind", .str "int"), ("width", .int 7)]) =
        (.ok ⟨.type t, .answer 4⟩, later) := ⟨_, rfl⟩
    obtain ⟨later, hnew⟩ := hnew
    obtain ⟨given, hsame, hshown⟩ := hwidths _ _ _ hnew
    cases hsame
    exact ⟨_, later, hnew, hshown ⟨rfl, rfl⟩⟩
  · let b : BaseClass := { id := 3, name := "B" }
    have hget : s.get "b" = .ok (.entity (s.store.now (.baseClass b))) := rfl
    have hlatest : s.store.latest (.baseClass b) = .baseClass b := by
      change ((Std.HashMap.insert _ 3 (Entity.baseClass b)).get? 3).getD _ = _
      rw [Std.HashMap.get?_eq_getElem?, Std.HashMap.getElem?_insert_self]
      rfl
    rw [Store.now, hlatest] at hget
    exact ⟨b, hbases _ _ _ _ _ hget rfl rfl⟩

end Session

end CWriter

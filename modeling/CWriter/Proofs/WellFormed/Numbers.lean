import CWriter.Proofs.WellFormed.Taken

/-!
# Numbers that are accepted

The width of a bit field, the size of an array and the width of an integer are read as integers
within a bound, or left out. What is built from an object shows the number that the object gives,
and an assignment to the width of a bit field is carried out exactly if it gives one. Of the widths
of integers only four are kept, and every other number stands for 64 bits.
-/
namespace CWriter

namespace Value

/-- The integer that a value is read as. -/
def readInteger? : Value → Option Int
  | bool b => some (if b then 1 else 0)
  | int n => some n
  | float x => if x.isFinite then Rule.wordOfFloat? x else none
  | str s => (Text.readLenientInteger s).toOption
  | word w => (Text.readLenientInteger w.text).toOption
  | _ => none

/-- What a value gives for a field that may hold nothing. The value for nothing gives nothing. -/
def nullable? {α : Type} (given? : Value → Option α) : Value → Option (Option α)
  | null => some none
  | v => (given? v).map some

/-- The number that a value gives for a field with a lower bound. -/
def number? (least : Nat) : Value → Option (Option Int) :=
  nullable? fun v => v.readInteger?.filter fun n => (least : Int) ≤ n

/-- The size that a value gives for an array. -/
def size? : Value → Option (Option Nat) :=
  nullable? fun v => (v.readInteger?.filter fun n => ((0 : Nat) : Int) ≤ n).map Int.toNat

/-- The width that a value gives for a bit field. -/
def bitWidth? : Value → Option (Option BitWidth) :=
  nullable? fun v => v.readInteger?.bind fun n =>
    if h : 1 ≤ n then some ⟨n.toNat, by omega⟩ else none

theorem nullable?_map {α β : Type} {one : Value → Option α} {other : Value → Option β} {f : α → β}
    (h : ∀ v, other v = (one v).map f) (v : Value) :
    v.nullable? other = (v.nullable? one).map (·.map f) := by
  cases v with
  | null => rfl
  | _ =>
    simp only [nullable?, h, Option.map_map]
    rfl

theorem number?_eq_size? (v : Value) :
    v.number? 0 = v.size?.map (·.map fun n : Nat => (n : Int)) := by
  refine nullable?_map (fun v => ?_) v
  cases v.readInteger? with
  | none => rfl
  | some n =>
    by_cases hn : 0 ≤ n <;> simp [Option.filter, hn]

theorem number?_eq_bitWidth? (v : Value) :
    v.number? 1 = v.bitWidth?.map (·.map fun w => (w.bits : Int)) := by
  refine nullable?_map (fun v => ?_) v
  cases v.readInteger? with
  | none => rfl
  | some n =>
    by_cases hn : 1 ≤ n
    · have hpos : ((n.toNat : Nat) : Int) = n := Int.toNat_of_nonneg (by omega)
      simp [Option.filter, hn, hpos]
    · simp [Option.filter, hn]

/-- The width that a value gives for an integer. Any number but the four widths, and the value for
nothing, stand for 64 bits. -/
def integerWidth? (v : Value) : Option (Option Int) :=
  (v.number? 0).map fun n => some ((n.filter (· ∈ [8, 16, 32, 64])).getD 64)

/-- A built-in type of the kind of integers. -/
def IsInteger (v : Value) : Prop :=
  v.className = "PrimitiveType" ∧ (v.fields.lookup "kind").bind text? = some "int"

/-- An integer type shows the width that the members give. A width that is not mentioned stays
open. -/
def ShowsIntegerWidth (members : Members) (v : Value) : Prop :=
  ∃ n, givenMember? integerWidth? none members "width" = some n ∧
    v.fields.lookup "width" = some (ofOption .int n)

/-- The object shows in the field the number that the members give. -/
def ShowsNumber (least : Nat) (members : Members) (key : String) (v : Value) : Prop :=
  ∃ n, givenMember? (number? least) none members key = some n ∧
    v.fields.lookup key = some (ofOption .int n)

end Value

namespace Rule

open Check

theorem answers_int (v : Value) : (acceptInt v).Answers v.readInteger? := by
  have htext : ∀ s, (intOfText s).Answers (Text.readLenientInteger s).toOption := by
    intro s
    rw [intOfText]
    rcases Text.readLenientInteger s with (_ | _) | n
    · exact ⟨_, settles_fail _, rfl, nofun⟩
    · exact ⟨_, settles_fail _, rfl, nofun⟩
    · exact ⟨_, settles_pure n, rfl, nofun⟩
  cases v with
  | bool b => exact ⟨_, settles_pure _, rfl, nofun⟩
  | int n => exact ⟨_, settles_pure n, rfl, nofun⟩
  | float x =>
    change (intOfFloat x).Answers (if x.isFinite then wordOfFloat? x else none)
    rw [intOfFloat]
    cases x.isFinite with
    | false => exact ⟨_, settles_fail _, rfl, nofun⟩
    | true =>
      cases hx : x.integer? with
      | none =>
        rw [wordOfFloat?, hx]
        exact ⟨_, settles_fail _, rfl, nofun⟩
      | some n => exact answers_ofOption _ _
  | str s => exact htext s
  | word w => exact htext w.text
  | _ => exact ⟨_, settles_fail _, rfl, nofun⟩

theorem answers_acceptAtLeast (least : Nat) (v : Value) :
    (acceptAtLeast least v).Answers
      ((v.readInteger?.filter fun n => (least : Int) ≤ n).map Int.toNat) := by
  have hnext : ∀ n : Int, (if (least : Int) ≤ n then pure n.toNat
      else Check.fail (.tooSmall least) : Check Nat).Answers
        (if (least : Int) ≤ n then some n.toNat else none) := by
    intro n
    split
    · exact ⟨_, settles_pure _, rfl, nofun⟩
    · exact ⟨_, settles_fail _, rfl, nofun⟩
  have hanswer : ((v.readInteger?.filter fun n => (least : Int) ≤ n).map Int.toNat) =
      v.readInteger?.bind fun n => if (least : Int) ≤ n then some n.toNat else none := by
    cases v.readInteger? with
    | none => rfl
    | some n => by_cases hn : (least : Int) ≤ n <;> simp [Option.filter, hn]
  rw [hanswer]
  exact (answers_int v).bind hnext

theorem answers_bitWidth (v : Value) : (bitWidth.accept v).Answers
    (v.readInteger?.bind fun n => if h : 1 ≤ n then some ⟨n.toNat, by omega⟩ else none) := by
  have hnext : ∀ n : Nat, (if h : 1 ≤ n then pure ⟨n, h⟩
      else Check.fail (.tooSmall 1) : Check BitWidth).Answers
        (if h : 1 ≤ n then some ⟨n, h⟩ else none) := by
    intro n
    split
    · exact ⟨_, settles_pure _, rfl, nofun⟩
    · exact ⟨_, settles_fail _, rfl, nofun⟩
  have hanswer : (v.readInteger?.bind fun n =>
      if h : 1 ≤ n then some (⟨n.toNat, by omega⟩ : BitWidth) else none) =
      ((v.readInteger?.filter fun n => ((1 : Nat) : Int) ≤ n).map Int.toNat).bind fun n =>
        if h : 1 ≤ n then some ⟨n, h⟩ else none := by
    cases v.readInteger? with
    | none => rfl
    | some n =>
      by_cases hn : 1 ≤ n
      · have hpos : 1 ≤ n.toNat := by omega
        simp [Option.filter, hn, hpos]
      · simp [Option.filter, hn]
  rw [hanswer]
  exact (answers_acceptAtLeast 1 v).bind hnext

theorem answers_nullable {α : Type} {rule : Rule α} {given? : Value → Option α}
    (h : ∀ v, (rule.accept v).Answers (given? v)) (v : Value) :
    ((nullable rule).accept v).Answers (v.nullable? given?) := by
  cases v with
  | null => exact ⟨_, settles_pure none, rfl, nofun⟩
  | _ => exact (h _).map some

theorem answers_nullable_bitWidth (v : Value) :
    ((nullable bitWidth).accept v).Answers v.bitWidth? :=
  answers_nullable answers_bitWidth v

theorem answers_nullable_nat (v : Value) : ((nullable nat).accept v).Answers v.size? :=
  answers_nullable (answers_acceptAtLeast 0) v

end Rule

open Slot in
theorem Field.takes_width : schema.Takes "width" Value.bitWidth? none Field.width
    (fun w f => { f with width := w }) where
  look_put _ _ _ _ := rfl
  start _ := rfl
  assigned := rfl
  finish _ := rfl
  found := by
    refine ⟨_, rfl, fun s v => (Rule.answers_nullable_bitWidth v).map _, fun _ => rfl,
      fun slot hslot => ?_⟩
    simp only [schema, ownSlots, List.mem_cons, List.not_mem_nil, or_false] at hslot
    rcases hslot with rfl | rfl | rfl | rfl
    · exact .inr ⟨by decide, spares_zoom fun _ _ => rfl⟩
    · exact .inr ⟨by decide, spares_zoom fun _ _ => rfl⟩
    · exact .inr ⟨by decide, spares_required _ _ fun _ _ => rfl⟩
    · exact .inl rfl

open Slot in
theorem Attribute.takes_width : schema.Takes "width" Value.bitWidth? none (·.width)
    (fun w a => { a with width := w }) where
  look_put _ _ _ _ := rfl
  start _ := rfl
  assigned := rfl
  finish _ := rfl
  found := by
    refine ⟨_, rfl, fun s v => ?_, fun _ => rfl, fun slot hslot => ?_⟩
    · have hstored := ((Rule.answers_nullable_bitWidth v).map
        fun w => ({ s.toField with width := w } : Field)).map
        fun f => ({ s with toField := f } : Attribute)
      rw [Option.map_map] at hstored
      exact hstored
    · have hzoom : ∀ {slot : Slot Field}, slot.Spares Field.width →
          (slot.zoom (·.toField) fun f a => { a with toField := f } : Slot Attribute).Spares
            (·.width) := fun h => h.zoom fun _ _ => rfl
      simp only [schema, Field.ownSlots, List.map_cons, List.map_nil, List.cons_append,
        List.nil_append, List.mem_cons, List.not_mem_nil, or_false] at hslot
      rcases hslot with rfl | rfl | rfl | rfl | rfl | rfl | rfl | rfl
      · exact .inr ⟨by decide, hzoom (spares_zoom fun _ _ => rfl)⟩
      · exact .inr ⟨by decide, spares_optional _ _ fun _ _ => rfl⟩
      · exact .inr ⟨by decide, hzoom (spares_zoom fun _ _ => rfl)⟩
      · exact .inr ⟨by decide, hzoom (spares_required _ _ fun _ _ => rfl)⟩
      · exact .inl rfl
      · exact .inr ⟨by decide, spares_fixed _ _⟩
      · exact .inr ⟨by decide, spares_optional _ _ fun _ _ => rfl⟩
      · exact .inr ⟨by decide, spares_optional _ _ fun _ _ => rfl⟩

/-- The fields that hold numbers, with the least number of each. -/
def numberFields : List (String × String × Nat) :=
  [("Field", "width", 1), ("Attribute", "width", 1), ("ArrayType", "size", 0)]

theorem Check.Answers.yields {α : Type} {x : Check α} {a : Option α} (h : x.Answers a) :
    x.Yields fun b => a = some b := by
  obtain ⟨r, hr, rfl, -⟩ := h
  intro ledger b hb
  rw [hr ledger] at hb
  exact congrArg Except.toOption hb

theorem givenMember?_map {α β : Type} {one : Value → Option α} {other : Value → Option β}
    {f : α → β} (h : ∀ v, other v = (one v).map f) {initial a : α} {members : Members}
    {key : String} (hgiven : givenMember? one initial members key = some a) :
    givenMember? other (f initial) members key = some (f a) := by
  unfold givenMember? at hgiven ⊢
  cases hmember : Value.member? members key with
  | none =>
    rw [hmember] at hgiven
    exact congrArg (Option.map f) hgiven
  | some v =>
    rw [hmember] at hgiven
    exact (h v).trans (congrArg (Option.map f) hgiven)

/-- A bit field shows the width that its object gives. -/
theorem Value.showsNumber_of_bitWidth {members : Members} {width : Option BitWidth} {v : Value}
    (hgiven : givenMember? bitWidth? none members "width" = some width)
    (hshown : v.fields.lookup "width" = some (BitWidth.field? width).2) :
    v.ShowsNumber 1 members "width" := by
  refine ⟨_, givenMember?_map number?_eq_bitWidth? hgiven, hshown.trans ?_⟩
  cases width <;> rfl

/-- An array shows the size that its object gives. -/
theorem Value.showsNumber_of_size {members : Members} {size : Option Nat} (t : CType)
    (hgiven : givenMember? size? none members "size" = some size) :
    (Value.type (.array t size)).ShowsNumber 0 members "size" := by
  refine ⟨_, givenMember?_map number?_eq_size? hgiven, ?_⟩
  cases size <;> rfl

namespace Form

variable {α : Type} {members : Members}

theorem yields_optional {f : Value → Check α} {taken? : Value → Option α}
    (h : ∀ v, (f v).Answers (taken? v)) (name : String) (initial : α) :
    (optional members name f initial).check.Yields fun a =>
      givenMember? taken? initial members name = some a := by
  refine Check.Yields.within ?_ name
  unfold givenMember?
  cases Value.member? members name with
  | none => exact Check.yields_pure rfl
  | some v => exact (h v).yields

end Form

namespace CType

theorem yields_size (inner : Value → Check CType) (members : Members) :
    (form inner members "array").check.Yields fun t =>
      (Value.type t).ShowsNumber 0 members "size" := by
  refine Form.yields_seq (F := fun g => ∀ n, ∃ t, g n = .array t n)
    (Form.yields_seq_of_forall (Form.yields_map_of_forall fun _ t n => ⟨t, rfl⟩))
    (Form.yields_optional Rule.answers_nullable_nat "size" none) fun g n hg hn => ?_
  obtain ⟨t, ht⟩ := hg n
  rw [ht]
  exact Value.showsNumber_of_size t hn

theorem bits_ofBits? (n : Nat) : (IntWidth.ofBits? n).map (fun w => (w.bits : Int)) =
    (some (n : Int)).filter (· ∈ [8, 16, 32, 64]) := by
  by_cases hmem : n = 8 ∨ n = 16 ∨ n = 32 ∨ n = 64
  · rcases hmem with rfl | rfl | rfl | rfl <;> rfl
  · have hnone : (n : Int) ∉ [8, 16, 32, 64] := by
      simp only [List.mem_cons, List.not_mem_nil, or_false]
      omega
    rw [not_or, not_or, not_or] at hmem
    rw [IntWidth.ofBits?, if_neg hmem.1, if_neg hmem.2.1, if_neg hmem.2.2.1, if_neg hmem.2.2.2]
    simp [Option.filter, hnone]

theorem yields_integerWidth (width : Option Nat) : (integerWidth width).Yields fun w =>
    (w.bits : Int) =
      ((width.map fun n : Nat => (n : Int)).filter (· ∈ [8, 16, 32, 64])).getD 64 := by
  have hbits : ∀ found : Option IntWidth, width.bind IntWidth.ofBits? = found →
      ((width.map fun n : Nat => (n : Int)).filter (· ∈ [8, 16, 32, 64])).getD 64 =
        ((found.getD .w64).bits : Int) := by
    rintro found rfl
    cases width with
    | none => rfl
    | some n =>
      rw [Option.map_some, ← bits_ofBits? n, Option.bind_some]
      cases IntWidth.ofBits? n <;> rfl
  rw [integerWidth]
  split
  · next w hw => exact Check.yields_pure (hbits _ hw).symm
  · next hw =>
    split
    · exact (Check.yields_of_forall (P := fun _ => True) fun _ => trivial).bind fun _ _ =>
        Check.yields_pure (hbits _ hw).symm
    · exact Check.yields_fail _ _

/-- A built-in type of the kind of integers has the width that its object gives. -/
theorem yields_builtin (members : Members) :
    (builtin members).Yields fun b => ∀ width, b = .integer width →
      givenMember? Value.integerWidth? none members "width" =
        some (width.map fun w => (w.bits : Int)) := by
  have hinteger : (widthOf members (fun n => (Builtin.integer ∘ some) <$> integerWidth n)
      (.integer none)).Yields fun b => ∀ width, b = .integer width →
        givenMember? Value.integerWidth? none members "width" =
          some (width.map fun w => (w.bits : Int)) := by
    refine Check.Yields.within ?_ "width"
    unfold givenMember?
    cases Value.member? members "width" with
    | none =>
      refine Check.yields_pure ?_
      rintro width ⟨⟩
      rfl
    | some v =>
      refine (Rule.answers_nullable_nat v).yields.bind fun n hn => ?_
      refine ((yields_integerWidth n).imp fun w hw => ?_).map
      rintro width ⟨⟩
      change (v.number? 0).map _ = _
      rw [Value.number?_eq_size?, hn]
      exact congrArg (some ∘ some) hw.symm
  have hscalar : ∀ k, (widthOf members (fun n => pure (Builtin.scalar k n))
      (.scalar k none)).Yields fun b => ∀ width, b ≠ .integer width := by
    intro k
    refine Check.Yields.within ?_ "width"
    cases Value.member? members "width" with
    | none => exact Check.yields_pure nofun
    | some v =>
      exact (Check.yields_of_forall (P := fun _ => True) fun _ => trivial).bind fun _ _ =>
        Check.yields_pure nofun
  intro ledger b hb width hwidth
  rw [builtin] at hb
  split at hb
  · exact hinteger _ b hb width hwidth
  · exact absurd hwidth (hscalar _ _ b hb width)
  · split at hb <;> cases hb

theorem yields_primitive (inner : Value → Check CType) (members : Members) :
    (form inner members "primitive").check.Yields fun t =>
      (Value.type t).IsInteger → (Value.type t).ShowsIntegerWidth members := by
  refine Form.yields_seq_of_forall (Form.yields_seq
    (F := fun g : Builtin → Bool → CType =>
      ∀ b, ∃ quals, ∀ signed, g b signed = ofBuiltin quals signed b)
    (Form.yields_seq_of_forall (Form.yields_map_of_forall fun quals _ b => ⟨quals, fun _ => rfl⟩))
    (yields_builtin members) fun g b hg hb signed hinteger => ?_)
  obtain ⟨quals, hg⟩ := hg b
  rw [hg signed] at hinteger ⊢
  cases b with
  | integer width =>
    refine ⟨_, hb width rfl, ?_⟩
    cases width <;> rfl
  | scalar kind width =>
    have hkind : builtinName (some kind) = "int" := Option.some.inj hinteger.2
    cases kind <;> exact absurd hkind (by decide)

end CType

/-- What is built from an object with such a field shows the number that the object gives. -/
theorem acceptNamed_shows_number {className key : String} {least : Nat}
    (h : (className, key, least) ∈ numberFields) (members : Members) :
    ∃ check, acceptNamed className (.object members) = some check ∧
      check.Yields (Value.ShowsNumber least members key) := by
  fin_cases h
  · refine ⟨_, rfl, Check.Yields.map (Check.Yields.map (f := RecordField.plain) ?_)⟩
    exact (Field.takes_width.yields_build members).imp fun f hf =>
      Value.showsNumber_of_bitWidth hf rfl
  · refine ⟨_, rfl, Check.Yields.map ?_⟩
    exact (Attribute.takes_width.yields_build members).imp fun a ha =>
      Value.showsNumber_of_bitWidth ha rfl
  · refine ⟨_, rfl, Check.Yields.map ?_⟩
    exact CType.yields_acceptClass (CType.yields_size _ members)
      (fun _ _ _ hfields ⟨n, hn, hshown⟩ =>
        ⟨n, hn, (congrArg (·.lookup "size") hfields).trans hshown⟩) _

/-- An integer type shows the width that the object gives, if it gives one of the four. -/
theorem acceptNamed_shows_integerWidth (members : Members) :
    ∃ check, acceptNamed "PrimitiveType" (.object members) = some check ∧
      check.Yields fun v => v.IsInteger → v.ShowsIntegerWidth members := by
  refine ⟨_, rfl, Check.Yields.map ?_⟩
  refine CType.yields_acceptClass (CType.yields_primitive _ members)
    (fun t after hclass hfields ht hinteger => ?_) _
  have hkind : t.fields.lookup "kind" = after.fields.lookup "kind" := by rw [hfields]
  have hsame : (Value.type t).IsInteger :=
    ⟨hclass.symm.trans hinteger.1, (congrArg (·.bind Value.text?) hkind).trans hinteger.2⟩
  obtain ⟨n, hn, hshown⟩ := ht hsame
  exact ⟨n, hn, (congrArg (·.lookup "width") hfields).trans hshown⟩

/-- A width is assigned to a bit field exactly if the value gives one, and the field shows it
then. -/
theorem Entity.assignTo_width {e : Entity} (h : e.className = "Field" ∨ e.className = "Attribute")
    (v : Value) (ledger : Ledger) :
    (∀ n, v.number? 1 = some n → ∃ after last,
      e.assignTo "width" v ledger = ((.ok (), after), last) ∧ after.id = e.id ∧
      after.className = e.className ∧
      after.fields.lookup "width" = some (Value.ofOption .int n)) ∧
    (v.number? 1 = none →
      ∃ fault last, e.assignTo "width" v ledger = ((.error fault, e), last)) := by
  have hgives : ∀ n, v.number? 1 = some n → ∃ w : Option BitWidth, v.bitWidth? = some w ∧
      (BitWidth.field? w).2 = Value.ofOption .int n := by
    intro n hn
    rw [Value.number?_eq_bitWidth?] at hn
    obtain ⟨w, hw, rfl⟩ := Option.map_eq_some_iff.mp hn
    exact ⟨w, hw, by cases w <;> rfl⟩
  have hnone : v.number? 1 = none → v.bitWidth? = none := by
    intro hn
    rw [Value.number?_eq_bitWidth?] at hn
    exact Option.map_eq_none_iff.mp hn
  cases e with
  | field f =>
    obtain ⟨hsome, hrefused⟩ := Field.takes_width.assign v f ledger
    refine ⟨fun n hn => ?_, fun hn => ?_⟩
    · obtain ⟨w, hw, hshown⟩ := hgives n hn
      obtain ⟨last, hlast⟩ := hsome w hw
      exact ⟨_, last, edited_eq (c := .field) hlast, rfl, rfl, congrArg some hshown⟩
    · exact (hrefused (hnone hn)).imp fun _ => Exists.imp fun _ => edited_eq
  | attr a =>
    obtain ⟨hsome, hrefused⟩ := Attribute.takes_width.assign v a ledger
    refine ⟨fun n hn => ?_, fun hn => ?_⟩
    · obtain ⟨w, hw, hshown⟩ := hgives n hn
      obtain ⟨last, hlast⟩ := hsome w hw
      exact ⟨_, last, edited_eq (c := .attr) hlast, rfl, rfl, congrArg some hshown⟩
    · exact (hrefused (hnone hn)).imp fun _ => Exists.imp fun _ => edited_eq
  | record r => cases hkind : r.kind <;> simp [className, hkind] at h
  | loop l => cases hkind : l.kind <;> simp [className, hkind] at h
  | _ => simp [className] at h

end CWriter

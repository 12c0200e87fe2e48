import CWriter.Proofs.Declarator.Reader

/-!
# What a declarator says is what was declared

The text around a declared name grows layer by layer. Each layer is followed through the reader:
a marker waits until the suffixes in its group are read, and an array closes the group that its
parentheses open. References that apply to references are first put together, since their text
is the same as that of one run of ampersands.
-/
namespace CWriter

open Declarator

/-- A layer around a declarator, as types put it there. -/
def Wrapper.around : Wrapper → String → String
  | .pointer quals, d => CType.applyMarker (CType.pointerMarker quals) d
  | .reference rvalue, d => CType.applyMarker (CType.referenceMarker rvalue) d
  | .array size, d => CType.applySuffix (CType.arraySuffix size) d

namespace CType

theorem applyBase_empty (base : String) : applyBase base "" = base := by
  simp [applyBase]

/-- A declaration is the base type in front of the layers around the declarator. -/
theorem declare_eq_applyBase : (t : CType) → (d : String) →
    t.declare d = applyBase t.base.text (t.wrappers.foldl (fun d w => w.around d) d)
  | integer .., d | scalar .., d | named .., d | template .., d => by
    simp [declare, base, wrappers, text, applyBase_empty]
  | pointer inner quals, d => by
    rw [declare, declare_eq_applyBase inner]
    rfl
  | reference inner rvalue, d => by
    rw [declare, declare_eq_applyBase inner]
    rfl
  | array inner size, d => by
    rw [declare, declare_eq_applyBase inner]
    rfl
  | shared _ inner, d => by
    rw [declare, declare_eq_applyBase inner]
    rfl

end CType

namespace Declarator

/-- A text as it stands behind another one: tight if it is empty or starts with one of some
characters, and behind a space otherwise. -/
def spaced (tight : Char → Bool) : List Char → List Char
  | [] => []
  | c :: rest => if tight c then c :: rest else ' ' :: c :: rest

/-- What stands tight behind a marker without qualifiers. -/
def standsTight (c : Char) : Bool := c == '[' || c == '*' || c == '&'

theorem toList_applyMarker (marker d : String) :
    (CType.applyMarker marker d).toList = marker.toList ++
      spaced (fun c => c == '[' || (c == '*' || c == '&') && [ "*", "&", "&&"].contains marker)
        d.toList := by
  unfold CType.applyMarker
  cases hd : d.toList with
  | nil => simp [spaced]
  | cons c rest =>
    simp only [spaced]
    split <;> split <;> simp_all

theorem toList_applyBase (base d : String) :
    (CType.applyBase base d).toList = base.toList ++ spaced (· == '[') d.toList := by
  unfold CType.applyBase
  cases hd : d.toList with
  | nil => simp [spaced]
  | cons c rest =>
    simp only [spaced]
    split <;> split <;> simp_all

/-- Whether a declarator starts with a marker, so that a suffix would not apply to all of it. -/
def Marked (d : List Char) : Prop := d.head? = some '*' ∨ d.head? = some '&'

theorem toList_applySuffix_marked (suffix d : String) (h : Marked d.toList) :
    (CType.applySuffix suffix d).toList = '(' :: d.toList ++ ')' :: suffix.toList := by
  unfold CType.applySuffix
  cases hd : d.toList with
  | nil => simp [Marked, hd] at h
  | cons c rest =>
    have hc : c = '*' ∨ c = '&' := by simpa [Marked, hd] using h
    simp [hc, hd]

theorem toList_applySuffix_plain (suffix d : String) (h : ¬ Marked d.toList) :
    (CType.applySuffix suffix d).toList = d.toList ++ suffix.toList := by
  unfold CType.applySuffix
  cases hd : d.toList with
  | nil => simp
  | cons c rest =>
    have hc : ¬ (c = '*' ∨ c = '&') := by simpa [Marked, hd] using h
    simp [hc, hd]

/-- A part around a declarator. References stand for all their ampersands at once. -/
def Part.around : Part → List Char → List Char
  | .pointer quals, d => (CType.applyMarker (CType.pointerMarker quals) (String.ofList d)).toList
  | .references n, d => List.replicate n '&' ++ spaced standsTight d
  | .array size, d => (CType.applySuffix (CType.arraySuffix size) (String.ofList d)).toList

theorem reference_around (rvalue : Bool) (d : String) :
    (Wrapper.around (.reference rvalue) d).toList =
      Part.around (.references (ampersands rvalue)) d.toList := by
  rw [Wrapper.around, toList_applyMarker, Part.around]
  have htight : (fun c => c == '[' || (c == '*' || c == '&') &&
      [ "*", "&", "&&"].contains (CType.referenceMarker rvalue)) = standsTight := by
    funext c
    cases rvalue <;> simp [CType.referenceMarker, standsTight, Bool.or_assoc]
  rw [htight]
  cases rvalue <;> rfl

/-- References around references are one run of ampersands. -/
theorem references_around_references (m : Nat) {n : Nat} (hn : 0 < n) (d : List Char) :
    Part.around (.references m) (Part.around (.references n) d) =
      Part.around (.references (m + n)) d := by
  obtain ⟨k, rfl⟩ : ∃ k, n = k + 1 := ⟨n - 1, by omega⟩
  have htight : spaced standsTight (List.replicate (k + 1) '&' ++ spaced standsTight d) =
      List.replicate (k + 1) '&' ++ spaced standsTight d := by
    rw [List.replicate_succ, List.cons_append, spaced]
    rfl
  simp only [Part.around]
  rw [htight, ← List.append_assoc, ← List.replicate_add]

/-- Two parts of which at most one stands for references. -/
def Part.Apart : Part → Part → Prop
  | .references _, .references _ => False
  | _, _ => True

/-- No references next to references, and none without ampersands. -/
structure Collapsed (parts : List Part) : Prop where
  apart : parts.IsChain Part.Apart
  positive : ∀ n, .references n ∈ parts → 0 < n

theorem ampersands_pos (rvalue : Bool) : 0 < ampersands rvalue := by
  cases rvalue <;> decide

theorem Collapsed.tail {p : Part} {parts : List Part} (h : Collapsed (p :: parts)) :
    Collapsed parts :=
  ⟨h.apart.tail, fun n hn => h.positive n (List.mem_cons_of_mem p hn)⟩

theorem Collapsed.cons {p : Part} {parts : List Part} (hp : ∀ n, p ≠ .references n)
    (h : Collapsed parts) : Collapsed (p :: parts) := by
  refine ⟨List.isChain_cons.mpr ⟨fun q _ => ?_, h.apart⟩, fun n hn => ?_⟩
  · cases p with
    | references n => exact absurd rfl (hp n)
    | pointer | array => trivial
  · rcases List.mem_cons.mp hn with rfl | hn
    · exact absurd rfl (hp n)
    · exact h.positive n hn

theorem Collapsed.addReference {parts : List Part} {n : Nat} (hn : 0 < n)
    (h : Collapsed parts) : Collapsed (addReference n parts) := by
  cases parts with
  | nil => exact ⟨List.isChain_singleton _, by simp [Declarator.addReference, hn]⟩
  | cons p parts =>
    cases p with
    | references m =>
      refine ⟨List.isChain_cons.mpr ⟨fun q hq => ?_, h.apart.tail⟩, fun k hk => ?_⟩
      · have hmq : (Part.references m).Apart q := (List.isChain_cons.mp h.apart).1 q hq
        cases q with
        | references => exact hmq.elim
        | pointer | array => trivial
      · rcases List.mem_cons.mp hk with hk | hk
        · cases hk
          omega
        · exact h.positive k (List.mem_cons_of_mem _ hk)
    | pointer | array =>
      refine ⟨List.isChain_cons.mpr ⟨fun q hq => ?_, h.apart⟩, fun k hk => ?_⟩
      · obtain rfl := Option.some.inj hq
        trivial
      · rcases List.mem_cons.mp hk with hk | hk
        · cases hk
          exact hn
        · exact h.positive k hk

theorem collapsed_collapse (ws : List Wrapper) : Collapsed (collapse ws) := by
  induction ws with
  | nil => exact ⟨List.isChain_nil, by simp [collapse]⟩
  | cons w ws ih =>
    cases w with
    | pointer quals => exact ih.cons (by simp)
    | array size => exact ih.cons (by simp)
    | reference rvalue => exact ih.addReference (ampersands_pos rvalue)

/-- The text around a name depends on the collapsed layers alone. -/
theorem toList_foldl_around (ws : List Wrapper) (d : String) :
    (ws.foldl (fun d w => w.around d) d).toList =
      (collapse ws).foldl (fun d p => p.around d) d.toList := by
  induction ws generalizing d with
  | nil => rfl
  | cons w ws ih =>
    rw [List.foldl_cons, ih]
    cases w with
    | pointer quals => simp [collapse, Wrapper.around, Part.around]
    | array size => simp [collapse, Wrapper.around, Part.around]
    | reference rvalue =>
      rw [reference_around, collapse]
      cases hc : collapse ws with
      | nil => rfl
      | cons p parts =>
        cases p with
        | references n =>
          rw [List.foldl_cons, references_around_references n (ampersands_pos rvalue),
            Nat.add_comm, addReference, List.foldl_cons]
        | pointer | array => simp only [addReference, List.foldl_cons]

/-- What can stand behind a declarator in a group: nothing, a bracket, or the end of the group. -/
def Follows (rest : List (List Char)) : Prop :=
  rest = [] ∨ rest.head? = some ['['] ∨ rest.head? = some [')']

/-- How the reader comes through a declarator: behind it, the markers in front of it are put to
those that wait already, and the other parts have been read. -/
structure Splits (d : List Char) (name : String) (core markers : List Part) : Prop where
  marked : markers = [] ↔ ¬ Marked d
  run : ∀ waiting outer rest, Follows rest →
    readPrefix waiting outer (lexemes d ++ rest) =
      readSuffixes name core (markers ++ waiting) outer rest

theorem lexemes_spaced (tight : Char → Bool) (a d : List Char)
    (h : ∀ x ∈ a.getLast?, ∀ y ∈ d.head?, tight y = true → joined x y = false) :
    lexemes (a ++ spaced tight d) = lexemes a ++ lexemes d := by
  cases d with
  | nil => simp [spaced, lexemes]
  | cons c rest =>
    by_cases hc : tight c = true
    · rw [spaced, if_pos hc]
      refine lexemes_append fun x hx y hy => ?_
      obtain rfl : c = y := by simpa using hy
      exact h x hx c (by simp) hc
    · rw [spaced, if_neg hc, lexemes_append_mark (by decide), lexemes_space]

theorem pointerMarker_eq_star (quals : Qualifiers)
    (h : [ "*", "&", "&&"].contains (CType.pointerMarker quals) = true) :
    CType.pointerMarker quals = "*" := by
  obtain ⟨_ | _, _ | _⟩ := quals <;> revert h <;> decide

theorem lexemes_pointer (quals : Qualifiers) (d : List Char) :
    lexemes (Part.around (.pointer quals) d) =
      lexemes (CType.pointerMarker quals).toList ++ lexemes d := by
  rw [Part.around, toList_applyMarker, String.toList_ofList]
  refine lexemes_spaced _ _ _ fun x hx y hy htight => ?_
  have hy : y = '[' ∨ (y = '*' ∨ y = '&') ∧ CType.pointerMarker quals = "*" := by
    simp only [Bool.or_eq_true, Bool.and_eq_true, beq_iff_eq] at htight
    exact htight.imp_right (And.imp_right (pointerMarker_eq_star quals))
  rcases hy with rfl | ⟨rfl | rfl, hq⟩
  · exact joined_mark_right (by decide) x
  · exact joined_mark_right (by decide) x
  · rw [hq] at hx
    obtain rfl : '*' = x := by simpa using hx
    decide

theorem lexemes_references {n : Nat} (hn : 0 < n) {d : List Char} (hd : d.head? ≠ some '&') :
    lexemes (Part.around (.references n) d) = List.replicate n '&' :: lexemes d := by
  rw [Part.around, lexemes_spaced, lexemes_ampersands hn]
  · rfl
  · intro x _ y hy htight
    have hy' : y = '[' ∨ y = '*' := by
      have hne : y ≠ '&' := by
        rintro rfl
        exact hd hy
      simpa [standsTight, hne] using htight
    rcases hy' with rfl | rfl <;> exact joined_mark_right (by decide) x

/-- A star and its qualifiers are one waiting marker. -/
theorem readPrefix_pointer (quals : Qualifiers) (waiting : List Part) (outer : List (List Part))
    (rest : List (List Char)) :
    readPrefix waiting outer (lexemes (CType.pointerMarker quals).toList ++ rest) =
      readPrefix (.pointer quals :: waiting) outer rest := by
  obtain ⟨_ | _, _ | _⟩ := quals <;> rfl

theorem readPrefix_references {n : Nat} (hn : 0 < n) (waiting : List Part)
    (outer : List (List Part)) (rest : List (List Char)) :
    readPrefix waiting outer (List.replicate n '&' :: rest) =
      readPrefix (.references n :: waiting) outer rest := by
  obtain ⟨k, rfl⟩ : ∃ k, n = k + 1 := ⟨n - 1, by omega⟩
  rw [List.replicate_succ]
  simp [readPrefix]

/-- A bracket behind a declarator is read as the size in it. -/
theorem readSuffixes_array (name : String) (parts markers : List Part)
    (outer : List (List Part)) (size : Option Nat) (rest : List (List Char)) :
    readSuffixes name parts markers outer
        (lexemes (CType.arraySuffix size).toList ++ rest) =
      readSuffixes name (parts ++ [.array size]) markers outer rest := by
  cases size with
  | none => rfl
  | some n =>
    have hdigit := isDigit_toDigits n
    have hword : lexemes (Nat.toDigits 10 n) = [Nat.toDigits 10 n] :=
      lexemes_word Nat.toDigits_ne_nil fun c hc => isWordChar_of_isDigit (hdigit c hc)
    have htext : (CType.arraySuffix (some n)).toList = '[' :: (Nat.toDigits 10 n ++ [']']) := by
      simp [CType.arraySuffix]
    rw [htext, lexemes_mark_append (by decide), lexemes_append_mark (by decide), hword]
    change readSuffixes name parts markers outer
      (['['] :: Nat.toDigits 10 n :: [']'] :: rest) = _
    rw [readSuffixes, if_pos (by simpa using hdigit), Nat.ofDigitChars_ten_toDigits]
    intro h
    exact absurd (hdigit ']' (by simp [h])) (by decide)

theorem Splits.pointer {d : List Char} {name : String} {core markers : List Part}
    (h : Splits d name core markers) (quals : Qualifiers) :
    Splits (Part.around (.pointer quals) d) name core (markers ++ [.pointer quals]) where
  marked := by
    have hstar : Marked (Part.around (.pointer quals) d) := by
      rw [Part.around, toList_applyMarker]
      obtain ⟨_ | _, _ | _⟩ := quals <;> exact Or.inl rfl
    simp [hstar]
  run waiting outer rest hrest := by
    rw [lexemes_pointer, List.append_assoc, readPrefix_pointer, h.run _ _ _ hrest,
      List.append_assoc]
    rfl

theorem Splits.references {d : List Char} {name : String} {core markers : List Part}
    (h : Splits d name core markers) {n : Nat} (hn : 0 < n) (hd : d.head? ≠ some '&') :
    Splits (Part.around (.references n) d) name core (markers ++ [.references n]) where
  marked := by
    have hamp : Marked (Part.around (.references n) d) := by
      obtain ⟨k, rfl⟩ : ∃ k, n = k + 1 := ⟨n - 1, by omega⟩
      exact Or.inr rfl
    simp [hamp]
  run waiting outer rest hrest := by
    rw [lexemes_references hn hd, List.cons_append, readPrefix_references hn, h.run _ _ _ hrest,
      List.append_assoc]
    rfl

theorem arraySuffix_cons (size : Option Nat) :
    ∃ rest, (CType.arraySuffix size).toList = '[' :: rest := by
  cases size with
  | none => exact ⟨[']'], rfl⟩
  | some n => exact ⟨(toString n ++ "]").toList, by simp [CType.arraySuffix]⟩

theorem follows_array (size : Option Nat) (rest : List (List Char)) :
    Follows (lexemes (CType.arraySuffix size).toList ++ rest) := by
  obtain ⟨suffix, hsuffix⟩ := arraySuffix_cons size
  rw [hsuffix, lexemes_mark_append (by decide)]
  exact Or.inr (Or.inl rfl)

/-- An array takes the whole declarator with it, markers included: these stand in parentheses. -/
theorem Splits.array {d : List Char} {name : String} {core markers : List Part}
    (h : Splits d name core markers) (size : Option Nat) :
    Splits (Part.around (.array size) d) name (core ++ markers ++ [.array size]) [] := by
  obtain ⟨suffix, hsuffix⟩ := arraySuffix_cons size
  by_cases hm : Marked d
  · have htext : Part.around (.array size) d =
        '(' :: d ++ ')' :: (CType.arraySuffix size).toList := by
      rw [Part.around, toList_applySuffix_marked _ _ (by simpa using hm), String.toList_ofList]
    have hlex : lexemes (Part.around (.array size) d) =
        ['('] :: lexemes d ++ [')'] :: lexemes (CType.arraySuffix size).toList := by
      rw [htext, List.cons_append, lexemes_mark_append (by decide),
        lexemes_append_mark (by decide),
        lexemes_mark_append (by decide) (CType.arraySuffix _).toList]
      rfl
    refine ⟨by simp [htext, Marked], fun waiting outer rest hrest => ?_⟩
    have hclose : Follows ([')'] :: (lexemes (CType.arraySuffix size).toList ++ rest)) :=
      Or.inr (Or.inr rfl)
    calc readPrefix waiting outer (lexemes (Part.around (.array size) d) ++ rest)
        = readPrefix [] (waiting :: outer)
            (lexemes d ++ [')'] :: (lexemes (CType.arraySuffix size).toList ++ rest)) := by
          rw [hlex]
          simp [readPrefix]
      _ = readSuffixes name (core ++ markers) waiting outer
            (lexemes (CType.arraySuffix size).toList ++ rest) := by
          rw [h.run _ _ _ hclose, readSuffixes, List.append_nil]
      _ = readSuffixes name (core ++ markers ++ [.array size]) ([] ++ waiting) outer rest := by
          rw [readSuffixes_array]
          rfl
  · have hnil : markers = [] := h.marked.mpr hm
    have htext : Part.around (.array size) d = d ++ (CType.arraySuffix size).toList := by
      rw [Part.around, toList_applySuffix_plain _ _ (by simpa using hm), String.toList_ofList]
    have hlex : lexemes (Part.around (.array size) d) =
        lexemes d ++ lexemes (CType.arraySuffix size).toList := by
      rw [htext, hsuffix, lexemes_append_mark (by decide)]
    refine ⟨?_, fun waiting outer rest _ => ?_⟩
    · rw [htext, hsuffix]
      cases d with
      | nil => simp [Marked]
      | cons c d => simpa [Marked] using hm
    · rw [hlex, List.append_assoc, h.run _ _ _ (follows_array size rest), readSuffixes_array, hnil,
        List.append_nil]

/-- A name is passed over, and so is the place where none stands. -/
theorem splits_name {name : String} (h : Declarable name) : Splits name.toList name [] [] := by
  rcases h with rfl | ⟨hname, hconst, hvolatile⟩
  · refine ⟨by simp [Marked], fun waiting outer rest hrest => ?_⟩
    cases rest with
    | nil => rfl
    | cons lexeme rest =>
      have hl : lexeme = ['['] ∨ lexeme = [')'] := by simpa [Follows] using hrest
      rcases hl with rfl | rfl <;> rfl
  · obtain ⟨hne, hword⟩ := isWordChar_of_isName hname
    have hstart : ∀ c, name.toList.head? = some c → isWordChar c = true := fun c hc =>
      hword c (List.mem_of_mem_head? hc)
    have hmark : ¬ Marked name.toList := by
      rintro (hs | ha)
      · exact absurd (hstart _ hs) (by decide)
      · exact absurd (hstart _ ha) (by decide)
    refine ⟨by simp [hmark], fun waiting outer rest _ => ?_⟩
    have hstar : name.toList ≠ ['*'] := fun he => absurd (hstart '*' (by simp [he])) (by decide)
    have hopen : name.toList ≠ ['('] := fun he => absurd (hstart '(' (by simp [he])) (by decide)
    have hamp : name.toList.head? ≠ some '&' := fun he => absurd (hstart _ he) (by decide)
    have hc : name.toList ≠ ['c', 'o', 'n', 's', 't'] := fun he =>
      hconst (String.toList_inj.mp he)
    have hv : name.toList ≠ ['v', 'o', 'l', 'a', 't', 'i', 'l', 'e'] := fun he =>
      hvolatile (String.toList_inj.mp he)
    rw [lexemes_word hne hword, List.singleton_append, readPrefix]
    · simp [hamp, hc, hv, hname]
    · exact hstar
    · exact hopen

theorem head?_around {p : Part} {d : List Char} (h : (p.around d).head? = some '&') :
    ∃ n, p = .references n := by
  cases p with
  | references n => exact ⟨n, rfl⟩
  | pointer quals =>
    exfalso
    rw [Part.around, toList_applyMarker] at h
    obtain ⟨_ | _, _ | _⟩ := quals <;>
      exact absurd (Option.some.inj h : '*' = '&') (by decide)
  | array size =>
    exfalso
    obtain ⟨suffix, hsuffix⟩ := arraySuffix_cons size
    by_cases hm : Marked d
    · rw [Part.around, toList_applySuffix_marked _ _ (by simpa using hm)] at h
      simp at h
    · rw [Part.around, toList_applySuffix_plain _ _ (by simpa using hm), hsuffix] at h
      cases d with
      | nil => simp at h
      | cons c d => exact hm (Or.inr (by simpa using h))

/-- The reader comes through a whole chain of parts. The induction is on the parts still to be
put around the declarator; what was read so far is the declarator's own. -/
theorem Splits.foldl {name : String} {parts : List Part} {d : List Char}
    {core markers : List Part} (hc : Collapsed parts)
    (hd : d.head? = some '&' → ∀ n, parts.head? ≠ some (.references n))
    (h : Splits d name core markers) :
    ∃ core' markers', core' ++ markers' = core ++ markers ++ parts ∧
      Splits (parts.foldl (fun d p => p.around d) d) name core' markers' := by
  induction parts generalizing d core markers with
  | nil => exact ⟨core, markers, by simp, h⟩
  | cons p parts ih =>
    have hnext : (p.around d).head? = some '&' → ∀ n, parts.head? ≠ some (.references n) := by
      intro hamp n hn
      obtain ⟨m, rfl⟩ := head?_around hamp
      exact (List.isChain_cons.mp hc.apart).1 _ hn
    rw [List.foldl_cons]
    cases p with
    | pointer quals =>
      obtain ⟨core', markers', he, hs⟩ := ih hc.tail hnext (h.pointer quals)
      exact ⟨core', markers', by simpa using he, hs⟩
    | references n =>
      have hn : 0 < n := hc.positive n (by simp)
      have hamp : d.head? ≠ some '&' := fun ha => hd ha n rfl
      obtain ⟨core', markers', he, hs⟩ := ih hc.tail hnext (h.references hn hamp)
      exact ⟨core', markers', by simpa using he, hs⟩
    | array size =>
      obtain ⟨core', markers', he, hs⟩ := ih hc.tail hnext (h.array size)
      exact ⟨core', markers', by simpa using he, hs⟩

theorem Splits.read {d : List Char} {name : String} {core markers : List Part}
    (h : Splits d name core markers) :
    readPrefix [] [] (lexemes d) = some (name, core ++ markers) := by
  have hrun := h.run [] [] [] (Or.inl rfl)
  rw [List.append_nil, List.append_nil] at hrun
  rw [hrun]
  rfl

/-- Reading gives back what was put around a name. -/
theorem readPrefix_foldl_around {name : String} (h : Declarable name) (ws : List Wrapper) :
    readPrefix [] [] (lexemes (ws.foldl (fun d w => w.around d) name).toList) =
      some (name, collapse ws) := by
  have hname := splits_name h
  have hamp : name.toList.head? ≠ some '&' := fun ha =>
    hname.marked.mp rfl (Or.inr ha)
  obtain ⟨core, markers, he, hs⟩ :=
    Splits.foldl (collapsed_collapse ws) (fun ha => absurd ha hamp) hname
  rw [toList_foldl_around, hs.read, he]
  rfl

/-- What a layer leaves behind when no reference applies to it and it applies to none. -/
def partOf : Wrapper → Part
  | .pointer quals => .pointer quals
  | .reference rvalue => .references (ampersands rvalue)
  | .array size => .array size

theorem partOf_injective : Function.Injective partOf := by
  intro v w h
  cases v <;> cases w <;> simp only [partOf, Part.pointer.injEq, Part.array.injEq,
    Part.references.injEq, reduceCtorEq] at h
  case pointer => rw [h]
  case reference r s => cases r <;> cases s <;> first | rfl | cases h
  case array => rw [h]

/-- Two layers of which at most one is a reference. -/
def ApartLayers : Wrapper → Wrapper → Prop
  | .reference _, .reference _ => False
  | _, _ => True

/-- Where no reference applies to a reference, nothing is collapsed. -/
theorem collapse_eq_map {ws : List Wrapper} (h : ws.IsChain ApartLayers) :
    collapse ws = ws.map partOf := by
  induction ws with
  | nil => rfl
  | cons w ws ih =>
    have hws := ih h.tail
    cases w with
    | pointer quals => rw [collapse, hws]; rfl
    | array size => rw [collapse, hws]; rfl
    | reference rvalue =>
      rw [collapse, hws]
      cases ws with
      | nil => rfl
      | cons v ws =>
        cases v with
        | reference => exact ((List.isChain_cons.mp h).1 _ rfl).elim
        | pointer | array => rfl

end Declarator

namespace CType

/-- What stands behind the base type of a declaration. -/
theorem declare_eq_append (t : CType) (name : String) :
    ∃ rest, t.declare name = t.base.text ++ rest ∧
      lexemes rest.toList = lexemes (t.wrappers.foldl (fun d w => w.around d) name).toList := by
  let d := t.wrappers.foldl (fun d w => w.around d) name
  refine ⟨String.ofList (spaced (· == '[') d.toList), ?_, ?_⟩
  · rw [declare_eq_applyBase, ← String.toList_inj, toList_applyBase]
    simp [d]
  · have h := lexemes_spaced (· == '[') [] d.toList (by simp)
    simpa [lexemes, d] using h

/-- A declaration starts with its base type, and the rest of it, read as C reads a declarator,
gives back the name and every layer. Only references that apply to references lose something:
a run of them comes back as its number of ampersands. So over one base two declarations of a
name are the same text exactly if their layers agree up to that, and exactly if their layers
agree where no reference applies to a reference. -/
theorem declare_round_trip (t : CType) {name : String} (h : Declarable name) :
    (∃ rest, t.declare name = t.base.text ++ rest ∧
      Declarator.read rest = some (name, collapse t.wrappers)) ∧
    ∀ u : CType, u.base.text = t.base.text →
      (u.declare name = t.declare name ↔ collapse u.wrappers = collapse t.wrappers) ∧
      (u.wrappers.IsChain ApartLayers → t.wrappers.IsChain ApartLayers →
        (u.declare name = t.declare name ↔ u.wrappers = t.wrappers)) := by
  have hread : ∀ u : CType, ∃ rest, u.declare name = u.base.text ++ rest ∧
      Declarator.read rest = some (name, collapse u.wrappers) := by
    intro u
    obtain ⟨rest, he, hl⟩ := u.declare_eq_append name
    exact ⟨rest, he, by rw [Declarator.read, hl, readPrefix_foldl_around h]⟩
  refine ⟨hread t, fun u hbase => ?_⟩
  have hsame : u.declare name = t.declare name ↔ collapse u.wrappers = collapse t.wrappers := by
    constructor
    · intro he
      obtain ⟨rest, ht, hr⟩ := hread t
      obtain ⟨rest', hu, hr'⟩ := hread u
      rw [hu, ht, hbase, String.append_right_inj] at he
      rw [he, hr] at hr'
      exact (Prod.mk.inj (Option.some.inj hr')).2.symm
    · intro he
      rw [declare_eq_applyBase u, declare_eq_applyBase t, hbase]
      congr 1
      rw [← String.toList_inj, toList_foldl_around, toList_foldl_around, he]
  refine ⟨hsame, fun hu ht => ?_⟩
  rw [hsame, collapse_eq_map hu, collapse_eq_map ht]
  exact (List.map_injective_iff.mpr partOf_injective).eq_iff

/-- An array of constant pointers to an rvalue reference to a reference. -/
theorem declare_round_trip_reference_run :
    Declarable "x" ∧
    (∃ rest, (array (pointer (reference (reference void false) true) { isConst := true })
        (some 4)).declare "x" = "void" ++ rest ∧
      Declarator.read rest =
        some ("x", [.array (some 4), .pointer { isConst := true }, .references 3])) ∧
    ((reference (reference void true) false).declare "x" =
        (reference (reference void false) true).declare "x" ↔
      collapse [.reference false, .reference true] =
        collapse [.reference true, .reference false]) :=
  have h : Declarable "x" := by decide
  ⟨h,
    (declare_round_trip
      (array (pointer (reference (reference void false) true) { isConst := true }) (some 4)) h).1,
    ((declare_round_trip (reference (reference void false) true) h).2
      (reference (reference void true) false) rfl).1⟩

end CType

end CWriter

import CWriter.Data.Json
import CWriter.Proofs.Declarator.Reader
import Mathlib.Data.List.DropRight
import Mathlib.Tactic.IntervalCases

/-!
# Saved text is read back

What is written for a number or a truth value is read as that value wherever the characters behind
it do not go on with it. An object with one member to a line is read as the list of its members, in
the order of the lines.
-/
namespace CWriter.Json

open Declarator (isDigit_toDigits toList_ofNat toList_negSucc)

variable {limits : Limits}

theorem skipSpace_cons_of_isJsonSpace {c : Char} (h : isJsonSpace c = true) (cs : List Char) :
    skipSpace (c :: cs) = skipSpace cs := by
  rw [skipSpace, List.dropWhile_cons, if_pos h]
  rfl

theorem skipSpace_cons_of_not {c : Char} (h : isJsonSpace c = false) (cs : List Char) :
    skipSpace (c :: cs) = c :: cs := by
  rw [skipSpace, List.dropWhile_cons, if_neg (by simp [h])]

theorem value?_space {c : Char} (h : isJsonSpace c = true) (fuel room : Nat) (cs : List Char) :
    value? limits fuel room (c :: cs) = value? limits fuel room cs := by
  cases fuel with
  | zero => rw [value?, value?]
  | succ fuel => rw [value?, value?, skipSpace_cons_of_isJsonSpace h]

/-- The characters at which a number has ended. -/
def endsNumber (c : Char) : Bool := !(c.isDigit || c == '.' || c == 'e' || c == 'E')

/-- What is behind a number does not go on with it. -/
def Ended (rest : List Char) : Prop := ∀ c ∈ rest.head?, endsNumber c = true

/-- Characters that are read as a value whatever is behind them, if that does not go on with it. -/
def Spells (limits : Limits) (cs : List Char) (v : Value) : Prop :=
  ∀ (fuel room : Nat) (rest : List Char), Ended rest →
    value? limits (fuel + 1) room (cs ++ rest) = some (v, rest)

theorem spells_bool (b : Bool) : Spells limits (toString b).toList (.bool b) := by
  intro fuel room rest _
  cases b <;> rfl

/-- The digits of a number start with a zero only for zero. -/
theorem head?_toDigits (n : Nat) (h : 0 < n) : (Nat.toDigits 10 n).head? ≠ some '0' := by
  induction n using Nat.strongRecOn with
  | ind n ih =>
    rcases Nat.lt_or_ge n 10 with hsmall | hlarge
    · rw [Nat.toDigits_of_lt_base hsmall]
      interval_cases n <;> decide
    · rw [Nat.toDigits_of_base_le (by decide) hlarge,
        List.head?_append_of_ne_nil _ Nat.toDigits_ne_nil]
      exact ih (n / 10) (by omega) (by omega)

theorem digits_append {ds rest : List Char} (hdigits : ∀ c ∈ ds, c.isDigit = true)
    (hrest : Ended rest) : digits (ds ++ rest) = (ds, rest) := by
  have hstop : ∀ c ∈ rest.head?, c.isDigit = false := fun c hc => by
    have hends := hrest c hc
    simp only [endsNumber] at hends
    simp_all
  rw [digits, List.takeWhile_append_of_pos hdigits, List.dropWhile_append_of_pos hdigits]
  cases rest with
  | nil => simp
  | cons c rest => simp [hstop c rfl]

theorem whole?_append (n : Nat) {rest : List Char} (hrest : Ended rest) :
    whole? (Nat.toDigits 10 n ++ rest) = some (Nat.toDigits 10 n, rest) := by
  rw [whole?, digits_append (isDigit_toDigits n) hrest]
  split
  · next h => exact absurd (congrArg Prod.fst h) Nat.toDigits_ne_nil
  · next h =>
    have hzero : n = 0 := by
      refine Nat.eq_zero_of_not_pos fun hpos => head?_toDigits n hpos ?_
      rw [(Prod.mk.inj h).1]
      rfl
    subst hzero
    cases h
  · rfl

theorem fraction?_of_ended {rest : List Char} (hrest : Ended rest) :
    fraction? rest = some (none, rest) := by
  unfold fraction?
  split
  · exact absurd (hrest '.' rfl) (by decide)
  · rfl

theorem exponent?_of_ended {rest : List Char} (hrest : Ended rest) :
    exponent? rest = some (none, rest) := by
  cases rest with
  | nil => rfl
  | cons c rest =>
    have hends := hrest c rfl
    have hletter : ¬(c = 'e' ∨ c = 'E') := by
      rintro (rfl | rfl) <;> exact absurd hends (by decide)
    simp only [exponent?]
    rw [if_neg (by simpa using hletter)]

theorem number?_append {n : Nat} (hshort : limits.allowsWhole (Nat.toDigits 10 n).length = true)
    (negative : Bool) {rest : List Char} (hrest : Ended rest) :
    number? limits negative (Nat.toDigits 10 n ++ rest) =
      some (.int (if negative then -(n : Int) else n), rest) := by
  have hvalue : value (Nat.toDigits 10 n) = n := Nat.ofDigitChars_ten_toDigits
  simp [number?, whole?_append n hrest, hshort, fraction?_of_ended hrest,
    exponent?_of_ended hrest, hvalue]

theorem after?_of_ne {first c : Char} (h : first ≠ c) (word cs : List Char) :
    after? (first :: word) (c :: cs) = none := by
  rw [after?, List.isPrefixOf, beq_eq_false_iff_ne.mpr h]
  rfl

theorem signed?_append {n : Nat} (hshort : limits.allowsWhole (Nat.toDigits 10 n).length = true)
    (negative : Bool) {rest : List Char} (hrest : Ended rest) :
    signed? limits negative (Nat.toDigits 10 n ++ rest) =
      some (.int (if negative then -(n : Int) else n), rest) := by
  obtain ⟨c, ds, hds⟩ := List.exists_cons_of_ne_nil (Nat.toDigits_ne_nil (b := 10) (n := n))
  have hc : c.isDigit = true := isDigit_toDigits n c (hds ▸ List.mem_cons_self)
  have hword : after? infinityWord (Nat.toDigits 10 n ++ rest) = none := by
    rw [hds, List.cons_append]
    refine after?_of_ne (fun h => ?_) _ _
    subst h
    exact absurd hc (by decide)
  rw [signed?, hword]
  exact number?_append hshort negative hrest

/-- A digit starts none of the other values. -/
theorem value?_digit {c : Char} (hc : c.isDigit = true) (fuel room : Nat) (cs : List Char) :
    value? limits (fuel + 1) room (c :: cs) = signed? limits false (c :: cs) := by
  have hne (d : Char) (hd : d.isDigit = false) : c ≠ d := fun h => by
    rw [h, hd] at hc
    cases hc
  have hspace : isJsonSpace c = false := by
    simp [isJsonSpace, hne ' ' rfl, hne '\t' rfl, hne '\n' rfl, hne '\r' rfl]
  have hword : after? nanWord (c :: cs) = none := after?_of_ne (hne 'N' rfl).symm _ _
  rw [value?, skipSpace_cons_of_not hspace]
  split
  case h_8 => rw [hword]
  all_goals
    next h =>
      cases h
      cases hc

theorem spells_int {n : Int}
    (hshort : limits.allowsWhole (Nat.toDigits 10 n.natAbs).length = true) :
    Spells limits (toString n).toList (.int n) := by
  intro fuel room rest hrest
  cases n with
  | ofNat n =>
    obtain ⟨c, ds, hds⟩ := List.exists_cons_of_ne_nil (Nat.toDigits_ne_nil (b := 10) (n := n))
    have hc : c.isDigit = true := isDigit_toDigits n c (hds ▸ List.mem_cons_self)
    have hread := signed?_append hshort false hrest
    rw [Int.natAbs_ofNat', hds] at hread
    rw [toList_ofNat, hds, List.cons_append, value?_digit hc]
    exact hread
  | negSucc n =>
    rw [toList_negSucc, List.cons_append]
    exact signed?_append hshort true hrest

/-- The characters that stand for themselves between quotes. -/
def isLiteral (c : Char) : Bool := c != '"' && c != '\\' && 0x20 ≤ c.toNat

theorem text?_append {name : List Char} (hname : ∀ c ∈ name, isLiteral c = true)
    (read rest : List Char) :
    text? read (name ++ '"' :: rest) = some (read.reverse ++ name, rest) := by
  induction name generalizing read with
  | nil => rw [List.nil_append, text?, List.append_nil]
  | cons c name ih =>
    obtain ⟨hc, hrest⟩ := List.forall_mem_cons.mp hname
    simp only [isLiteral, Bool.and_eq_true, bne_iff_ne, decide_eq_true_iff] at hc
    rw [List.cons_append, text?.eq_def]
    split
    case h_6 =>
      next h =>
        cases h
        rw [if_neg (by omega), ih hrest, List.reverse_cons, List.append_assoc]
        rfl
    all_goals simp_all

theorem members?_skipSpace (fuel room : Nat) (cs : List Char) :
    members? limits fuel room (skipSpace cs) = members? limits fuel room cs := by
  cases fuel with
  | zero => rw [members?, members?]
  | succ fuel => rw [members?, members?, skipSpace, skipSpace, List.dropWhile_idempotent]

/-- A member as it is written: a name that stands for itself between quotes, and characters that
are read as the value. -/
structure Written (limits : Limits) where
  name : String
  text : String
  value : Value
  literal : ∀ c ∈ name.toList, isLiteral c = true
  spells : Spells limits text.toList value

namespace Written

def member (w : Written limits) : String × Value := (w.name, w.value)

/-- A member on a line of its own. -/
def line (w : Written limits) : List Char :=
  ' ' :: ' ' :: '"' :: w.name.toList ++ '"' :: ':' :: ' ' :: w.text.toList

/-- Members on lines below each other, up to the closing brace. -/
def lines : List (Written limits) → List Char
  | [] => ['\n', '}']
  | [w] => '\n' :: w.line ++ ['\n', '}']
  | w :: next :: rest => '\n' :: w.line ++ ',' :: lines (next :: rest)

theorem members?_line (w : Written limits) {rest : List Char} (hrest : Ended rest)
    (fuel room : Nat) :
    members? limits (fuel + 2) room ('\n' :: w.line ++ rest) =
      match skipSpace rest with
      | ',' :: rest => (members? limits (fuel + 1) room rest).map fun (ms, rest) =>
          (w.member :: ms, rest)
      | '}' :: rest => some ([w.member], rest)
      | _ => none := by
  have hquote : skipSpace ('\n' :: w.line ++ rest) =
      '"' :: (w.name.toList ++ '"' :: (':' :: ' ' :: (w.text.toList ++ rest))) := by
    rw [line]
    simp [skipSpace_cons_of_isJsonSpace, skipSpace_cons_of_not, isJsonSpace]
  have hcolon : skipSpace (':' :: ' ' :: (w.text.toList ++ rest)) =
      ':' :: ' ' :: (w.text.toList ++ rest) := rfl
  rw [members?, hquote]
  simp only [text?_append w.literal, hcolon, value?_space (c := ' ') rfl,
    w.spells fuel room rest hrest, List.reverse_nil, List.nil_append, Option.bind_eq_bind,
    Option.bind_some, String.ofList_toList]
  rfl

/-- What is written is read as a list of members, each with its value. The induction is on the
lines; each takes one unit of fuel, and its value one more. -/
theorem members?_lines {ws : List (Written limits)} (hne : ws ≠ []) {fuel : Nat}
    (hfuel : ws.length < fuel) (room : Nat) (rest : List Char) :
    members? limits fuel room (lines ws ++ rest) = some (ws.map member, rest) := by
  have hends : ∀ c ∈ ['\n', ','], ∀ rest : List Char, Ended (c :: rest) := by
    rintro c hc rest d hd
    cases hd
    obtain rfl | rfl : c = '\n' ∨ c = ',' := by simpa using hc
    · rfl
    · rfl
  induction ws generalizing fuel with
  | nil => exact absurd rfl hne
  | cons w ws ih =>
    obtain ⟨fuel, rfl⟩ : ∃ more, fuel = more + 2 := ⟨fuel - 2, by simp at hfuel; omega⟩
    cases ws with
    | nil =>
      have hline := w.members?_line (hends '\n' (by simp) ('}' :: rest)) fuel room
      rw [lines, List.append_assoc]
      exact hline
    | cons next ws =>
      have hless : (next :: ws).length < fuel + 1 := by
        simp only [List.length_cons] at hfuel ⊢
        omega
      have hrest := ih (List.cons_ne_nil _ _) hless
      have hline := w.members?_line (hends ',' (by simp) (lines (next :: ws) ++ rest)) fuel room
      rw [lines, List.append_assoc]
      refine hline.trans ?_
      change (members? limits (fuel + 1) room (lines (next :: ws) ++ rest)).map _ = _
      rw [hrest]
      rfl

theorem skipSpace_lines {ws : List (Written limits)} (hne : ws ≠ []) :
    ∃ rest, skipSpace (lines ws) = '"' :: rest := by
  obtain ⟨w, rest, rfl⟩ := List.exists_cons_of_ne_nil hne
  cases rest <;> exact ⟨_, rfl⟩

theorem length_lt_lines (ws : List (Written limits)) : ws.length < (lines ws).length := by
  induction ws with
  | nil => exact Nat.zero_lt_two
  | cons w ws ih =>
    cases ws with
    | nil => simp [lines]
    | cons next ws =>
      simp only [lines, List.length_cons, List.length_append] at ih ⊢
      omega

/-- An object with one member to a line is read as the list of its members. -/
theorem read_object {ws : List (Written limits)} (hne : ws ≠ []) {text : String}
    (htext : text.toList = '{' :: lines ws) (hroom : limits.nesting ≠ some 0) :
    read limits text = some (.object (ws.map member)) := by
  obtain ⟨room, hroom⟩ : ∃ room, limits.nesting.getD text.toList.length = room + 1 := by
    rw [htext]
    rcases hn : limits.nesting with - | room
    · exact ⟨_, rfl⟩
    · exact Nat.exists_eq_add_one_of_ne_zero fun h => hroom (hn.trans (congrArg some h))
  have hfuel : ws.length < text.toList.length := by
    rw [htext]
    exact Nat.lt_succ_of_lt (length_lt_lines ws)
  have hmembers := members?_lines hne hfuel room []
  obtain ⟨inside, hinside⟩ := skipSpace_lines hne
  have hobject : value? limits (text.toList.length + 1) (room + 1) ('{' :: lines ws) =
      (members? limits text.toList.length room (lines ws)).map fun (ms, rest) =>
        (.object ms, rest) := by
    rw [← members?_skipSpace, value?, skipSpace_cons_of_not rfl]
    simp only [hinside]
    rfl
  rw [List.append_nil] at hmembers
  rw [read, hroom, htext] at *
  rw [hobject, hmembers]
  rfl

end Written

end CWriter.Json

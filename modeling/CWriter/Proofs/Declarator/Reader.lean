import CWriter.CType
import Mathlib.Data.List.SplitBy

/-!
# Declarators read back

A declarator is read the way C reads one: brackets bind tighter than the markers in front,
parentheses group, and a qualifier belongs to the star before it. The reader knows nothing of
how declarators are written; it works on lexemes and keeps the markers that still wait for what
they apply to. References leave only their ampersands behind, so a run of them comes back as
one count.
-/
namespace CWriter

/-- One layer of a type around its base. -/
inductive Wrapper where
  | pointer (quals : Qualifiers)
  | reference (rvalue : Bool)
  | array (size : Option Nat)
  deriving DecidableEq

namespace CType

/-- What is left of a type without its pointers, references and arrays. -/
def base : CType → CType
  | pointer inner _ | reference inner _ | array inner _ | shared _ inner => inner.base
  | type => type

/-- The layers of a type, outermost first. -/
def wrappers : CType → List Wrapper
  | pointer inner quals => .pointer quals :: inner.wrappers
  | reference inner rvalue => .reference rvalue :: inner.wrappers
  | array inner size => .array size :: inner.wrappers
  | shared _ inner => inner.wrappers
  | _ => []

end CType

namespace Declarator

/-- What can be read off a declarator. -/
inductive Part where
  | pointer (quals : Qualifiers)
  /-- References that apply to each other, by the number of their ampersands. -/
  | references (ampersands : Nat)
  | array (size : Option Nat)
  deriving DecidableEq

def isWordChar (c : Char) : Bool := c.isAlphanum || c == '_'

/-- Whether two neighbours belong to one lexeme. -/
def joined (a b : Char) : Bool := isWordChar a && isWordChar b || a == '&' && b == '&'

/-- The words, runs of ampersands and single other characters of a text, without its spaces. -/
def lexemes (cs : List Char) : List (List Char) := (cs.splitBy joined).filter (· != [' '])

/-- An identifier of C, keywords included. -/
def isName : List Char → Bool
  | [] => false
  | c :: rest => !c.isDigit && (c :: rest).all isWordChar

/-- Reads what stands behind a name. `markers` wait in the present group, nearest first, and
`outer` in the groups around it. -/
def readSuffixes (name : String) (parts markers : List Part) (outer : List (List Part)) :
    List (List Char) → Option (String × List Part)
  | [] => if outer.isEmpty then some (name, parts ++ markers) else none
  | [')'] :: rest =>
    match outer with
    | [] => none
    | around :: outer => readSuffixes name (parts ++ markers) around outer rest
  | ['['] :: [']'] :: rest => readSuffixes name (parts ++ [.array none]) markers outer rest
  | ['['] :: digits :: [']'] :: rest =>
    if digits.all Char.isDigit then
      readSuffixes name (parts ++ [.array (some (Nat.ofDigitChars 10 digits 0))]) markers outer
        rest
    else none
  | _ => none

/-- Gives a qualifier to the pointer that was read last. -/
def qualifyLast (f : Qualifiers → Qualifiers) : List Part → Option (List Part)
  | .pointer quals :: markers => some (.pointer (f quals) :: markers)
  | _ => none

/-- Reads the markers in front of a name, and from there on what stands behind it. -/
def readPrefix (markers : List Part) (outer : List (List Part)) :
    List (List Char) → Option (String × List Part)
  | [] => readSuffixes "" [] markers outer []
  | ['*'] :: rest => readPrefix (.pointer {} :: markers) outer rest
  | ['('] :: rest => readPrefix [] (markers :: outer) rest
  | lexeme :: rest =>
    if lexeme.head? = some '&' then readPrefix (.references lexeme.length :: markers) outer rest
    else if lexeme = ['c', 'o', 'n', 's', 't'] then do
      readPrefix (← qualifyLast ({ · with isConst := true }) markers) outer rest
    else if lexeme = ['v', 'o', 'l', 'a', 't', 'i', 'l', 'e'] then do
      readPrefix (← qualifyLast ({ · with isVolatile := true }) markers) outer rest
    else if isName lexeme then readSuffixes (String.ofList lexeme) [] markers outer rest
    else readSuffixes "" [] markers outer (lexeme :: rest)

/-- The name that a declarator declares, and the parts of its type from the name outwards. -/
def read (text : String) : Option (String × List Part) := readPrefix [] [] (lexemes text.toList)

/-- What a declarator can be read for: no name at all, or an identifier that is no qualifier. -/
def Declarable (name : String) : Prop :=
  name = "" ∨ isName name.toList = true ∧ name ≠ "const" ∧ name ≠ "volatile"

instance (name : String) : Decidable (Declarable name) := by
  unfold Declarable; infer_instance

theorem isWordChar_of_isDigit {c : Char} (h : c.isDigit = true) : isWordChar c = true := by
  simp [isWordChar, Char.isAlphanum, h]

theorem isWordChar_of_isName {w : List Char} (h : isName w = true) :
    w ≠ [] ∧ ∀ c ∈ w, isWordChar c = true := by
  cases w with
  | nil => simp [isName] at h
  | cons c rest =>
    refine ⟨by simp, ?_⟩
    have hall : (c :: rest).all isWordChar = true := by simp_all [isName]
    simpa using hall

theorem isDigit_toDigits (n : Nat) : ∀ c ∈ Nat.toDigits 10 n, c.isDigit = true := fun _ hc =>
  Nat.isDigit_of_mem_toDigits (by decide) (by decide) hc

theorem toList_ofNat (n : Nat) : (toString (Int.ofNat n)).toList = Nat.toDigits 10 n :=
  Nat.toList_repr

theorem toList_negSucc (n : Nat) :
    (toString (Int.negSucc n)).toList = '-' :: Nat.toDigits 10 (n + 1) := by
  have htext : (toString (Int.negSucc n)).toList = "-".toList ++ (n + 1).repr.toList :=
    String.toList_append
  rw [htext, Nat.toList_repr]
  rfl

theorem lexemes_append {a b : List Char}
    (h : ∀ x ∈ a.getLast?, ∀ y ∈ b.head?, joined x y = false) :
    lexemes (a ++ b) = lexemes a ++ lexemes b := by
  rw [lexemes, List.splitBy_append h, List.filter_append]
  rfl

/-- A character that belongs to no lexeme but its own. -/
def isMark (c : Char) : Bool := !isWordChar c && c != '&'

theorem joined_mark_right {c : Char} (h : isMark c = true) (x : Char) : joined x c = false := by
  simp_all [isMark, joined]

theorem joined_mark_left {c : Char} (h : isMark c = true) (x : Char) : joined c x = false := by
  simp_all [isMark, joined]

theorem lexemes_append_mark {c : Char} (h : isMark c = true) (a b : List Char) :
    lexemes (a ++ c :: b) = lexemes a ++ lexemes (c :: b) :=
  lexemes_append fun x _ y hy => by
    obtain rfl : c = y := by simpa using hy
    exact joined_mark_right h x

theorem lexemes_mark_append {c : Char} (h : isMark c = true) (b : List Char) :
    lexemes (c :: b) = lexemes [c] ++ lexemes b :=
  lexemes_append (a := [c]) fun x hx y _ => by
    obtain rfl : c = x := by simpa using hx
    exact joined_mark_left h y

theorem lexemes_space (b : List Char) : lexemes (' ' :: b) = lexemes b :=
  lexemes_mark_append (by decide) b

theorem lexemes_of_isChain {w : List Char} (hne : w ≠ []) (hs : w ≠ [' '])
    (h : w.IsChain fun x y => joined x y) : lexemes w = [w] := by
  rw [lexemes, List.splitBy_of_isChain hne h]
  simp [hs]

/-- Word characters in a row are one lexeme. -/
theorem lexemes_word {w : List Char} (hne : w ≠ []) (h : ∀ c ∈ w, isWordChar c = true) :
    lexemes w = [w] := by
  refine lexemes_of_isChain hne ?_ (List.Pairwise.isChain ?_)
  · rintro rfl
    exact absurd (h ' ' (by simp)) (by decide)
  · refine List.pairwise_of_forall_mem_list fun x hx y hy => ?_
    simp [joined, h x hx, h y hy]

/-- Ampersands in a row are one lexeme. -/
theorem lexemes_ampersands {n : Nat} (h : 0 < n) :
    lexemes (List.replicate n '&') = [List.replicate n '&'] := by
  obtain ⟨k, rfl⟩ : ∃ k, n = k + 1 := ⟨n - 1, by omega⟩
  refine lexemes_of_isChain (by simp) ?_ (List.isChain_replicate_of_rel _ (by decide))
  rw [List.replicate_succ]
  simp

def ampersands (rvalue : Bool) : Nat := if rvalue then 2 else 1

/-- Puts a reference around parts. -/
def addReference (n : Nat) : List Part → List Part
  | .references m :: parts => .references (n + m) :: parts
  | parts => .references n :: parts

/-- The parts of a chain of layers: every layer as it is, but each maximal run of references as
its number of ampersands. -/
def collapse : List Wrapper → List Part
  | [] => []
  | .pointer quals :: ws => .pointer quals :: collapse ws
  | .array size :: ws => .array size :: collapse ws
  | .reference rvalue :: ws => addReference (ampersands rvalue) (collapse ws)

end Declarator

end CWriter

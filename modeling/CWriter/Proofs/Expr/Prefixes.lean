import CWriter.Expr
import CWriter.Proofs.Declarator.Reader
import CWriter.Proofs.Expr.Munch

/-!
# Operators in a row

Operators in front of an operand are written without anything between them, so neighbours can
make one token. Two of the prefix operators of C do exactly if they are equal and double into a
token of their own: plus, minus and ampersand. The sign of a negative number is such a neighbour
as well.
-/
namespace CWriter

open Declarator (isWordChar isName)

namespace Token

def punctuators : List String :=
  ["[", "]", "(", ")", r"{", r"}", ".", "->", "++", "--", "&", "*", "+", "-", "~", "!", "/",
    "%", "<<", ">>", "<", ">", "<=", ">=", "==", "!=", "^", "|", "&&", "||", "?", ":", ";", "...",
    "=", "*=", "/=", "%=", "+=", "-=", "<<=", ">>=", "&=", "^=", "|=", ",", "#", "##", "<:", ":>",
    "<%", "%>", "%:", "%:%:", "::", ".*", "->*", "<=>"]

/-- What may follow `previous` in a number: letters, digits, points, and signs of exponents. -/
def isNumberTail (previous : Char) : List Char → Bool
  | [] => true
  | c :: rest =>
    (isWordChar c || c == '.' ||
      (c == '+' || c == '-') && ['e', 'E', 'p', 'P'].contains previous) && isNumberTail c rest

/-- A number as it is cut off before it is known to have a value. -/
def isNumber : List Char → Bool
  | '.' :: d :: rest => d.isDigit && isNumberTail d rest
  | c :: rest => c.isDigit && isNumberTail c rest
  | [] => false

/-- Names, numbers and punctuators. Of quoted texts nothing is read here. -/
def isToken (cs : List Char) : Bool :=
  isName cs || isNumber cs || punctuators.any (·.toList == cs)

/-- The tokens of a text. A blank stands alone, as does whatever begins no token. -/
def tokens (text : String) : List String := (munch isToken text.toList).map String.ofList

/-- Whether two operators make one token where nothing stands between them. -/
def fuses (a b : Char) : Bool := a == b && ['+', '-', '&'].contains a

def prefixChars : List Char := ['+', '-', '!', '~', '*', '&']

theorem isToken_prefixChar {c : Char} (h : c ∈ prefixChars) : isToken [c] = true := by
  have hall : prefixChars.all (fun c => isToken [c]) = true := by decide
  exact List.all_eq_true.mp hall c h

theorem isToken_fused {a b : Char} (h : fuses a b = true) : isToken [a, b] = true := by
  obtain ⟨rfl, ha⟩ : a = b ∧ ['+', '-', '&'].contains a = true := by
    simpa [fuses] using h
  have hcases : a = '+' ∨ a = '-' ∨ a = '&' := by simpa using ha
  rcases hcases with rfl | rfl | rfl <;> decide

/-- Whether a punctuator that goes on behind a prefix operator does so with the operator that it
fuses with, or with neither an operator nor a word. -/
def partsPrefix : List Char → Bool
  | a :: b :: _ =>
    !prefixChars.contains a || !isWordChar b && (!prefixChars.contains b || fuses a b)
  | _ => true

theorem partsPrefix_of_mem_punctuators {p : String} (h : p ∈ punctuators) :
    partsPrefix p.toList = true := by
  have hall : punctuators.all (fun p => partsPrefix p.toList) = true := by decide
  exact List.all_eq_true.mp hall p h

/-- Behind a prefix operator a token goes on only with the operator that it fuses with. -/
theorem isToken_prefixChar_cons {a b : Char} (ha : a ∈ prefixChars)
    (hb : b ∈ prefixChars ∨ isWordChar b = true) (hapart : fuses a b = false)
    (more : List Char) : isToken (a :: b :: more) = false := by
  have hplain : isWordChar a = false ∧ a.isDigit = false ∧ a ≠ '.' := by
    have hall : prefixChars.all (fun a => !isWordChar a && !a.isDigit && a != '.') = true := by
      decide
    simpa [and_assoc] using List.all_eq_true.mp hall a ha
  have hname : isName (a :: b :: more) = false := by
    simp [isName, hplain.1]
  have hnumber : isNumber (a :: b :: more) = false := by
    simp [isNumber, hplain]
  have hpunctuator : ∀ p ∈ punctuators, p.toList ≠ a :: b :: more := fun p hp heq => by
    have hneither : isWordChar b = false ∧ b ∉ prefixChars := by
      simpa [heq, partsPrefix, ha, hapart] using partsPrefix_of_mem_punctuators hp
    rcases hb with hb | hb
    · exact hneither.2 hb
    · exact absurd hb (by simp [hneither.1])
  simpa [isToken, hname, hnumber] using hpunctuator

/-- A name or a number without its sign. -/
structure IsWord (cs : List Char) : Prop where
  ne_nil : cs ≠ []
  isToken : Token.isToken cs = true
  isWordChar : ∀ c ∈ cs, Declarator.isWordChar c = true

theorem isWord_of_isName {cs : List Char} (h : isName cs = true) : IsWord cs := by
  obtain ⟨hne, hword⟩ := Declarator.isWordChar_of_isName h
  exact ⟨hne, by simp [Token.isToken, h], hword⟩

theorem isNumberTail_of_digits {cs : List Char} (h : ∀ c ∈ cs, c.isDigit = true)
    (previous : Char) : isNumberTail previous cs = true := by
  induction cs generalizing previous with
  | nil => rfl
  | cons c cs ih =>
    rw [List.forall_mem_cons] at h
    simp [isNumberTail, ih h.2, Declarator.isWordChar_of_isDigit h.1]

theorem isWord_digits (n : Nat) : IsWord (Nat.toDigits 10 n) := by
  have hdigits := Declarator.isDigit_toDigits n
  have hne : Nat.toDigits 10 n ≠ [] := Nat.toDigits_ne_nil
  generalize Nat.toDigits 10 n = cs at hdigits hne
  refine ⟨hne, ?_, fun c hc => Declarator.isWordChar_of_isDigit (hdigits c hc)⟩
  cases cs with
  | nil => exact absurd rfl hne
  | cons c cs =>
    obtain ⟨hc, hcs⟩ := List.forall_mem_cons.mp hdigits
    have hpoint : c ≠ '.' := by
      rintro rfl
      exact absurd hc (by decide)
    have hnumber : isNumber (c :: cs) = true := by
      simp [isNumber, hpoint, hc, isNumberTail_of_digits hcs]
    simp [Token.isToken, hnumber]

theorem fuses_word {b : Char} (h : isWordChar b = true) (a : Char) : fuses a b = false := by
  by_contra hfuses
  have hcases : b = '+' ∨ b = '-' ∨ b = '&' := by
    simp only [Bool.not_eq_false, fuses, Bool.and_eq_true, beq_iff_eq] at hfuses
    obtain ⟨rfl, ha⟩ := hfuses
    simpa using ha
  rcases hcases with rfl | rfl | rfl <;> exact absurd h (by decide)

/-- A prefix operator is a token of its own in front of what it does not fuse with. -/
theorem munch_prefixChar {a : Char} {rest : List Char} (ha : a ∈ prefixChars)
    (hnext : ∀ b ∈ rest.head?, b ∈ prefixChars ∨ isWordChar b = true)
    (hapart : ∀ b ∈ rest.head?, fuses a b = false) :
    munch isToken (a :: rest) = [a] :: munch isToken rest := by
  have hcut : munch isToken ([a] ++ rest) = [a] :: munch isToken rest := by
    refine munch_append (by simp) (isToken_prefixChar ha) fun b more hbegins => ?_
    obtain ⟨tail, rfl⟩ := hbegins
    exact isToken_prefixChar_cons ha (hnext b rfl) (hapart b rfl) more
  exact hcut

theorem munch_fused_ne {a b : Char} (h : fuses a b = true) (rest : List Char)
    (more : List (List Char)) : munch isToken (a :: b :: rest) ≠ [a] :: more := by
  intro heq
  obtain ⟨first, others, hcut, hlen⟩ :
      ∃ first others, munch isToken ([a, b] ++ rest) = first :: others ∧ 2 ≤ first.length :=
    length_le_length_munch_head (by simp) (isToken_fused h)
  have hfirst : [a] :: more = first :: others := heq.symm.trans hcut
  obtain ⟨rfl, -⟩ := List.cons.inj hfirst
  simp at hlen

/-- A row of operators in front of a word is cut into just these exactly if no two neighbours
fuse. -/
theorem munch_row_iff {word : List Char} (hword : IsWord word) : (ops : List Char) →
    (∀ c ∈ ops, c ∈ prefixChars) →
    (munch isToken (ops ++ word) = ops.map (fun c => [c]) ++ [word] ↔
      ops.IsChain fun a b => fuses a b = false)
  | [], _ => by
    have hcut : munch isToken (word ++ []) = word :: munch isToken [] :=
      munch_append hword.ne_nil hword.isToken (by simp)
    rw [List.append_nil, munch] at hcut
    simpa using hcut
  | [a], h => by
    -- The last operator stands apart, since a word follows it and no word fuses.
    have hchars : ∀ b ∈ word.head?, isWordChar b = true := fun b hb =>
      hword.isWordChar b (List.mem_of_mem_head? hb)
    have hcut := munch_prefixChar (h a (by simp)) (fun b hb => .inr (hchars b hb))
      fun b hb => fuses_word (hchars b hb) a
    have ih := (munch_row_iff hword [] (by simp)).mpr .nil
    simpa [hcut] using ih
  | a :: b :: ops, h => by
    obtain ⟨ha, hops⟩ := List.forall_mem_cons.mp h
    have ih := munch_row_iff hword (b :: ops) hops
    rw [List.isChain_cons_cons, ← ih]
    by_cases hfuses : fuses a b = true
    · refine iff_of_false (munch_fused_ne hfuses _ _) ?_
      simp [hfuses]
    · have hapart : fuses a b = false := by simpa using hfuses
      have hleft : munch isToken (a :: b :: ops ++ word) =
          [a] :: munch isToken (b :: ops ++ word) :=
        munch_prefixChar ha (fun c hc => .inl (hops c (by simp_all))) (by simpa using hapart)
      have hright : (a :: b :: ops).map (fun c => [c]) ++ [word] =
          [a] :: ((b :: ops).map (fun c => [c]) ++ [word]) := rfl
      rw [hleft, hright, List.cons.injEq]
      simp [hapart]

/-- Whether two neighbouring tokens are operators that make one token without a blank. -/
def Fused (a b : String) : Prop := a = b ∧ a ∈ ["+", "-", "&"]

instance (a b : String) : Decidable (Fused a b) :=
  inferInstanceAs (Decidable (a = b ∧ a ∈ ["+", "-", "&"]))

theorem fused_singleton_iff (a b : Char) :
    Fused (String.ofList [a]) (String.ofList [b]) ↔ fuses a b = true := by
  have hmem : String.ofList [a] ∈ ["+", "-", "&"] ↔ a ∈ ['+', '-', '&'] := by
    simp only [← String.toList_inj, List.mem_cons, List.not_mem_nil, or_false]
    simp
  rw [Fused, String.ofList_inj, hmem]
  simp [fuses]

theorem not_fused_word {word : List Char} (hword : IsWord word) (a : String) :
    ¬ Fused a (String.ofList word) := by
  rintro ⟨rfl, hmem⟩
  have hsign : word = ['+'] ∨ word = ['-'] ∨ word = ['&'] := by
    simpa [← String.toList_inj] using hmem
  rcases hsign with rfl | rfl | rfl <;>
    exact absurd (hword.isWordChar _ (List.mem_singleton_self _)) (by decide)

/-- The operators and the word of a row, one by one. -/
def row (ops word : List Char) : List String :=
  (ops.map (fun c => [c]) ++ [word]).map String.ofList

theorem row_eq_append (ops others word : List Char) :
    row (ops ++ others) word = ops.map (fun c => String.ofList [c]) ++ row others word := by
  simp [row]

theorem isChain_row_iff {word : List Char} (hword : IsWord word) (ops : List Char) :
    (row ops word).IsChain (fun a b => ¬ Fused a b) ↔ ops.IsChain fun a b => fuses a b = false := by
  have hlast : ∀ a : List Char, ¬ Fused (String.ofList a) (String.ofList word) := fun a =>
    not_fused_word hword _
  have hchars : (ops.map fun c => [c]).IsChain
      (fun a b => ¬ Fused (String.ofList a) (String.ofList b)) ↔
        ops.IsChain fun a b => fuses a b = false := by
    rw [List.isChain_map]
    simp only [fused_singleton_iff, Bool.not_eq_true]
  rw [row, List.isChain_map, List.isChain_append, hchars]
  simp [hlast]

theorem tokens_row_iff {text : String} {ops word : List Char} (htext : text.toList = ops ++ word)
    (hword : IsWord word) (hops : ∀ c ∈ ops, c ∈ prefixChars) :
    tokens text = row ops word ↔ (row ops word).IsChain fun a b => ¬ Fused a b := by
  have hinjective : Function.Injective (List.map String.ofList) :=
    List.map_injective_iff.mpr fun _ _ => String.ofList_injective
  rw [isChain_row_iff hword, ← munch_row_iff hword ops hops, tokens, row, htext,
    hinjective.eq_iff]

end Token

namespace Expr

/-- The operators in front of an expression, outermost first. -/
def prefixes : Expr → List String
  | deref inner => "*" :: inner.prefixes
  | addrOf inner => "&" :: inner.prefixes
  | unop op inner => op :: inner.prefixes
  | shared _ expr => expr.prefixes
  | _ => []

/-- What the operators in front of an expression apply to. -/
def operand : Expr → Expr
  | deref inner | addrOf inner | unop _ inner | shared _ inner => inner.operand
  | e => e

/-- A variable that is called by a name of C, or a number. -/
def isAtom : Expr → Bool
  | var name _ => isName name.text.toList
  | num _ => true
  | _ => false

theorem isBinary_of_operand : {e : Expr} → e.operand.isBinary = false → e.isBinary = false
  | deref _, _ | addrOf _, _ | unop .., _ => rfl
  | shared _ e, h => isBinary_of_operand (e := e) h
  | raw .., h | var .., h | num _, h | str _, h | bool _, h | call .., h | field .., h
  | methodCall .., h | index .., h | binop .., h => h

/-- A chain of operators is written as its operators and its operand, with nothing between. -/
theorem text_eq_prefixes : {e : Expr} → e.operand.isBinary = false →
    e.text = String.join e.prefixes ++ e.operand.text
  | deref e, h | addrOf e, h | unop op e, h => by
    have hinner := isBinary_of_operand (e := e) h
    have ih := text_eq_prefixes (e := e) h
    rw [text, hinner, parenthesize, if_neg (by decide), ih, prefixes, operand]
    simp [String.append_assoc]
  | shared _ e, h => text_eq_prefixes (e := e) h
  | raw .., _ | var .., _ | num _, _ | str _, _ | bool _, _ | call .., _ | field .., _
  | methodCall .., _ | index .., _ | binop .., _ => by
    simp [prefixes, operand]

theorem isBinary_of_isAtom {e : Expr} (h : e.isAtom = true) : e.isBinary = false := by
  cases e with
  | binop lhs op rhs => cases h
  | shared id e => cases h
  | _ => rfl

/-- An atom is one word, or a minus and one. -/
theorem text_eq_of_isAtom {e : Expr} (h : e.isAtom = true) : ∃ sign word, sign ∈ [[], ['-']] ∧
    Token.IsWord word ∧ e.text.toList = sign ++ word := by
  cases e with
  | var name type => exact ⟨[], _, by simp, Token.isWord_of_isName h, by rw [text]; rfl⟩
  | num value =>
    cases value with
    | ofNat n =>
      refine ⟨[], _, by simp, Token.isWord_digits n, ?_⟩
      rw [text, Declarator.toList_ofNat, List.nil_append]
    | negSucc n =>
      refine ⟨['-'], _, by simp, Token.isWord_digits (n + 1), ?_⟩
      rw [text, Declarator.toList_negSucc, List.singleton_append]
  | _ => cases h

/-- The operators of a chain as characters. -/
theorem prefixes_eq_map {ops : List String}
    (h : ∀ op ∈ ops, op ∈ ["+", "-", "!", "~", "*", "&"]) :
    ∃ cs : List Char, ops = cs.map (fun c => String.ofList [c]) ∧
      ∀ c ∈ cs, c ∈ Token.prefixChars := by
  induction ops with
  | nil => exact ⟨[], rfl, by simp⟩
  | cons op ops ih =>
    obtain ⟨hop, hops⟩ := List.forall_mem_cons.mp h
    obtain ⟨cs, rfl, hcs⟩ := ih hops
    have hchars : ["+", "-", "!", "~", "*", "&"] =
        Token.prefixChars.map fun c => String.ofList [c] := by
      decide
    rw [hchars] at hop
    obtain ⟨c, hc, rfl⟩ := List.mem_map.mp hop
    exact ⟨c :: cs, rfl, List.forall_mem_cons.mpr ⟨hc, hcs⟩⟩

/-- A chain of prefix operators on a name or a number is cut, by longest match, into the
operators and then the operand's own tokens exactly if no two neighbours among them fuse. The
sign of a negative number counts as one of the operand's tokens. -/
theorem tokens_text_iff {e : Expr} (hops : ∀ op ∈ e.prefixes, op ∈ ["+", "-", "!", "~", "*", "&"])
    (hatom : e.operand.isAtom = true) :
    Token.tokens e.text = e.prefixes ++ Token.tokens e.operand.text ↔
      (e.prefixes ++ Token.tokens e.operand.text).IsChain fun a b => ¬ Token.Fused a b := by
  obtain ⟨cs, hcs, hbegins⟩ := prefixes_eq_map hops
  obtain ⟨sign, word, hsign, hword, hoperand⟩ := text_eq_of_isAtom hatom
  have hminus : ∀ c ∈ sign, c ∈ Token.prefixChars := by
    rcases List.mem_pair.mp hsign with rfl | rfl <;> simp [Token.prefixChars]
  have hown : Token.tokens e.operand.text = Token.row sign word := by
    rw [Token.tokens_row_iff hoperand hword hminus, Token.isChain_row_iff hword]
    rcases List.mem_pair.mp hsign with rfl | rfl <;> simp
  have htext : e.text.toList = (cs ++ sign) ++ word := by
    rw [text_eq_prefixes (isBinary_of_isAtom hatom), String.toList_append, hoperand, hcs,
      List.append_assoc]
    simp [String.toList_join, List.flatMap_map]
  have hall : e.prefixes ++ Token.tokens e.operand.text = Token.row (cs ++ sign) word := by
    rw [hown, Token.row_eq_append, hcs]
  rw [hall]
  refine Token.tokens_row_iff htext hword fun c hc => ?_
  rcases List.mem_append.mp hc with hc | hc
  · exact hbegins c hc
  · exact hminus c hc

theorem tokens_text_iff_negative :
    Token.tokens (Expr.deref (.addrOf (.unop "~" (.num (-5))))).text =
      ["*", "&", "~", "-", "5"] := by
  have hoperand : Token.tokens (Expr.num (-5)).text = ["-", "5"] := by
    decide +kernel
  have hchain : (["*", "&", "~"] ++ Token.tokens (Expr.num (-5)).text).IsChain
      fun a b => ¬ Token.Fused a b := by
    rw [hoperand]
    decide
  rw [(tokens_text_iff (e := .deref (.addrOf (.unop "~" (.num (-5))))) (by decide) rfl).mpr hchain]
  exact congrArg (["*", "&", "~"] ++ ·) hoperand

/-- A minus on a minus is read as one decrement: `--x`. -/
theorem tokens_text_minus_minus :
    ¬∀ e : Expr, (∀ op ∈ e.prefixes, op ∈ ["+", "-", "!", "~", "*", "&"]) →
      e.operand.isAtom = true →
        Token.tokens e.text = e.prefixes ++ Token.tokens e.operand.text := by
  intro h
  have htokens := h (.unop "-" (.unop "-" (.var ⟨"x", by decide⟩ none))) (by decide) (by decide)
  exact absurd htokens (by decide +kernel)

end Expr

end CWriter

import CWriter.Expr
import CWriter.Proofs.Declarator.Reader
import CWriter.Proofs.Expr.Munch

/-!
# Expressions read back

Expressions are read from left to right with a stack of what is still open. The reader knows no
precedence: an operator joins two operands, and a second operator in the same group is refused.
-/
namespace CWriter

open Declarator (isWordChar isName isWordChar_of_isDigit)
open CWriter.Expr (escapeChar literal)

namespace Reading

inductive Lexeme where
  | word (text : String)
  /-- A number below zero. The sign belongs to it because it is written without a blank. -/
  | negative (value : Int)
  | quoted (value : String)
  | operator (text : String)
  | mark (c : Char)

def opChars : List Char := ['+', '-', '*', '/', '%', '<', '>', '=', '!', '&', '|', '^']

def isOpChar (c : Char) : Bool := opChars.contains c

/-- Whether a text behind an opening quote ends with the quote that closes it. -/
def closesQuote : List Char → Bool
  | [] => false
  | [c] => c == '"'
  | c :: d :: rest => if c == '\\' then closesQuote rest else c != '"' && closesQuote (d :: rest)

def isNegative : List Char → Bool
  | [] => false
  | c :: digits => c == '-' && !digits.isEmpty && digits.all Char.isDigit

def isQuoted : List Char → Bool
  | [] => false
  | c :: rest => c == '"' && closesQuote rest

/-- Runs of word characters and of operator characters, numbers below zero, quoted texts and
single characters. -/
def isLexeme : List Char → Bool
  | [] => false
  | [_] => true
  | cs => cs.all isWordChar || cs.all isOpChar || isNegative cs || isQuoted cs

/-- What escaped characters stand for. -/
def unescape : List Char → List Char
  | '\\' :: c :: rest =>
    (if c = 'n' then '\n' else if c = 't' then '\t' else c) :: unescape rest
  | c :: rest => c :: unescape rest
  | [] => []

def classify (cs : List Char) : Lexeme :=
  if isNegative cs then .negative (-Nat.ofDigitChars 10 cs.tail 0)
  else if isQuoted cs then .quoted (String.ofList (unescape cs.tail.dropLast))
  else if cs.all isWordChar then .word (String.ofList cs)
  else if cs.all isOpChar then .operator (String.ofList cs)
  else .mark (cs.headD ' ')

def lexemes (cs : List Char) : List Lexeme := (munch isLexeme cs).map classify

/-- What is open around the place that is read. -/
inductive Frame where
  | group
  | subscript (target : Expr)
  | arguments (callee : Expr) (done : List Expr)
  | rightOperand (lhs : Expr) (op : String)

/-- What a word stands for by itself. -/
def ofWord (text : String) : Option Expr :=
  if text = "true" then some (.bool true)
  else if text = "false" then some (.bool false)
  else if text.toList.all Char.isDigit then some (.num (Nat.ofDigitChars 10 text.toList 0))
  else (Identifier.check text).toOption.map (.var · none)

/-- The call of a function or of a member. Nothing else is called. -/
def called : Expr → List Expr → Option Expr
  | .var name _, args => some (.call name args)
  | .bool true, args => some (.call ⟨"true", by decide⟩ args)
  | .bool false, args => some (.call ⟨"false", by decide⟩ args)
  | .field target name arrow, args => some (.methodCall target name args arrow)
  | _, _ => none

/-- Joins the operands of an operator once its right operand is known. -/
def settle : List Frame → Expr → List Frame × Expr
  | .rightOperand lhs op :: frames, value => (frames, .binop lhs op value)
  | frames, value => (frames, value)

mutual

/-- Reads on where an operand is expected. -/
def expect (frames : List Frame) : List Lexeme → Option Expr
  | [] => none
  | .mark '(' :: rest => expect (.group :: frames) rest
  | .mark ')' :: rest =>
    match frames with
    | .arguments callee [] :: outer =>
      (called callee []).bind fun value => proceed outer value rest
    | _ => none
  | .mark _ :: _ => none
  | .word text :: rest => (ofWord text).bind fun value => proceed frames value rest
  | .negative n :: rest => proceed frames (.num n) rest
  | .quoted s :: rest => proceed frames (.str s) rest
  | .operator _ :: _ => none

/-- Reads on behind an operand. -/
def proceed (frames : List Frame) (value : Expr) : List Lexeme → Option Expr
  | [] =>
    match settle frames value with
    | ([], whole) => some whole
    | _ => none
  | .mark '(' :: rest => expect (.arguments value [] :: frames) rest
  | .mark '[' :: rest => expect (.subscript value :: frames) rest
  | .mark '.' :: .word name :: rest => proceed frames (.field value name (some false)) rest
  | .operator op :: .word name :: rest =>
    if op = "->" then proceed frames (.field value name (some true)) rest else none
  | .mark ' ' :: .operator op :: .mark ' ' :: rest =>
    match frames with
    | .rightOperand .. :: _ => none
    | _ => expect (.rightOperand value op :: frames) rest
  | .mark ')' :: rest =>
    match settle frames value with
    | (.group :: outer, inner) => proceed outer inner rest
    | (.arguments callee done :: outer, last) =>
      (called callee (done ++ [last])).bind fun value => proceed outer value rest
    | _ => none
  | .mark ']' :: rest =>
    match settle frames value with
    | (.subscript target :: outer, position) => proceed outer (.index target position) rest
    | _ => none
  | .mark ',' :: .mark ' ' :: rest =>
    match settle frames value with
    | (.arguments callee done :: outer, arg) =>
      expect (.arguments callee (done ++ [arg]) :: outer) rest
    | _ => none
  | _ => none

end

/-- The expression that a text is read as. -/
def read (text : String) : Option Expr := expect [] (lexemes text.toList)

section Steps

variable (frames : List Frame) (value : Expr) (rest : List Lexeme)

/-- What a reader does at each lexeme: where it expects an operand, and behind one. -/
theorem expect_open :
    expect frames (.mark '(' :: rest) = expect (.group :: frames) rest := rfl

theorem expect_close (callee : Expr) :
    expect (.arguments callee [] :: frames) (.mark ')' :: rest) =
      (called callee []).bind fun value => proceed frames value rest := rfl

theorem expect_word (text : String) :
    expect frames (.word text :: rest) =
      (ofWord text).bind fun value => proceed frames value rest := rfl

theorem expect_negative (n : Int) :
    expect frames (.negative n :: rest) = proceed frames (.num n) rest := rfl

theorem expect_quoted (s : String) :
    expect frames (.quoted s :: rest) = proceed frames (.str s) rest := rfl

theorem proceed_nil : proceed [] value [] = some value := rfl

theorem proceed_call :
    proceed frames value (.mark '(' :: rest) = expect (.arguments value [] :: frames) rest := rfl

theorem proceed_subscript :
    proceed frames value (.mark '[' :: rest) = expect (.subscript value :: frames) rest := rfl

theorem proceed_dot (name : String) :
    proceed frames value (.mark '.' :: .word name :: rest) =
      proceed frames (.field value name (some false)) rest := rfl

theorem proceed_arrow (name : String) :
    proceed frames value (.operator "->" :: .word name :: rest) =
      proceed frames (.field value name (some true)) rest := rfl

theorem proceed_close_group :
    proceed (.group :: frames) value (.mark ')' :: rest) = proceed frames value rest := rfl

theorem proceed_close_arguments (callee : Expr) (done : List Expr) :
    proceed (.arguments callee done :: frames) value (.mark ')' :: rest) =
      (called callee (done ++ [value])).bind fun value => proceed frames value rest := rfl

theorem proceed_bracket (target : Expr) :
    proceed (.subscript target :: frames) value (.mark ']' :: rest) =
      proceed frames (.index target value) rest := rfl

theorem proceed_comma (callee : Expr) (done : List Expr) :
    proceed (.arguments callee done :: frames) value (.mark ',' :: .mark ' ' :: rest) =
      expect (.arguments callee (done ++ [value]) :: frames) rest := rfl

end Steps

/-- The longest lexeme is cut off first, so what follows must not make it any longer. -/
theorem lexemes_append {token rest : List Char} (hne : token ≠ []) (htoken : isLexeme token = true)
    (hmax : ∀ c more, c :: more <+: rest → isLexeme (token ++ c :: more) = false) :
    lexemes (token ++ rest) = classify token :: lexemes rest := by
  rw [lexemes, munch_append hne htoken hmax]
  rfl

theorem isOpChar_of_isWordChar {c : Char} (h : isWordChar c = true) : isOpChar c = false := by
  have hplain : opChars.all (fun c => !isWordChar c) = true := by decide
  by_contra hop
  have hmem : c ∈ opChars := by simpa [isOpChar] using hop
  have hword : isWordChar c = false := by simpa using List.all_eq_true.mp hplain c hmem
  exact absurd h (by simp [hword])

/-- What a lexeme of two or more characters can be. -/
theorem isLexeme_append_cons {a c : Char} (token more : List Char) :
    isLexeme (a :: token ++ c :: more) =
      ((a :: token ++ c :: more).all isWordChar || (a :: token ++ c :: more).all isOpChar ||
        isNegative (a :: token ++ c :: more) || isQuoted (a :: token ++ c :: more)) := by
  cases token <;> rfl

theorem isLexeme_of_all {token : List Char} (hne : token ≠ [])
    (h : token.all isWordChar = true ∨ token.all isOpChar = true ∨ isNegative token = true ∨
      isQuoted token = true) : isLexeme token = true := by
  match token with
  | [] => exact absurd rfl hne
  | [_] => rfl
  | a :: b :: rest => simpa [isLexeme, or_assoc] using h

/-- Texts that no word goes on with. -/
def Ends (rest : List Char) : Prop := ∀ c ∈ rest.head?, isWordChar c = false

theorem Ends.of_begins {rest more : List Char} {c : Char} (h : Ends rest)
    (hbegins : c :: more <+: rest) : isWordChar c = false := by
  obtain ⟨tail, rfl⟩ := hbegins
  exact h c rfl

/-- A word ends where no word character follows. -/
theorem lexemes_word {word rest : List Char} (hne : word ≠ [])
    (hword : ∀ c ∈ word, isWordChar c = true) (hends : Ends rest) :
    lexemes (word ++ rest) = .word (String.ofList word) :: lexemes rest := by
  have hall : word.all isWordChar = true := List.all_eq_true.mpr hword
  obtain ⟨a, word, rfl⟩ := List.exists_cons_of_ne_nil hne
  have hop := isOpChar_of_isWordChar (hword a (by simp))
  have hminus : a ≠ '-' := by
    rintro rfl
    exact absurd (hword '-' (by simp)) (by decide)
  have hquote : a ≠ '"' := by
    rintro rfl
    exact absurd (hword '"' (by simp)) (by decide)
  rw [lexemes_append hne (isLexeme_of_all hne (.inl hall))]
  · simp only [classify, hall]
    simp [isNegative, isQuoted, hminus, hquote]
  · intro c more hbegins
    rw [isLexeme_append_cons]
    simp [isNegative, isQuoted, hop, hminus, hquote, hends.of_begins hbegins]

/-- An operator ends in front of a blank, and is not taken for the sign of a number. -/
theorem lexemes_operator {op rest : List Char} (hne : op ≠ [])
    (hop : ∀ c ∈ op, isOpChar c = true)
    (hends : ∀ c ∈ rest.head?, isOpChar c = false ∧ c.isDigit = false) :
    lexemes (op ++ rest) = .operator (String.ofList op) :: lexemes rest := by
  have hall : op.all isOpChar = true := List.all_eq_true.mpr hop
  have hnext : ∀ c more, c :: more <+: rest → isOpChar c = false ∧ c.isDigit = false := by
    rintro c more ⟨tail, rfl⟩
    exact hends c rfl
  have hdigit : ∀ c ∈ op, c.isDigit = false := fun c hc => by
    by_contra h
    have := isOpChar_of_isWordChar (isWordChar_of_isDigit (by simpa using h))
    simp [hop c hc] at this
  obtain ⟨a, op, rfl⟩ := List.exists_cons_of_ne_nil hne
  have hword : isWordChar a = false := by
    by_contra h
    have := isOpChar_of_isWordChar (by simpa using h)
    simp [hop a (by simp)] at this
  have hquote : a ≠ '"' := by
    rintro rfl
    exact absurd (hop '"' (by simp)) (by decide)
  have hnegative : isNegative (a :: op) = false := by
    cases op with
    | nil => simp [isNegative]
    | cons b op => simp [isNegative, hdigit b (by simp)]
  rw [lexemes_append hne (isLexeme_of_all hne (.inr (.inl hall)))]
  · simp only [classify, hall, hnegative]
    simp [isQuoted, hquote, hword]
  · intro c more hbegins
    obtain ⟨hc, hd⟩ := hnext c more hbegins
    rw [isLexeme_append_cons]
    simp [isNegative, isQuoted, hword, hquote, hc, hd]

theorem lexemes_negative {digits rest : List Char} (hne : digits ≠ [])
    (hdigits : ∀ c ∈ digits, c.isDigit = true) (hends : Ends rest) :
    lexemes ('-' :: digits ++ rest) =
      .negative (-Nat.ofDigitChars 10 digits 0) :: lexemes rest := by
  have hnegative : isNegative ('-' :: digits) = true := by
    simpa [isNegative, hne] using hdigits
  rw [lexemes_append (by simp) (isLexeme_of_all (by simp) (.inr (.inr (.inl hnegative))))]
  · rw [classify, if_pos hnegative]
    rfl
  · intro c more hbegins
    have hc := hends.of_begins hbegins
    have hdigit : c.isDigit = false := by
      by_contra h
      simp [isWordChar_of_isDigit (by simpa using h)] at hc
    obtain ⟨d, digits, rfl⟩ := List.exists_cons_of_ne_nil hne
    have hop := isOpChar_of_isWordChar (isWordChar_of_isDigit (hdigits d (by simp)))
    have hminus : isWordChar '-' = false := by decide
    rw [isLexeme_append_cons]
    simp [isNegative, isQuoted, hdigit, hop, hminus]

/-- An escaped text closes no quote before its end. -/
theorem closesQuote_escaped (s : List Char) (more : List Char) :
    closesQuote (s.flatMap escapeChar ++ '"' :: more) = more.isEmpty := by
  induction s with
  | nil =>
    cases more <;> simp [closesQuote]
  | cons c s ih =>
    obtain ⟨d, tail, htail⟩ : ∃ d tail, s.flatMap escapeChar ++ '"' :: more = d :: tail :=
      List.exists_cons_of_ne_nil (by simp)
    rw [List.flatMap_cons, List.append_assoc, htail, escapeChar]
    rw [htail] at ih
    split
    · simpa [closesQuote] using ih
    split
    · simpa [closesQuote] using ih
    split
    · simpa [closesQuote] using ih
    split
    · simpa [closesQuote] using ih
    · simp_all [closesQuote]

/-- Escapes are taken back one by one. -/
theorem unescape_escaped (s : List Char) : unescape (s.flatMap escapeChar) = s := by
  induction s with
  | nil => rfl
  | cons c s ih =>
    rw [List.flatMap_cons, escapeChar]
    split
    · simp_all [unescape]
    split
    · simp_all [unescape]
    split
    · simp_all [unescape]
    split
    · simp_all [unescape]
    · simp_all [unescape]

/-- A quoted text is one lexeme, whatever it holds. -/
theorem lexemes_quoted (s : String) (rest : List Char) :
    lexemes ((literal s).toList ++ rest) = .quoted s :: lexemes rest := by
  have hliteral : (literal s).toList = '"' :: (s.toList.flatMap escapeChar ++ ['"']) := by
    simp [literal]
  have hquoted : isQuoted (literal s).toList = true := by
    simp [hliteral, isQuoted, closesQuote_escaped]
  have hvalue : unescape ((literal s).toList.tail.dropLast) = s.toList := by
    simp [hliteral, unescape_escaped]
  have hnegative : isNegative (literal s).toList = false := by
    simp [hliteral, isNegative]
  have hne : (literal s).toList ≠ [] := by
    simp [hliteral]
  rw [lexemes_append hne (isLexeme_of_all hne (.inr (.inr (.inr hquoted))))]
  · rw [classify, hnegative, hquoted, hvalue]
    simp
  · intro c more _
    have hplain : isWordChar '"' = false ∧ isOpChar '"' = false := by decide
    rw [hliteral, isLexeme_append_cons]
    simp [isNegative, isQuoted, hplain, closesQuote_escaped]

/-- Characters that are lexemes by themselves. -/
def isMark (c : Char) : Bool := !isWordChar c && !isOpChar c && c != '"'

theorem lexemes_mark {c : Char} (h : isMark c = true) (rest : List Char) :
    lexemes (c :: rest) = .mark c :: lexemes rest := by
  obtain ⟨⟨hword, hop⟩, hquote⟩ : (isWordChar c = false ∧ isOpChar c = false) ∧ c ≠ '"' := by
    simpa [isMark] using h
  have hminus : c ≠ '-' := by
    rintro rfl
    exact absurd hop (by decide)
  have hlonger : ∀ d more, isLexeme ([c] ++ d :: more) = false := fun d more => by
    rw [isLexeme_append_cons]
    simp [isNegative, isQuoted, hword, hop, hminus, hquote]
  have hcut : lexemes ([c] ++ rest) = classify [c] :: lexemes rest :=
    lexemes_append (by simp) rfl fun d more _ => hlonger d more
  have hclass : classify [c] = .mark c := by
    simp [classify, isNegative, isQuoted, hword, hop, hquote]
  exact hclass ▸ hcut

end Reading

end CWriter

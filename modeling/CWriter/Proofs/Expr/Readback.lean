import CWriter.Proofs.Expr.Reader

/-!
# The text of an expression fixes the expression

What is read back from the text of an expression is the expression itself, apart from what the
text does not show: the types of variables, and whether an arrow was asked for or follows from
the type of the target. So two expressions with one text differ in nothing else. Prefix operators
and verbatim text stay outside, since they can spell any other expression.
-/
namespace CWriter

open Declarator (isWordChar isName isWordChar_of_isDigit isDigit_toDigits)

namespace Expr

mutual

/-- An expression with all that its text shows and nothing else: every arrow is said, no
variable has a type, and nobody holds on to a part. -/
def resolved : Expr → Expr
  | raw text pointer => raw text pointer
  | var name _ => var name none
  | num value => num value
  | str value => str value
  | bool value => bool value
  | call name args => call name (resolvedAll args)
  | field target name arrow => field target.resolved name (some (arrow.getD target.isPointer))
  | methodCall target method args arrow =>
    methodCall target.resolved method (resolvedAll args) (some (arrow.getD target.isPointer))
  | index target position => index target.resolved position.resolved
  | deref inner => deref inner.resolved
  | addrOf inner => addrOf inner.resolved
  | binop lhs op rhs => binop lhs.resolved op rhs.resolved
  | unop op inner => unop op inner.resolved
  | shared _ expr => expr.resolved

def resolvedAll : List Expr → List Expr
  | [] => []
  | e :: es => e.resolved :: resolvedAll es

end

theorem isBinary_resolved : (e : Expr) → e.resolved.isBinary = e.isBinary
  | shared _ expr => by
    rw [resolved, isBinary, expr.isBinary_resolved]
  | raw .. | var .. | num _ | str _ | bool _ | call .. | field .. | methodCall .. | index ..
  | deref _ | addrOf _ | binop .. | unop .. => by
    simp only [resolved, isBinary]

theorem isCompound_resolved : (e : Expr) → e.resolved.isCompound = e.isCompound
  | shared _ expr => by
    rw [resolved, isCompound, expr.isCompound_resolved]
  | raw .. | var .. | num _ | str _ | bool _ | call .. | field .. | methodCall .. | index ..
  | deref _ | addrOf _ | binop .. | unop .. => by
    simp only [resolved, isCompound]

theorem access_resolved (target e : Expr) (arrow : Option Bool) :
    access e (some (arrow.getD target.isPointer)) = access target arrow := by
  rw [access, access, Option.getD_some]

mutual

/-- What is put in place of an inferred arrow, and what is left out, does not show in the text. -/
theorem text_resolved : (e : Expr) → e.resolved.text = e.text
  | raw .. | var .. | num _ | str _ | bool _ => by
    simp only [resolved, text]
  | call name args => by
    rw [resolved, text, text, texts_resolvedAll args]
  | field target name arrow => by
    rw [resolved, text, text, target.isCompound_resolved, target.text_resolved, access_resolved]
  | methodCall target method args arrow => by
    rw [resolved, text, text, target.isCompound_resolved, target.text_resolved, access_resolved,
      texts_resolvedAll args]
  | index target position => by
    rw [resolved, text, text, target.isBinary_resolved, target.text_resolved,
      position.text_resolved]
  | deref inner => by
    rw [resolved, text, text, inner.isBinary_resolved, inner.text_resolved]
  | addrOf inner => by
    rw [resolved, text, text, inner.isBinary_resolved, inner.text_resolved]
  | binop lhs op rhs => by
    rw [resolved, text, text, lhs.isBinary_resolved, lhs.text_resolved, rhs.isBinary_resolved,
      rhs.text_resolved]
  | unop op inner => by
    rw [resolved, text, text, inner.isBinary_resolved, inner.text_resolved]
  | shared _ expr => by
    rw [resolved, text, expr.text_resolved]

theorem texts_resolvedAll : (es : List Expr) → texts (resolvedAll es) = texts es
  | [] => by rw [resolvedAll]
  | e :: es => by rw [resolvedAll, texts, texts, e.text_resolved, texts_resolvedAll es]

end

/-- An operator of two operands, as far as readers know one. -/
def isOperator (op : String) : Bool := !op.toList.isEmpty && op.toList.all Reading.isOpChar

mutual

/-- Whether an expression is made of names of C, literals, operators, subscripts, members and
calls. -/
def isReadable : Expr → Bool
  | var name _ => isName name.text.toList && name.text != "true" && name.text != "false"
  | num _ | str _ | bool _ => true
  | call name args => isName name.text.toList && areReadable args
  | field target name _ => isName name.toList && target.isReadable
  | methodCall target method args _ =>
    isName method.toList && target.isReadable && areReadable args
  | index target position => target.isReadable && position.isReadable
  | binop lhs op rhs => isOperator op && lhs.isReadable && rhs.isReadable
  | shared _ expr => expr.isReadable
  | raw .. | deref _ | addrOf _ | unop .. => false

def areReadable : List Expr → Bool
  | [] => true
  | e :: es => e.isReadable && areReadable es

end

theorem isCompound_eq_isBinary : {e : Expr} → e.isReadable = true → e.isCompound = e.isBinary
  | shared _ e, h => isCompound_eq_isBinary (e := e) h
  | var .., _ | num _, _ | str _, _ | bool _, _ | call .., _ | field .., _ | methodCall .., _
  | index .., _ | binop .., _ => rfl

end Expr

namespace Reading

/-- Frames of which the innermost is no operator. -/
def Grouped (frames : List Frame) : Prop := ∀ lhs op, frames.head? ≠ some (.rightOperand lhs op)

/-- A group keeps what is inside from what stands around it. -/
theorem settle_of_grouped {frames : List Frame} (h : Grouped frames) (value : Expr) :
    settle frames value = (frames, value) := by
  match frames with
  | .rightOperand lhs op :: _ => exact absurd rfl (h lhs op)
  | [] | .group :: _ | .subscript _ :: _ | .arguments .. :: _ => rfl

/-- Texts behind an operand that is not followed by an operator. -/
inductive Closes : List Char → Prop where
  | nil : Closes []
  | paren (rest : List Char) : Closes (')' :: rest)
  | bracket (rest : List Char) : Closes (']' :: rest)
  | comma (rest : List Char) : Closes (',' :: ' ' :: rest)

theorem lexemes_nil : lexemes [] = [] := by
  rw [lexemes, munch]
  rfl

theorem ends_cons {c : Char} (h : isWordChar c = false) (rest : List Char) : Ends (c :: rest) := by
  intro d hd
  obtain rfl : c = d := by simpa using hd
  exact h

theorem Closes.ends {rest : List Char} (h : Closes rest) : Ends rest := by
  cases h with
  | nil => exact fun c hc => by simp at hc
  | paren rest => exact ends_cons (by decide) rest
  | bracket rest => exact ends_cons (by decide) rest
  | comma rest => exact ends_cons (by decide) _

/-- Where nothing more can join, a right operand makes its operator whole. -/
theorem proceed_rightOperand {frames : List Frame} {rest : List Char} (hframes : Grouped frames)
    (hrest : Closes rest) (lhs rhs : Expr) (op : String) :
    proceed (.rightOperand lhs op :: frames) rhs (lexemes rest) =
      proceed frames (.binop lhs op rhs) (lexemes rest) := by
  have hsettle : settle (.rightOperand lhs op :: frames) rhs = settle frames (.binop lhs op rhs) :=
    (settle_of_grouped hframes _).symm
  cases hrest with
  | nil => rw [lexemes_nil, proceed, proceed, hsettle]
  | paren rest => rw [lexemes_mark (by decide), proceed, proceed, hsettle]
  | bracket rest => rw [lexemes_mark (by decide), proceed, proceed, hsettle]
  | comma rest =>
    rw [lexemes_mark (by decide), lexemes_mark (by decide), proceed, proceed, hsettle]

theorem ofWord_of_not_digits {name : Identifier} (h : isName name.text.toList = true)
    (htrue : name.text ≠ "true") (hfalse : name.text ≠ "false") :
    ofWord name.text = some (.var name none) := by
  have hdigits : name.text.toList.all Char.isDigit = false := by
    cases hname : name.text.toList with
    | nil => simp [isName, hname] at h
    | cons c rest =>
      simp only [hname, isName, Bool.and_eq_true, Bool.not_eq_true'] at h
      simp [h.1]
  have hcheck : Identifier.check name.text = .ok name := Identifier.check_eq_ok_iff.mpr rfl
  rw [ofWord, if_neg htrue, if_neg hfalse, if_neg (by simp [hdigits]), hcheck]
  rfl

/-- A name is called as what it stands for by itself: even the word of a truth value. -/
theorem exists_ofWord_called {name : Identifier} (h : isName name.text.toList = true) :
    ∃ value, ofWord name.text = some value ∧
      ∀ args, called value args = some (.call name args) := by
  by_cases htrue : name.text = "true"
  · refine ⟨.bool true, by rw [ofWord, if_pos htrue], fun args => ?_⟩
    obtain ⟨text, acceptable⟩ := name
    obtain rfl : text = "true" := htrue
    rfl
  by_cases hfalse : name.text = "false"
  · refine ⟨.bool false, by rw [ofWord, if_neg htrue, if_pos hfalse], fun args => ?_⟩
    obtain ⟨text, acceptable⟩ := name
    obtain rfl : text = "false" := hfalse
    rfl
  · exact ⟨.var name none, ofWord_of_not_digits h htrue hfalse, fun args => rfl⟩

/-- A number at or above zero is a word of its digits. -/
theorem ofWord_digits (n : Nat) :
    ofWord (String.ofList (Nat.toDigits 10 n)) = some (.num n) := by
  have hdigits := isDigit_toDigits n
  have hword : ∀ word : String, (∃ c ∈ word.toList, c.isDigit = false) →
      String.ofList (Nat.toDigits 10 n) ≠ word := by
    rintro _ ⟨c, hc, hletter⟩ rfl
    rw [String.toList_ofList] at hc
    simp [hdigits c hc] at hletter
  rw [ofWord, if_neg (hword _ ⟨'t', by decide⟩), if_neg (hword _ ⟨'f', by decide⟩),
    String.toList_ofList, if_pos (List.all_eq_true.mpr hdigits), Nat.ofDigitChars_ten_toDigits]

/-- An expression is read back in front of any text that does not go on with its last word. A
binary one needs, besides, a group of its own around it. -/
def Reads (e : Expr) : Prop := ∀ (frames : List Frame) (rest : List Char), Ends rest →
  (e.isBinary = true → Grouped frames ∧ Closes rest) →
    expect frames (lexemes (e.text.toList ++ rest)) = proceed frames e.resolved (lexemes rest)

/-- Arguments are read back up to the parenthesis behind them. -/
def ReadsAll (es : List Expr) : Prop := ∀ (callee : Expr) (done : List Expr)
    (frames : List Frame) (rest : List Char), (es = [] → done = []) →
  expect (.arguments callee done :: frames)
      (lexemes ((", ".intercalate (Expr.texts es)).toList ++ ')' :: rest)) =
    (called callee (done ++ Expr.resolvedAll es)).bind fun value =>
      proceed frames value (lexemes rest)

/-- An operand is read back wherever it stands, since a binary one brings its parentheses. -/
theorem Reads.operand {e : Expr} (h : Reads e) (frames : List Frame) {rest : List Char}
    (hends : Ends rest) :
    expect frames (lexemes ((Expr.parenthesize e.isBinary e.text).toList ++ rest)) =
      proceed frames e.resolved (lexemes rest) := by
  by_cases hbinary : e.isBinary = true
  · have htext : (Expr.parenthesize e.isBinary e.text).toList ++ rest =
        '(' :: (e.text.toList ++ ')' :: rest) := by
      simp [Expr.parenthesize, hbinary]
    have hgrouped : Grouped (.group :: frames) := fun lhs op => by simp
    rw [htext, lexemes_mark (by decide), expect_open,
      h _ _ (ends_cons (by decide) rest) fun _ => ⟨hgrouped, .paren rest⟩,
      lexemes_mark (by decide), proceed_close_group]
  · have hplain : e.isBinary = false := by simpa using hbinary
    rw [Expr.parenthesize, hplain, if_neg (by decide)]
    exact h frames rest hends fun h => absurd h hbinary

theorem lexemes_name {name : String} (h : isName name.toList = true) {rest : List Char}
    (hends : Ends rest) : lexemes (name.toList ++ rest) = .word name :: lexemes rest := by
  obtain ⟨hne, hword⟩ := Declarator.isWordChar_of_isName h
  rw [lexemes_word hne hword hends, String.ofList_toList]

theorem reads_var {name : Identifier} {type : Option CType} (h : isName name.text.toList = true)
    (htrue : name.text ≠ "true") (hfalse : name.text ≠ "false") : Reads (.var name type) := by
  intro frames rest hends _
  rw [Expr.text, lexemes_name h hends, expect_word, ofWord_of_not_digits h htrue hfalse]
  rfl

/-- A number is a word, or one lexeme with its sign. -/
theorem reads_num (n : Int) : Reads (.num n) := by
  intro frames rest hends _
  cases n with
  | ofNat n =>
    have hdigits : ∀ c ∈ Nat.toDigits 10 n, isWordChar c = true := fun c hc =>
      isWordChar_of_isDigit (isDigit_toDigits n c hc)
    rw [Expr.text, Declarator.toList_ofNat, lexemes_word Nat.toDigits_ne_nil hdigits hends,
      expect_word, ofWord_digits]
    rfl
  | negSucc n =>
    rw [Expr.text, Declarator.toList_negSucc,
      lexemes_negative Nat.toDigits_ne_nil (isDigit_toDigits (n + 1)) hends, expect_negative,
      Nat.ofDigitChars_ten_toDigits]
    rfl

theorem reads_str (s : String) : Reads (.str s) := by
  intro frames rest _ _
  rw [Expr.text, lexemes_quoted, expect_quoted]
  rfl

theorem reads_bool (value : Bool) : Reads (.bool value) := by
  intro frames rest hends _
  have hname : isName (Expr.bool value).text.toList = true := by
    cases value <;> decide
  rw [lexemes_name hname hends, expect_word]
  cases value <;> rfl

/-- A call is read as its name, and then its arguments up to the closing parenthesis. -/
theorem reads_call {name : Identifier} {args : List Expr} (hname : isName name.text.toList = true)
    (hargs : ReadsAll args) : Reads (.call name args) := by
  intro frames rest _ _
  have htext : (Expr.call name args).text.toList ++ rest = name.text.toList ++ '(' ::
      ((", ".intercalate (Expr.texts args)).toList ++ ')' :: rest) := by
    simp [Expr.text]
  obtain ⟨value, hvalue, hcalled⟩ := exists_ofWord_called hname
  rw [htext, lexemes_name hname (ends_cons (by decide) _), expect_word, hvalue,
    Option.bind_some, lexemes_mark (by decide), proceed_call,
    hargs value [] frames rest fun _ => rfl, hcalled]
  rfl

/-- A member is read from the operator in front of it, which says whether it is an arrow. -/
theorem proceed_access {name : String} (hname : isName name.toList = true) (target : Expr)
    (arrow : Option Bool) (frames : List Frame) (value : Expr) {rest : List Char}
    (hends : Ends rest) :
    proceed frames value (lexemes ((Expr.access target arrow).toList ++ (name.toList ++ rest))) =
      proceed frames (.field value name (some (arrow.getD target.isPointer))) (lexemes rest) := by
  -- An arrow is cut as a run of operator characters, which the name behind it has to end.
  have hstart : ∀ c ∈ (name.toList ++ rest).head?, isOpChar c = false ∧ c.isDigit = false := by
    intro c hc
    cases hlist : name.toList with
    | nil => simp [isName, hlist] at hname
    | cons d more =>
      obtain rfl : d = c := by simpa [hlist] using hc
      simp only [hlist, isName, Bool.and_eq_true, Bool.not_eq_true', List.all_cons] at hname
      exact ⟨isOpChar_of_isWordChar hname.2.1, hname.1⟩
  cases harrow : arrow.getD target.isPointer with
  | false =>
    have haccess : (Expr.access target arrow).toList = ['.'] := by
      rw [Expr.access, harrow]
      rfl
    rw [haccess, List.singleton_append, lexemes_mark (by decide), lexemes_name hname hends,
      proceed_dot]
  | true =>
    have haccess : (Expr.access target arrow).toList = ['-', '>'] := by
      rw [Expr.access, harrow]
      rfl
    have hchars : ∀ c ∈ ['-', '>'], isOpChar c = true := List.all_eq_true.mp (by decide)
    have hspelling : String.ofList ['-', '>'] = "->" := rfl
    rw [haccess, lexemes_operator (by simp) hchars hstart, lexemes_name hname hends, hspelling,
      proceed_arrow]

theorem ends_access (target : Expr) (arrow : Option Bool) (rest : List Char) :
    Ends ((Expr.access target arrow).toList ++ rest) := by
  rw [Expr.access]
  split
  · exact ends_cons (by decide) _
  · exact ends_cons (by decide) _

/-- The target of a member gets parentheses exactly where reading it needs them. -/
theorem reads_field {target : Expr} {name : String} {arrow : Option Bool}
    (hname : isName name.toList = true) (hcompound : target.isCompound = target.isBinary)
    (htarget : Reads target) : Reads (.field target name arrow) := by
  intro frames rest hends _
  have htext : (Expr.field target name arrow).text.toList ++ rest =
      (Expr.parenthesize target.isBinary target.text).toList ++
        ((Expr.access target arrow).toList ++ (name.toList ++ rest)) := by
    simp [Expr.text, hcompound]
  rw [htext, htarget.operand frames (ends_access target arrow _),
    proceed_access hname target arrow frames _ hends]
  rfl

theorem reads_methodCall {target : Expr} {method : String} {args : List Expr}
    {arrow : Option Bool} (hname : isName method.toList = true)
    (hcompound : target.isCompound = target.isBinary) (htarget : Reads target)
    (hargs : ReadsAll args) : Reads (.methodCall target method args arrow) := by
  intro frames rest _ _
  have htext : (Expr.methodCall target method args arrow).text.toList ++ rest =
      (Expr.parenthesize target.isBinary target.text).toList ++
        ((Expr.access target arrow).toList ++ (method.toList ++ '(' ::
          ((", ".intercalate (Expr.texts args)).toList ++ ')' :: rest))) := by
    simp [Expr.text, hcompound]
  rw [htext, htarget.operand frames (ends_access target arrow _),
    proceed_access hname target arrow frames _ (ends_cons (by decide) _),
    lexemes_mark (by decide), proceed_call, hargs _ [] frames rest fun _ => rfl]
  rfl

theorem reads_index {target position : Expr} (htarget : Reads target) (hposition : Reads position) :
    Reads (.index target position) := by
  intro frames rest _ _
  have htext : (Expr.index target position).text.toList ++ rest =
      (Expr.parenthesize target.isBinary target.text).toList ++
        '[' :: (position.text.toList ++ ']' :: rest) := by
    simp [Expr.text]
  have hgrouped : Grouped (.subscript target.resolved :: frames) := fun lhs op => by simp
  rw [htext, htarget.operand frames (ends_cons (by decide) _), lexemes_mark (by decide),
    proceed_subscript, hposition _ _ (ends_cons (by decide) rest) fun _ =>
      ⟨hgrouped, .bracket rest⟩, lexemes_mark (by decide), proceed_bracket]
  rfl

theorem proceed_operator {frames : List Frame} (h : Grouped frames) (value : Expr) (op : String)
    (rest : List Lexeme) :
    proceed frames value (.mark ' ' :: .operator op :: .mark ' ' :: rest) =
      expect (.rightOperand value op :: frames) rest := by
  rw [proceed]
  rintro lhs op tail rfl
  exact h lhs op rfl

/-- Both operands bring their own parentheses, so that the operator joins just these two. -/
theorem reads_binop {lhs rhs : Expr} {op : String} (hop : Expr.isOperator op = true)
    (hlhs : Reads lhs) (hrhs : Reads rhs) : Reads (.binop lhs op rhs) := by
  intro frames rest hends hbinary
  obtain ⟨hgrouped, hcloses⟩ := hbinary rfl
  obtain ⟨hne, hchars⟩ : op.toList ≠ [] ∧ ∀ c ∈ op.toList, isOpChar c = true := by
    simpa [Expr.isOperator] using hop
  have htext : (Expr.binop lhs op rhs).text.toList ++ rest =
      (Expr.parenthesize lhs.isBinary lhs.text).toList ++ ' ' :: (op.toList ++ ' ' ::
        ((Expr.parenthesize rhs.isBinary rhs.text).toList ++ rest)) := by
    simp [Expr.text]
  have hblank : ∀ more : List Char, ∀ c ∈ (' ' :: more).head?,
      isOpChar c = false ∧ c.isDigit = false := by
    intro more c hc
    obtain rfl : ' ' = c := by simpa using hc
    decide
  rw [htext, hlhs.operand frames (ends_cons (by decide) _), lexemes_mark (by decide),
    lexemes_operator hne hchars (hblank _), lexemes_mark (by decide), String.ofList_toList,
    proceed_operator hgrouped, hrhs.operand _ hends, proceed_rightOperand hgrouped hcloses]
  rfl

theorem grouped_arguments (callee : Expr) (done : List Expr) (frames : List Frame) :
    Grouped (.arguments callee done :: frames) := fun lhs op => by simp

theorem readsAll_nil : ReadsAll [] := by
  intro callee done frames rest hdone
  have htext : (", ".intercalate (Expr.texts [])).toList ++ ')' :: rest = ')' :: rest := by
    simp [Expr.texts]
  rw [htext, hdone rfl, lexemes_mark (by decide), expect_close]
  rfl

theorem readsAll_singleton {e : Expr} (h : Reads e) : ReadsAll [e] := by
  intro callee done frames rest _
  have htext : (", ".intercalate (Expr.texts [e])).toList ++ ')' :: rest =
      e.text.toList ++ ')' :: rest := by
    simp [Expr.texts]
  have hgrouped := grouped_arguments callee done frames
  rw [htext, h _ _ (ends_cons (by decide) rest) fun _ => ⟨hgrouped, .paren rest⟩,
    lexemes_mark (by decide), proceed_close_arguments]
  rfl

/-- An argument in front of others is read up to its comma. -/
theorem readsAll_cons {e f : Expr} {es : List Expr} (h : Reads e) (hes : ReadsAll (f :: es)) :
    ReadsAll (e :: f :: es) := by
  intro callee done frames rest _
  have htext : (", ".intercalate (Expr.texts (e :: f :: es))).toList ++ ')' :: rest =
      e.text.toList ++ ',' :: ' ' ::
        ((", ".intercalate (Expr.texts (f :: es))).toList ++ ')' :: rest) := by
    simp [Expr.texts]
  have hgrouped := grouped_arguments callee done frames
  have hargs : done ++ Expr.resolvedAll (e :: f :: es) =
      done ++ [e.resolved] ++ Expr.resolvedAll (f :: es) := by
    simp [Expr.resolvedAll]
  rw [htext, h _ _ (ends_cons (by decide) _) fun _ => ⟨hgrouped, .comma _⟩,
    lexemes_mark (by decide), lexemes_mark (by decide), proceed_comma, hargs]
  exact hes callee (done ++ [e.resolved]) frames rest (by simp)

mutual

/-- Every expression is read back, by its constructor. -/
theorem reads : (e : Expr) → e.isReadable = true → Reads e
  | .var name type, h => by
    simp only [Expr.isReadable, Bool.and_eq_true, bne_iff_ne] at h
    exact reads_var h.1.1 h.1.2 h.2
  | .num n, _ => reads_num n
  | .str s, _ => reads_str s
  | .bool value, _ => reads_bool value
  | .call name args, h => by
    simp only [Expr.isReadable, Bool.and_eq_true] at h
    exact reads_call h.1 (readsAll args h.2)
  | .field target name arrow, h => by
    simp only [Expr.isReadable, Bool.and_eq_true] at h
    exact reads_field h.1 (Expr.isCompound_eq_isBinary h.2) (reads target h.2)
  | .methodCall target method args arrow, h => by
    simp only [Expr.isReadable, Bool.and_eq_true] at h
    exact reads_methodCall h.1.1 (Expr.isCompound_eq_isBinary h.1.2) (reads target h.1.2)
      (readsAll args h.2)
  | .index target position, h => by
    simp only [Expr.isReadable, Bool.and_eq_true] at h
    exact reads_index (reads target h.1) (reads position h.2)
  | .binop lhs op rhs, h => by
    simp only [Expr.isReadable, Bool.and_eq_true] at h
    exact reads_binop h.1.1 (reads lhs h.1.2) (reads rhs h.2)
  | .shared id expr, h => reads expr h

theorem readsAll : (es : List Expr) → Expr.areReadable es = true → ReadsAll es
  | [], _ => readsAll_nil
  | [e], h => by
    simp only [Expr.areReadable, Bool.and_eq_true] at h
    exact readsAll_singleton (reads e h.1)
  | e :: f :: es, h => by
    rw [Expr.areReadable, Bool.and_eq_true] at h
    exact readsAll_cons (reads e h.1) (readsAll (f :: es) h.2)

end

/-- Reading the text of an expression gives the expression, as far as the text shows it. -/
theorem read_text {e : Expr} (h : e.isReadable = true) : read e.text = some e.resolved := by
  have hgrouped : Grouped [] := fun lhs op => by simp
  have hread := reads e h [] [] Closes.nil.ends fun _ => ⟨hgrouped, .nil⟩
  rw [List.append_nil] at hread
  rw [read, hread, lexemes_nil, proceed_nil]

end Reading

namespace Expr

/-- Two expressions have one text exactly if they are the same apart from the types of variables
and from how an arrow came about. No precedence of operators is called upon. -/
theorem text_eq_iff {e f : Expr} (he : e.isReadable = true) (hf : f.isReadable = true) :
    e.text = f.text ↔ e.resolved = f.resolved := by
  constructor
  · intro htext
    have hread : some e.resolved = some f.resolved := by
      rw [← Reading.read_text he, ← Reading.read_text hf, htext]
    exact Option.some.inj hread
  · intro hresolved
    rw [← e.text_resolved, ← f.text_resolved, hresolved]

theorem text_eq_iff_nested :
    (binop (.binop (.var ⟨"a", by decide⟩ none) "-" (.num (-1))) "-" (.str ") - \"")).text ≠
      (binop (.var ⟨"a", by decide⟩ none) "-" (.binop (.num (-1)) "-" (.str ") - \""))).text := by
  intro htext
  have hresolved := (text_eq_iff (by decide) (by decide)).mp htext
  cases hresolved

end Expr

end CWriter

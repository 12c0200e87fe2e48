import Mathlib.Data.List.Infix
import Mathlib.Logic.Relation
import CWriter.Expr

/-!
# String literals read back

Between its quotes a literal is a row of plain characters and of escapes, and there is one way to
cut it into them. A reader that starts behind the opening quote therefore stops at the quote that
closes the literal, whatever stands behind it, and has read the value by then.
-/
namespace CWriter

open CWriter.Expr (escapeChar literal)

namespace Quotation

/-- What an escape with this letter stands for. -/
def escape? : Char → Option Char
  | '\\' => some '\\'
  | '"' => some '"'
  | 'n' => some '\n'
  | 't' => some '\t'
  | _ => none

/-- Characters that do not stand for themselves in a literal. -/
def isSpecial (c : Char) : Bool := c == '\\' || c == '"' || c == '\n' || c == '\t'

/-- A text, cut from left to right into plain characters and escapes, with what it stands for. -/
inductive StandsFor : List Char → List Char → Prop where
  | nil : StandsFor [] []
  | plain {c : Char} {body value : List Char} :
      isSpecial c = false → StandsFor body value → StandsFor (c :: body) (c :: value)
  | escape {letter c : Char} {body value : List Char} :
      escape? letter = some c → StandsFor body value →
        StandsFor ('\\' :: letter :: body) (c :: value)

/-- Reads on behind an opening quote up to the quote that closes it: what was quoted, and what
stands behind it. -/
def scan : List Char → Option (List Char × List Char)
  | [] => none
  | '"' :: rest => some ([], rest)
  | '\\' :: letter :: rest =>
    (escape? letter).bind fun c => (scan rest).map (Prod.map (c :: ·) id)
  | c :: rest => if isSpecial c then none else (scan rest).map (Prod.map (c :: ·) id)

theorem escapeChar_of_plain {c : Char} (h : isSpecial c = false) : escapeChar c = [c] := by
  simp only [isSpecial, Bool.or_eq_false_iff, beq_eq_false_iff_ne] at h
  obtain ⟨⟨⟨hbackslash, hquote⟩, hfeed⟩, htab⟩ := h
  rw [escapeChar, if_neg hbackslash, if_neg hquote, if_neg hfeed, if_neg htab]

theorem escapeChar_of_escape {letter c : Char} (h : escape? letter = some c) :
    escapeChar c = ['\\', letter] := by
  rw [escape?.eq_def] at h
  split at h
  all_goals cases h
  all_goals rfl

/-- Every character that may not stand for itself has an escape. -/
theorem exists_escape {c : Char} (h : isSpecial c = true) : ∃ letter, escape? letter = some c := by
  simp only [isSpecial, Bool.or_eq_true, beq_iff_eq] at h
  rcases h with ((rfl | rfl) | rfl) | rfl
  · exact ⟨'\\', rfl⟩
  · exact ⟨'"', rfl⟩
  · exact ⟨'n', rfl⟩
  · exact ⟨'t', rfl⟩

/-- The letters of the escapes are no line feed and no tab. -/
theorem letter_of_escape {letter c : Char} (h : escape? letter = some c) :
    letter ≠ '\n' ∧ letter ≠ '\t' := by
  constructor
  · rintro rfl
    cases h
  · rintro rfl
    cases h

theorem standsFor_escaped (value : List Char) : StandsFor (value.flatMap escapeChar) value := by
  induction value with
  | nil => exact .nil
  | cons c value ih =>
    rw [List.flatMap_cons]
    cases hc : isSpecial c with
    | false =>
      rw [escapeChar_of_plain hc]
      exact .plain hc ih
    | true =>
      obtain ⟨letter, hletter⟩ := exists_escape hc
      rw [escapeChar_of_escape hletter]
      exact .escape hletter ih

/-- A value is spelled in one way only. -/
theorem standsFor_iff {body value : List Char} :
    StandsFor body value ↔ body = value.flatMap escapeChar := by
  constructor
  · intro h
    induction h with
    | nil => rfl
    | plain hc _ ih => rw [List.flatMap_cons, escapeChar_of_plain hc, ih]; rfl
    | escape hletter _ ih => rw [List.flatMap_cons, escapeChar_of_escape hletter, ih]; rfl
  · rintro rfl
    exact standsFor_escaped value

theorem StandsFor.unbroken {body value : List Char} (h : StandsFor body value) :
    '\n' ∉ body ∧ '\t' ∉ body := by
  induction h with
  | nil => simp
  | plain hc _ ih =>
    rw [isSpecial] at hc
    constructor
    · rintro (_ | ⟨_, hmem⟩)
      · simp at hc
      · exact ih.1 hmem
    · rintro (_ | ⟨_, hmem⟩)
      · simp at hc
      · exact ih.2 hmem
  | escape hletter _ ih =>
    have hne := letter_of_escape hletter
    simp [ih, hne.1.symm, hne.2.symm]

theorem scan_plain {c : Char} (h : isSpecial c = false) (rest : List Char) :
    scan (c :: rest) = (scan rest).map (Prod.map (c :: ·) id) := by
  have hquote : c ≠ '"' := by
    rintro rfl
    cases h
  have hbackslash : c ≠ '\\' := by
    rintro rfl
    cases h
  rw [scan.eq_def]
  split
  · contradiction
  · simp_all
  · simp_all
  · simp_all

theorem scan_escape {letter c : Char} (h : escape? letter = some c) (rest : List Char) :
    scan ('\\' :: letter :: rest) = (scan rest).map (Prod.map (c :: ·) id) := by
  rw [scan, h, Option.bind_some]

/-- The closing quote is found behind the body, and nothing behind it is looked at. -/
theorem StandsFor.scan_append {body value : List Char} (h : StandsFor body value)
    (rest : List Char) : scan (body ++ '"' :: rest) = some (value, rest) := by
  induction h with
  | nil => rfl
  | plain hc _ ih => rw [List.cons_append, scan_plain hc, ih]; rfl
  | escape hletter _ ih => rw [List.cons_append, List.cons_append, scan_escape hletter, ih]; rfl

/-- Whatever is read was spelled: the reader takes no text that is not a literal. -/
theorem standsFor_of_scan {text value rest : List Char} (h : scan text = some (value, rest)) :
    ∃ body, StandsFor body value ∧ text = body ++ '"' :: rest := by
  induction text using scan.induct generalizing value with
  | case1 => cases h
  | case2 =>
    cases h
    exact ⟨[], .nil, rfl⟩
  | case3 letter tail ih =>
    rw [scan, Option.bind_eq_some_iff] at h
    obtain ⟨c, hletter, h⟩ := h
    obtain ⟨⟨inner, end'⟩, hinner, heq⟩ := Option.map_eq_some_iff.mp h
    cases heq
    obtain ⟨body, hbody, rfl⟩ := ih hinner
    exact ⟨'\\' :: letter :: body, .escape hletter hbody, rfl⟩
  | case4 c tail hquote hbackslash hc =>
    rw [scan, if_pos hc] at h
    · cases h
    · exact hquote
    · exact hbackslash
  | case5 c tail hquote hbackslash hc ih =>
    have hplain : isSpecial c = false := by simpa using hc
    rw [scan_plain hplain] at h
    obtain ⟨⟨inner, end'⟩, hinner, heq⟩ := Option.map_eq_some_iff.mp h
    cases heq
    obtain ⟨body, hbody, rfl⟩ := ih hinner
    exact ⟨c :: body, .plain hplain hbody, rfl⟩

theorem scan_eq_some_iff {text value rest : List Char} :
    scan text = some (value, rest) ↔ ∃ body, StandsFor body value ∧ text = body ++ '"' :: rest := by
  constructor
  · exact standsFor_of_scan
  · rintro ⟨body, hbody, rfl⟩
    exact hbody.scan_append rest

def replaceAll (c : Char) (new : List Char) (text : List Char) : List Char :=
  text.flatMap fun d => if d = c then new else [d]

/-- The four characters replaced one after the other in the whole text. The backslash comes first,
since each later replacement writes backslashes of its own. -/
def escapedInTurn (text : List Char) : List Char :=
  replaceAll '\t' ['\\', 't'] <| replaceAll '\n' ['\\', 'n'] <|
    replaceAll '"' ['\\', '"'] <| replaceAll '\\' ['\\', '\\'] text

theorem escapedInTurn_eq (text : List Char) : escapedInTurn text = text.flatMap escapeChar := by
  simp only [escapedInTurn, replaceAll, List.flatMap_assoc]
  refine List.flatMap_congr fun c _ => ?_
  cases hc : isSpecial c with
  | true =>
    obtain ⟨letter, hletter⟩ := exists_escape hc
    rw [escapeChar_of_escape hletter]
    rw [escape?.eq_def] at hletter
    split at hletter
    all_goals cases hletter
    all_goals rfl
  | false =>
    rw [escapeChar_of_plain hc]
    simp only [isSpecial, Bool.or_eq_false_iff, beq_eq_false_iff_ne] at hc
    simp [hc]

end Quotation

namespace Expr

/-- The expressions that stand directly in an expression. -/
def parts : Expr → List Expr
  | raw .. | var .. | num _ | str _ | bool _ => []
  | call _ args => args
  | field target .. => [target]
  | methodCall target _ args _ => target :: args
  | index target position => [target, position]
  | deref inner | addrOf inner | unop _ inner | shared _ inner => [inner]
  | binop lhs _ rhs => [lhs, rhs]

/-- The second expression is the first one, or holds it at some depth. -/
def Inside : Expr → Expr → Prop := Relation.ReflTransGen fun part whole => part ∈ whole.parts

theorem infix_parenthesize (wanted : Bool) (text : String) :
    text.toList <:+: (parenthesize wanted text).toList := by
  cases wanted with
  | false => exact List.infix_rfl
  | true => exact ⟨['('], [')'], by simp [parenthesize]⟩

theorem infix_texts {part : Expr} {es : List Expr} (h : part ∈ es) :
    part.text.toList <:+: (", ".intercalate (texts es)).toList := by
  induction es with
  | nil => cases h
  | cons e es ih =>
    rw [texts]
    cases es with
    | nil =>
      obtain rfl := List.mem_singleton.mp h
      rw [texts, String.intercalate_singleton]
    | cons e' es =>
      rw [texts, String.intercalate_cons_cons, ← texts]
      simp only [String.toList_append]
      obtain rfl | h := List.mem_cons.mp h
      · rw [List.append_assoc]
        exact (List.prefix_append _ _).isInfix
      · exact (ih h).trans (List.suffix_append _ _).isInfix

/-- The text of an expression holds the texts of its parts as they are. -/
theorem infix_of_mem_parts {part whole : Expr} (h : part ∈ whole.parts) :
    part.text.toList <:+: whole.text.toList := by
  cases whole with
  | raw | var | num | str | bool => cases h
  | call name args =>
    have hargs : part ∈ args := h
    exact (infix_texts hargs).trans ⟨(name.text ++ "(").toList, [')'], by simp [text]⟩
  | field target name arrow =>
    obtain rfl := List.mem_singleton.mp h
    exact (infix_parenthesize part.isCompound _).trans
      ⟨[], (access part arrow ++ name).toList, by simp [text]⟩
  | methodCall target method args arrow =>
    obtain rfl | hargs := List.mem_cons.mp h
    · exact (infix_parenthesize part.isCompound _).trans
        ⟨[], (access part arrow ++ method ++ "(" ++ ", ".intercalate (texts args) ++ ")").toList,
          by simp [text]⟩
    · exact (infix_texts hargs).trans
        ⟨(parenthesize target.isCompound target.text ++ access target arrow ++ method ++
          "(").toList, [')'], by simp [text]⟩
  | index target position =>
    obtain rfl | hposition := List.mem_cons.mp h
    · exact (infix_parenthesize part.isBinary _).trans
        ⟨[], ("[" ++ position.text ++ "]").toList, by simp [text]⟩
    · obtain rfl := List.mem_singleton.mp hposition
      exact ⟨(parenthesize target.isBinary target.text ++ "[").toList, [']'], by simp [text]⟩
  | deref inner =>
    obtain rfl := List.mem_singleton.mp h
    exact (infix_parenthesize part.isBinary _).trans ⟨['*'], [], by simp [text]⟩
  | addrOf inner =>
    obtain rfl := List.mem_singleton.mp h
    exact (infix_parenthesize part.isBinary _).trans ⟨['&'], [], by simp [text]⟩
  | unop op inner =>
    obtain rfl := List.mem_singleton.mp h
    exact (infix_parenthesize part.isBinary _).trans ⟨op.toList, [], by simp [text]⟩
  | binop lhs op rhs =>
    obtain rfl | hrhs := List.mem_cons.mp h
    · exact (infix_parenthesize part.isBinary _).trans
        ⟨[], (" " ++ op ++ " " ++ parenthesize rhs.isBinary rhs.text).toList, by simp [text]⟩
    · obtain rfl := List.mem_singleton.mp hrhs
      exact (infix_parenthesize part.isBinary _).trans
        ⟨(parenthesize lhs.isBinary lhs.text ++ " " ++ op ++ " ").toList, [], by simp [text]⟩
  | shared id inner =>
    obtain rfl := List.mem_singleton.mp h
    rw [text]

theorem Inside.text_isInfix {part whole : Expr} (h : part.Inside whole) :
    part.text.toList <:+: whole.text.toList := by
  induction h with
  | refl => exact List.infix_rfl
  | tail _ hpart ih => exact ih.trans (infix_of_mem_parts hpart)

theorem toList_text_str (s : String) :
    (Expr.str s).text.toList = '"' :: (s.toList.flatMap escapeChar ++ ['"']) := by
  simp [text, literal]

open Quotation in
/-- Behind an opening quote the reader takes what is left of a literal, and nothing else. -/
theorem scan_eq_some_iff_text {text rest : List Char} {s : String} :
    scan text = some (s.toList, rest) ↔ '"' :: text = (Expr.str s).text.toList ++ rest := by
  rw [scan_eq_some_iff, toList_text_str]
  constructor
  · rintro ⟨body, hbody, rfl⟩
    rw [standsFor_iff.mp hbody, List.cons_append, List.append_assoc]
    rfl
  · intro h
    refine ⟨_, standsFor_iff.mpr rfl, ?_⟩
    rw [List.cons_append, List.append_assoc] at h
    exact (List.cons.inj h).2

open Quotation in
/-- A literal is a quote, the value with its four special characters replaced in turn, and a
quote. What is between the quotes is cut into plain characters and escapes that spell the value
and no other one, a reader that starts behind the opening quote ends at the closing one in every
expression the literal stands in, and no other value has the same literal. -/
theorem literal_round_trip (s : String) :
    (Expr.str s).text.toList = '"' :: (escapedInTurn s.toList ++ ['"']) ∧
    (∀ value, StandsFor (escapedInTurn s.toList) value ↔ value = s.toList) ∧
    '\n' ∉ escapedInTurn s.toList ∧ '\t' ∉ escapedInTurn s.toList ∧
    (∀ rest, scan (escapedInTurn s.toList ++ '"' :: rest) = some (s.toList, rest)) ∧
    (∀ whole : Expr, (Expr.str s).Inside whole → ∃ before after,
      whole.text.toList = before ++ '"' :: (escapedInTurn s.toList ++ '"' :: after) ∧
      scan (escapedInTurn s.toList ++ '"' :: after) = some (s.toList, after)) ∧
    ∀ t : String, (Expr.str t).text = (Expr.str s).text ↔ t = s := by
  have hbody : StandsFor (escapedInTurn s.toList) s.toList := by
    rw [escapedInTurn_eq]
    exact standsFor_escaped s.toList
  have htext : (Expr.str s).text.toList = '"' :: (escapedInTurn s.toList ++ ['"']) := by
    rw [toList_text_str, escapedInTurn_eq]
  have hscan : ∀ rest, scan (escapedInTurn s.toList ++ '"' :: rest) = some (s.toList, rest) := by
    intro rest
    rw [scan_eq_some_iff_text, htext, List.cons_append, List.append_assoc]
    rfl
  refine ⟨htext, fun value => ⟨?_, ?_⟩, hbody.unbroken.1, hbody.unbroken.2, hscan, ?_,
    fun t => ⟨?_, ?_⟩⟩
  · intro h
    exact congrArg Prod.fst (Option.some.inj ((h.scan_append []).symm.trans (hscan [])))
  · rintro rfl
    exact hbody
  · intro whole hinside
    obtain ⟨before, after, hwhole⟩ := hinside.text_isInfix
    refine ⟨before, after, ?_, hscan after⟩
    rw [← hwhole, htext]
    simp
  · intro heq
    have hother : scan (escapedInTurn s.toList ++ ['"']) = some (t.toList, []) := by
      rw [scan_eq_some_iff_text, heq, htext, List.append_nil]
    have hsame := Option.some.inj (hother.symm.trans (hscan []))
    exact String.toList_inj.mp (congrArg Prod.fst hsame)
  · rintro rfl
    rfl

end Expr

end CWriter

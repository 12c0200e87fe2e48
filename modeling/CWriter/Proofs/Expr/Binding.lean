import CWriter.Expr
import Mathlib.Data.List.Basic

/-!
# Operators in front and operators behind

C reads what stands behind an operand before what stands in front of it, so a prefixed operand
needs parentheses wherever something follows it. Members reached through a prefixed operand get
them. Subscripts do not: there the two trees always share their text.
-/
namespace CWriter

/-- An operator that stands in front of its operand. -/
inductive PrefixOp where
  | deref
  | addrOf
  | unop (op : String)

/-- What stands behind its target: a subscript or a member access. -/
inductive PostfixOp where
  | index (position : Expr)
  | field (name : String) (arrow : Option Bool)
  | methodCall (method : String) (args : List Expr) (arrow : Option Bool)

namespace PrefixOp

def text : PrefixOp → String
  | deref => "*"
  | addrOf => "&"
  | unop op => op

def apply : PrefixOp → Expr → Expr
  | deref, e => .deref e
  | addrOf, e => .addrOf e
  | unop op, e => .unop op e

theorem text_apply (p : PrefixOp) (e : Expr) :
    (p.apply e).text = p.text ++ Expr.parenthesize e.isBinary e.text := by
  cases p <;> rw [apply, Expr.text, text]

theorem isBinary_apply (p : PrefixOp) (e : Expr) : (p.apply e).isBinary = false := by
  cases p <;> rfl

theorem isCompound_apply (p : PrefixOp) (e : Expr) : (p.apply e).isCompound = true := by
  cases p <;> rfl

end PrefixOp

namespace PostfixOp

def apply : PostfixOp → Expr → Expr
  | index position, e => .index e position
  | field name arrow, e => .field e name arrow
  | methodCall method args arrow, e => .methodCall e method args arrow

def IsIndex : PostfixOp → Prop
  | index _ => True
  | _ => False

/-- Whether an arrow is asked for. A subscript has none. -/
def arrow : PostfixOp → Option Bool
  | index _ => none
  | field _ arrow | methodCall _ _ arrow => arrow

/-- What follows the member operator. -/
def tail : PostfixOp → String
  | index _ => ""
  | field name _ => name
  | methodCall method args _ => method ++ "(" ++ ", ".intercalate (Expr.texts args) ++ ")"

theorem isBinary_apply (q : PostfixOp) (e : Expr) : (q.apply e).isBinary = false := by
  cases q <;> rfl

theorem text_apply_of_not_isIndex {q : PostfixOp} (h : ¬ q.IsIndex) (e : Expr) :
    (q.apply e).text =
      Expr.parenthesize e.isCompound e.text ++ Expr.access e q.arrow ++ q.tail := by
  cases q with
  | index position => exact absurd trivial h
  | field name arrow => rw [apply, Expr.text, PostfixOp.arrow, tail]
  | methodCall method args arrow =>
    simp only [apply, Expr.text, PostfixOp.arrow, tail, String.append_assoc]

end PostfixOp

namespace Expr

theorem length_access (e : Expr) (arrow : Option Bool) :
    (access e arrow).toList.length = if arrow.getD e.isPointer then 2 else 1 := by
  rw [access]
  split <;> rfl

theorem length_access_bounds (e : Expr) (arrow : Option Bool) :
    1 ≤ (access e arrow).toList.length ∧ (access e arrow).toList.length ≤ 2 := by
  rw [length_access]
  split <;> decide

theorem access_eq_of_length_eq {e f : Expr} {arrow : Option Bool}
    (h : (access e arrow).toList.length = (access f arrow).toList.length) :
    access e arrow = access f arrow := by
  rw [length_access, length_access] at h
  rw [access, access]
  split at h <;> split at h <;> simp_all

theorem length_parenthesize (wanted : Bool) (text : String) :
    (parenthesize wanted text).toList.length = text.toList.length + if wanted then 2 else 0 := by
  cases wanted <;> simp [parenthesize]

end Expr

/-- A text passes over an opening parenthesis if it is made of nothing else. -/
theorem cons_eq_append_singleton_iff {α : Type} {a : α} {l : List α} :
    a :: l = l ++ [a] ↔ ∀ x ∈ l, x = a := by
  induction l with
  | nil => simp
  | cons b l ih =>
    rw [List.cons_append, List.cons.injEq, List.forall_mem_cons]
    constructor
    · rintro ⟨rfl, h⟩
      exact ⟨rfl, ih.mp h⟩
    · rintro ⟨rfl, h⟩
      exact ⟨rfl, ih.mpr h⟩

/-- A subscript on a prefixed operand and the prefix on the subscripted operand share their
text. -/
theorem text_index_apply (p : PrefixOp) (e position : Expr) :
    (Expr.index (p.apply e) position).text = (p.apply (.index e position)).text := by
  have hplain : (Expr.index e position).isBinary = false := rfl
  rw [Expr.text, p.isBinary_apply, p.text_apply, p.text_apply, hplain, Expr.text]
  simp only [Expr.parenthesize, Bool.false_eq_true, if_false, String.append_assoc]

/-- A group that starts in front of a prefix or behind it, in front of the same text. -/
theorem group_around_eq_iff (marks inner tail : List Char) :
    '(' :: (marks ++ inner ++ ')' :: tail) = marks ++ ('(' :: (inner ++ ')' :: tail)) ↔
      ∀ c ∈ marks, c = '(' := by
  rw [← cons_eq_append_singleton_iff]
  have hleft : '(' :: (marks ++ inner ++ ')' :: tail) = '(' :: marks ++ (inner ++ ')' :: tail) := by
    simp
  have hright : marks ++ ('(' :: (inner ++ ')' :: tail)) =
      marks ++ ['('] ++ (inner ++ ')' :: tail) := by
    simp
  rw [hleft, hright, List.append_left_inj]

section

variable {q : PostfixOp} (h : ¬ q.IsIndex) (p : PrefixOp) (e : Expr)
include h

theorem text_member_of_prefixed : (q.apply (p.apply e)).text.toList =
    '(' :: (p.text.toList ++ (Expr.parenthesize e.isBinary e.text).toList ++ ')' ::
      ((Expr.access (p.apply e) q.arrow).toList ++ q.tail.toList)) := by
  rw [PostfixOp.text_apply_of_not_isIndex h, p.isCompound_apply, p.text_apply]
  simp [Expr.parenthesize]

theorem text_prefixed_member : (p.apply (q.apply e)).text.toList =
    p.text.toList ++ ((Expr.parenthesize e.isCompound e.text).toList ++
      ((Expr.access e q.arrow).toList ++ q.tail.toList)) := by
  rw [p.text_apply, q.isBinary_apply, PostfixOp.text_apply_of_not_isIndex h]
  simp [Expr.parenthesize]

/-- The two readings differ in length unless the operand gets parentheses in front of a member,
but not behind a prefix. -/
theorem length_of_text_member_eq
    (heq : (q.apply (p.apply e)).text = (p.apply (q.apply e)).text) :
    e.isCompound = true ∧ e.isBinary = false ∧
      Expr.access (p.apply e) q.arrow = Expr.access e q.arrow := by
  have hlen := congrArg (fun t : String => t.toList.length) heq
  simp only [text_member_of_prefixed h, text_prefixed_member h, List.length_append,
    List.length_cons, Expr.length_parenthesize] at hlen
  have houter := Expr.length_access_bounds (p.apply e) q.arrow
  have hinner := Expr.length_access_bounds e q.arrow
  -- Parentheses weigh two and a member operator one or two, so the second pair on the left has
  -- to be made up for by a pair around the operand alone.
  cases hcompound : e.isCompound <;> cases hbinary : e.isBinary <;>
    simp only [hcompound, hbinary, Bool.false_eq_true, if_false, if_true] at hlen
  case true.false =>
    refine ⟨rfl, rfl, Expr.access_eq_of_length_eq ?_⟩
    omega
  all_goals omega

/-- When a member of a prefixed operand has the text of the prefix on the member: only where
the prefix is made of opening parentheses, so that it cannot be told from the parenthesis behind
it, and stands on an operand that only members parenthesise. -/
theorem text_member_apply_iff :
    (q.apply (p.apply e)).text = (p.apply (q.apply e)).text ↔
      (∀ c ∈ p.text.toList, c = '(') ∧ e.isCompound = true ∧ e.isBinary = false ∧
        Expr.access (p.apply e) q.arrow = Expr.access e q.arrow := by
  have hiff : e.isCompound = true → e.isBinary = false →
      Expr.access (p.apply e) q.arrow = Expr.access e q.arrow →
      ((q.apply (p.apply e)).text = (p.apply (q.apply e)).text ↔
        ∀ c ∈ p.text.toList, c = '(') := fun hcompound hbinary haccess => by
    have hgroup : (Expr.parenthesize e.isCompound e.text).toList =
        '(' :: (e.text.toList ++ [')']) := by
      rw [hcompound]
      simp [Expr.parenthesize]
    have hplain : Expr.parenthesize e.isBinary e.text = e.text := by
      rw [hbinary]
      rfl
    rw [← String.toList_inj, text_member_of_prefixed h, text_prefixed_member h, haccess, hgroup,
      hplain]
    simpa using group_around_eq_iff p.text.toList e.text.toList _
  constructor
  · intro heq
    obtain ⟨hcompound, hbinary, haccess⟩ := length_of_text_member_eq h p e heq
    exact ⟨(hiff hcompound hbinary haccess).mp heq, hcompound, hbinary, haccess⟩
  · rintro ⟨hall, hcompound, hbinary, haccess⟩
    exact (hiff hcompound hbinary haccess).mpr hall

end

/-- A postfix operator on a prefixed operand has the text of the prefix on the postfix
expression for every subscript, whatever the prefix, and for members only where the prefix
cannot be told from a parenthesis. -/
theorem text_apply_comm_iff (p : PrefixOp) (q : PostfixOp) (e : Expr) :
    (q.apply (p.apply e)).text = (p.apply (q.apply e)).text ↔
      q.IsIndex ∨ (∀ c ∈ p.text.toList, c = '(') ∧ e.isCompound = true ∧ e.isBinary = false ∧
        Expr.access (p.apply e) q.arrow = Expr.access e q.arrow := by
  by_cases h : q.IsIndex
  · cases q with
    | index position => exact iff_of_true (text_index_apply p e position) (.inl trivial)
    | field name arrow => exact h.elim
    | methodCall method args arrow => exact h.elim
  · rw [text_member_apply_iff h]
    exact ⟨.inr, fun hor => hor.resolve_left h⟩

/-- The subscripted value behind a pointer is written as the value behind a subscript: `*p[i]`. -/
theorem text_apply_comm_index_deref :
    ¬∀ (p : PrefixOp) (q : PostfixOp) (e : Expr), p.text ≠ "" →
      (q.apply (p.apply e)).text ≠ (p.apply (q.apply e)).text := by
  intro h
  exact h .deref (.index (.var ⟨"i", by decide⟩ none)) (.var ⟨"p", by decide⟩ none) (by decide) rfl

end CWriter

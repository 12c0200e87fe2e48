import CWriter.Expr
import CWriter.Proofs.Declarator.Reader
import Mathlib.Data.List.Basic

/-!
# The texts that trees are made of

A tree holds texts that were given to it, its fragments, and everything written for it is put
together from these and from fixed words and punctuation. So what holds of every printable
character of ASCII but the braces, and of every character of the fragments, holds of every
character that is written.
-/
namespace CWriter

/-- The printable characters of ASCII without the braces, which only blocks write. -/
def isPrinted (c : Char) : Bool :=
  0x20 ≤ c.toNat && c.toNat ≤ 0x7e && c.toNat != 0x7b && c.toNat != 0x7d

/-- A property of characters that fixed words and punctuation have. -/
def Spells (p : Char → Bool) : Prop := ∀ c : Char, isPrinted c = true → p c = true

/-- A text all of whose characters have a property. -/
def Code (p : Char → Bool) (s : String) : Prop := ∀ c ∈ s.toList, p c = true

/-- A text whose characters other than line feeds have a property. -/
def Prose (p : Char → Bool) (s : String) : Prop := ∀ c ∈ s.toList, c = '\n' ∨ p c = true

instance (p : Char → Bool) (s : String) : Decidable (Code p s) :=
  decidable_of_iff (s.toList.all p = true) List.all_eq_true

instance (p : Char → Bool) (s : String) : Decidable (Prose p s) :=
  decidable_of_iff (s.toList.all (fun c => c == '\n' || p c) = true) (by simp [Prose])

section

variable {p : Char → Bool}

/-- Fixed words. -/
theorem Spells.code (h : Spells p) {s : String} (hs : s.toList.all isPrinted = true) : Code p s :=
  fun c hc => h c (List.all_eq_true.mp hs c hc)

theorem Spells.code_digits (h : Spells p) (n : Nat) : Code p (toString n) := by
  intro c hc
  have hdigit := Declarator.isDigit_toDigits n c (Declarator.toList_ofNat n ▸ hc)
  simp only [Char.isDigit, Bool.and_eq_true, decide_eq_true_eq] at hdigit
  have hrange : 48 ≤ c.toNat ∧ c.toNat ≤ 57 := hdigit
  refine h c ?_
  simp only [isPrinted, Bool.and_eq_true, decide_eq_true_eq, bne_iff_ne]
  omega

theorem code_append {a b : String} : Code p (a ++ b) ↔ Code p a ∧ Code p b := by
  simp only [Code, String.toList_append, List.forall_mem_append]

theorem Code.append {a b : String} (ha : Code p a) (hb : Code p b) : Code p (a ++ b) :=
  code_append.mpr ⟨ha, hb⟩

theorem Spells.code_int (h : Spells p) (n : Int) : Code p (toString n) := by
  cases n with
  | ofNat n => exact h.code_digits n
  | negSucc n =>
    have hminus : Code p "-" := h.code (by decide)
    exact hminus.append (h.code_digits (n + 1))

theorem code_empty : Code p "" := fun c hc => by simp at hc

theorem Code.prose {s : String} (h : Code p s) : Prose p s := fun c hc => .inr (h c hc)

theorem Prose.append {a b : String} (ha : Prose p a) (hb : Prose p b) : Prose p (a ++ b) := by
  intro c hc
  rw [String.toList_append, List.mem_append] at hc
  exact hc.elim (ha c) (hb c)

theorem Code.intercalate {separator : String} (hs : Code p separator) {texts : List String}
    (h : ∀ t ∈ texts, Code p t) : Code p (separator.intercalate texts) := by
  induction texts with
  | nil => exact code_empty
  | cons t texts ih =>
    rw [List.forall_mem_cons] at h
    cases texts with
    | nil => simpa using h.1
    | cons u texts =>
      rw [String.intercalate_cons_cons]
      exact (h.1.append hs).append (ih h.2)

end

/-- A text that was given to a tree. -/
inductive Fragment where
  /-- It is written within one line. -/
  | code (text : String)
  /-- It may be spread over lines. -/
  | prose (text : String)

def Fragment.Within (p : Char → Bool) : Fragment → Prop
  | code text => Code p text
  | prose text => Prose p text

instance (p : Char → Bool) : (f : Fragment) → Decidable (f.Within p)
  | .code text => inferInstanceAs (Decidable (Code p text))
  | .prose text => inferInstanceAs (Decidable (Prose p text))

/-- Fragments all of whose characters have a property. -/
def Within (p : Char → Bool) (fragments : List Fragment) : Prop :=
  ∀ f ∈ fragments, f.Within p

instance (p : Char → Bool) (fragments : List Fragment) : Decidable (Within p fragments) :=
  inferInstanceAs (Decidable (∀ f ∈ fragments, f.Within p))

section

variable {p : Char → Bool}

@[simp]
theorem within_nil : Within p [] := fun _ h => absurd h List.not_mem_nil

@[simp]
theorem within_cons {f : Fragment} {fs : List Fragment} :
    Within p (f :: fs) ↔ f.Within p ∧ Within p fs := List.forall_mem_cons

@[simp]
theorem within_append {fs gs : List Fragment} :
    Within p (fs ++ gs) ↔ Within p fs ∧ Within p gs := List.forall_mem_append

theorem within_flatMap {α : Type} {f : α → List Fragment} {xs : List α} :
    Within p (xs.flatMap f) ↔ ∀ x ∈ xs, Within p (f x) := by
  simp only [Within, List.mem_flatMap]
  exact ⟨fun h x hx g hg => h g ⟨x, hx, hg⟩, fun h g ⟨x, hx, hg⟩ => h x hx g hg⟩

end

namespace CType

mutual

/-- The names in a type. -/
def fragments : CType → List Fragment
  | integer .. | scalar .. => []
  | named _ name _ => [.code name.text]
  | template _ name args => .code name.text :: fragmentsAll args
  | pointer inner _ | reference inner _ | array inner _ | shared _ inner => inner.fragments

def fragmentsAll : List CType → List Fragment
  | [] => []
  | t :: ts => t.fragments ++ fragmentsAll ts

end

section

variable {p : Char → Bool} (h : Spells p)
include h

theorem code_applyMarker {marker d : String} (hmarker : Code p marker) (hd : Code p d) :
    Code p (applyMarker marker d) := by
  have hblank : Code p " " := h.code (by decide)
  rw [applyMarker]
  split
  · exact hmarker
  · split
    · exact hmarker.append hd
    · exact (hmarker.append hblank).append hd

theorem code_applyBase {base d : String} (hbase : Code p base) (hd : Code p d) :
    Code p (applyBase base d) := by
  have hblank : Code p " " := h.code (by decide)
  rw [applyBase]
  split
  · exact hbase
  · split
    · exact hbase.append hd
    · exact (hbase.append hblank).append hd

theorem code_applySuffix {suffix d : String} (hsuffix : Code p suffix) (hd : Code p d) :
    Code p (applySuffix suffix d) := by
  rw [applySuffix]
  split
  · exact hsuffix
  · split
    · exact (((h.code (by decide)).append hd).append (h.code (by decide))).append hsuffix
    · exact hd.append hsuffix

theorem code_quals (quals : Qualifiers) : Code p quals.text := by
  refine h.code ?_
  obtain ⟨isConst, isVolatile⟩ := quals
  cases isConst <;> cases isVolatile <;> decide

theorem code_qualify (quals : Qualifiers) {base : String} (hbase : Code p base) :
    Code p (qualify quals base) := by
  rw [qualify]
  split
  · exact hbase
  · exact ((code_quals h quals).append (h.code (by decide))).append hbase

theorem code_arraySuffix (size : Option Nat) : Code p (arraySuffix size) := by
  cases size with
  | none => exact h.code (by decide)
  | some n => exact ((h.code (by decide)).append (h.code_digits n)).append (h.code (by decide))

theorem code_pointerMarker (quals : Qualifiers) : Code p (pointerMarker quals) := by
  rw [pointerMarker]
  split
  · exact h.code (by decide)
  · exact (h.code (by decide)).append (code_quals h quals)

theorem code_integerName (width : Option IntWidth) (signed : Bool) :
    Code p (integerName width signed) := by
  refine h.code ?_
  cases signed <;> rcases width with _ | _ | _ | _ | _ <;> decide

theorem code_namedText {name : Identifier} (hname : Code p name.text) (tag : Option TypeTag) :
    Code p (namedText name tag) := by
  cases tag with
  | none => exact hname
  | some tag =>
    have htag : Code p tag.text := h.code (by cases tag <;> decide)
    exact (htag.append (h.code (by decide))).append hname

theorem code_templateText {name : Identifier} (hname : Code p name.text) {args : List String}
    (hargs : ∀ a ∈ args, Code p a) : Code p (templateText name args) := by
  rw [templateText]
  split
  · exact hname
  · exact ((hname.append (h.code (by decide))).append
      (Code.intercalate (h.code (by decide)) hargs)).append (h.code (by decide))

end

mutual

theorem code_declare {p : Char → Bool} (h : Spells p) : (t : CType) → Within p t.fragments →
    {d : String} → Code p d → Code p (t.declare d)
  | integer quals width signed, _, d, hd => by
    rw [declare]
    exact code_applyBase h (code_qualify h quals (code_integerName h width signed)) hd
  | scalar quals kind _ signed, _, d, hd => by
    have hkind : Code p (kind.text signed) := h.code (by cases kind <;> cases signed <;> decide)
    rw [declare]
    exact code_applyBase h (code_qualify h quals hkind) hd
  | named quals name tag, hf, d, hd => by
    rw [fragments, within_cons] at hf
    rw [declare]
    exact code_applyBase h (code_qualify h quals (code_namedText h hf.1 tag)) hd
  | template quals name args, hf, d, hd => by
    rw [fragments, within_cons] at hf
    rw [declare]
    exact code_applyBase h
      (code_qualify h quals (code_templateText h hf.1 (code_declareAll h args hf.2))) hd
  | pointer inner quals, hf, d, hd => by
    rw [declare]
    exact code_declare h inner hf (code_applyMarker h (code_pointerMarker h quals) hd)
  | reference inner rvalue, hf, d, hd => by
    have hmarker : Code p (referenceMarker rvalue) := h.code (by cases rvalue <;> decide)
    rw [declare]
    exact code_declare h inner hf (code_applyMarker h hmarker hd)
  | array inner size, hf, d, hd => by
    rw [declare]
    exact code_declare h inner hf (code_applySuffix h (code_arraySuffix h size) hd)
  | shared _ type, hf, d, hd => by
    rw [declare]
    exact code_declare h type hf hd

theorem code_declareAll {p : Char → Bool} (h : Spells p) : (ts : List CType) →
    Within p (fragmentsAll ts) → ∀ s ∈ declareAll ts, Code p s
  | [], _ => fun s hs => absurd hs List.not_mem_nil
  | t :: ts, hf => by
    rw [fragmentsAll, within_append] at hf
    rw [declareAll, List.forall_mem_cons]
    exact ⟨code_declare h t hf.1 code_empty, code_declareAll h ts hf.2⟩

end

end CType

namespace Expr

mutual

/-- The names, operators, raw texts and quoted values in an expression. -/
def fragments : Expr → List Fragment
  | raw text _ => [.code text]
  | var name _ => [.code name.text]
  | num _ | bool _ => []
  | str value => [.prose value]
  | call name args => .code name.text :: fragmentsAll args
  | field target name _ => target.fragments ++ [.code name]
  | methodCall target method args _ => target.fragments ++ .code method :: fragmentsAll args
  | index target position => target.fragments ++ position.fragments
  | deref inner | addrOf inner => inner.fragments
  | binop lhs op rhs => lhs.fragments ++ .code op :: rhs.fragments
  | unop op inner => .code op :: inner.fragments
  | shared _ expr => expr.fragments

def fragmentsAll : List Expr → List Fragment
  | [] => []
  | e :: es => e.fragments ++ fragmentsAll es

end

section

variable {p : Char → Bool} (h : Spells p)
include h

theorem code_parenthesize (wanted : Bool) {s : String} (hs : Code p s) :
    Code p (parenthesize wanted s) := by
  rw [parenthesize]
  split
  · exact ((h.code (by decide)).append hs).append (h.code (by decide))
  · exact hs

theorem code_access (target : Expr) (arrow : Option Bool) : Code p (access target arrow) := by
  rw [access]
  split <;> exact h.code (by decide)

/-- A quoted value has no line feed, since that is escaped. -/
theorem code_literal {s : String} (hs : Prose p s) : Code p (literal s) := by
  have hescaped : ∀ c ∈ s.toList, ∀ d ∈ escapeChar c, p d = true := by
    intro c hc d hd
    have hfixed : ∀ cs : List Char, cs.all isPrinted = true → d ∈ cs → p d = true :=
      fun cs hcs hd => h d (List.all_eq_true.mp hcs d hd)
    rw [escapeChar] at hd
    split at hd
    · exact hfixed _ (by decide) hd
    split at hd
    · exact hfixed _ (by decide) hd
    split at hd
    · exact hfixed _ (by decide) hd
    · rename_i hfeed
      split at hd
      · exact hfixed _ (by decide) hd
      · rw [List.mem_singleton.mp hd]
        exact (hs c hc).resolve_left hfeed
  have hquote : p '"' = true := h _ (by decide)
  intro c hc
  simp only [literal, String.toList_ofList, List.mem_append, List.mem_singleton,
    List.mem_flatMap] at hc
  rcases hc with (rfl | ⟨d, hd, hc⟩) | rfl
  · exact hquote
  · exact hescaped d hd c hc
  · exact hquote

end

mutual

theorem code_text {p : Char → Bool} (h : Spells p) : (e : Expr) → Within p e.fragments →
    Code p e.text
  | raw text _, hf => by
    rw [fragments, within_cons] at hf
    rw [Expr.text]
    exact hf.1
  | var name _, hf => by
    rw [fragments, within_cons] at hf
    rw [text]
    exact hf.1
  | num value, _ => by
    rw [text]
    exact h.code_int value
  | str value, hf => by
    rw [fragments, within_cons] at hf
    rw [text]
    exact code_literal h hf.1
  | bool value, _ => by
    rw [text]
    exact h.code (by cases value <;> decide)
  | call name args, hf => by
    rw [fragments, within_cons] at hf
    rw [text]
    exact ((hf.1.append (h.code (by decide))).append (code_args h args hf.2)).append
      (h.code (by decide))
  | field target name arrow, hf => by
    rw [fragments, within_append, within_cons] at hf
    rw [text]
    exact ((code_parenthesize h _ (code_text h target hf.1)).append
      (code_access h target arrow)).append hf.2.1
  | methodCall target method args arrow, hf => by
    rw [fragments, within_append, within_cons] at hf
    rw [text]
    exact (((((code_parenthesize h _ (code_text h target hf.1)).append
      (code_access h target arrow)).append hf.2.1).append (h.code (by decide))).append
      (code_args h args hf.2.2)).append (h.code (by decide))
  | index target position, hf => by
    rw [fragments, within_append] at hf
    rw [text]
    exact (((code_parenthesize h _ (code_text h target hf.1)).append (h.code (by decide))).append
      (code_text h position hf.2)).append (h.code (by decide))
  | deref inner, hf => by
    rw [text]
    exact (h.code (by decide)).append (code_parenthesize h _ (code_text h inner hf))
  | addrOf inner, hf => by
    rw [text]
    exact (h.code (by decide)).append (code_parenthesize h _ (code_text h inner hf))
  | binop lhs op rhs, hf => by
    rw [fragments, within_append, within_cons] at hf
    rw [text]
    exact ((((code_parenthesize h _ (code_text h lhs hf.1)).append (h.code (by decide))).append
      hf.2.1).append (h.code (by decide))).append (code_parenthesize h _ (code_text h rhs hf.2.2))
  | unop op inner, hf => by
    rw [fragments, within_cons] at hf
    rw [text]
    exact Code.append hf.1 (code_parenthesize h _ (code_text h inner hf.2))
  | shared _ expr, hf => by
    rw [text]
    exact code_text h expr hf

theorem code_args {p : Char → Bool} (h : Spells p) : (es : List Expr) → Within p (fragmentsAll es) →
    Code p (", ".intercalate (texts es))
  | [], _ => by
    rw [texts]
    exact code_empty
  | [e], hf => by
    rw [fragmentsAll, within_append] at hf
    rw [texts, texts, String.intercalate_singleton]
    exact code_text h e hf.1
  | e :: f :: es, hf => by
    rw [fragmentsAll, within_append] at hf
    have hrest := code_args h (f :: es) hf.2
    rw [texts] at hrest
    rw [texts, texts, String.intercalate_cons_cons]
    exact ((code_text h e hf.1).append (h.code (by decide))).append hrest

end

end Expr

end CWriter

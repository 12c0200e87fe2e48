import CWriter.Proofs.Expr.Literal
import CWriter.Proofs.Fragments.Tree
import CWriter.Proofs.Layout.Trace
import CWriter.Proofs.Notes.Text

/-!
# Expressions stay on one line

Two characters end a line of source, the line feed and the carriage return. Quoting escapes the
first one and not the second. So where the texts that an expression takes over as they are hold
neither, no line feed is written at all, and a carriage return is written exactly if a quoted value
holds one. The same goes for every line that a statement puts together from its expressions,
however deep the statement stands in others.
-/
namespace CWriter

open CWriter.Text (Unbroken)

instance (cs : List Char) : Decidable (Unbroken cs) := inferInstanceAs (Decidable (_ ∧ _))

/-- The texts among fragments that are written as they are. -/
def plainTexts (fs : List Fragment) : List String :=
  fs.filterMap fun
    | .code s => some s
    | .prose _ => none

theorem mem_plainTexts {s : String} {fs : List Fragment} :
    s ∈ plainTexts fs ↔ .code s ∈ fs := by
  simp only [plainTexts, List.mem_filterMap]
  constructor
  · rintro ⟨f, hf, hs⟩
    cases f with
    | code t => exact Option.some.inj hs ▸ hf
    | prose t => cases hs
  · exact fun h => ⟨_, h, rfl⟩

/-- The characters of fixed words and punctuation, braces included. -/
def isFixed (c : Char) : Bool := isPrinted c || c == '{' || c == '}'

/-- A text that consists of fixed words and of fragments, and in which every fragment of prose is
quoted. -/
structure Spelled (text : String) (fs : List Fragment) : Prop where
  code : ∀ p : Char → Bool, (∀ c, isFixed c = true → p c = true) → Within p fs → Code p text
  quoted : ∀ s : String, .prose s ∈ fs → (Expr.literal s).toList <:+: text.toList

theorem spelled_fixed (word : String) (h : word.toList.all isFixed = true) :
    Spelled word [] where
  code _ hp _ c hc := hp c (List.all_eq_true.mp h c hc)
  quoted _ hs := absurd hs List.not_mem_nil

theorem spelled_plain (s : String) : Spelled s [.code s] where
  code _ _ hf := (within_cons.mp hf).1
  quoted _ hs := by simp at hs

theorem Spelled.append {a b : String} {fs gs : List Fragment} (ha : Spelled a fs)
    (hb : Spelled b gs) : Spelled (a ++ b) (fs ++ gs) where
  code p hp hf := by
    obtain ⟨hfs, hgs⟩ := within_append.mp hf
    exact (ha.code p hp hfs).append (hb.code p hp hgs)
  quoted s hs := by
    rw [String.toList_append]
    rcases List.mem_append.mp hs with hs | hs
    · exact (ha.quoted s hs).trans (List.prefix_append _ _).isInfix
    · exact (hb.quoted s hs).trans (List.suffix_append _ _).isInfix

/-- Around a text stand fixed words. -/
theorem Spelled.enclosed {text before after : String} {fs : List Fragment} (h : Spelled text fs)
    (hbefore : before.toList.all isFixed = true) (hafter : after.toList.all isFixed = true) :
    Spelled (before ++ text ++ after) fs := by
  have hall := ((spelled_fixed before hbefore).append h).append (spelled_fixed after hafter)
  rwa [List.nil_append, List.append_nil] at hall

/-- Quoting leaves a carriage return as it is. -/
theorem Expr.return_mem_literal {s : String} (h : '\r' ∈ s.toList) :
    '\r' ∈ (literal s).toList := by
  have hescaped : '\r' ∈ s.toList.flatMap escapeChar := List.mem_flatMap.mpr ⟨_, h, by decide⟩
  simp [literal, hescaped]

/-- Where no fragment that is written as it is has a line end, no line feed is written, and a
carriage return only by a quoted one. -/
theorem Spelled.breaks {text : String} {fs : List Fragment} (h : Spelled text fs)
    (hplain : ∀ s ∈ plainTexts fs, Unbroken s.toList) :
    '\n' ∉ text.toList ∧ ('\r' ∈ text.toList ↔ ∃ s, .prose s ∈ fs ∧ '\r' ∈ s.toList) := by
  -- Both characters are kept out in the same way; they differ in what a quoted value may hold.
  have hout : ∀ c : Char, isFixed c = false → (∀ s ∈ plainTexts fs, c ∉ s.toList) →
      (∀ s, .prose s ∈ fs → ∀ d ∈ s.toList, d = '\n' ∨ d ≠ c) → c ∉ text.toList := by
    intro c hc hcode hprose hmem
    have hwithin : Within (· != c) fs := by
      intro f hf
      cases f with
      | code s =>
        intro d hd
        rw [bne_iff_ne]
        rintro rfl
        exact hcode s (mem_plainTexts.mpr hf) hd
      | prose s => exact fun d hd => (hprose s hf d hd).imp_right bne_iff_ne.mpr
    have hfixed : ∀ d, isFixed d = true → (d != c) = true := by
      intro d hd
      rw [bne_iff_ne]
      rintro rfl
      exact absurd hd (by simp [hc])
    exact absurd (h.code _ hfixed hwithin c hmem) (by simp)
  refine ⟨hout '\n' (by decide) (fun s hs => (hplain s hs).1) fun s _ d _ => Decidable.em _,
    fun hreturn => ?_, ?_⟩
  · by_contra hnone
    refine hout '\r' (by decide) (fun s hs => (hplain s hs).2) (fun s hs d hd => .inr ?_) hreturn
    rintro rfl
    exact hnone ⟨s, hs, hd⟩
  · rintro ⟨s, hs, hreturn⟩
    exact (h.quoted s hs).subset (Expr.return_mem_literal hreturn)

namespace Expr

theorem mem_fragmentsAll {f : Fragment} {es : List Expr} :
    f ∈ fragmentsAll es ↔ ∃ e ∈ es, f ∈ e.fragments := by
  induction es with
  | nil => simp [fragmentsAll]
  | cons e es ih => simp [fragmentsAll, ih]

/-- The quoted values of an expression other than a literal are those of its parts. -/
theorem prose_mem_fragments {s : String} {e : Expr} (h : ∀ v, e ≠ .str v) :
    .prose s ∈ e.fragments ↔ ∃ part ∈ e.parts, .prose s ∈ part.fragments := by
  cases e with
  | str v => exact absurd rfl (h v)
  | _ => simp [fragments, parts, mem_fragmentsAll]

/-- The quoted values are those of the literals at any depth. -/
theorem prose_mem_fragments_of_inside {s : String} {e : Expr} (h : (Expr.str s).Inside e) :
    .prose s ∈ e.fragments := by
  induction h with
  | refl => simp [fragments]
  | @tail part whole _ hpart ih =>
    refine (prose_mem_fragments ?_).mpr ⟨part, hpart, ih⟩
    rintro v rfl
    cases hpart

theorem sizeOf_lt_of_mem_parts {part whole : Expr} (h : part ∈ whole.parts) :
    sizeOf part < sizeOf whole := by
  cases whole with
  | raw | var | num | str | bool => cases h
  | call name args =>
    have hargs : part ∈ args := h
    have hsize := List.sizeOf_lt_of_mem hargs
    simp only [call.sizeOf_spec]
    omega
  | methodCall target method args arrow =>
    simp only [methodCall.sizeOf_spec]
    rcases List.mem_cons.mp h with rfl | hargs
    · omega
    · have hsize := List.sizeOf_lt_of_mem hargs
      omega
  | index target position =>
    simp only [index.sizeOf_spec]
    rcases List.mem_pair.mp h with rfl | rfl <;> omega
  | binop lhs op rhs =>
    simp only [binop.sizeOf_spec]
    rcases List.mem_pair.mp h with rfl | rfl <;> omega
  | field | deref | addrOf | unop | shared =>
    rw [List.mem_singleton.mp h]
    simp +arith

theorem inside_of_prose_mem {s : String} {e : Expr} (h : .prose s ∈ e.fragments) :
    (Expr.str s).Inside e := by
  by_cases hliteral : ∃ v, e = .str v
  · obtain ⟨v, rfl⟩ := hliteral
    have hs : s = v := by simpa [fragments] using h
    rw [hs]
    exact .refl
  · obtain ⟨part, hpart, hs⟩ := (prose_mem_fragments (not_exists.mp hliteral)).mp h
    exact (inside_of_prose_mem hs).tail hpart
termination_by sizeOf e
decreasing_by exact sizeOf_lt_of_mem_parts hpart

theorem prose_mem_fragments_iff {s : String} {e : Expr} :
    .prose s ∈ e.fragments ↔ (Expr.str s).Inside e :=
  ⟨inside_of_prose_mem, prose_mem_fragments_of_inside⟩

theorem spelled_text (e : Expr) : Spelled e.text e.fragments where
  code _ hp := code_text (fun c hc => hp c (by simp [isFixed, hc])) e
  quoted _ hs := (prose_mem_fragments_iff.mp hs).text_isInfix

end Expr

/-- The text that a step puts on a line, without its indentation. -/
def Step.written : Step → String
  | .line text | .label text | .closeBlock text => text
  | .openBlock header token => Layout.opening header token
  | .reopenBlock header => r"} " ++ header ++ r" {"
  | .blank _ | .indent | .outdent | .rule | .comment .. | .spell _ => ""

/-- The depth of that line, counted from the depth at which the step is taken. -/
def Step.margin : Step → Int
  | .label _ | .closeBlock _ | .reopenBlock _ => -1
  | _ => 0

theorem Step.added_eq_singleton (style : Style) (depth : Int) {s : Step} (hne : s.written ≠ "")
    (hfeed : '\n' ∉ s.written.toList) :
    s.added style depth = [style.indentation (depth + s.margin) ++ s.written] := by
  cases s with
  | line | openBlock =>
    change _ = [style.indentation (depth + 0) ++ _]
    rw [Int.add_zero]
    exact style.placed_eq_singleton depth hne hfeed
  | reopenBlock | closeBlock => exact style.placed_eq_singleton (depth + -1) hne hfeed
  | label => rfl
  | _ => exact absurd rfl hne

/-- A line that a statement puts together from its expressions, with what stands in it. -/
structure ExprLine where
  step : Step
  fragments : List Fragment

mutual

/-- The lines that a statement puts together from expressions: returns, assignments, expressions
on their own, the headers of branches and loops, and case labels. -/
def Statement.exprLines : Statement → List ExprLine
  | .ret s => [⟨.line s.line, s.fragments⟩]
  | .assign s => [⟨.line s.line, s.fragments⟩]
  | .eval s => [⟨.line s.line, s.fragments⟩]
  | .jump _ | .label _ | .declare _ | .remark _ => []
  | .block b => b.exprLines
  | .ifElse s => s.exprLines
  | .loop s => s.exprLines
  | .forLoop s => s.exprLines
  | .switch s => s.exprLines

def BodyItem.exprLines : BodyItem → List ExprLine
  | .verbatim _ => []
  | .stmt s => s.exprLines

def Block.exprLines : Block → List ExprLine
  | ⟨_, stmts⟩ => bodyExprLines stmts

def bodyExprLines : List BodyItem → List ExprLine
  | [] => []
  | item :: rest => item.exprLines ++ bodyExprLines rest

def IfElse.exprLines : IfElse → List ExprLine
  | ⟨_, cond, thenBody, elifs, otherwise⟩ =>
    [⟨.openBlock (condition "if" cond) r"{", cond.fragments⟩] ++ thenBody.exprLines ++
      branchExprLines elifs ++ blockExprLines otherwise

def branchExprLines : List Branch → List ExprLine
  | [] => []
  | ⟨_, cond, body⟩ :: rest =>
    [⟨.reopenBlock (condition "else if" cond), cond.fragments⟩] ++ body.exprLines ++
      branchExprLines rest

def blockExprLines : Option Block → List ExprLine
  | none => []
  | some body => body.exprLines

def Loop.exprLines : Loop → List ExprLine
  | ⟨_, .testFirst, cond, body⟩ =>
    [⟨.openBlock (condition "while" cond) r"{", cond.fragments⟩] ++ body.exprLines
  | ⟨_, .testLast, cond, body⟩ =>
    body.exprLines ++ [⟨.closeBlock (r"} " ++ condition "while" cond ++ ";"), cond.fragments⟩]

def ForLoop.exprLines : ForLoop → List ExprLine
  | ⟨id, start, cond, advance, body⟩ =>
    [⟨.openBlock (ForLoop.header ⟨id, start, cond, advance, body⟩) r"{",
      exprFragments start ++ exprFragments cond ++ exprFragments advance⟩] ++ body.exprLines

def Switch.exprLines : Switch → List ExprLine
  | ⟨_, cond, cases, default⟩ =>
    [⟨.openBlock (condition "switch" cond) r"{", cond.fragments⟩] ++ caseExprLines cases ++
      blockExprLines default

def caseExprLines : List Case → List ExprLine
  | [] => []
  | ⟨_, label, body, _⟩ :: rest =>
    [⟨.label ("case " ++ label.text ++ ":"), label.fragments⟩] ++ body.exprLines ++
      caseExprLines rest

end

/-- A line is put together from what stands in it and is not empty. -/
structure ExprLine.Proper (line : ExprLine) : Prop where
  spelled : Spelled line.step.written line.fragments
  nonempty : line.step.written ≠ ""

/-- A clause of a loop with what stands in front of it; nothing where the clause is absent. -/
def clauseText (first : String) : Option Expr → String
  | none => ""
  | some e => first ++ e.text

theorem spelled_clauseText (first : String) (hfirst : first.toList.all isFixed = true)
    (clause : Option Expr) : Spelled (clauseText first clause) (exprFragments clause) := by
  cases clause with
  | none => exact spelled_fixed "" rfl
  | some e => exact (spelled_fixed first hfirst).append e.spelled_text

theorem Return.proper (s : Return) : ExprLine.Proper ⟨.line s.line, s.fragments⟩ := by
  obtain ⟨_, value⟩ := s
  cases value with
  | none =>
    have hline : Spelled "return;" [] := spelled_fixed _ (by decide)
    exact ⟨hline, by simp [Step.written, line]⟩
  | some e => exact ⟨e.spelled_text.enclosed (by decide) (by decide), by simp [Step.written, line]⟩

theorem Assign.proper (s : Assign) : ExprLine.Proper ⟨.line s.line, s.fragments⟩ where
  spelled := by
    have hop : Spelled (" " ++ s.op ++ " ") [.code s.op] :=
      (spelled_plain s.op).enclosed (by decide) (by decide)
    have hline := (((s.lhs.spelled_text.append hop).append s.rhs.spelled_text).append
      (spelled_fixed ";" (by decide)))
    simpa [Step.written, line, fragments, String.append_assoc] using hline
  nonempty := by simp [Step.written, line]

theorem ExprStmt.proper (s : ExprStmt) : ExprLine.Proper ⟨.line s.line, s.fragments⟩ where
  spelled := by
    have hline := s.expr.spelled_text.append (spelled_fixed ";" (by decide))
    rwa [List.append_nil] at hline
  nonempty := by simp [Step.written, line]

theorem spelled_condition (keyword : String) (hk : (keyword ++ " (").toList.all isFixed = true)
    (e : Expr) : Spelled (condition keyword e) e.fragments :=
  e.spelled_text.enclosed hk (by decide)

theorem Step.written_openBlock (header : String) :
    (Step.openBlock header r"{").written ≠ "" := by
  rw [written, Layout.opening]
  split
  · decide
  · simp

/-- The header of a block. -/
theorem Spelled.proper_openBlock {header : String} {fs : List Fragment} (h : Spelled header fs) :
    ExprLine.Proper ⟨.openBlock header r"{", fs⟩ where
  spelled := by
    change Spelled (Layout.opening header r"{") fs
    rw [Layout.opening]
    split
    · rename_i hempty
      rw [String.isEmpty_iff] at hempty
      rw [hempty] at h
      have hbrace := h.append (spelled_fixed r"{" (by decide))
      rwa [List.append_nil, String.empty_append] at hbrace
    · have hbrace := h.append (spelled_fixed r" {" (by decide))
      rwa [List.append_nil, show r" {" = " " ++ r"{" from rfl, ← String.append_assoc] at hbrace
  nonempty := Step.written_openBlock header

theorem ForLoop.header_eq (s : ForLoop) : s.header = "for (" ++ (clauseText "" s.start ++ ";" ++
    clauseText " " s.cond ++ ";" ++ clauseText " " s.advance) ++ ")" := by
  obtain ⟨_, start, cond, advance, _⟩ := s
  rw [← String.toList_inj]
  cases start <;> cases cond <;> cases advance <;> simp [header, clauseText]

theorem ForLoop.spelled_header (s : ForLoop) : Spelled s.header
    (exprFragments s.start ++ exprFragments s.cond ++ exprFragments s.advance) := by
  have hsemicolon : Spelled ";" [] := spelled_fixed _ (by decide)
  have hstart := (spelled_clauseText "" rfl s.start).append hsemicolon
  have hcond := (hstart.append (spelled_clauseText " " (by decide) s.cond)).append hsemicolon
  have hall := hcond.append (spelled_clauseText " " (by decide) s.advance)
  rw [List.append_nil, List.append_nil] at hall
  rw [header_eq]
  exact hall.enclosed (by decide) (by decide)

/-- Lines in the order in which steps write them, each one proper. Other steps may stand between
them. -/
structure Writes (steps : List Step) (ls : List ExprLine) : Prop where
  sublist : (ls.map (·.step)).Sublist steps
  proper : ∀ line ∈ ls, line.Proper

theorem writes_none (steps : List Step) : Writes steps [] where
  sublist := List.nil_sublist steps
  proper := fun _ h => absurd h List.not_mem_nil

theorem ExprLine.Proper.writes {line : ExprLine} (h : line.Proper) : Writes [line.step] [line] where
  sublist := List.Sublist.refl _
  proper := List.forall_mem_singleton.mpr h

theorem Writes.append {first second : List Step} {ls ms : List ExprLine} (hf : Writes first ls)
    (hs : Writes second ms) : Writes (first ++ second) (ls ++ ms) where
  sublist := by
    rw [List.map_append]
    exact hf.sublist.append hs.sublist
  proper := List.forall_mem_append.mpr ⟨hf.proper, hs.proper⟩

theorem Writes.followed {steps : List Step} {ls : List ExprLine} (h : Writes steps ls)
    (rest : List Step) : Writes (steps ++ rest) ls := by
  have hboth := h.append (writes_none rest)
  rwa [List.append_nil] at hboth

/-- Numbers are put into digits in front of the lines that hold them. -/
theorem Writes.spelt {steps : List Step} {ls : List ExprLine} (h : Writes steps ls)
    (numbers : List Int) : Writes (.spell numbers :: steps) ls where
  sublist := h.sublist.cons _
  proper := h.proper

mutual

theorem Statement.writes_exprLines : (s : Statement) → Writes s.steps s.exprLines
  | .ret s => s.proper.writes.spelt _
  | .assign s => s.proper.writes.spelt _
  | .eval s => s.proper.writes.spelt _
  | .jump _ | .label _ | .declare _ | .remark _ => writes_none _
  | .block b => b.writes_exprLines
  | .ifElse s => s.writes_exprLines
  | .loop s => s.writes_exprLines
  | .forLoop s => s.writes_exprLines
  | .switch s => s.writes_exprLines

theorem BodyItem.writes_exprLines : (item : BodyItem) → Writes item.steps item.exprLines
  | .verbatim _ => writes_none _
  | .stmt s => s.writes_exprLines

theorem Block.writes_exprLines : (b : Block) → Writes b.steps b.exprLines
  | ⟨_, stmts⟩ => writes_bodyExprLines stmts

theorem writes_bodyExprLines : (items : List BodyItem) →
    Writes (bodySteps items) (bodyExprLines items)
  | [] => writes_none _
  | item :: rest => item.writes_exprLines.append (writes_bodyExprLines rest)

theorem IfElse.writes_exprLines : (s : IfElse) → Writes s.steps s.exprLines
  | ⟨_, cond, thenBody, elifs, otherwise⟩ => by
    have hheader := (spelled_condition "if" (by decide) cond).proper_openBlock
    exact ((((hheader.writes.append thenBody.writes_exprLines).append
      (writes_branchExprLines elifs)).append (writes_blockExprLines otherwise)).followed _).spelt _

theorem writes_branchExprLines : (branches : List Branch) →
    Writes (branchSteps branches) (branchExprLines branches)
  | [] => writes_none _
  | ⟨_, cond, body⟩ :: rest => by
    have hheader := spelled_condition "else if" (by decide) cond
    have hproper : ExprLine.Proper ⟨.reopenBlock (condition "else if" cond), cond.fragments⟩ :=
      ⟨hheader.enclosed (by decide) (by decide), by simp [Step.written]⟩
    exact ((hproper.writes.spelt _).append body.writes_exprLines).append
      (writes_branchExprLines rest)

theorem writes_blockExprLines : (body : Option Block) →
    Writes (elseSteps body) (blockExprLines body)
  | none => writes_none _
  | some body => (writes_none [_]).append body.writes_exprLines

theorem Loop.writes_exprLines : (s : Loop) → Writes s.steps s.exprLines
  | ⟨_, .testFirst, cond, body⟩ => by
    have hheader := (spelled_condition "while" (by decide) cond).proper_openBlock
    exact ((hheader.writes.append body.writes_exprLines).followed _).spelt _
  | ⟨_, .testLast, cond, body⟩ => by
    have hcondition := spelled_condition "while" (by decide) cond
    have hproper : ExprLine.Proper
        ⟨.closeBlock (r"} " ++ condition "while" cond ++ ";"), cond.fragments⟩ :=
      ⟨hcondition.enclosed (by decide) (by decide), by simp [Step.written]⟩
    exact ((writes_none [_]).append (body.writes_exprLines.followed [_])).append hproper.writes

theorem ForLoop.writes_exprLines : (s : ForLoop) → Writes s.steps s.exprLines
  | ⟨id, start, cond, advance, body⟩ => by
    have hheader := (ForLoop.spelled_header ⟨id, start, cond, advance, body⟩).proper_openBlock
    exact ((hheader.writes.append body.writes_exprLines).followed _).spelt _

theorem Switch.writes_exprLines : (s : Switch) → Writes s.steps s.exprLines
  | ⟨_, cond, cases, default⟩ => by
    have hheader := (spelled_condition "switch" (by decide) cond).proper_openBlock
    exact (((hheader.writes.append (writes_caseExprLines cases)).append
      (writes_defaultExprLines default)).followed _).spelt _

theorem writes_caseExprLines : (cases : List Case) →
    Writes (caseSteps cases) (caseExprLines cases)
  | [] => writes_none _
  | ⟨_, label, body, fallthrough⟩ :: rest => by
    have hproper : ExprLine.Proper ⟨.label ("case " ++ label.text ++ ":"), label.fragments⟩ :=
      ⟨label.spelled_text.enclosed (by decide) (by decide), by simp [Step.written]⟩
    exact (((hproper.writes.spelt _).append body.writes_exprLines).followed _).append
      (writes_caseExprLines rest)

theorem writes_defaultExprLines : (body : Option Block) →
    Writes (defaultSteps body) (blockExprLines body)
  | none => writes_none _
  | some body => (writes_none [_]).append body.writes_exprLines

end

/-- Nothing that stands in a line as it is holds a line end. -/
def ExprLine.Unbroken (line : ExprLine) : Prop :=
  ∀ s ∈ plainTexts line.fragments, Text.Unbroken s.toList

instance (line : ExprLine) : Decidable line.Unbroken :=
  inferInstanceAs (Decidable (∀ s ∈ plainTexts line.fragments, Text.Unbroken s.toList))

/-- What a text is to a line that stands in it: the line behind some indentation, all of it on one
line of source but for the carriage returns that quoted values hold. -/
def ExprLine.StandsAs (style : Style) (line : ExprLine) (text : String) : Prop :=
  (∃ depth, text = style.indentation depth ++ line.step.written) ∧ '\n' ∉ text.toList ∧
    ('\r' ∈ text.toList ↔ ∃ s, .prose s ∈ line.fragments ∧ '\r' ∈ s.toList)

/-- A step that puts text on a line adds that line, whatever stands there already. -/
theorem Layout.adds_of_written (l : Layout) {s : Step} (hne : s.written ≠ "")
    (hfeed : '\n' ∉ s.written.toList) :
    l.adds s = [l.style.indentation (l.depth + s.margin) ++ s.written] := by
  rw [← Step.added_eq_singleton l.style l.depth hne hfeed]
  cases s with
  | blank => exact absurd rfl hne
  | _ => rfl

theorem ExprLine.Proper.adds {line : ExprLine} (h : line.Proper) (hline : line.Unbroken)
    (l : Layout) : ∃ text, l.adds line.step = [text] ∧ line.StandsAs l.style text := by
  obtain ⟨hfeed, hreturn⟩ := h.spelled.breaks hline
  refine ⟨_, l.adds_of_written h.nonempty hfeed, ⟨_, rfl⟩, ?_, ?_⟩
  · simp [Style.toList_indentation, hfeed]
  · rw [← hreturn]
    simp [Style.toList_indentation]

/-- What holds of one step holds of a run: the lines stand in their order among all the lines that
are added, each on a line of its own. -/
theorem Layout.stands_of_sublist {ls : List ExprLine} {steps : List Step}
    (h : (ls.map (·.step)).Sublist steps) (hproper : ∀ line ∈ ls, line.Proper)
    (hline : ∀ line ∈ ls, line.Unbroken) (l : Layout) :
    ∃ texts, texts.Sublist ((l.trace steps).map Prod.snd) ∧
      List.Forall₂ (·.StandsAs l.style) ls texts := by
  induction steps generalizing l ls with
  | nil =>
    rw [List.sublist_nil, List.map_eq_nil_iff] at h
    exact ⟨[], List.nil_sublist _, h ▸ .nil⟩
  | cons s steps ih =>
    have htrace : (l.trace (s :: steps)).map Prod.snd =
        l.adds s ++ ((l.write s).trace steps).map Prod.snd := by
      simp [trace, Function.comp_def]
    rw [htrace]
    cases ls with
    | nil => exact ⟨[], List.nil_sublist _, .nil⟩
    | cons line ls =>
      rw [List.map_cons] at h
      rcases List.cons_sublist_cons'.mp h with hskip | ⟨rfl, hrest⟩
      · have hsteps : ((line :: ls).map (·.step)).Sublist steps := hskip
        obtain ⟨texts, hsub, hall⟩ := ih hsteps hproper hline (l.write s)
        rw [style_write] at hall
        exact ⟨texts, hsub.trans (List.sublist_append_right _ _), hall⟩
      · rw [List.forall_mem_cons] at hproper hline
        obtain ⟨text, hadds, hstands⟩ := hproper.1.adds hline.1 l
        obtain ⟨texts, hsub, hall⟩ := ih hrest hproper.2 hline.2 (l.write line.step)
        rw [style_write] at hall
        refine ⟨text :: texts, ?_, .cons hstands hall⟩
        rw [hadds]
        exact (List.Sublist.refl [text]).append hsub

/-- Line feeds never come out of an expression whose raw texts, operators and names hold no line
end, and carriage returns come out of its quoted values only: one is written exactly if a literal
at some depth holds one. So the lines that a statement puts together from such expressions stand in
its text one below the other, each unbroken unless a quoted value holds a carriage return. -/
theorem Expr.line_breaks_iff (e : Expr) (he : ∀ t ∈ plainTexts e.fragments, Unbroken t.toList)
    (s : Statement) (hs : ∀ line ∈ s.exprLines, line.Unbroken) (l : Layout)
    (hroom : 0 < l.style.docWidth) :
    ('\n' ∉ e.text.toList ∧
      ('\r' ∈ e.text.toList ↔ ∃ t, (Expr.str t).Inside e ∧ '\r' ∈ t.toList)) ∧
    ∃ out added texts, l.run s.steps = .ok out ∧ out.lines = l.lines ++ added ∧
      texts.Sublist added ∧ List.Forall₂ (·.StandsAs l.style) s.exprLines texts := by
  constructor
  · simpa only [prose_mem_fragments_iff] using e.spelled_text.breaks he
  · obtain ⟨hsublist, hproper⟩ := s.writes_exprLines
    obtain ⟨texts, htexts, hall⟩ := l.stands_of_sublist hsublist hproper hs
    exact ⟨_, _, texts, Layout.run_eq_ok hroom s.steps, l.lines_writeAll s.steps, htexts, hall⟩

/-- `if (f("\r", x)) { return "\n"; }`: the header holds a carriage return, the other line is
unbroken. -/
theorem Expr.line_breaks_iff_branch :
    let e : Expr := .call ⟨"f", by decide⟩ [.str "\r", .raw "x" false]
    let s : Statement := .ifElse ⟨1, e, ⟨2, [.stmt (.ret ⟨3, some (.str "\n")⟩)]⟩, [], none⟩
    (∀ t ∈ plainTexts e.fragments, Unbroken t.toList) ∧ '\r' ∈ e.text.toList ∧
    ∃ out header line, Layout.run { style := {} } s.steps = .ok out ∧
      [header, line].Sublist out.lines ∧ '\n' ∉ header.toList ∧ '\r' ∈ header.toList ∧
      Unbroken line.toList := by
  intro e s
  have hplain : ∀ t ∈ plainTexts e.fragments, Unbroken t.toList := by decide
  have hinside : (Expr.str "\r").Inside e := .single (List.mem_cons_self ..)
  obtain ⟨⟨-, hbroken⟩, out, added, texts, hrun, hlines, hsub, hall⟩ :=
    line_breaks_iff e hplain s (by decide) { style := {} } (by decide)
  refine ⟨hplain, hbroken.mpr ⟨_, hinside, by decide⟩, ?_⟩
  have hadded : out.lines = added := hlines
  obtain _ | ⟨⟨-, hfeed, hreturn⟩, _ | ⟨hline, hnil⟩⟩ := hall
  cases hnil
  refine ⟨out, _, _, hrun, hadded ▸ hsub, hfeed, ?_, hline.2.1, ?_⟩
  · exact hreturn.mpr ⟨"\r", by simp [e, fragments, fragmentsAll], by decide⟩
  · rw [hline.2.2]
    rintro ⟨v, hv, hreturn⟩
    obtain rfl : v = "\n" := by simpa [Return.fragments, exprFragments, fragments] using hv
    exact absurd hreturn (by decide)

/-- A quoted carriage return breaks the line that it is written on. -/
theorem Expr.line_breaks_carriage_return :
    (¬∀ e : Expr, (∀ t ∈ plainTexts e.fragments, Unbroken t.toList) → Unbroken e.text.toList) ∧
    Entity.text {} (.ret ⟨1, some (.str "a\rb")⟩) = .ok "return \"a\rb\";\n" := by
  refine ⟨fun h => ?_, by decide +kernel⟩
  exact absurd (h (.str "a\rb") (by decide)) (by decide)

end CWriter

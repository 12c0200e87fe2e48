import CWriter.Proofs.Fragments.Tree
import CWriter.Proofs.Nesting
import CWriter.Proofs.Notes.Text

/-!
# Braces are written by blocks only

Steps are matched if their blocks are opened and closed in pairs and everything else they write
is made of characters with a given property. Only the continued lines of a macro are indented
without a block. A tree whose fragments have the property takes matched steps; with a property
that braces lack, this places every brace that is written.
-/
namespace CWriter

/-- Nested steps of which only the ends of blocks are free to write braces. -/
inductive Matched (p : Char → Bool) : Bool → List Step → Prop
  | nil {inside : Bool} : Matched p inside []
  | append {inside : Bool} {first second : List Step} :
    Matched p inside first → Matched p inside second → Matched p inside (first ++ second)
  | line {inside : Bool} {text : String} : Prose p text → Matched p inside [.line text]
  | label {inside : Bool} {text : String} : Code p text → Matched p inside [.label text]
  | blank {inside : Bool} (count : Int) : Matched p inside [.blank count]
  | rule {inside : Bool} : Matched p inside [.rule]
  | spell {inside : Bool} (numbers : List Int) : Matched p inside [.spell numbers]
  | comment {inside : Bool} {marker text : String} : marker = "//" ∨ marker = "///" →
    Prose p text → Matched p inside [.comment marker text]
  | reopen {header : String} : Code p header → Matched p true [.reopenBlock header]
  | block {inside : Bool} {body : List Step} (header token : String) : Code p header →
    Code p token → Matched p true body →
    Matched p inside ([.openBlock header r"{"] ++ body ++ [.closeBlock (r"}" ++ token)])
  | continued {inside : Bool} {texts : List String} : (∀ t ∈ texts, Code p t) →
    Matched p inside ([.indent] ++ texts.map .line ++ [.outdent])

variable {p : Char → Bool} {inside : Bool}

/-- Matched steps are nested: forgetting the texts leaves the shape. -/
theorem Matched.nested {steps : List Step} (h : Matched p inside steps) : Nested inside steps := by
  induction h with
  | nil => exact .nil
  | append _ _ hf hs => exact hf.append hs
  | line => exact .line _
  | label => exact .label _
  | blank count => exact .blank count
  | rule => exact .rule
  | spell numbers => exact .spell numbers
  | comment hm => exact .comment _ hm
  | reopen => exact .reopen _
  | block header token _ _ _ hb => exact .block header token hb
  | continued =>
    refine .indented ?_
    rw [List.map_eq_flatMap]
    exact .flatMap fun t _ => .line t

namespace Matched

theorem cons {s : Step} {steps : List Step} (hs : Matched p inside [s])
    (h : Matched p inside steps) : Matched p inside (s :: steps) :=
  hs.append h

/-- Numbers that are put into digits in front. -/
theorem spelt {steps : List Step} (h : Matched p inside steps) (numbers : List Int) :
    Matched p inside (.spell numbers :: steps) :=
  .cons (.spell numbers) h

/-- A list of parts that are matched each for itself. -/
theorem flatMap {α : Type} {f : α → List Step} {xs : List α}
    (h : ∀ x ∈ xs, Matched p inside (f x)) : Matched p inside (xs.flatMap f) := by
  induction xs with
  | nil => exact .nil
  | cons x xs ih =>
    rw [List.flatMap_cons]
    exact (h x (by simp)).append (ih fun y hy => h y (List.mem_cons_of_mem x hy))

/-- A block that nothing follows on its last line. -/
theorem block_end {header : String} {body : List Step} (hheader : Code p header)
    (hbody : Matched p true body) :
    Matched p inside ([.openBlock header r"{"] ++ body ++ [.closeBlock r"}"]) :=
  .block header "" hheader code_empty hbody

end Matched

section

variable (h : Spells p)
include h

omit h in
theorem Doc.matched {d : Doc} (hf : Within p d.fragments) : Matched p inside d.steps := by
  rw [Doc.steps, List.map_eq_flatMap]
  exact .flatMap fun text ht => .comment (Or.inr rfl) (hf (.prose text) (List.mem_map_of_mem ht))

omit h in
theorem matched_docSteps {d : Option Doc} (hf : Within p (docFragments d)) :
    Matched p inside (docSteps d) := by
  cases d with
  | none => exact .nil
  | some d => exact d.matched hf

omit h in
theorem Documented.matched_docSteps {d : Documented} (hf : Within p d.fragments) :
    Matched p inside (docSteps d.doc) :=
  CWriter.matched_docSteps (within_cons.mp hf).2

omit h in
theorem Comment.matched {c : Comment} (hf : Within p c.fragments) : Matched p inside c.steps := by
  have htext : Matched p inside [Step.comment "//" c.text] :=
    .comment (Or.inl rfl) (within_cons.mp hf).1
  rw [Comment.steps]
  split
  · exact .cons .rule (htext.cons .rule)
  · exact htext

theorem Include.matched {i : Include} (hf : Within p i.fragments) : Matched p inside i.steps :=
  .line (i.prose_line h hf)

omit h in
/-- The lines of a replacement text, which is broken at every line feed. -/
theorem Macro.code_valueLines {m : Macro} (hf : Within p m.fragments) :
    ∀ t ∈ m.valueLines, Code p t := by
  have hvalue := (within_append.mp hf).2
  intro t ht
  rw [valueLines] at ht
  split at ht
  · exact absurd ht List.not_mem_nil
  · rename_i text htext
    rw [htext] at hvalue
    obtain ⟨line, hline, rfl⟩ := List.mem_map.mp ht
    intro c hc
    rw [String.toList_ofList] at hc
    refine ((within_cons.mp hvalue).1 c (Text.mem_of_mem_lines hline c hc)).resolve_left ?_
    rintro rfl
    exact (Text.unbroken_lines _ line hline).1 hc

/-- The further lines of a macro are lines of code, all but the last with a backslash. -/
theorem Macro.continuation_eq_map (texts : List String) (htexts : ∀ t ∈ texts, Code p t) :
    ∃ lines : List String, continuation texts = lines.map .line ∧ ∀ t ∈ lines, Code p t := by
  induction texts with
  | nil => exact ⟨[], rfl, by simp⟩
  | cons text texts ih =>
    obtain ⟨htext, hrest⟩ := List.forall_mem_cons.mp htexts
    obtain ⟨lines, hlines, hcode⟩ := ih hrest
    cases texts with
    | nil => exact ⟨[text], rfl, by simpa using htext⟩
    | cons next rest =>
      have hcons : continuation (text :: next :: rest) =
          .line (text ++ " \\") :: continuation (next :: rest) := rfl
      refine ⟨(text ++ " \\") :: lines, by rw [hcons, hlines]; rfl, ?_⟩
      exact List.forall_mem_cons.mpr ⟨htext.append (h.code (by decide)), hcode⟩

/-- A macro is a line, and for a longer replacement text lines that continue it. -/
theorem Macro.matched {m : Macro} (hf : Within p m.fragments) : Matched p inside m.steps := by
  have hhead := m.code_head h hf
  have hlines := m.code_valueLines hf
  have hdoc : Matched p inside (docSteps m.doc) :=
    m.matched_docSteps (within_append.mp (within_append.mp hf).1).1
  rw [steps]
  refine hdoc.append ?_
  split
  · exact .line hhead.prose
  · rename_i only hvalue
    rw [hvalue, List.forall_mem_singleton] at hlines
    exact .line ((hhead.append (h.code (by decide))).append hlines).prose
  · rename_i first rest _ hvalue
    rw [hvalue, List.forall_mem_cons] at hlines
    obtain ⟨lines, heq, hcode⟩ := continuation_eq_map h rest hlines.2
    have hfirst : Code p (m.head ++ " " ++ first ++ " \\") :=
      ((hhead.append (h.code (by decide))).append hlines.1).append (h.code (by decide))
    rw [heq]
    exact .cons (.line hfirst.prose) (.continued hcode)

theorem Field.matched {f : Field} (hf : Within p f.fragments) : Matched p inside f.steps :=
  .append (f.matched_docSteps (within_append.mp hf).1)
    (.spelt (.line ((f.code_declaration h hf).append (h.code (by decide))).prose) _)

theorem Attribute.matched {a : Attribute} (hf : Within p a.fragments) :
    Matched p inside a.steps := by
  obtain ⟨hfield, hvalue⟩ := within_append.mp hf
  have hstatic : Code p (if a.isStatic then "static " else "") := by
    split <;> exact h.code (by decide)
  have hline := ((hstatic.append (a.toField.code_declaration h hfield)).append
    (code_initializerText h hvalue)).append (b := ";") (h.code (by decide))
  exact .append (a.matched_docSteps (within_append.mp hfield).1) (.spelt (.line hline.prose) _)

theorem Variable.matched {v : Variable} (hf : Within p v.fragments) : Matched p inside v.steps :=
  .append (v.matched_docSteps (within_append.mp (within_append.mp hf).1).1)
    (.spelt (.line (v.code_declaration h hf).prose) _)

theorem RecordField.matched {f : RecordField} (hf : Within p f.fragments) :
    Matched p inside f.steps := by
  cases f with
  | plain f => exact f.matched h hf
  | attr a => exact a.matched h hf

/-- A record is a declaration or a block of its fields. -/
theorem Record.matched {r : Record} (hf : Within p r.fragments) : Matched p inside r.steps := by
  have hheader := r.code_header h hf
  obtain ⟨hfront, hfields⟩ := within_append.mp hf
  obtain ⟨hdocumented, hremarks⟩ := within_append.mp hfront
  have hremark : ∀ a ∈ r.annotations, Prose p ("/// @" ++ a.shown) := fun a ha => by
    have hmarker : Code p "/// @" := h.code (by decide)
    exact hmarker.prose.append (a.prose_shown h (within_flatMap.mp hremarks a ha))
  rw [steps]
  refine ((r.matched_docSteps hdocumented).append ?_).append ?_
  · rw [remarkSteps, List.map_eq_flatMap]
    exact .flatMap fun a ha => .line (hremark a ha)
  · split
    · exact .line (hheader.append (h.code (by decide))).prose
    · exact .block _ ";" hheader (h.code (by decide))
        (.flatMap fun f hmem => f.matched h (within_flatMap.mp hfields f hmem))

theorem Variant.matched {v : Variant} (hf : Within p v.fragments) {separator : String}
    (hs : Code p separator) : Matched p inside (v.steps separator) :=
  .append (v.matched_docSteps hf) (.spelt (.line ((v.code_text h hf).append hs).prose) _)

/-- Each enumerator is a line below its documentation, with a comma or without one. -/
theorem Enumeration.matched_variantSteps {vs : List Variant}
    (hf : Within p (vs.flatMap Variant.fragments)) : Matched p inside (variantSteps vs) := by
  induction vs with
  | nil => exact .nil
  | cons v vs ih =>
    rw [List.flatMap_cons, within_append] at hf
    cases vs with
    | nil => exact v.matched h hf.1 code_empty
    | cons => exact (v.matched h hf.1 (h.code (by decide))).append (ih hf.2)

theorem Enumeration.matched {e : Enumeration} (hf : Within p e.fragments) :
    Matched p inside e.steps := by
  obtain ⟨hdocumented, hvariants⟩ := within_append.mp hf
  have hheader : Code p ("enum " ++ e.name.text) :=
    (h.code (by decide)).append (within_cons.mp hdocumented).1
  have hbody : Matched p inside _ :=
    .block _ ";" hheader (h.code (by decide)) (matched_variantSteps h hvariants)
  have hall := (e.matched_docSteps hdocumented).append hbody
  rw [← List.append_assoc, ← List.append_assoc] at hall
  exact hall

end

mutual

/-- A statement is a line of code, a label, or a block of statements, case by case. -/
theorem Statement.matched (h : Spells p) (inside : Bool) : (s : Statement) →
    Within p s.fragments → Matched p inside s.steps
  | .ret s, hf => by
    rw [Statement.steps]
    exact .spelt (.line (s.code_line h hf).prose) _
  | .assign s, hf => by
    rw [Statement.steps]
    exact .spelt (.line (s.code_line h hf).prose) _
  | .eval s, hf => by
    rw [Statement.steps]
    exact .spelt (.line (s.code_line h hf).prose) _
  | .jump s, hf => by
    rw [Statement.steps]
    exact .line (s.code_line h hf).prose
  | .label s, hf => by
    rw [Statement.steps]
    exact .label (s.code_line h hf)
  | .declare v, hf => by
    rw [Statement.steps]
    exact v.matched h hf
  | .remark c, hf => by
    rw [Statement.steps]
    exact c.matched hf
  | .block b, hf => by
    rw [Statement.steps]
    exact b.matched h inside hf
  | .ifElse s, hf => by
    rw [Statement.steps]
    exact s.matched h inside hf
  | .loop s, hf => by
    rw [Statement.steps]
    exact s.matched h inside hf
  | .forLoop s, hf => by
    rw [Statement.steps]
    exact s.matched h inside hf
  | .switch s, hf => by
    rw [Statement.steps]
    exact s.matched h inside hf

theorem BodyItem.matched (h : Spells p) (inside : Bool) : (item : BodyItem) →
    Within p item.fragments → Matched p inside item.steps
  | .verbatim text, hf => by
    rw [BodyItem.fragments, within_cons] at hf
    rw [BodyItem.steps]
    exact .line hf.1
  | .stmt s, hf => by
    rw [BodyItem.steps]
    exact s.matched h inside hf

/-- A block of statements has no braces of its own; they belong to what it is the body of. -/
theorem Block.matched (h : Spells p) (inside : Bool) : (b : Block) →
    Within p b.fragments → Matched p inside b.steps
  | ⟨_, stmts⟩, hf => by
    rw [Block.steps]
    exact matched_bodySteps h inside stmts hf

theorem matched_bodySteps (h : Spells p) (inside : Bool) : (items : List BodyItem) →
    Within p (bodyFragments items) → Matched p inside (bodySteps items)
  | [], _ => by
    rw [bodySteps]
    exact .nil
  | item :: rest, hf => by
    rw [bodyFragments, within_append] at hf
    rw [bodySteps]
    exact (item.matched h inside hf.1).append (matched_bodySteps h inside rest hf.2)

/-- Further branches reopen the block of the first, so that only the last brace closes it. -/
theorem IfElse.matched (h : Spells p) (inside : Bool) : (s : IfElse) →
    Within p s.fragments → Matched p inside s.steps
  | ⟨_, cond, thenBody, elifs, otherwise⟩, hf => by
    simp only [IfElse.fragments, within_append] at hf
    obtain ⟨⟨⟨hcond, hthen⟩, helifs⟩, helse⟩ := hf
    have harms := ((thenBody.matched h true hthen).append
      (matched_branchSteps h elifs helifs)).append (matched_elseSteps h otherwise helse)
    -- One block from the first condition to the last brace: each arm in between closes and
    -- opens on its own line.
    have hall : Matched p inside _ :=
      .block_end (code_condition h (h.code (s := "if") (by decide)) hcond) harms
    rw [← List.append_assoc, ← List.append_assoc] at hall
    rw [IfElse.steps]
    exact hall.spelt _

/-- Each further branch reopens the block that is open already. -/
theorem matched_branchSteps (h : Spells p) : (elifs : List Branch) →
    Within p (branchFragments elifs) → Matched p true (branchSteps elifs)
  | [], _ => by
    rw [branchSteps]
    exact .nil
  | ⟨_, cond, body⟩ :: rest, hf => by
    simp only [branchFragments, within_append] at hf
    have hheader := code_condition h (h.code (s := "else if") (by decide)) hf.1.1
    rw [branchSteps]
    exact (((Matched.reopen hheader).spelt _).append (body.matched h true hf.1.2)).append
      (matched_branchSteps h rest hf.2)

theorem matched_elseSteps (h : Spells p) : (otherwise : Option Block) →
    Within p (blockFragments otherwise) → Matched p true (elseSteps otherwise)
  | none, _ => by
    rw [elseSteps]
    exact .nil
  | some body, hf => by
    rw [elseSteps]
    exact (Matched.reopen (h.code (by decide))).append (body.matched h true hf)

/-- A loop that tests behind its body has the condition on the line of its closing brace. -/
theorem Loop.matched (h : Spells p) (inside : Bool) : (s : Loop) →
    Within p s.fragments → Matched p inside s.steps
  | ⟨_, .testFirst, cond, body⟩, hf => by
    rw [Loop.fragments, within_append] at hf
    have hheader := code_condition h (h.code (s := "while") (by decide)) hf.1
    rw [Loop.steps]
    exact (Matched.block_end hheader (body.matched h true hf.2)).spelt _
  | ⟨_, .testLast, cond, body⟩, hf => by
    rw [Loop.fragments, within_append] at hf
    have hcond := code_condition h (h.code (s := "while") (by decide)) hf.1
    have htoken : Code p (" " ++ condition "while" cond ++ ";") :=
      ((h.code (by decide)).append hcond).append (h.code (by decide))
    have hall : Matched p inside _ :=
      .block "do" _ (h.code (by decide)) htoken
        ((body.matched h true hf.2).append (.spell cond.numerals))
    rw [← String.append_assoc, ← String.append_assoc] at hall
    rw [Loop.steps]
    exact hall

theorem ForLoop.matched (h : Spells p) (inside : Bool) : (s : ForLoop) →
    Within p s.fragments → Matched p inside s.steps
  | ⟨id, start, cond, advance, body⟩, hf => by
    simp only [ForLoop.fragments, within_append] at hf
    obtain ⟨⟨⟨hstart, hcond⟩, hadvance⟩, hbody⟩ := hf
    have hheader := ForLoop.code_header h (s := ⟨id, start, cond, advance, body⟩) hstart hcond
      hadvance
    rw [ForLoop.steps]
    exact (Matched.block_end hheader (body.matched h true hbody)).spelt _

theorem Switch.matched (h : Spells p) (inside : Bool) : (s : Switch) →
    Within p s.fragments → Matched p inside s.steps
  | ⟨_, cond, cases, default⟩, hf => by
    simp only [Switch.fragments, within_append] at hf
    obtain ⟨⟨hcond, hcases⟩, hdefault⟩ := hf
    have harms := (matched_caseSteps h true cases hcases).append
      (matched_defaultSteps h true default hdefault)
    have hall : Matched p inside _ :=
      .block_end (code_condition h (h.code (s := "switch") (by decide)) hcond) harms
    rw [← List.append_assoc] at hall
    rw [Switch.steps]
    exact hall.spelt _

/-- A label, the statements below it and the `break` that ends them, with no braces. -/
theorem matched_caseSteps (h : Spells p) (inside : Bool) : (cases : List Case) →
    Within p (caseFragments cases) → Matched p inside (caseSteps cases)
  | [], _ => by
    rw [caseSteps]
    exact .nil
  | ⟨_, label, body, fallthrough⟩ :: rest, hf => by
    simp only [caseFragments, within_append] at hf
    have hlabel : Code p ("case " ++ label.text ++ ":") :=
      ((h.code (by decide)).append (Expr.code_text h label hf.1.1)).append (h.code (by decide))
    have hend : Matched p inside (if fallthrough then [] else [Step.line "break;"]) := by
      split
      · exact .nil
      · exact .line (h.code (by decide)).prose
    rw [caseSteps]
    have hfirst : Matched p inside [.spell label.numerals, .label ("case " ++ label.text ++ ":")] :=
      .spelt (.label hlabel) _
    exact ((hfirst.append (body.matched h inside hf.1.2)).append hend).append
      (matched_caseSteps h inside rest hf.2)

theorem matched_defaultSteps (h : Spells p) (inside : Bool) : (default : Option Block) →
    Within p (blockFragments default) → Matched p inside (defaultSteps default)
  | none, _ => by
    rw [defaultSteps]
    exact .nil
  | some body, hf => by
    rw [defaultSteps]
    exact Matched.append (.label (h.code (by decide))) (body.matched h inside hf)

end

section

variable (h : Spells p)
include h

/-- A prototype is one line; a definition opens and closes the block of its body. -/
theorem Routine.matched_signatureSteps {r : Routine} (hf : Within p r.fragments)
    (isDefinition : Bool) {signature : String} (hs : Code p signature) :
    Matched p inside (r.signatureSteps isDefinition signature) := by
  obtain ⟨hdocumented, hbody⟩ := within_append.mp hf
  refine (r.matched_docSteps hdocumented).append ?_
  split
  · exact .block_end hs (matched_bodySteps h true r.body hbody)
  · exact .line (hs.append (h.code (by decide))).prose

theorem Routine.matched_assignedLine {signature word : String} (hs : Code p signature)
    (hw : Code p word) : Matched p inside [assignedLine signature word] :=
  .line (((hs.append (h.code (by decide))).append hw).append (h.code (by decide))).prose

/-- A routine that is set to a word has no body to write. -/
theorem Routine.matched_assignedSteps {r : Routine} (hf : Within p r.fragments)
    {signature word : String} (hs : Code p signature) (hw : Code p word) :
    Matched p inside (r.assignedSteps signature word) :=
  .append (r.matched_docSteps (within_append.mp hf).1) (matched_assignedLine h hs hw)

theorem Function.matched {f : Function} (hf : Within p f.fragments) (style : Style) :
    Matched p inside (f.steps style) :=
  (f.matched_signatureSteps h (within_append.mp (within_append.mp hf).1).1 _
    (f.code_signature h hf style)).spelt _

theorem Method.matched {m : Method} (hf : Within p m.fragments) (style : Style) :
    Matched p inside (m.steps style) := by
  have hroutine := (within_append.mp (within_append.mp hf).1).1
  have hsignature := m.code_signature h hf style
  rw [Method.steps]
  split
  · exact (m.matched_docSteps (within_append.mp hroutine).1).append
      ((Routine.matched_assignedLine h hsignature (h.code (by decide))).spelt _)
  · exact (m.matched_signatureSteps h hroutine _ hsignature).spelt _

/-- The initializers stand between the signature and the brace, on the same line. -/
theorem Constructor.matched {c : Constructor} (hf : Within p c.fragments) (style : Style) :
    Matched p inside (c.steps style) := by
  have hroutine := (within_append.mp (within_append.mp hf).1).1
  have hsignature := c.code_signature h hf style
  rw [Constructor.steps]
  refine Matched.spelt ?_ _
  split
  · exact c.matched_assignedSteps h hroutine hsignature (h.code (by decide))
  · split
    · exact c.matched_assignedSteps h hroutine hsignature (h.code (by decide))
    · exact c.matched_signatureSteps h hroutine _
        (hsignature.append (c.code_initializerList h hf))

theorem Destructor.matched {d : Destructor} (hf : Within p d.fragments) :
    Matched p inside d.steps := by
  have hsignature := d.code_signature h hf
  rw [Destructor.steps]
  split
  · exact d.matched_assignedSteps h hf hsignature (h.code (by decide))
  · split
    · exact d.matched_assignedSteps h hf hsignature (h.code (by decide))
    · exact d.matched_signatureSteps h hf _ hsignature

theorem Member.matched {m : Member} (hf : Within p m.fragments) (style : Style) :
    Matched p inside (m.steps style) := by
  cases m with
  | attr a => exact a.matched h hf
  | constructor c => exact c.matched h hf style
  | destructor d => exact d.matched h hf
  | method m => exact m.matched h hf style

/-- A group holds members of the class and no others. -/
theorem Class.matched_groupSteps {c : Class} (hf : Within p c.fragments) (style : Style)
    (v : Visibility) : Matched p inside (c.groupSteps style v) := by
  have hmembers := within_flatMap.mp (within_append.mp hf).2
  have hlabel : Code p (v.text ++ ":") := (v.code_text h).append (h.code (by decide))
  refine Matched.append (.label hlabel) (.flatMap fun m hm => ?_)
  obtain ⟨_, _, hm⟩ := List.mem_flatMap.mp hm
  exact m.matched h (hmembers m (List.mem_filter.mp hm).1) style

/-- Visibility groups are labels with members below, and no blocks. -/
theorem Class.matched_groupsSteps {c : Class} (hf : Within p c.fragments) (style : Style)
    (vs : List Visibility) : Matched p inside (c.groupsSteps style vs) := by
  induction vs with
  | nil => exact .nil
  | cons v vs ih =>
    cases vs with
    | nil => exact c.matched_groupSteps h hf style v
    | cons => exact ((c.matched_groupSteps h hf style v).append (.blank 1)).append ih

/-- A class is a block of its groups, even without members. -/
theorem Class.matched {c : Class} (hf : Within p c.fragments) (style : Style) :
    Matched p inside (c.steps style) := by
  have hdocumented := (within_append.mp (within_append.mp hf).1).1
  have hbody : Matched p inside _ :=
    .block _ ";" (c.code_header h hf) (h.code (by decide))
      (c.matched_groupsSteps h hf style c.groups)
  have hall := (c.matched_docSteps hdocumented).append hbody
  rw [← List.append_assoc, ← List.append_assoc] at hall
  exact hall

theorem matched_ifDefHead {symbol : Identifier} (hs : Code p symbol.text) (guard : Bool) :
    Matched p inside (ifDefHead symbol guard) := by
  have hword : ∀ word : String, word.toList.all isPrinted = true →
      Matched p inside [.line (word ++ symbol.text)] :=
    fun word hword => .line ((h.code hword).append hs).prose
  rw [ifDefHead]
  split
  · have hdefine : Code p ("#define " ++ symbol.text ++ " 1") :=
      ((h.code (by decide)).append hs).append (h.code (by decide))
    exact .cons (hword _ (by decide)) (.line hdefine.prose)
  · exact hword _ (by decide)

omit h in
theorem matched_scopeHeader {doc : Option Doc} (hf : Within p (docFragments doc))
    (style : Style) : Matched p inside (scopeHeader style doc) := by
  cases doc with
  | none => exact .nil
  | some d => exact (d.matched hf).append (.blank _)

omit h in
/-- Between two items stand blank lines and nothing else. -/
theorem matched_separator (style : Style) (previous : Option ScopeItem) (item : ScopeItem) :
    Matched p inside (separator style previous item) := by
  cases previous with
  | none => exact .nil
  | some before =>
    rw [separator]
    split
    · exact .blank _
    · exact .nil

end

mutual

/-- An item of a scope, whether at the outermost level or in a conditional. -/
theorem ScopeItem.matched (h : Spells p) (style : Style) (inside : Bool) : (item : ScopeItem) →
    Within p item.fragments → Matched p inside (item.steps style)
  | .doc d, hf => by
    rw [ScopeItem.steps]
    exact d.matched hf
  | .comment c, hf => by
    rw [ScopeItem.steps]
    exact c.matched hf
  | .inclusion i, hf => by
    rw [ScopeItem.steps]
    exact i.matched h hf
  | .definition m, hf => by
    rw [ScopeItem.steps]
    exact m.matched h hf
  | .global v, hf => by
    rw [ScopeItem.steps]
    exact v.matched h hf
  | .record r, hf => by
    rw [ScopeItem.steps]
    exact r.matched h hf
  | .enumeration e, hf => by
    rw [ScopeItem.steps]
    exact e.matched h hf
  | .cls c, hf => by
    rw [ScopeItem.steps]
    exact c.matched h hf style
  | .function f, hf => by
    rw [ScopeItem.steps]
    exact f.matched h hf style
  | .ifDef i, hf => by
    rw [ScopeItem.steps]
    exact i.matched h style inside hf

/-- Directives are lines of code. A conditional does not nest what it holds. -/
theorem IfDef.matched (h : Spells p) (style : Style) (inside : Bool) : (i : IfDef) →
    Within p i.fragments → Matched p inside (i.steps style)
  | ⟨_, symbol, thenScope, elseScope, guard⟩, hf => by
    simp only [IfDef.fragments, List.cons_append, within_cons, within_append] at hf
    obtain ⟨hsymbol, hthen, helse⟩ := hf
    have hend : Code p ("#endif // " ++ symbol.text) := (h.code (by decide)).append hsymbol
    have hhead : Matched p inside _ := (matched_ifDefHead h hsymbol guard).append (.blank 1)
    have hbranches := (hhead.append (thenScope.matched h style inside hthen)).append
      (matched_elseScopeSteps h style inside hsymbol elseScope helse)
    rw [IfDef.steps]
    exact hbranches.append (.cons (.blank 1) (.line hend.prose))

theorem matched_elseScopeSteps (h : Spells p) (style : Style) (inside : Bool)
    {symbol : Identifier} (hs : Code p symbol.text) : (elseScope : Option Scope) →
    Within p (elseScopeFragments elseScope) →
      Matched p inside (elseScopeSteps style symbol elseScope)
  | none, _ => by
    rw [elseScopeSteps]
    exact .nil
  | some s, hf => by
    have hline : Code p ("#else // !" ++ symbol.text) := (h.code (by decide)).append hs
    rw [elseScopeSteps]
    exact (Matched.cons (.blank 1) (.cons (.line hline.prose) (.blank 1))).append
      (s.matched h style inside hf)

/-- What a scope writes is matched wherever it stands, as its items are. -/
theorem Scope.matched (h : Spells p) (style : Style) (inside : Bool) : (s : Scope) →
    Within p s.fragments → Matched p inside (s.steps style)
  | ⟨_, _, doc, items⟩, hf => by
    rw [Scope.fragments, within_append] at hf
    rw [Scope.steps]
    exact (matched_scopeHeader hf.1 style).append
      (matched_itemSteps h style inside none items hf.2)

theorem matched_itemSteps (h : Spells p) (style : Style) (inside : Bool)
    (previous : Option ScopeItem) : (items : List ScopeItem) →
    Within p (itemFragments items) → Matched p inside (itemSteps style previous items)
  | [], _ => by
    rw [itemSteps]
    exact .nil
  | item :: rest, hf => by
    rw [itemFragments, within_append] at hf
    rw [itemSteps]
    exact ((matched_separator style previous item).append (item.matched h style inside hf.1)).append
      (matched_itemSteps h style inside (some item) rest hf.2)

end

/-- Whatever an entity writes on its own is matched, if its fragments allow it. -/
theorem Entity.matched (h : Spells p) {style : Style} {e : Entity} {steps : List Step}
    (hsteps : e.steps? style = some steps) (hf : Within p e.fragments) :
    Matched p false steps := by
  cases e <;> cases hsteps
  case doc d => exact d.matched hf
  case comment c => exact c.matched hf
  case inclusion i => exact i.matched h hf
  case definition m => exact m.matched h hf
  case field f => exact f.matched h hf
  case attr a => exact a.matched h hf
  case global v => exact v.matched h hf
  case record r => exact r.matched h hf
  case variant v => exact v.matched h hf code_empty
  case enumeration e => exact e.matched h hf
  case function f => exact f.matched h hf style
  case method m => exact m.matched h hf style
  case constructor c => exact c.matched h hf style
  case destructor d => exact d.matched h hf
  case cls c => exact c.matched h hf style
  case ifDef i => exact i.matched h style false hf
  case scope s => exact s.matched h style false hf
  case ret s => exact Statement.matched h false (.ret s) hf
  case assign s => exact Statement.matched h false (.assign s) hf
  case eval s => exact Statement.matched h false (.eval s) hf
  case jump s => exact Statement.matched h false (.jump s) hf
  case label s => exact Statement.matched h false (.label s) hf
  case block b => exact b.matched h false hf
  case ifElse s => exact s.matched h false hf
  case loop s => exact s.matched h false hf
  case forLoop s => exact s.matched h false hf
  case switch s => exact s.matched h false hf

/-- With a property that all characters have, nothing is asked of the fragments. -/
theorem within_true (fragments : List Fragment) : Within (fun _ => true) fragments
  | .code _, _ => fun _ _ => rfl
  | .prose _, _ => fun _ _ => Or.inr rfl

theorem Doc.nested (d : Doc) : Nested inside d.steps := (d.matched (within_true _)).nested

theorem nested_docSteps (d : Option Doc) : Nested inside (docSteps d) :=
  (matched_docSteps (within_true _)).nested

theorem Member.nested (style : Style) (inside : Bool) (m : Member) :
    Nested inside (m.steps style) :=
  (m.matched (fun _ _ => rfl) (within_true _) style).nested

theorem BodyItem.nested (inside : Bool) (item : BodyItem) : Nested inside item.steps :=
  (item.matched (fun _ _ => rfl) inside (within_true _)).nested

theorem ScopeItem.nested (style : Style) (inside : Bool) (item : ScopeItem) :
    Nested inside (item.steps style) :=
  (item.matched (fun _ _ => rfl) style inside (within_true _)).nested

theorem Scope.nested (style : Style) (inside : Bool) (s : Scope) :
    Nested inside (s.steps style) :=
  (s.matched (fun _ _ => rfl) style inside (within_true _)).nested

/-- No entity leaves a block open or closes one that it did not open, whatever its texts are. -/
theorem Entity.nested {style : Style} {e : Entity} {steps : List Step}
    (hsteps : e.steps? style = some steps) : Nested false steps :=
  (e.matched (fun _ _ => rfl) hsteps (within_true _)).nested

end CWriter

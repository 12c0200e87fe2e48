import CWriter.Proofs.Classes.Groups
import CWriter.Proofs.Edits
import CWriter.Proofs.Layout.Limits
import CWriter.Proofs.Layout.Lines
import CWriter.Proofs.Matched
import CWriter.Proofs.Settings
import CWriter.Session.Transcript
import Mathlib.Logic.Relation

/-!
# Every tree has a text

Laying a tree out can go wrong in four places: a comment may have no room, a text to be cut into
lines may have none, a built-in type may have no name, and a part that is only written inside
others may be asked for a text of its own. Settings that pass their check leave room; the rest
is ruled out part by part, from what the parts of a tree can be. What is left are the limits of a
machine, which neither data nor settings are checked for: numbers too long to be put into digits,
and indentations and rules too long to be counted.
-/
namespace CWriter

/-- Empty, or closed by exactly one line feed. -/
def Closed (text : String) : Prop :=
  text = "" ∨ ∃ front : String, text = front ++ "\n" ∧ front.toList.getLast? ≠ some '\n'

/-- No line feed is left at the end once they are trimmed. -/
theorem Layout.getLast?_trimFeeds (s : String) :
    (Layout.trimFeeds s).toList.getLast? ≠ some '\n' := by
  rw [trimFeeds, String.toList_ofList, List.getLast?_reverse]
  intro hlast
  have hhead := List.head?_dropWhile_not (· == '\n') s.toList.reverse
  rw [hlast] at hhead
  exact absurd hhead (by decide)

/-- The text of a layout is trimmed and closed again. -/
theorem Layout.closed_text (l : Layout) : Closed l.text := by
  rw [text]
  split
  · exact Or.inl rfl
  · exact Or.inr ⟨_, rfl, getLast?_trimFeeds _⟩

/-- With room for comments any steps have a text. -/
theorem exists_render {style : Style} (h : style.Valid) (steps : List Step) :
    ∃ text, render style steps = .ok text ∧ Closed text := by
  refine ⟨_, ?_, Layout.closed_text (Layout.writeAll { style } steps)⟩
  rw [render, Layout.run_eq_ok (l := { style }) h.docWidth_pos]
  rfl

/-- The name under which a built-in type is spelled is the one in the table. -/
theorem ScalarKind.lookup_fixedNames {kind : ScalarKind} (h : kind ≠ .char) (signed : Bool) :
    fixedNames.lookup kind = some (kind.text signed) := by
  rw [text, dif_neg h, Option.some_get]

/-- An entity that `e` lays out, at whatever depth it stands. -/
def Entity.Writes : Entity → Entity → Prop :=
  Relation.ReflTransGen fun e part => part ∈ e.written

/-- The steps are those of the entity, with one separator or another behind it. -/
def Entity.LaidOut (style : Style) (e : Entity) (steps : List Step) : Prop :=
  ∃ separator, Transcript.entitySteps style separator (.entity e) = .ok steps

/-- Each of the parts has steps of its own, and these stand among the steps. -/
def Covers (style : Style) (parts : List Entity) (steps : List Step) : Prop :=
  ∀ part ∈ parts, ∃ own, part.LaidOut style own ∧ own <:+: steps

namespace Covers

variable {style : Style} {parts others : List Entity} {steps more : List Step}

theorem nil : Covers style [] steps := fun _ hpart => absurd hpart List.not_mem_nil

theorem single {e : Entity} (h : e.LaidOut style steps) : Covers style [e] steps := by
  intro part hpart
  rw [List.mem_singleton.mp hpart]
  exact ⟨steps, h, List.infix_refl _⟩

/-- What stands among some steps stands among more. -/
theorem mono (h : Covers style parts steps) (hsteps : steps <:+: more) :
    Covers style parts more := by
  intro part hpart
  obtain ⟨own, hown, hinfix⟩ := h part hpart
  exact ⟨own, hown, hinfix.trans hsteps⟩

theorem left (h : Covers style parts steps) : Covers style parts (steps ++ more) :=
  h.mono (List.prefix_append _ _).isInfix

theorem right (h : Covers style parts more) : Covers style parts (steps ++ more) :=
  h.mono (List.suffix_append _ _).isInfix

theorem cons {step : Step} (h : Covers style parts steps) : Covers style parts (step :: steps) :=
  h.mono (List.suffix_cons _ _).isInfix

/-- Two lists of parts, whose steps stand one behind the other. -/
theorem append (h : Covers style parts steps) (hmore : Covers style others more) :
    Covers style (parts ++ others) (steps ++ more) := by
  intro part hpart
  rcases List.mem_append.mp hpart with hpart | hpart
  · exact h.left part hpart
  · exact hmore.right part hpart

/-- Parts that are laid out one after the other, and nothing between them. -/
theorem flatMap {α : Type} {entity : α → Entity} {own : α → List Step} {xs : List α}
    (h : ∀ x ∈ xs, (entity x).LaidOut style (own x)) :
    Covers style (xs.map entity) (xs.flatMap own) := by
  induction xs with
  | nil => exact nil
  | cons x xs ih =>
    obtain ⟨hx, hxs⟩ := List.forall_mem_cons.mp h
    exact append (single hx) (ih hxs)

end Covers

section

variable (style : Style)

theorem laidOut_doc (d : Doc) : Entity.LaidOut style (.doc d) d.steps := ⟨"", rfl⟩

theorem laidOut_block (b : Block) : Entity.LaidOut style (.block b) b.steps := ⟨"", rfl⟩

theorem Statement.laidOut (s : Statement) : s.entity.LaidOut style s.steps := by
  cases s <;> exact ⟨"", rfl⟩

theorem RecordField.laidOut (f : RecordField) : f.entity.LaidOut style f.steps := by
  cases f <;> exact ⟨"", rfl⟩

theorem Member.laidOut (m : Member) : m.entity.LaidOut style (m.steps style) := by
  cases m <;> exact ⟨"", rfl⟩

theorem ScopeItem.laidOut (i : ScopeItem) : i.entity.LaidOut style (i.steps style) := by
  cases i <;> exact ⟨"", rfl⟩

/-- Documentation is a part wherever a declaration carries it. -/
theorem covers_docParts (d : Option Doc) : Covers style (docParts d) (docSteps d) := by
  cases d with
  | none => exact .nil
  | some d => exact .single (laidOut_doc style d)

/-- The statements of a body are parts, its verbatim lines are none. -/
theorem covers_bodyParts (items : List BodyItem) :
    Covers style (bodyParts items) (bodySteps items) := by
  induction items with
  | nil => exact .nil
  | cons item rest ih =>
    cases item with
    | verbatim text => exact ih.right
    | stmt s => exact .append (.single (s.laidOut style)) ih

/-- The comma behind an enumerator is not a part of it, but stands on its line. -/
theorem covers_variants (variants : List Variant) :
    Covers style (variants.map .variant) (Enumeration.variantSteps variants) := by
  have hvariant : ∀ (v : Variant) (separator : String),
      Entity.LaidOut style (.variant v) (v.steps separator) := fun v separator => ⟨separator, rfl⟩
  induction variants with
  | nil => exact .nil
  | cons v rest ih =>
    cases rest with
    | nil => exact .single (hvariant v "")
    | cons next rest => exact .append (.single (hvariant v ",")) ih

theorem covers_branches (branches : List Branch) :
    Covers style (branches.map fun b => .block b.body) (branchSteps branches) := by
  induction branches with
  | nil => exact .nil
  | cons branch rest ih =>
    obtain ⟨id, cond, body⟩ := branch
    exact .append (Covers.single (laidOut_block style body)).right ih

theorem covers_cases (cases : List Case) :
    Covers style (cases.map fun c => .block c.body) (caseSteps cases) := by
  induction cases with
  | nil => exact .nil
  | cons arm rest ih =>
    obtain ⟨id, label, body, fallthrough⟩ := arm
    exact .append (Covers.single (laidOut_block style body)).right.left ih

theorem covers_else (body : Option Block) :
    Covers style (body.toList.map .block) (elseSteps body) := by
  cases body with
  | none => exact .nil
  | some body => exact (Covers.single (laidOut_block style body)).right

theorem covers_default (body : Option Block) :
    Covers style (body.toList.map .block) (defaultSteps body) := by
  cases body with
  | none => exact .nil
  | some body => exact (Covers.single (laidOut_block style body)).right

/-- What separates two items belongs to neither. -/
theorem covers_items (previous : Option ScopeItem) (items : List ScopeItem) :
    Covers style (items.map ScopeItem.entity) (itemSteps style previous items) := by
  induction items generalizing previous with
  | nil => exact .nil
  | cons item rest ih =>
    rw [itemSteps]
    exact .append (Covers.single (item.laidOut style)).right (ih (some item))

/-- The groups of a class stand one below the other, with a blank line between them. -/
theorem Class.groupSteps_infix (c : Class) {v : Visibility} {vs : List Visibility} (h : v ∈ vs) :
    c.groupSteps style v <:+: c.groupsSteps style vs := by
  induction vs with
  | nil => exact absurd h List.not_mem_nil
  | cons first rest ih =>
    cases rest with
    | nil =>
      rw [List.mem_singleton.mp h]
      exact List.infix_refl _
    | cons next rest =>
      have hsteps : c.groupsSteps style (first :: next :: rest) =
          c.groupSteps style first ++ [.blank 1] ++ c.groupsSteps style (next :: rest) := rfl
      rw [hsteps]
      rcases List.mem_cons.mp h with rfl | hrest
      · rw [List.append_assoc]
        exact (List.prefix_append _ _).isInfix
      · exact (ih hrest).trans (List.suffix_append _ _).isInfix

/-- Every member stands in the group of its visibility. -/
theorem Class.covers_members (c : Class) :
    Covers style (c.members.map Member.entity) (c.groupsSteps style c.groups) := by
  intro part hpart
  obtain ⟨m, hm, rfl⟩ := List.mem_map.mp hpart
  have hgroup : Covers style ((c.groupMembers m.visibility).map Member.entity)
      (c.groupSteps style m.visibility) :=
    (Covers.flatMap fun m _ => m.laidOut style).right
  exact hgroup.mono (c.groupSteps_infix style (mem_groups hm)) m.entity
    (List.mem_map_of_mem (mem_groupMembers hm))

/-- A record without fields has only its documentation to lay out. -/
theorem Record.covers_written (r : Record) :
    Covers style (Entity.record r).written r.steps := by
  have hfields : Covers style (r.fields.map RecordField.entity)
      (r.fields.flatMap RecordField.steps) := .flatMap fun f _ => f.laidOut style
  refine .append (covers_docParts style r.doc).left ?_
  split
  · next hempty =>
    rw [List.isEmpty_iff.mp hempty]
    exact .nil
  · exact hfields.right.left

/-- The body of a routine is laid out where it is defined, and not in a prototype. -/
theorem Routine.covers_written (r : Routine) (isDefinition : Bool) (signature : String) :
    Covers style (r.written isDefinition) (r.signatureSteps isDefinition signature) := by
  cases isDefinition with
  | true => exact .append (covers_docParts style r.doc) (covers_bodyParts style r.body).right.left
  | false => exact .append (covers_docParts style r.doc) .nil

/-- A word in the place of a body leaves the documentation alone. -/
theorem Routine.covers_assigned (r : Routine) (signature word : String) :
    Covers style (r.written false) (r.assignedSteps signature word) :=
  .append (covers_docParts style r.doc) .nil

/-- A pure method has no body to lay out. -/
theorem Method.covers_written (m : Method) :
    Covers style (Entity.method m).written (m.steps style) := by
  rw [Entity.written, Method.steps]
  split
  · next hpure =>
    rw [hpure]
    exact .append (covers_docParts style m.doc) .nil
  · next hpure =>
    rw [Bool.not_eq_true] at hpure
    rw [hpure]
    exact (m.toRoutine.covers_written style _ _).cons

theorem Constructor.covers_written (c : Constructor) :
    Covers style (Entity.constructor c).written (c.steps style) := by
  rw [Entity.written, Constructor.steps]
  refine Covers.cons ?_
  split
  · next hdefault =>
    rw [hdefault]
    exact c.covers_assigned style _ _
  · split
    · next hdefault hdelete =>
      rw [hdelete, Bool.not_true, Bool.and_false, Bool.false_and]
      exact c.covers_assigned style _ _
    · next hdefault hdelete =>
      rw [Bool.not_eq_true] at hdefault hdelete
      rw [hdefault, hdelete]
      exact c.toRoutine.covers_written style _ _

/-- A default is looked for before a body. -/
theorem Destructor.covers_written (d : Destructor) :
    Covers style (Entity.destructor d).written d.steps := by
  rw [Entity.written, Destructor.steps]
  split
  · next hdefault =>
    rw [hdefault]
    exact d.covers_assigned style _ _
  · split
    · next hdefault hpure =>
      rw [hpure, Bool.not_true, Bool.and_false, Bool.false_and]
      exact d.covers_assigned style _ _
    · next hdefault hpure =>
      rw [Bool.not_eq_true] at hdefault hpure
      rw [hdefault, hpure]
      exact d.toRoutine.covers_written style _ _

/-- The second branch stands between its directive and the closing one. -/
theorem IfDef.covers_written (i : IfDef) :
    Covers style (Entity.ifDef i).written (i.steps style) := by
  have hscope : ∀ s : Scope, Entity.LaidOut style (.scope s) (s.steps style) := fun s => ⟨"", rfl⟩
  obtain ⟨id, symbol, thenScope, elseScope, guard⟩ := i
  have helse : Covers style (elseScope.toList.map .scope)
      (elseScopeSteps style symbol elseScope) := by
    cases elseScope with
    | none => exact .nil
    | some s => exact (Covers.single (hscope s)).right
  exact (Covers.append (Covers.single (hscope thenScope)).right helse).left

/-- A scope lays out its header and its items. -/
theorem Scope.covers_written (s : Scope) :
    Covers style (Entity.scope s).written (s.steps style) := by
  obtain ⟨id, filename, doc, items⟩ := s
  have hdoc : Covers style (docParts doc) (scopeHeader style doc) := by
    cases doc with
    | none => exact .nil
    | some d => exact (Covers.single (laidOut_doc style d)).left
  exact .append hdoc (covers_items style none items)

theorem IfElse.covers_written (s : IfElse) : Covers style (Entity.ifElse s).written s.steps := by
  obtain ⟨id, cond, thenBody, elifs, otherwise⟩ := s
  have hthen : Covers style [.block thenBody] _ := .single (laidOut_block style thenBody)
  exact (((hthen.right).append (covers_branches style elifs)).append
    (covers_else style otherwise)).left.cons

theorem Loop.covers_written (s : Loop) : Covers style (Entity.loop s).written s.steps := by
  obtain ⟨id, kind, cond, body⟩ := s
  have hbody := Covers.single (laidOut_block style body)
  cases kind with
  | testFirst => exact hbody.right.left.cons
  | testLast => exact hbody.left.right.left

theorem ForLoop.covers_written (s : ForLoop) :
    Covers style (Entity.forLoop s).written s.steps := by
  obtain ⟨id, start, cond, advance, body⟩ := s
  exact (Covers.single (laidOut_block style body)).right.left.cons

theorem Switch.covers_written (s : Switch) : Covers style (Entity.switch s).written s.steps := by
  obtain ⟨id, cond, cases, default⟩ := s
  exact (((covers_cases style cases).right).append (covers_default style default)).left.cons

end

/-- What an entity lays out stands among its steps. -/
theorem Entity.covers_written {style : Style} {e : Entity} {steps : List Step}
    (h : e.LaidOut style steps) : Covers style e.written steps := by
  obtain ⟨separator, h⟩ := h
  cases e <;> cases h
  case definition m => exact (covers_docParts style m.doc).left
  case field f => exact (covers_docParts style f.doc).left
  case attr a => exact (covers_docParts style a.doc).left
  case global v => exact (covers_docParts style v.doc).left
  case variant v => exact (covers_docParts style v.doc).left
  case record r => exact r.covers_written style
  case enumeration e =>
    exact ((covers_docParts style e.doc).left.append (covers_variants style e.variants)).left
  case function f => exact (f.toRoutine.covers_written style _ _).cons
  case method m => exact m.covers_written style
  case constructor c => exact c.covers_written style
  case destructor d => exact d.covers_written style
  case cls c =>
    exact ((covers_docParts style c.doc).left.append (c.covers_members style)).left
  case ifDef i => exact i.covers_written style
  case scope s => exact s.covers_written style
  case block b =>
    obtain ⟨id, stmts⟩ := b
    exact covers_bodyParts style stmts
  case ifElse s => exact s.covers_written style
  case loop s => exact s.covers_written style
  case forLoop s => exact s.covers_written style
  case switch s => exact s.covers_written style
  all_goals exact .nil

namespace Entity

variable {style : Style} {e part : Entity} {steps : List Step}

/-- However deep a part stands, its steps stand among those of the whole. -/
theorem Writes.exists_laidOut (h : e.Writes part) (he : e.LaidOut style steps) :
    ∃ own, part.LaidOut style own ∧ own <:+: steps := by
  induction h with
  | refl => exact ⟨steps, he, List.infix_refl _⟩
  | tail _ hwritten ih =>
    obtain ⟨middle, hmiddle, hinfix⟩ := ih
    obtain ⟨own, hown, hwithin⟩ := covers_written hmiddle _ hwritten
    exact ⟨own, hown, hwithin.trans hinfix⟩

/-- An entity has a text, closed by one line feed. It is printed if its steps are within the
limits, and refused for one of them if they are not. -/
structure Renders (style : Style) (e : Entity) (steps : List Step) (text : String) : Prop where
  hasSteps : e.steps? style = some steps
  hasText : e.text style = .ok text
  closed : Closed text
  printed : WithinLimits style steps → e.print style = .ok text
  refused : ¬WithinLimits style steps → ∃ fault, fault.IsLimit ∧ e.print style = .error fault

/-- Once the steps are given, the text follows, and printing it differs from that by the limits
alone. -/
theorem exists_renders (hstyle : style.Valid) (hsteps : e.steps? style = some steps) :
    ∃ text, e.Renders style steps text := by
  obtain ⟨text, hrender, hclosed⟩ := exists_render hstyle steps
  have hprint : e.print style = CWriter.print style steps := by
    rw [Entity.print, hsteps]
  have hnested := nested hsteps
  refine ⟨text, hsteps, ?_, hclosed, fun hwithin => ?_, fun hwithin => ?_⟩
  · rw [Entity.text, hsteps]
    exact hrender
  · rw [hprint, print_of_within hstyle hnested hwithin, hrender]
  · rw [hprint]
    exact print_of_not_within hstyle hnested hwithin

/-- What is laid out inside others can be laid out on its own. -/
theorem LaidOut.exists_steps (h : e.LaidOut style steps) : ∃ own, e.steps? style = some own := by
  obtain ⟨separator, h⟩ := h
  cases e <;> first | exact ⟨_, rfl⟩ | cases h

end Entity

/-- In settings that pass their check every scope has a text, and so has everything that is laid
out in it, at any depth; within the limits the text is printed. No part that is met on the way is
without steps of its own, no comment is without room, no macro value but the empty one is without
lines, and no built-in type is without a name. -/
theorem Scope.print_total {settings : Members} {ledger : Ledger} {sheet : StyleSheet}
    (h : (StyleSheet.schema.build settings ledger).1 = .ok sheet) (s : Scope) :
    (∃ text, s.text sheet.style = .ok text ∧ Closed text ∧
      (WithinLimits sheet.style (s.steps sheet.style) → s.print sheet.style = .ok text) ∧
      (¬WithinLimits sheet.style (s.steps sheet.style) →
        ∃ fault, fault.IsLimit ∧ s.print sheet.style = .error fault)) ∧
    (∀ part, (Entity.scope s).Writes part →
      (∃ own, part.LaidOut sheet.style own ∧ own <:+: s.steps sheet.style) ∧
      ∃ own text, part.Renders sheet.style own text) ∧
    (∀ text, ∃ lines, Text.commentLines sheet.style.docWidth text = some lines) ∧
    (∀ (m : Macro) (value : String), m.value = some value → value ≠ "" →
      ∃ first rest, m.valueLines = first :: rest) ∧
    ∀ (kind : ScalarKind) (signed : Bool), kind ≠ .char →
      ScalarKind.fixedNames.lookup kind = some (kind.text signed) := by
  have hvalid : sheet.style.Valid := StyleSheet.valid_of_build settings ledger sheet h
  have hscope : (Entity.scope s).LaidOut sheet.style (s.steps sheet.style) := ⟨"", rfl⟩
  obtain ⟨text, hrenders⟩ := Entity.exists_renders hvalid
    (show (Entity.scope s).steps? sheet.style = some (s.steps sheet.style) from rfl)
  refine ⟨⟨text, hrenders.hasText, hrenders.closed, hrenders.printed, hrenders.refused⟩,
    fun part hpart => ?_, Layout.commentLines_eq_some hvalid.docWidth_pos,
    fun m value hvalue hne => ?_,
    fun kind signed hkind => ScalarKind.lookup_fixedNames hkind signed⟩
  · obtain ⟨own, hown, hinfix⟩ := hpart.exists_laidOut hscope
    obtain ⟨alone, halone⟩ := hown.exists_steps
    exact ⟨⟨own, hown, hinfix⟩, alone, Entity.exists_renders hvalid halone⟩
  · have hlines : m.valueLines ≠ [] := by
      rw [Macro.valueLines, hvalue]
      simpa using Text.lines_ne_nil (by simpa using hne)
    exact List.exists_cons_of_ne_nil hlines

/-- A macro of line breaks alone, a comment without text, and conditional parts that hold
nothing. -/
def hollowScope : Scope :=
  ⟨1, none, some ⟨2, ["", "one two three four five six"]⟩,
    [.definition { id := 3, name := ⟨"GAP", by decide⟩, value := some "\n\n" },
      .ifDef ⟨4, ⟨"DEBUG", by decide⟩, ⟨5, none, none, []⟩, some ⟨6, none, none, []⟩, false⟩]⟩

/-- Settings at their bounds. -/
theorem Scope.print_total_hollow :
    (StyleSheet.schema.build [("doc_width", .int 20), ("blank_lines", .str "0")] {}).1 =
      .ok ⟨0, { docWidth := 20, blankLines := 0 }⟩ ∧
    ∃ text, hollowScope.print { docWidth := 20, blankLines := 0 } = .ok text ∧ Closed text ∧
      text = "///\n/// one two three four\n/// five six\n#define GAP  \\\n\n#ifdef DEBUG\n\n" ++
        "#else // !DEBUG\n\n#endif // DEBUG\n" := by
  have hbuild : (StyleSheet.schema.build [("doc_width", .int 20), ("blank_lines", .str "0")] {}).1 =
      .ok ⟨0, { docWidth := 20, blankLines := 0 }⟩ := by rfl
  obtain ⟨text, htext, hclosed, hprinted, -⟩ := (Scope.print_total hbuild hollowScope).1
  have hwithin : WithinLimits { docWidth := 20, blankLines := 0 }
      (hollowScope.steps { docWidth := 20, blankLines := 0 }) := by
    refine withinLimits_of_few (StyleSheet.valid_of_build _ _ _ hbuild)
      (Entity.nested (e := .scope hollowScope) rfl) ?_ (by decide +kernel) (by decide +kernel)
    intro numbers hnumbers
    have hnone : unnumbered (hollowScope.steps { docWidth := 20, blankLines := 0 }) =
        hollowScope.steps { docWidth := 20, blankLines := 0 } := by decide +kernel
    rw [← hnone] at hnumbers
    exact absurd (List.mem_filter.mp hnumbers).2 Bool.false_ne_true
  have hshown : (hollowScope.text { docWidth := 20, blankLines := 0 }).toOption =
      some ("///\n/// one two three four\n/// five six\n#define GAP  \\\n\n#ifdef DEBUG\n\n" ++
        "#else // !DEBUG\n\n#endif // DEBUG\n") := by decide +kernel
  rw [htext] at hshown
  exact ⟨hbuild, text, hprinted hwithin, hclosed, Option.some.inj hshown⟩

theorem Scope.exists_of_map_print {built : Except (List Problem) Scope} {style : Style}
    {result : Except LayoutFault String}
    (h : built.toOption.map (Scope.print style) = some result) :
    ∃ s, built = .ok s ∧ s.print style = result := by
  cases built with
  | error problems => cases h
  | ok s => exact ⟨s, rfl, Option.some.inj h⟩

/-- One enumerator whose value has a digit more than are written. -/
def longValue : Members :=
  [("items", .list [.object [("kind", .str "enum"), ("name", .str "E"),
    ("variants", .list [.object [("name", .str "A"), ("value", .int (Nat.pow 10 4300))]])]])]

/-- One declaration, which is not indented. -/
def flatDeclaration : Members :=
  [("items", .list [.object [("kind", .str "variable"), ("name", .str "x"),
    ("type", .object [("variant", .str "primitive"), ("kind", .str "bool")])]])]

/-- Data and settings pass their checks and there is no text: a value has too many digits, and a
machine word does not count the columns of a level. -/
theorem Scope.print_beyond_limits :
    (∃ s, ((schema ScopeItem.rule).build longValue {}).1 = .ok s ∧
      (StyleSheet.schema.build [] {}).1 = .ok ⟨0, {}⟩ ∧ s.print {} = .error .tooLong) ∧
    ∃ s, ((schema ScopeItem.rule).build flatDeclaration {}).1 = .ok s ∧
      (StyleSheet.schema.build [("indent_width", .int (Int.pow 2 63))] {}).1 =
        .ok ⟨0, { indentWidth := Int.pow 2 63 }⟩ ∧
      s.print { indentWidth := Int.pow 2 63 } = .error .tooOften := by
  constructor
  · obtain ⟨s, hs, hprint⟩ : ∃ s, ((schema ScopeItem.rule).build longValue {}).1 = .ok s ∧
        s.print {} = .error .tooLong := exists_of_map_print (by decide +kernel)
    exact ⟨s, hs, rfl, hprint⟩
  · obtain ⟨s, hs, hprint⟩ : ∃ s, ((schema ScopeItem.rule).build flatDeclaration {}).1 = .ok s ∧
        s.print { indentWidth := Int.pow 2 63 } = .error .tooOften :=
      exists_of_map_print (by decide +kernel)
    exact ⟨s, hs, rfl, hprint⟩

end CWriter

import CWriter.Proofs.Layout.Lines
import CWriter.Proofs.Notes.Inert
import CWriter.Proofs.ScopeLines

/-!
# Conditionals are nested as the tree is

A reader of the lines of a scope keeps the conditionals that are open on a stack, together with
the branch that it is in. It meets every line with the conditionals around it in the tree, and
none is left open at the end.

What items write is free as long as no line of it starts like a conditional directive; which
texts may be put into an item for that is not established here. A line ends at a line feed, also
where a layout holds the line feed inside one of its lines.
-/
namespace CWriter

/-- A conditional that is open, and the branch that is being read. -/
structure Conditional where
  symbol : String
  inElse : Bool
  deriving DecidableEq

inductive Directive where
  | opens (symbol : String)
  | turns (symbol : String)
  | closes (symbol : String)

/-- Whether a line starts like a directive that opens, turns or closes a conditional. -/
def startsConditional (line : String) : Bool :=
  ["#ifdef", "#ifndef", "#else", "#endif"].any fun word => word.toList.isPrefixOf line.toList

/-- The rest of a line that starts with a given text. -/
def behind? (start line : String) : Option String :=
  if start.toList.isPrefixOf line.toList then
    some (String.ofList (line.toList.drop start.toList.length))
  else none

/-- The directive that a line spells, down to the remark which repeats the symbol. -/
def Directive.ofLine? (line : String) : Option Directive :=
  ((behind? "#ifdef " line).map opens).or <| ((behind? "#ifndef " line).map opens).or <|
    ((behind? "#else // !" line).map turns).or <| (behind? "#endif // " line).map closes

/-- A conditional is turned once at most, and it is turned and closed under its own symbol while
no other one is open inside. -/
def Directive.apply : List Conditional → Directive → Option (List Conditional)
  | stack, opens symbol => some (⟨symbol, false⟩ :: stack)
  | top :: rest, turns symbol =>
    if top = ⟨symbol, false⟩ then some (⟨symbol, true⟩ :: rest) else none
  | top :: rest, closes symbol => if top.symbol = symbol then some rest else none
  | [], _ => none

/-- Reads one line. A line that starts like a conditional directive has to spell one. -/
def scanLine (stack : List Conditional) (line : String) : Option (List Conditional) :=
  if startsConditional line then (Directive.ofLine? line).bind (Directive.apply stack)
  else some stack

/-- Reads lines, and tells the conditionals that are open behind the last one. -/
def scan (stack : List Conditional) (ls : List String) : Option (List Conditional) :=
  ls.foldlM scanLine stack

/-- Every `#ifndef` is followed by the definition of its symbol. -/
def GuardsDefined : List String → Prop
  | [] => True
  | line :: rest =>
    (∀ symbol, line = "#ifndef " ++ symbol → rest.head? = some ("#define " ++ symbol ++ " 1")) ∧
      GuardsDefined rest

theorem scan_append (stack : List Conditional) (first second : List String) :
    scan stack (first ++ second) = (scan stack first).bind (scan · second) :=
  List.foldlM_append

/-- Lines that do not start like a directive are passed over, whatever is open. -/
theorem scan_of_plain {ls : List String} (h : ∀ line ∈ ls, startsConditional line = false)
    (stack : List Conditional) : scan stack ls = some stack := by
  induction ls with
  | nil => rfl
  | cons line rest ih =>
    obtain ⟨hline, hrest⟩ := List.forall_mem_cons.mp h
    have hscan : scanLine stack line = some stack := by
      rw [scanLine, hline]
      rfl
    rw [scan, List.foldlM_cons, hscan]
    exact ih hrest

/-- The blank lines that are cut off a text do not matter to what its reader finds. -/
theorem scan_append_of_plain {second : List String}
    (h : ∀ line ∈ second, startsConditional line = false) (stack : List Conditional)
    (first : List String) : scan stack (first ++ second) = scan stack first := by
  rw [scan_append]
  cases scan stack first with
  | none => rfl
  | some next => exact scan_of_plain h next

theorem startsConditional_of_mem_replicate {n : Nat} {line : String}
    (h : line ∈ List.replicate n "") : startsConditional line = false := by
  rw [List.eq_of_mem_replicate h]
  decide

theorem scan_singleton (stack : List Conditional) (line : String) :
    scan stack [line] = scanLine stack line := by
  rw [scan, List.foldlM_cons]
  cases scanLine stack line <;> rfl

theorem startsConditional_append {start : String} (h : startsConditional start = true)
    (rest : String) : startsConditional (start ++ rest) = true := by
  obtain ⟨word, hword, hstart⟩ := List.any_eq_true.mp h
  refine List.any_eq_true.mpr ⟨word, hword, ?_⟩
  rw [List.isPrefixOf_iff_prefix] at hstart ⊢
  rw [String.toList_append]
  exact hstart.trans (List.prefix_append _ _)

theorem behind?_append (start rest : String) : behind? start (start ++ rest) = some rest := by
  have hprefix : start.toList.isPrefixOf (start.toList ++ rest.toList) = true :=
    List.isPrefixOf_iff_prefix.mpr (List.prefix_append _ _)
  rw [behind?, String.toList_append, hprefix, List.drop_left, String.ofList_toList]
  rfl

/-- The four directives as the writer spells them: both kinds of opening, the turn, and the close
under the symbol that was opened last. -/
theorem scanLine_ifdef (stack : List Conditional) (symbol : String) :
    scanLine stack ("#ifdef " ++ symbol) = some (⟨symbol, false⟩ :: stack) := by
  rw [scanLine, startsConditional_append (by decide), if_pos rfl, Directive.ofLine?,
    behind?_append]
  rfl

theorem scanLine_ifndef (stack : List Conditional) (symbol : String) :
    scanLine stack ("#ifndef " ++ symbol) = some (⟨symbol, false⟩ :: stack) := by
  have hifdef : behind? "#ifdef " ("#ifndef " ++ symbol) = none := by
    rw [behind?, String.toList_append]
    rfl
  rw [scanLine, startsConditional_append (by decide), if_pos rfl, Directive.ofLine?, hifdef,
    behind?_append]
  rfl

theorem scanLine_else (stack : List Conditional) (symbol : String) :
    scanLine (⟨symbol, false⟩ :: stack) ("#else // !" ++ symbol) =
      some (⟨symbol, true⟩ :: stack) := by
  have hifdef : behind? "#ifdef " ("#else // !" ++ symbol) = none := by
    rw [behind?, String.toList_append]
    rfl
  have hifndef : behind? "#ifndef " ("#else // !" ++ symbol) = none := by
    rw [behind?, String.toList_append]
    rfl
  rw [scanLine, startsConditional_append (by decide), if_pos rfl, Directive.ofLine?, hifdef,
    hifndef, behind?_append]
  exact if_pos rfl

theorem scanLine_endif (stack : List Conditional) (symbol : String) (inElse : Bool) :
    scanLine (⟨symbol, inElse⟩ :: stack) ("#endif // " ++ symbol) = some stack := by
  have hifdef : behind? "#ifdef " ("#endif // " ++ symbol) = none := by
    rw [behind?, String.toList_append]
    rfl
  have hifndef : behind? "#ifndef " ("#endif // " ++ symbol) = none := by
    rw [behind?, String.toList_append]
    rfl
  have helse : behind? "#else // !" ("#endif // " ++ symbol) = none := by
    rw [behind?, String.toList_append]
    rfl
  rw [scanLine, startsConditional_append (by decide), if_pos rfl, Directive.ofLine?, hifdef,
    hifndef, helse, behind?_append]
  exact if_pos rfl

/-- Nothing is asked where two such texts meet: one that ends in a guard is none of them. -/
theorem GuardsDefined.append {first second : List String} (hf : GuardsDefined first)
    (hs : GuardsDefined second) : GuardsDefined (first ++ second) := by
  induction first with
  | nil => exact hs
  | cons line rest ih =>
    refine ⟨fun symbol hline => ?_, ih hf.2⟩
    have hnext := hf.1 symbol hline
    cases rest with
    | nil => cases hnext
    | cons next rest => exact hnext

theorem GuardsDefined.of_append_replicate {ls : List String} {n : Nat}
    (h : GuardsDefined (ls ++ List.replicate n "")) : GuardsDefined ls := by
  induction ls with
  | nil => trivial
  | cons line rest ih =>
    refine ⟨fun symbol hline => ?_, ih h.2⟩
    have hnext := h.1 symbol hline
    cases rest with
    | nil =>
      -- A blank line is no definition, so a guard is not the last line in front of them.
      have hblank := List.eq_of_mem_replicate (List.mem_of_head? hnext)
      simp at hblank
    | cons next rest => exact hnext

/-- The line behind a guard, read off at any place of a text. -/
theorem GuardsDefined.head?_eq {before after : List String} {symbol : String}
    (h : GuardsDefined (before ++ ("#ifndef " ++ symbol) :: after)) :
    after.head? = some ("#define " ++ symbol ++ " 1") := by
  induction before with
  | nil => exact h.1 symbol rfl
  | cons line before ih => exact ih h.2

theorem guardsDefined_of_plain {ls : List String}
    (h : ∀ line ∈ ls, startsConditional line = false) : GuardsDefined ls := by
  induction ls with
  | nil => trivial
  | cons line rest ih =>
    obtain ⟨hline, hrest⟩ := List.forall_mem_cons.mp h
    refine ⟨fun symbol hguard => ?_, ih hrest⟩
    rw [hguard, startsConditional_append (by decide)] at hline
    cases hline

/-- What the lines of a conditional part itself are for. -/
inductive Mark where
  | opens (symbol : Identifier) (guard : Bool)
  | defines (symbol : Identifier)
  | turns (symbol : Identifier)
  | closes (symbol : Identifier)

def Mark.text : Mark → String
  | opens symbol guard => (if guard then "#ifndef " else "#ifdef ") ++ symbol.text
  | defines symbol => "#define " ++ symbol.text ++ " 1"
  | turns symbol => "#else // !" ++ symbol.text
  | closes symbol => "#endif // " ++ symbol.text

/-- What a scope writes one after the other: items, and what stands around them. -/
inductive ScopePart where
  | item (i : ScopeItem)
  | header (d : Doc)
  | gap (count : Int)
  | mark (m : Mark)

def ScopePart.steps (style : Style) : ScopePart → List Step
  | item i => i.steps style
  | header d => d.steps
  | gap count => [.blank count]
  | mark m => [.line m.text]

/-- A part, with the conditionals around it in the tree, innermost first. -/
structure Placed where
  around : List Conditional
  part : ScopePart

def headerParts (style : Style) (around : List Conditional) : Option Doc → List Placed
  | none => []
  | some d => [⟨around, .header d⟩, ⟨around, .gap style.blankLines⟩]

def separatorParts (style : Style) (around : List Conditional) (previous : Option ScopeItem)
    (item : ScopeItem) : List Placed :=
  match previous with
  | none => []
  | some p => if p.separated item then [⟨around, .gap style.blankLines⟩] else []

def headParts (around : List Conditional) (symbol : Identifier) (guard : Bool) : List Placed :=
  ⟨around, .mark (.opens symbol guard)⟩ ::
    if guard then [⟨⟨symbol.text, false⟩ :: around, .mark (.defines symbol)⟩] else []

mutual

/-- The parts of an item at its place in the tree. -/
def ScopeItem.parts (style : Style) (around : List Conditional) : ScopeItem → List Placed
  | .ifDef i => i.parts style around
  | item => [⟨around, .item item⟩]

def IfDef.parts (style : Style) (around : List Conditional) : IfDef → List Placed
  | ⟨_, symbol, thenScope, elseScope, guard⟩ =>
    let first : List Conditional := ⟨symbol.text, false⟩ :: around
    let last : List Conditional := ⟨symbol.text, elseScope.isSome⟩ :: around
    headParts around symbol guard ++ [⟨first, .gap 1⟩] ++ thenScope.parts style first ++
      elseScopeParts style around symbol elseScope ++
      [⟨last, .gap 1⟩, ⟨last, .mark (.closes symbol)⟩]

def elseScopeParts (style : Style) (around : List Conditional) (symbol : Identifier) :
    Option Scope → List Placed
  | none => []
  | some s =>
    let first : List Conditional := ⟨symbol.text, false⟩ :: around
    let second : List Conditional := ⟨symbol.text, true⟩ :: around
    [⟨first, .gap 1⟩, ⟨first, .mark (.turns symbol)⟩, ⟨second, .gap 1⟩] ++ s.parts style second

def Scope.parts (style : Style) (around : List Conditional) : Scope → List Placed
  | ⟨_, _, doc, items⟩ => headerParts style around doc ++ itemParts style around none items

def itemParts (style : Style) (around : List Conditional) (previous : Option ScopeItem) :
    List ScopeItem → List Placed
  | [] => []
  | item :: rest =>
    separatorParts style around previous item ++ item.parts style around ++
      itemParts style around (some item) rest

end

/-- The steps of parts. -/
def partSteps (style : Style) (parts : List Placed) : List Step :=
  parts.flatMap fun p => p.part.steps style

theorem partSteps_append (style : Style) (first second : List Placed) :
    partSteps style (first ++ second) = partSteps style first ++ partSteps style second :=
  List.flatMap_append

theorem partSteps_headerParts (style : Style) (around : List Conditional) (doc : Option Doc) :
    partSteps style (headerParts style around doc) = scopeHeader style doc := by
  cases doc <;> rfl

/-- Of the separator between two items only the gap writes anything. -/
theorem partSteps_separatorParts (style : Style) (around : List Conditional)
    (previous : Option ScopeItem) (item : ScopeItem) :
    partSteps style (separatorParts style around previous item) =
      separator style previous item := by
  cases previous with
  | none => rfl
  | some p =>
    rw [separatorParts, separator]
    cases p.separated item <;> rfl

theorem partSteps_headParts (style : Style) (around : List Conditional) (symbol : Identifier)
    (guard : Bool) : partSteps style (headParts around symbol guard) = ifDefHead symbol guard := by
  cases guard <;> rfl

mutual

/-- The parts of an item are written with the steps of the item. -/
theorem ScopeItem.partSteps_parts (style : Style) (around : List Conditional) :
    (item : ScopeItem) → partSteps style (item.parts style around) = item.steps style
  | .ifDef i => by
    rw [ScopeItem.parts, ScopeItem.steps]
    exact i.partSteps_parts style around
  | .doc _ | .comment _ | .inclusion _ | .definition _ | .global _ | .record _ | .enumeration _
  | .cls _ | .function _ => by
    rw [ScopeItem.parts]
    · exact List.append_nil _
    · nofun

theorem IfDef.partSteps_parts (style : Style) (around : List Conditional) :
    (i : IfDef) → partSteps style (i.parts style around) = i.steps style
  | ⟨_, symbol, thenScope, elseScope, guard⟩ => by
    simp only [IfDef.parts, IfDef.steps, partSteps_append, partSteps_headParts,
      thenScope.partSteps_parts, partSteps_elseScopeParts style around symbol elseScope]
    rfl

theorem partSteps_elseScopeParts (style : Style) (around : List Conditional)
    (symbol : Identifier) : (elseScope : Option Scope) →
      partSteps style (elseScopeParts style around symbol elseScope) =
        elseScopeSteps style symbol elseScope
  | none => by
    rw [elseScopeParts, elseScopeSteps]
    rfl
  | some s => by
    rw [elseScopeParts, elseScopeSteps, partSteps_append, s.partSteps_parts]
    rfl

/-- Cutting a scope into parts neither adds a step nor drops one. -/
theorem Scope.partSteps_parts (style : Style) (around : List Conditional) :
    (s : Scope) → partSteps style (s.parts style around) = s.steps style
  | ⟨_, _, doc, items⟩ => by
    rw [Scope.parts, Scope.steps, partSteps_append, partSteps_headerParts,
      partSteps_itemParts style around none items]

theorem partSteps_itemParts (style : Style) (around : List Conditional)
    (previous : Option ScopeItem) : (items : List ScopeItem) →
      partSteps style (itemParts style around previous items) = itemSteps style previous items
  | [] => by
    rw [itemParts, itemSteps]
    rfl
  | item :: rest => by
    rw [itemParts, itemSteps, partSteps_append, partSteps_append, partSteps_separatorParts,
      item.partSteps_parts, partSteps_itemParts style around (some item) rest]

end

/-- The lines that a part adds below others. Only a gap looks at what stands there. -/
def ScopePart.linesBelow (style : Style) (above : List String) : ScopePart → List String
  | item i => ownLines style (i.steps style)
  | header d => ownLines style d.steps
  | gap count =>
    if above.isEmpty then [] else List.replicate (count - trailingBlanks above).toNat ""
  | mark m => [m.text]

/-- The lines that parts add below others. -/
def partLines (style : Style) (above : List String) : List Placed → List String
  | [] => []
  | p :: rest =>
    p.part.linesBelow style above ++ partLines style (above ++ p.part.linesBelow style above) rest

/-- A part with the lines of the text that it was written to. -/
structure Passage extends Placed where
  lines : List String

/-- The passages of parts below other lines. -/
def passages (style : Style) (above : List String) : List Placed → List Passage
  | [] => []
  | p :: rest =>
    { toPlaced := p, lines := (p.part.linesBelow style above).flatMap textLines } ::
      passages style (above ++ p.part.linesBelow style above) rest

def linesOf (ps : List Passage) : List String := ps.flatMap Passage.lines

theorem linesOf_append (first second : List Passage) :
    linesOf (first ++ second) = linesOf first ++ linesOf second :=
  List.flatMap_append

/-- The lines of all passages are the lines of the text that the parts write. -/
theorem linesOf_passages (style : Style) (above : List String) (parts : List Placed) :
    linesOf (passages style above parts) = (partLines style above parts).flatMap textLines := by
  induction parts generalizing above with
  | nil => rfl
  | cons p rest ih =>
    rw [partLines, List.flatMap_append, ← ih]
    rfl

/-- The second parts stand below the lines of the first, and only their gaps can tell. -/
theorem passages_append (style : Style) (above : List String) (first second : List Placed) :
    passages style above (first ++ second) =
      passages style above first ++
        passages style (above ++ partLines style above first) second := by
  induction first generalizing above with
  | nil => simp [passages, partLines]
  | cons p first ih =>
    rw [List.cons_append, passages, passages, ih, partLines, List.append_assoc]
    rfl

theorem map_toPlaced_passages (style : Style) (above : List String) (parts : List Placed) :
    (passages style above parts).map Passage.toPlaced = parts := by
  induction parts generalizing above with
  | nil => rfl
  | cons p rest ih => rw [passages, List.map_cons, ih]

/-- A passage has the lines of its part below some others. -/
theorem exists_lines_eq {style : Style} {above : List String} {parts : List Placed} {p : Passage}
    (hp : p ∈ passages style above parts) :
    ∃ higher, p.lines = (p.part.linesBelow style higher).flatMap textLines := by
  induction parts generalizing above with
  | nil => exact absurd hp List.not_mem_nil
  | cons first rest ih =>
    rw [passages] at hp
    rcases List.mem_cons.mp hp with rfl | hp
    · exact ⟨above, rfl⟩
    · exact ih hp

theorem Mark.feed_not_mem (m : Mark) : '\n' ∉ m.text.toList := by
  cases m with
  | opens symbol guard =>
    have hfeed := symbol.acceptable.2.1
    cases guard <;> simp [text, hfeed]
  | defines symbol | turns symbol | closes symbol =>
    have hfeed := symbol.acceptable.2.1
    simp [text, hfeed]

theorem Mark.text_ne_empty (m : Mark) : m.text ≠ "" := by
  cases m with
  | opens symbol guard => cases guard <;> simp [text]
  | defines symbol | turns symbol | closes symbol => simp [text]

namespace Layout

variable {style : Style}

/-- In a layout at rest a part adds its lines and leaves the layout at rest, so that parts can be
written one below the other. -/
theorem writeAll_part (h : 0 < style.docWidth) (part : ScopePart) (above : List String) :
    (resting style above).writeAll (part.steps style) =
      resting style (above ++ part.linesBelow style above) := by
  cases part with
  | item i => exact writeAll_resting h (i.nested style false) (i.anchored_steps style) above
  | header d => exact writeAll_resting h d.nested d.anchored_steps above
  | gap count =>
    rw [ScopePart.steps, writeAll_cons, write_resting_blank, writeAll_nil, toppedUp,
      ScopePart.linesBelow]
    split
    · rw [List.append_nil]
    · rfl
  | mark m =>
    rw [ScopePart.steps, writeAll_cons, write_resting_line m.text_ne_empty m.feed_not_mem,
      writeAll_nil]
    rfl

theorem writeAll_partSteps (h : 0 < style.docWidth) (parts : List Placed) (above : List String) :
    (resting style above).writeAll (partSteps style parts) =
      resting style (above ++ partLines style above parts) := by
  induction parts generalizing above with
  | nil => simp [partSteps, partLines, writeAll_nil]
  | cons p rest ih =>
    have hcons : partSteps style (p :: rest) = p.part.steps style ++ partSteps style rest :=
      List.flatMap_cons
    rw [hcons, writeAll_append, writeAll_part h, ih, partLines, List.append_assoc]

end Layout

/-- Passages that are read from one stack to another, and each line of them with the conditionals
around its passage. -/
inductive Follows : List Conditional → List Passage → List Conditional → Prop
  | nil (stack : List Conditional) : Follows stack [] stack
  | cons {b : Passage} {rest : List Passage} {next last : List Conditional} :
    scan b.around b.lines = some next →
    (∀ pre line post, b.lines = pre ++ line :: post → scan b.around pre = some b.around) →
    Follows next rest last → Follows b.around (b :: rest) last

namespace Follows

variable {stack next last : List Conditional} {bs cs : List Passage}

theorem append (hf : Follows stack bs next) (hs : Follows next cs last) :
    Follows stack (bs ++ cs) last := by
  induction hf with
  | nil => exact hs
  | cons hscan hmet _ ih => exact .cons hscan hmet (ih hs)

/-- Reading passages one by one is reading the whole text. -/
theorem scan_linesOf (h : Follows stack bs last) : scan stack (linesOf bs) = some last := by
  induction h with
  | nil => rfl
  | @cons b rest next last hscan hmet hrest ih =>
    have hlines : linesOf (b :: rest) = b.lines ++ linesOf rest := List.flatMap_cons
    rw [hlines, scan_append, hscan]
    exact ih

/-- Every line is met with the conditionals around its passage. -/
theorem met (h : Follows stack bs last) {before after : List Passage} {b : Passage}
    (hbs : bs = before ++ b :: after) {pre post : List String} {line : String}
    (hline : b.lines = pre ++ line :: post) :
    scan stack (linesOf before ++ pre) = some b.around := by
  induction h generalizing before with
  | nil => cases before <;> cases hbs
  | @cons c rest next last hscan hmet hrest ih =>
    cases before with
    | nil =>
      obtain ⟨rfl, rfl⟩ := List.cons.inj hbs
      exact hmet pre line post hline
    | cons d before =>
      obtain ⟨rfl, hrest⟩ := List.cons.inj hbs
      have hlines : linesOf (c :: before) = c.lines ++ linesOf before := List.flatMap_cons
      rw [hlines, List.append_assoc, scan_append, hscan]
      exact ih hrest

end Follows

/-- Parts that are read from one stack to another, whatever stands above, and whose guards are
followed by definitions. -/
structure Reads (style : Style) (stack : List Conditional) (parts : List Placed)
    (last : List Conditional) : Prop where
  follows : ∀ above, Follows stack (passages style above parts) last
  defined : ∀ above, GuardsDefined (linesOf (passages style above parts))

theorem reads_nil (style : Style) (stack : List Conditional) : Reads style stack [] stack where
  follows _ := .nil stack
  defined _ := trivial

/-- Parts are read one behind the other. Those above decide only how long the gaps are. -/
theorem Reads.append {style : Style} {stack next last : List Conditional}
    {first second : List Placed} (hf : Reads style stack first next)
    (hs : Reads style next second last) : Reads style stack (first ++ second) last where
  follows above := by
    rw [passages_append]
    exact (hf.follows above).append (hs.follows _)
  defined above := by
    rw [passages_append, linesOf_append]
    exact (hf.defined above).append (hs.defined _)

/-- A part whose lines do not touch the stack. -/
theorem reads_plain {style : Style} {around : List Conditional} {part : ScopePart}
    (h : ∀ above, ∀ line ∈ (part.linesBelow style above).flatMap textLines,
      startsConditional line = false) :
    Reads style around [⟨around, part⟩] around where
  follows above := by
    let p : Passage := ⟨⟨around, part⟩, (part.linesBelow style above).flatMap textLines⟩
    have hscan : scan p.around p.lines = some around := scan_of_plain (h above) around
    refine .cons hscan (fun pre line post hlines => ?_) (.nil around)
    refine scan_of_plain (fun other hother => ?_) around
    have hmem : other ∈ p.lines := by
      rw [hlines]
      exact List.mem_append_left _ hother
    exact h above other hmem
  defined above := by
    have hlines : linesOf (passages style above [⟨around, part⟩]) =
        (part.linesBelow style above).flatMap textLines := List.append_nil _
    rw [hlines]
    exact guardsDefined_of_plain (h above)

/-- A line that a conditional part writes by itself. -/
theorem passages_mark (style : Style) (above : List String) (around : List Conditional) (m : Mark) :
    passages style above [⟨around, .mark m⟩] = [⟨⟨around, .mark m⟩, [m.text]⟩] := by
  have hlines : [m.text].flatMap textLines = [m.text] := by
    rw [List.flatMap_singleton, textLines_eq_singleton m.feed_not_mem]
  rw [passages, passages, ScopePart.linesBelow, hlines]

/-- The line of a mark is read as its directive says. -/
theorem follows_mark {style : Style} {around next : List Conditional} {m : Mark}
    (hscan : scanLine around m.text = some next) (above : List String) :
    Follows around (passages style above [⟨around, .mark m⟩]) next := by
  let p : Passage := ⟨⟨around, .mark m⟩, [m.text]⟩
  have hline : scan p.around p.lines = some next := (scan_singleton around m.text).trans hscan
  rw [passages_mark]
  refine .cons hline (fun pre line post hlines => ?_) (.nil next)
  change [m.text] = _ at hlines
  cases pre with
  | nil => rfl
  | cons other pre => cases pre <;> cases hlines

/-- A mark that opens no guard asks for nothing behind it. -/
theorem reads_mark {style : Style} {around next : List Conditional} {m : Mark}
    (hscan : scanLine around m.text = some next)
    (hguard : ∀ symbol, m.text ≠ "#ifndef " ++ symbol) :
    Reads style around [⟨around, .mark m⟩] next where
  follows := follows_mark hscan
  defined above := by
    rw [passages_mark]
    exact ⟨fun symbol h => absurd h (hguard symbol), trivial⟩

/-- Blank lines between items are no directives. -/
theorem reads_gap (style : Style) (around : List Conditional) (count : Int) :
    Reads style around [⟨around, .gap count⟩] around := by
  refine reads_plain fun above line hline => ?_
  obtain ⟨blank, hblank, hline⟩ := List.mem_flatMap.mp hline
  change blank ∈ (if above.isEmpty then [] else List.replicate _ "") at hblank
  split at hblank
  · exact absurd hblank List.not_mem_nil
  · rw [List.eq_of_mem_replicate hblank] at hline
    obtain rfl := List.mem_singleton.mp hline
    decide

/-- A comment line starts with its marker, so that a directive inside is hidden. -/
theorem InertLine.startsConditional_eq_false {line : String} (h : InertLine line) :
    startsConditional line = false := by
  obtain ⟨indentation, rest, hline, -⟩ := h
  rw [startsConditional, hline]
  cases indentation <;> rfl

theorem InertLine.textLines_eq {line : String} (h : InertLine line) : textLines line = [line] := by
  obtain ⟨_, _, -, hunbroken, -⟩ := h
  exact textLines_eq_singleton hunbroken.1

/-- Documentation may spell directives as it likes: all of its lines are comments. -/
theorem Doc.startsConditional_eq_false {style : Style} (h : 0 < style.docWidth) (d : Doc) :
    ∀ line ∈ (ownLines style d.steps).flatMap textLines, startsConditional line = false := by
  intro line hline
  obtain ⟨own, hown, hline⟩ := List.mem_flatMap.mp hline
  rw [Layout.ownLines_eq h, Layout.lines_writeAll] at hown
  obtain ⟨entry, hentry, rfl⟩ := List.mem_map.mp hown
  have hnote : entry.1.isNote = true := by
    obtain ⟨text, -, htext⟩ := List.mem_map.mp (Layout.mem_of_mem_trace hentry)
    rw [← htext]
    rfl
  have hnested : Nested false d.steps := d.nested
  have hinert : InertLine entry.2 := inertLine_of_mem_trace hnested hentry hnote
  rw [hinert.textLines_eq, List.mem_singleton] at hline
  rw [hline]
  exact hinert.startsConditional_eq_false

section

variable {style : Style}

theorem reads_headerParts (h : 0 < style.docWidth) (around : List Conditional) (doc : Option Doc) :
    Reads style around (headerParts style around doc) around := by
  cases doc with
  | none => exact reads_nil style around
  | some d =>
    have hheader : Reads style around [⟨around, .header d⟩] around :=
      reads_plain fun _ => d.startsConditional_eq_false h
    exact hheader.append (reads_gap style around style.blankLines)

theorem reads_separatorParts (around : List Conditional) (previous : Option ScopeItem)
    (item : ScopeItem) :
    Reads style around (separatorParts style around previous item) around := by
  cases previous with
  | none => exact reads_nil style around
  | some p =>
    rw [separatorParts]
    split
    · exact reads_gap style around style.blankLines
    · exact reads_nil style around

/-- What opens a conditional pushes its symbol. A guard is followed by its definition at once. -/
theorem reads_headParts (around : List Conditional) (symbol : Identifier) (guard : Bool) :
    Reads style around (headParts around symbol guard) (⟨symbol.text, false⟩ :: around) := by
  cases guard with
  | false =>
    refine reads_mark (scanLine_ifdef around symbol.text) fun other heq => ?_
    simpa [Mark.text] using congrArg String.toList heq
  | true =>
    have hdefine : startsConditional ("#define " ++ symbol.text ++ " 1") = false := by
      rw [startsConditional, String.toList_append, String.toList_append]
      rfl
    have hscan : scanLine (⟨symbol.text, false⟩ :: around) (Mark.text (.defines symbol)) =
        some (⟨symbol.text, false⟩ :: around) := by
      rw [scanLine, Mark.text, hdefine]
      rfl
    -- The guard and its definition are looked at together: neither line may stand alone.
    let opens : Placed := ⟨around, .mark (.opens symbol true)⟩
    let defines : Placed := ⟨⟨symbol.text, false⟩ :: around, .mark (.defines symbol)⟩
    change Reads style around ([opens] ++ [defines]) _
    refine ⟨fun above => ?_, fun above => ?_⟩
    · rw [passages_append]
      have hopens : Follows around (passages style above [opens]) _ :=
        follows_mark (m := .opens symbol true) (scanLine_ifndef around symbol.text) above
      exact hopens.append (follows_mark hscan _)
    rw [passages_append, passages_mark, passages_mark]
    refine ⟨fun other heq => ?_, fun other heq => ?_, trivial⟩
    · have hsymbol : symbol.text = other := by
        simpa [Mark.text] using heq
      exact hsymbol ▸ rfl
    · have hlists := congrArg String.toList heq
      simp [Mark.text] at hlists

/-- No line of an item starts like a conditional directive. -/
def ScopePart.Plain (style : Style) : ScopePart → Prop
  | item i =>
    ∀ line ∈ (ownLines style (i.steps style)).flatMap textLines, startsConditional line = false
  | _ => True

instance (style : Style) : (part : ScopePart) → Decidable (part.Plain style)
  | .item i =>
    inferInstanceAs (Decidable (∀ line ∈ (ownLines style (i.steps style)).flatMap textLines,
      startsConditional line = false))
  | .header _ | .gap _ | .mark _ => inferInstanceAs (Decidable True)

mutual

/-- An item is read from the conditionals around it back to the same ones. -/
theorem ScopeItem.reads (h : 0 < style.docWidth) (around : List Conditional) :
    (item : ScopeItem) → (∀ p ∈ item.parts style around, p.part.Plain style) →
      Reads style around (item.parts style around) around
  | .ifDef i, hplain => by
    rw [ScopeItem.parts] at hplain ⊢
    exact i.reads h around hplain
  | .doc _, hplain | .comment _, hplain | .inclusion _, hplain | .definition _, hplain
  | .global _, hplain | .record _, hplain | .enumeration _, hplain | .cls _, hplain
  | .function _, hplain => by
    rw [ScopeItem.parts] at hplain ⊢
    · exact reads_plain fun _ => hplain _ (List.mem_singleton.mpr rfl)
    · nofun
    · nofun

/-- A conditional pushes its symbol, turns it where there is a second branch, and pops it again.
Both branches come back to what they started from. -/
theorem IfDef.reads (h : 0 < style.docWidth) (around : List Conditional) : (i : IfDef) →
    (∀ p ∈ i.parts style around, p.part.Plain style) →
      Reads style around (i.parts style around) around
  | ⟨_, symbol, thenScope, elseScope, guard⟩, hplain => by
    simp only [IfDef.parts, List.forall_mem_append] at hplain
    obtain ⟨⟨⟨-, hthen⟩, helse⟩, -⟩ := hplain
    let first : List Conditional := ⟨symbol.text, false⟩ :: around
    let last : List Conditional := ⟨symbol.text, elseScope.isSome⟩ :: around
    have hhead : Reads style around (headParts around symbol guard ++ [⟨first, .gap 1⟩]) first :=
      (reads_headParts around symbol guard).append (reads_gap style first 1)
    have hclose : Reads style last [⟨last, .mark (.closes symbol)⟩] around := by
      refine reads_mark (scanLine_endif around symbol.text _) fun other heq => ?_
      simpa [Mark.text] using congrArg String.toList heq
    have hend : Reads style last [⟨last, .gap 1⟩, ⟨last, .mark (.closes symbol)⟩] around :=
      (reads_gap style last 1).append hclose
    rw [IfDef.parts]
    exact ((hhead.append (thenScope.reads h first hthen)).append
      (reads_elseScopeParts h around symbol elseScope helse)).append hend

/-- The turn is made exactly if there is a second branch. -/
theorem reads_elseScopeParts (h : 0 < style.docWidth) (around : List Conditional)
    (symbol : Identifier) : (elseScope : Option Scope) →
      (∀ p ∈ elseScopeParts style around symbol elseScope, p.part.Plain style) →
        Reads style (⟨symbol.text, false⟩ :: around)
          (elseScopeParts style around symbol elseScope)
          (⟨symbol.text, elseScope.isSome⟩ :: around)
  | none, _ => by
    rw [elseScopeParts]
    exact reads_nil style _
  | some s, hplain => by
    rw [elseScopeParts, List.forall_mem_append] at hplain
    let first : List Conditional := ⟨symbol.text, false⟩ :: around
    let second : List Conditional := ⟨symbol.text, true⟩ :: around
    have hturn : Reads style first [⟨first, .mark (.turns symbol)⟩] second := by
      refine reads_mark (scanLine_else around symbol.text) fun other heq => ?_
      simpa [Mark.text] using congrArg String.toList heq
    have hhead : Reads style first
        [⟨first, .gap 1⟩, ⟨first, .mark (.turns symbol)⟩, ⟨second, .gap 1⟩] second :=
      (reads_gap style first 1).append (hturn.append (reads_gap style second 1))
    rw [elseScopeParts]
    exact hhead.append (s.reads h second hplain.2)

/-- A scope leaves no conditional open, and closes none that it did not open. -/
theorem Scope.reads (h : 0 < style.docWidth) (around : List Conditional) : (s : Scope) →
    (∀ p ∈ s.parts style around, p.part.Plain style) →
      Reads style around (s.parts style around) around
  | ⟨_, _, doc, items⟩, hplain => by
    rw [Scope.parts, List.forall_mem_append] at hplain
    rw [Scope.parts]
    exact (reads_headerParts h around doc).append (reads_itemParts h around none items hplain.2)

theorem reads_itemParts (h : 0 < style.docWidth) (around : List Conditional)
    (previous : Option ScopeItem) : (items : List ScopeItem) →
      (∀ p ∈ itemParts style around previous items, p.part.Plain style) →
        Reads style around (itemParts style around previous items) around
  | [], _ => by
    rw [itemParts]
    exact reads_nil style around
  | item :: rest, hplain => by
    rw [itemParts, List.forall_mem_append, List.forall_mem_append] at hplain
    obtain ⟨⟨-, hitem⟩, hrest⟩ := hplain
    rw [itemParts]
    exact ((reads_separatorParts around previous item).append (item.reads h around hitem)).append
      (reads_itemParts h around (some item) rest hrest)

end

end

/-- The text of a scope is made of the parts of the scope in their order, blank lines at the end
aside. A reader of it meets every line with the conditionals around its part in the tree, none is
open behind the last line, and every guard is followed by its definition. -/
theorem Scope.conditionals_nest {style : Style} (h : style.Valid) {s : Scope}
    (hplain : ∀ p ∈ s.parts style [], p.part.Plain style) :
    ∃ (text : String) (ps : List Passage) (kept : List String) (blanks : Nat),
      s.text style = .ok text ∧ textLines text = kept ++ [""] ∧
      linesOf ps = kept ++ List.replicate blanks "" ∧
      ps.map Passage.toPlaced = s.parts style [] ∧
      (∀ p ∈ ps, ∃ above, p.lines = (p.part.linesBelow style above).flatMap textLines) ∧
      scan [] (textLines text) = some [] ∧
      (∀ before p after pre line post, ps = before ++ p :: after → p.lines = pre ++ line :: post →
        scan [] (linesOf before ++ pre) = some p.around) ∧
      ∀ before symbol after, textLines text = before ++ ("#ifndef " ++ symbol) :: after →
        after.head? = some ("#define " ++ symbol ++ " 1") := by
  have hwidth := h.docWidth_pos
  have hreads : Reads style [] (s.parts style []) [] := s.reads hwidth [] hplain
  let l : Layout := (Layout.resting style []).writeAll (s.steps style)
  have hrun : Layout.run { style } (s.steps style) = .ok l := Layout.run_eq_ok hwidth _
  have htext : s.text style = .ok l.text := by
    rw [Scope.text, render, hrun]
    rfl
  have hlines : l.lines = partLines style [] (s.parts style []) := by
    change ((Layout.resting style []).writeAll (s.steps style)).lines = _
    rw [← s.partSteps_parts style [], Layout.writeAll_partSteps hwidth, Layout.resting_lines]
    rfl
  obtain ⟨kept, blanks, hkept, hlast⟩ := l.exists_textLines_text
  rw [hlines, ← linesOf_passages] at hkept
  have hscan := (hreads.follows []).scan_linesOf
  have hdefined := hreads.defined []
  rw [hkept] at hscan hdefined
  rw [scan_append_of_plain fun _ => startsConditional_of_mem_replicate] at hscan
  have hblank : ∀ line ∈ [""], startsConditional line = false := by decide
  refine ⟨l.text, passages style [] (s.parts style []), kept, blanks, htext, hlast, hkept,
    map_toPlaced_passages style [] _, fun p hp => exists_lines_eq hp, ?_,
    fun before p after pre line post hps hline => (hreads.follows []).met hps hline, ?_⟩
  · rw [hlast, scan_append_of_plain hblank, hscan]
  · intro before symbol after hguard
    have hall : GuardsDefined (kept ++ [""]) :=
      hdefined.of_append_replicate.append (guardsDefined_of_plain hblank)
    rw [← hlast, hguard] at hall
    exact hall.head?_eq

/-- A conditional part with two branches inside an include guard. What looks like a directive in
the header comment is none. -/
theorem Scope.conditionals_nest_guard :
    ∃ (s : Scope) (text : String), Style.Valid {} ∧ (∀ p ∈ s.parts {} [], p.part.Plain {}) ∧
      s.text {} = .ok text ∧ scan [] (textLines text) = some [] ∧
      ownLines {} (s.steps {}) = ["/// #ifdef", "", "#ifndef G", "#define G 1", "", "#ifdef X", "",
        "void x;", "", "#else // !X", "", "void y;", "", "#endif // X", "", "#endif // G"] ∧
      scan [] ((ownLines {} (s.steps {})).take 12) = some [⟨"X", true⟩, ⟨"G", false⟩] := by
  let x : Scope := ⟨6, none, none, [.global { id := 7, name := ⟨"x", by decide⟩, type := .void }]⟩
  let y : Scope := ⟨8, none, none, [.global { id := 9, name := ⟨"y", by decide⟩, type := .void }]⟩
  let s : Scope := ⟨0, none, some ⟨1, ["#ifdef"]⟩, [.ifDef ⟨2, ⟨"G", by decide⟩,
    ⟨3, none, none, [.ifDef ⟨5, ⟨"X", by decide⟩, x, some y, false⟩]⟩, none, true⟩]⟩
  have hvalid : Style.Valid {} := ⟨by decide, by decide, by decide, by decide⟩
  have hplain : ∀ p ∈ s.parts {} [], p.part.Plain {} := by decide +kernel
  obtain ⟨text, _, _, _, htext, -, -, -, -, hscan, -⟩ := s.conditionals_nest hvalid hplain
  have hlines : ownLines {} (s.steps {}) = ["/// #ifdef", "", "#ifndef G", "#define G 1", "",
      "#ifdef X", "", "void x;", "", "#else // !X", "", "void y;", "", "#endif // X", "",
      "#endif // G"] := by
    decide +kernel
  refine ⟨s, text, hvalid, hplain, htext, hscan, hlines, ?_⟩
  rw [hlines]
  decide +kernel

end CWriter

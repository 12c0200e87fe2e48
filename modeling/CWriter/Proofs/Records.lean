import CWriter.Proofs.Layout.Parts
import CWriter.Proofs.Notes.Inert

/-!
# The lines of records and enumerations

Between the line that opens a record and the one that closes it, every field has one line below
its documentation, and so has every enumerator of an enumeration. No type brings a line end into
a declaration, however deep it is nested, since all it takes over are names. A field that is a
data member of a class is the exception: its initializer is taken over as it is.
-/
namespace CWriter

open CWriter.Text (Unbroken)

/-- Neither a line feed nor a carriage return. -/
def staysOnLine (c : Char) : Bool := c != '\n' && c != '\r'

theorem spells_staysOnLine : Spells staysOnLine := by
  intro c hc
  simp only [staysOnLine, Bool.and_eq_true, bne_iff_ne]
  constructor <;> rintro rfl <;> exact absurd hc (by decide)

theorem code_staysOnLine_iff {s : String} : Code staysOnLine s ↔ Unbroken s.toList := by
  constructor
  · intro h
    exact ⟨fun hc => absurd (h _ hc) (by decide), fun hc => absurd (h _ hc) (by decide)⟩
  · rintro ⟨hfeed, hreturn⟩ c hc
    simp only [staysOnLine, Bool.and_eq_true, bne_iff_ne]
    constructor <;> rintro rfl <;> contradiction

theorem Identifier.text_ne_empty (i : Identifier) : i.text ≠ "" := by
  intro h
  have hblank := i.acceptable.1
  rw [h] at hblank
  cases hblank

theorem Identifier.code_text (i : Identifier) : Code staysOnLine i.text :=
  code_staysOnLine_iff.mpr i.acceptable.2

mutual

/-- All that a type takes over are names. -/
theorem CType.within_fragments : (t : CType) → Within staysOnLine t.fragments
  | .integer .. | .scalar .. => within_nil
  | .named _ name _ => within_cons.mpr ⟨name.code_text, within_nil⟩
  | .template _ name args => within_cons.mpr ⟨name.code_text, CType.within_fragmentsAll args⟩
  | .pointer inner _ | .reference inner _ | .array inner _ | .shared _ inner =>
    inner.within_fragments

theorem CType.within_fragmentsAll : (ts : List CType) → Within staysOnLine (CType.fragmentsAll ts)
  | [] => within_nil
  | t :: ts => within_append.mpr ⟨t.within_fragments, CType.within_fragmentsAll ts⟩

end

/-- A text that stands behind the indentation on one line of source. -/
def Style.OneLine (style : Style) (depth : Int) (text : String) : Prop :=
  style.placed depth text = [style.indentation depth ++ text] ∧
    Unbroken (style.indentation depth ++ text).toList

theorem Style.oneLine_iff (style : Style) (depth : Int) {text : String} (hne : text ≠ "") :
    style.OneLine depth text ↔ Unbroken text.toList := by
  rw [OneLine, String.toList_append]
  constructor
  · exact fun h => h.2.of_subset (List.subset_append_right _ _)
  · exact fun h => ⟨style.placed_eq_singleton depth hne h.1,
      (style.unbroken_indentation depth).append h⟩

/-- A block of a named thing is opened on one line. -/
theorem Style.oneLine_opening (style : Style) (depth : Int) {word : String}
    (hword : Code staysOnLine word) (name : Identifier) :
    style.OneLine depth (word ++ name.text ++ r" {") := by
  have hbrace : Code staysOnLine r" {" := by decide
  rw [style.oneLine_iff depth (by simp), ← code_staysOnLine_iff]
  exact (hword.append name.code_text).append hbrace

/-- A line of a block, and the documentation above it. -/
structure Listed where
  doc : Option Doc
  line : String

namespace Listed

def steps (m : Listed) : List Step := docSteps m.doc ++ [.line m.line]

def lines (style : Style) (depth : Int) (m : Listed) : List String :=
  linesAt style depth (docSteps m.doc) ++ style.placed depth m.line

theorem linesAt_steps {style : Style} (h : 0 < style.docWidth) (depth : Int) (m : Listed) :
    linesAt style depth m.steps = m.lines style depth := by
  rw [lines, Layout.linesAt_eq h, Layout.linesAt_eq h, steps, Layout.lines_writeAll_doc_line]
  rfl

theorem nested_steps (m : Listed) : Nested false m.steps :=
  (nested_docSteps m.doc).append (.line m.line)

theorem anchored_steps (m : Listed) : anchored m.steps = true :=
  anchored_docSteps_append m.doc (anchored_lines [m.line])

end Listed

theorem unnumbered_docSteps (doc : Option Doc) : unnumbered (docSteps doc) = docSteps doc := by
  cases doc with
  | none => rfl
  | some d =>
    refine List.filter_eq_self.mpr fun s hs => ?_
    obtain ⟨text, -, rfl⟩ := List.mem_map.mp hs
    rfl

theorem unnumbered_doc_line (doc : Option Doc) (numbers : List Int) (text : String) :
    unnumbered (docSteps doc ++ [.spell numbers, .line text]) = docSteps doc ++ [.line text] := by
  rw [unnumbered_append, unnumbered_docSteps]
  rfl

/-- The lines of a block: the one that opens it, its members and the one that closes it. -/
def blockLines (style : Style) (depth : Int) (header : String) (members : List Listed) :
    List String :=
  style.placed depth (header ++ r" {") ++ members.flatMap (Listed.lines style (depth + 1)) ++
    style.placed depth r"};"

theorem Layout.lines_writeAll_members (doc : Option Doc) {header : String} (hne : header ≠ "")
    (members : List Listed) {l : Layout} (h : 0 < l.style.docWidth) :
    (l.writeAll (docSteps doc ++ ([.openBlock header r"{"] ++ members.flatMap Listed.steps ++
        [.closeBlock r"};"]))).lines =
      (l.writeAll (docSteps doc)).lines ++ blockLines l.style l.depth header members := by
  have hmembers : (fun m => linesAt l.style (l.depth + 1) m.steps) =
      Listed.lines l.style (l.depth + 1) :=
    funext fun m => m.linesAt_steps h (l.depth + 1)
  rw [lines_writeAll_doc_block Listed.nested_steps Listed.anchored_steps _ _ _ _ h,
    opening_of_ne hne, hmembers, blockLines]
  simp only [List.append_assoc]

/-- The suffix of a bit field. -/
def widthText : Option BitWidth → String
  | none => ""
  | some w => " : " ++ toString w.bits

theorem Field.declaration_eq (f : Field) :
    f.declaration = f.type.declare f.name.text ++ widthText f.width := by
  obtain ⟨_, _, width⟩ := f
  cases width <;> rfl

namespace RecordField

/-- The storage class in front of a field: only a data member of a class can have one. -/
def storage : RecordField → String
  | plain _ => ""
  | attr a => if a.isStatic then "static " else ""

/-- The initializer of a field: only a data member of a class can carry one. -/
def value? : RecordField → Option String
  | plain _ => none
  | attr a => a.value

/-- The line of a field: its name declared with its type, and the bit-field suffix. A data member
of a class may be static and carry an initializer. -/
def line (f : RecordField) : String :=
  f.storage ++ f.field.type.declare f.field.name.text ++ widthText f.field.width ++
    initializerText f.value? ++ ";"

def listed (f : RecordField) : Listed := ⟨f.field.doc, f.line⟩

theorem steps_listed (f : RecordField) : f.listed.steps = unnumbered f.steps := by
  cases f with
  | plain f =>
    rw [steps, Field.steps, unnumbered_doc_line]
    simp [listed, Listed.steps, line, field, storage, value?, initializerText,
      Field.declaration_eq]
  | attr a =>
    rw [steps, Attribute.steps, unnumbered_doc_line]
    simp [listed, Listed.steps, line, field, storage, value?, Field.declaration_eq,
      String.append_assoc]

/-- Only an initializer brings a line end into the line of a field. -/
theorem code_line_iff (f : RecordField) :
    Code staysOnLine f.line ↔ ∀ value, f.value? = some value → Code staysOnLine value := by
  have hstorage : Code staysOnLine f.storage := by
    cases f with
    | plain f => exact code_empty
    | attr a =>
      rw [storage]
      split <;> decide
  have hdeclared : Code staysOnLine (f.field.type.declare f.field.name.text) :=
    CType.code_declare spells_staysOnLine _ f.field.type.within_fragments f.field.name.code_text
  have hwidth : Code staysOnLine (widthText f.field.width) := by
    cases f.field.width with
    | none => decide
    | some w =>
      have hcolon : Code staysOnLine " : " := by decide
      exact hcolon.append (spells_staysOnLine.code_digits w.bits)
  have hvalue : Code staysOnLine (initializerText f.value?) ↔
      ∀ value, f.value? = some value → Code staysOnLine value := by
    cases f.value? with
    | none => simp [initializerText, code_empty]
    | some value =>
      have hequals : Code staysOnLine " = " := by decide
      simp [initializerText, code_append, hequals]
  have hend : Code staysOnLine ";" := by decide
  simp only [line, code_append, hstorage, hdeclared, hwidth, hvalue, hend, true_and, and_true]

theorem oneLine_line_iff (f : RecordField) (style : Style) (depth : Int) :
    style.OneLine depth f.line ↔ ∀ value, f.value? = some value → Unbroken value.toList := by
  rw [style.oneLine_iff depth (by simp [line])]
  simpa only [code_staysOnLine_iff] using f.code_line_iff

end RecordField

theorem Record.lines_writeAll_steps (r : Record) (hfields : r.fields ≠ [])
    (hremarks : r.annotations = []) {l : Layout} (h : 0 < l.style.docWidth) :
    (l.writeAll r.steps).lines = (l.writeAll (docSteps r.doc)).lines ++
      blockLines l.style l.depth r.header (r.fields.map RecordField.listed) := by
  have hsteps : unnumbered r.steps = docSteps r.doc ++ ([.openBlock r.header r"{"] ++
      (r.fields.map RecordField.listed).flatMap Listed.steps ++ [.closeBlock r"};"]) := by
    rw [steps, remarkSteps, hremarks, if_neg (by simpa using hfields), List.flatMap_map,
      funext RecordField.steps_listed, List.map_nil, List.append_nil, unnumbered_append,
      unnumbered_append, unnumbered_append, unnumbered_flatMap, unnumbered_docSteps]
    rfl
  rw [← Layout.writeAll_unnumbered, hsteps,
    Layout.lines_writeAll_members r.doc (by simp [header]) _ h]

namespace Variant

def listed (v : Variant) (separator : String) : Listed where
  doc := v.doc
  line := v.name.text ++ initializerText (v.value.map toString) ++ separator

theorem steps_listed (v : Variant) (separator : String) :
    (v.listed separator).steps = unnumbered (v.steps separator) := by
  rw [steps, unnumbered_doc_line]
  cases hvalue : v.value <;>
    simp [text, listed, Listed.steps, initializerText, hvalue, String.append_assoc]

/-- An enumerator is written with a name and a number. -/
theorem oneLine_line (v : Variant) {separator : String} (hs : Code staysOnLine separator)
    (style : Style) (depth : Int) : style.OneLine depth (v.listed separator).line := by
  have hvalue : Code staysOnLine (initializerText (v.value.map toString)) := by
    cases v.value with
    | none => exact code_empty
    | some n =>
      have hequals : Code staysOnLine " = " := by decide
      exact hequals.append (spells_staysOnLine.code_int n)
  rw [style.oneLine_iff depth (by simp [listed, v.name.text_ne_empty])]
  exact code_staysOnLine_iff.mp ((v.name.code_text.append hvalue).append hs)

end Variant

namespace Enumeration

/-- The place of an enumerator decides on the comma behind it. -/
def listed (e : Enumeration) : List Listed :=
  e.variants.zipIdx.map fun (v, i) => v.listed (if i + 1 < e.variants.length then "," else "")

/-- Counted from any number on, the last enumerator is the one without a comma. -/
theorem variantSteps_eq (vs : List Variant) (start : Nat) :
    variantSteps vs = (vs.zipIdx start).flatMap fun (v, i) =>
      v.steps (if i + 1 < start + vs.length then "," else "") := by
  induction vs generalizing start with
  | nil => rfl
  | cons v rest ih =>
    cases rest with
    | nil => simp [variantSteps]
    | cons next rest =>
      have hcons : variantSteps (v :: next :: rest) =
          v.steps "," ++ variantSteps (next :: rest) := rfl
      rw [hcons, ih (start + 1), List.zipIdx_cons, List.flatMap_cons]
      simp [Nat.add_assoc, Nat.add_comm 1]

theorem steps_listed (e : Enumeration) :
    e.listed.flatMap Listed.steps = unnumbered (variantSteps e.variants) := by
  rw [variantSteps_eq e.variants 0, listed, List.flatMap_map, Nat.zero_add, unnumbered_flatMap]
  simp only [Variant.steps_listed]

theorem lines_writeAll_steps (e : Enumeration) {l : Layout} (h : 0 < l.style.docWidth) :
    (l.writeAll e.steps).lines = (l.writeAll (docSteps e.doc)).lines ++
      blockLines l.style l.depth ("enum " ++ e.name.text) e.listed := by
  have hsteps : unnumbered e.steps = docSteps e.doc ++
      ([.openBlock ("enum " ++ e.name.text) r"{"] ++ e.listed.flatMap Listed.steps ++
        [.closeBlock r"};"]) := by
    rw [steps, e.steps_listed, unnumbered_append, unnumbered_append, unnumbered_append,
      unnumbered_docSteps, List.append_assoc, List.append_assoc]
    rfl
  rw [← Layout.writeAll_unnumbered, hsteps, Layout.lines_writeAll_members e.doc (by simp) _ h]

theorem oneLine_line (e : Enumeration) (style : Style) (depth : Int) {m : Listed}
    (hm : m ∈ e.listed) : style.OneLine depth m.line := by
  obtain ⟨⟨v, i⟩, -, rfl⟩ := List.mem_map.mp hm
  exact v.oneLine_line (by split <;> decide) style depth

end Enumeration

/-- A record with fields has one line for each of them between the line that opens it and the one
that closes it, and so has an enumeration for each of its enumerators. Documentation keeps to lines
of its own, above the line that it is about. Each of the other lines is one line of source,
whatever the types of the fields are, unless a field is a data member of a class whose initializer
holds a line end. -/
theorem Layout.lines_of_members {l : Layout} (h : l.style.Valid) :
    (∀ r : Record, r.fields ≠ [] → r.annotations = [] →
      (∃ top out, l.run (docSteps r.doc) = .ok top ∧ l.run r.steps = .ok out ∧
        out.lines = top.lines ++
          blockLines l.style l.depth r.header (r.fields.map RecordField.listed)) ∧
      l.style.OneLine l.depth (r.header ++ r" {") ∧
      ∀ f ∈ r.fields, l.style.OneLine (l.depth + 1) f.line ↔
        ∀ value, f.value? = some value → Unbroken value.toList) ∧
    (∀ e : Enumeration,
      (∃ top out, l.run (docSteps e.doc) = .ok top ∧ l.run e.steps = .ok out ∧
        out.lines = top.lines ++
          blockLines l.style l.depth ("enum " ++ e.name.text) e.listed) ∧
      l.style.OneLine l.depth ("enum " ++ e.name.text ++ r" {") ∧
      ∀ m ∈ e.listed, l.style.OneLine (l.depth + 1) m.line) ∧
    l.style.OneLine l.depth r"};" := by
  have hwidth := h.docWidth_pos
  have hbrace : l.style.OneLine l.depth r"};" :=
    (l.style.oneLine_iff l.depth (by decide)).mpr ⟨by decide, by decide⟩
  refine ⟨fun r hfields hremarks => ⟨?_, ?_, fun f _ => f.oneLine_line_iff l.style _⟩,
    fun e => ⟨?_, ?_, fun m hm => e.oneLine_line l.style _ hm⟩, hbrace⟩
  · exact ⟨_, _, run_eq_ok hwidth _, run_eq_ok hwidth _,
      r.lines_writeAll_steps hfields hremarks hwidth⟩
  · have hkind : Code staysOnLine (r.kind.tag.text ++ " ") := by
      cases r.kind <;> decide
    exact l.style.oneLine_opening l.depth hkind r.name
  · exact ⟨_, _, run_eq_ok hwidth _, run_eq_ok hwidth _, e.lines_writeAll_steps hwidth⟩
  · exact l.style.oneLine_opening l.depth (by decide) e.name

/-- A struct with a bit field and an array of pointers, and an enumeration, documented outside and
inside. -/
theorem Layout.lines_of_members_documented :
    let byte : CType := .integer {} (some .w8) false
    let slots : CType := .array (.pointer
      (.template {} ⟨"Slot", by decide⟩ [.reference byte false]) {}) (some 4)
    let r : Record := {
      id := 1, name := ⟨"Ring", by decide⟩, doc := some ⟨2, ["A ring.\nOf slots."]⟩
      kind := .struct, fields := [
        .plain { id := 3, name := ⟨"used", by decide⟩, type := .integer {} none false,
                 width := some ⟨3, by decide⟩ },
        .plain { id := 4, name := ⟨"slots", by decide⟩, type := slots,
                 doc := some ⟨5, ["All."]⟩ }] }
    let e : Enumeration := {
      id := 6, name := ⟨"State", by decide⟩, variants := [
        { id := 7, name := ⟨"Idle", by decide⟩, value := some (-1) },
        { id := 8, name := ⟨"Busy", by decide⟩, doc := some ⟨9, ["Last."]⟩ }] }
    Style.Valid {} ∧ r.fields ≠ [] ∧ r.annotations = [] ∧
    (∃ out, Layout.run { style := {} } r.steps = .ok out ∧ out.lines = [
      "/// A ring.", "/// Of slots.", r"struct Ring {", "    uint64_t used : 3;", "    /// All.",
      "    Slot<uint8_t &> * slots[4];", r"};"]) ∧
    (∀ f ∈ r.fields, Style.OneLine {} 1 f.line) ∧
    (∃ out, Layout.run { style := {} } e.steps = .ok out ∧ out.lines = [
      r"enum State {", "    Idle = -1,", "    /// Last.", "    Busy", r"};"]) ∧
    ∀ m ∈ e.listed, Style.OneLine {} 1 m.line := by
  intro byte slots r e
  have hvalid : Style.Valid {} := ⟨by decide, by decide, by decide, by decide⟩
  obtain ⟨hrecords, henumerations, -⟩ := lines_of_members (l := { style := {} }) hvalid
  obtain ⟨⟨top, out, htop, hout, hlines⟩, -, hfields⟩ := hrecords r (by simp [r]) rfl
  obtain ⟨⟨start, written, hstart, hwritten, hrows⟩, -, hvariants⟩ := henumerations e
  have hplain : ∀ f ∈ r.fields, f.value? = none := by
    simp [r, RecordField.value?]
  cases htop
  cases hstart
  refine ⟨hvalid, by simp [r], rfl, ⟨out, hout, hlines.trans ?_⟩, fun f hf => ?_,
    ⟨written, hwritten, hrows.trans ?_⟩, hvariants⟩
  · decide +kernel
  · refine (hfields f hf).mpr fun value hvalue => ?_
    rw [hplain f hf] at hvalue
    cases hvalue
  · decide +kernel

/-- A data member of a class keeps its storage class and its initializer where it stands in a
record, and the initializer may break the line. -/
theorem Layout.lines_of_members_initialized :
    let a : Attribute := {
      id := 1, name := ⟨"x", by decide⟩, type := .integer {} (some .w32) true
      isStatic := true, value := some "1\n+ 2" }
    let r : Record := { id := 2, name := ⟨"S", by decide⟩, kind := .struct, fields := [.attr a] }
    (¬∀ (l : Layout) (r : Record), l.style.Valid → r.fields ≠ [] → r.annotations = [] →
      ∃ top out, l.run (docSteps r.doc) = .ok top ∧ l.run r.steps = .ok out ∧
        out.lines = top.lines ++ blockLines l.style l.depth r.header
          (r.fields.map fun f => ⟨f.field.doc, f.field.declaration ++ ";"⟩)) ∧
    Entity.text {} (.record r) =
      .ok ("\n".intercalate
        [r"struct S {", "    static int32_t x = 1", "    + 2;", r"};", ""]) := by
  intro a r
  refine ⟨fun h => ?_, by decide +kernel⟩
  obtain ⟨top, out, htop, hout, hlines⟩ :=
    h { style := {} } r ⟨by decide, by decide, by decide, by decide⟩ (by simp [r]) rfl
  cases htop
  cases hout
  exact absurd hlines (by decide +kernel)

end CWriter

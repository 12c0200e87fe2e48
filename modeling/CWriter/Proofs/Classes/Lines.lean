import CWriter.Proofs.Classes.Groups
import CWriter.Proofs.Layout.Parts

/-!
# The lines of a class

A class is laid out group by group. A member has the lines that it has on its own, and its last
line is not empty: it is that of a declaration or of a brace. The empty line that is asked for
between two groups is therefore always missing, and exactly one is added.
-/
namespace CWriter

/-- A text that does not end in a line feed has a last line, which is not empty. -/
theorem Style.endsFull_placed (style : Style) (depth : Int) {text : String} (cs : List Char)
    {c : Char} (htext : text.toList = cs ++ [c]) (hc : c ≠ '\n') :
    style.placed depth text ≠ [] ∧ EndsFull (style.placed depth text) := by
  obtain ⟨front, line, hplaced, hline⟩ := style.exists_placed_concat depth htext hc
  rw [hplaced]
  refine ⟨by simp, ?_⟩
  rw [EndsFull, List.getLast?_concat]
  rintro ⟨⟩
  cases hline

/-- Documentation, and a declaration or a block behind it. Numbers are put into digits in front of
it all or in front of the declaration. -/
inductive Declared : List Step → Prop
  | line (doc : Option Doc) (text : String) : Declared (docSteps doc ++ [.line (text ++ ";")])
  | numbered (doc : Option Doc) (numbers : List Int) (text : String) :
    Declared (docSteps doc ++ [.spell numbers, .line (text ++ ";")])
  | spelt (numbers : List Int) {steps : List Step} :
    Declared steps → Declared (.spell numbers :: steps)
  | block (doc : Option Doc) (header : String) (body : List Step) :
    Declared (docSteps doc ++ ([.openBlock header r"{"] ++ body ++ [.closeBlock r"}"]))

namespace Declared

theorem anchored_steps {steps : List Step} (h : Declared steps) : anchored steps = true := by
  induction h with
  | line doc text => exact anchored_docSteps_append doc (anchored_lines [_])
  | numbered doc numbers text => exact anchored_docSteps_append doc (anchored_lines [_])
  | spelt numbers h ih => exact ih
  | block doc header body =>
    rw [List.append_assoc]
    exact anchored_docSteps_append doc
      (anchored_cons_of_marks (Step.marks_openBlock header) _)

/-- The last line is that of the declaration or of the brace. -/
theorem endsFull_linesAt {style : Style} (hwidth : 0 < style.docWidth) {steps : List Step}
    (h : Declared steps) (depth : Int) :
    linesAt style depth steps ≠ [] ∧ EndsFull (linesAt style depth steps) := by
  have hlast : ∃ front s, steps = front ++ [s] ∧
      ∀ l : Layout, l.adds s ≠ [] ∧ EndsFull (l.adds s) := by
    induction h with
    | line doc text =>
      refine ⟨docSteps doc, .line (text ++ ";"), rfl, fun l => ?_⟩
      exact l.style.endsFull_placed l.depth text.toList (c := ';') (by simp) (by decide)
    | numbered doc numbers text =>
      refine ⟨docSteps doc ++ [.spell numbers], .line (text ++ ";"), by simp, fun l => ?_⟩
      exact l.style.endsFull_placed l.depth text.toList (c := ';') (by simp) (by decide)
    | spelt numbers h ih =>
      obtain ⟨front, s, rfl, hs⟩ := ih
      exact ⟨.spell numbers :: front, s, rfl, hs⟩
    | block doc header body =>
      refine ⟨docSteps doc ++ ([.openBlock header r"{"] ++ body), .closeBlock r"}", by simp,
        fun l => ?_⟩
      exact l.style.endsFull_placed (l.depth - 1) [] rfl (by decide)
  obtain ⟨front, s, rfl, hs⟩ := hlast
  obtain ⟨hne, hfull⟩ := hs ((Layout.standing style depth []).writeAll front)
  rw [Layout.linesAt_eq hwidth, Layout.writeAll_append, Layout.writeAll_cons, Layout.writeAll_nil,
    Layout.lines_write]
  exact ⟨List.append_ne_nil_of_right_ne_nil _ hne, hfull.append_of_ne_nil hne _⟩

end Declared

theorem Routine.declared_signatureSteps (r : Routine) (isDefinition : Bool)
    (signature : String) : Declared (r.signatureSteps isDefinition signature) := by
  cases isDefinition with
  | true => exact .block r.doc signature (bodySteps r.body)
  | false => exact .line r.doc signature

theorem Routine.declared_assignedSteps (r : Routine) (signature word : String) :
    Declared (r.assignedSteps signature word) :=
  .line r.doc (signature ++ " = " ++ word)

theorem Member.declared (style : Style) (m : Member) : Declared (m.steps style) := by
  cases m with
  | attr a => exact .numbered a.doc _ _
  | constructor c =>
    rw [steps, Constructor.steps]
    refine .spelt _ ?_
    split
    · exact c.declared_assignedSteps _ _
    · split
      · exact c.declared_assignedSteps _ _
      · exact c.declared_signatureSteps _ _
  | destructor d =>
    rw [steps, Destructor.steps]
    split
    · exact d.declared_assignedSteps _ _
    · split
      · exact d.declared_assignedSteps _ _
      · exact d.declared_signatureSteps _ _
  | method m =>
    rw [steps, Method.steps]
    split
    · exact .numbered m.doc m.numerals (m.signature style ++ " = " ++ "0")
    · exact .spelt _ (m.declared_signatureSteps _ _)

/-- A label leaves no block just opened behind it. -/
theorem Layout.write_label (l : Layout) (text : String) : l.write (.label text) =
    .standing l.style l.depth (l.lines ++ [l.style.indentation (l.depth - 1) ++ text]) := by
  simp [write, label, append, standing, lines]

namespace Class

/-- The lines of a group: its label, one level shallower, and its members on their own. -/
def groupLines (style : Style) (depth : Int) (c : Class) (v : Visibility) : List String :=
  (style.indentation (depth - 1) ++ (v.text ++ ":")) ::
    (c.groupMembers v).flatMap fun m => linesAt style depth (m.steps style)

/-- Group after group with an empty line between two of them. -/
def bodyLines (style : Style) (depth : Int) (c : Class) (vs : List Visibility) : List String :=
  [""].intercalate (vs.map (c.groupLines style depth))

variable {style : Style} {depth : Int}

theorem endsFull_groupLines (h : 0 < style.docWidth) (c : Class) (v : Visibility) :
    EndsFull (c.groupLines style depth v) := by
  have hlabel : EndsFull [style.indentation (depth - 1) ++ (v.text ++ ":")] :=
    endsFull_singleton (by simp)
  exact hlabel.append (.flatMap (fun m => ((m.declared style).endsFull_linesAt h depth).2) _)

theorem writeAll_members (h : 0 < style.docWidth) (ms : List Member) (ls : List String) :
    (Layout.standing style depth ls).writeAll (ms.flatMap (Member.steps style)) =
      .standing style depth (ls ++ ms.flatMap fun m => linesAt style depth (m.steps style)) := by
  induction ms generalizing ls with
  | nil => simp [Layout.writeAll_nil]
  | cons m ms ih =>
    rw [List.flatMap_cons, Layout.writeAll_append,
      Layout.writeAll_standing h (m.nested style false) (m.declared style).anchored_steps, ih,
      List.flatMap_cons, List.append_assoc]

/-- A group is written below whatever stands there, also directly behind an opened block. -/
theorem writeAll_groupSteps {l : Layout} (h : 0 < l.style.docWidth) (c : Class) (v : Visibility) :
    l.writeAll (c.groupSteps l.style v) =
      .standing l.style l.depth (l.lines ++ c.groupLines l.style l.depth v) := by
  rw [groupSteps, Layout.writeAll_append, Layout.writeAll_cons, Layout.writeAll_nil,
    Layout.write_label, writeAll_members h, groupLines, List.append_assoc, List.singleton_append]

/-- Between two groups the empty line is always missing, so exactly one is added. -/
theorem writeAll_groupsSteps (c : Class) {vs : List Visibility} (hne : vs ≠ []) {l : Layout}
    (h : 0 < l.style.docWidth) : l.writeAll (c.groupsSteps l.style vs) =
      .standing l.style l.depth (l.lines ++ c.bodyLines l.style l.depth vs) := by
  induction vs generalizing l with
  | nil => exact absurd rfl hne
  | cons v rest ih =>
    cases rest with
    | nil =>
      rw [groupsSteps, writeAll_groupSteps h, bodyLines, List.map_singleton,
        List.intercalate_singleton]
    | cons next rest =>
      have hgroup : EndsFull (l.lines ++ c.groupLines l.style l.depth v) :=
        (c.endsFull_groupLines h v).append_of_ne_nil (List.cons_ne_nil _ _) _
      have hlabel : l.lines ++ c.groupLines l.style l.depth v ≠ [] := by
        simp [groupLines]
      have hmissing : toppedUp 1 (l.lines ++ c.groupLines l.style l.depth v) =
          l.lines ++ c.groupLines l.style l.depth v ++ [""] := hgroup.toppedUp_eq hlabel 1
      have hcons : c.bodyLines l.style l.depth (v :: next :: rest) =
          c.groupLines l.style l.depth v ++ [""] ++ c.bodyLines l.style l.depth (next :: rest) :=
        List.intercalate_cons_cons
      have hrest : (Layout.standing l.style l.depth
          (l.lines ++ c.groupLines l.style l.depth v ++ [""])).writeAll
            (c.groupsSteps l.style (next :: rest)) = _ :=
        ih (List.cons_ne_nil _ _) h
      have hsteps : c.groupsSteps l.style (v :: next :: rest) =
          c.groupSteps l.style v ++ [.blank 1] ++ c.groupsSteps l.style (next :: rest) := rfl
      rw [hsteps, Layout.writeAll_append, Layout.writeAll_append, writeAll_groupSteps h,
        Layout.writeAll_cons, Layout.writeAll_nil, Layout.write_standing_blank,
        hmissing, hrest, Layout.standing_lines, hcons]
      simp only [Layout.standing, List.append_assoc]

/-- The groups come back to the depth of the class body, also if there are none. -/
theorem lines_writeAll_groupsSteps (c : Class) (vs : List Visibility) {l : Layout}
    (h : 0 < l.style.docWidth) :
    (l.writeAll (c.groupsSteps l.style vs)).lines = l.lines ++ c.bodyLines l.style l.depth vs ∧
      (l.writeAll (c.groupsSteps l.style vs)).depth = l.depth := by
  by_cases hvs : vs = []
  · rw [hvs]
    exact ⟨(List.append_nil _).symm, rfl⟩
  · rw [c.writeAll_groupsSteps hvs h]
    exact ⟨Layout.standing_lines _, rfl⟩

/-- The block of a class, behind its documentation. -/
theorem lines_writeAll_block (c : Class) {l : Layout} (h : 0 < l.style.docWidth) :
    (l.writeAll ([.openBlock c.header r"{"] ++ c.groupsSteps l.style c.groups ++
        [.closeBlock r"};"])).lines =
      l.lines ++ l.style.placed l.depth (c.header ++ r" {") ++
        c.bodyLines l.style (l.depth + 1) c.groups ++ [l.style.indentation l.depth ++ r"};"] := by
  have hstyle := l.style_write (.openBlock c.header r"{")
  have hdepth := l.depth_write (.openBlock c.header r"{")
  rw [← hstyle] at h
  obtain ⟨hbody, hback⟩ := c.lines_writeAll_groupsSteps c.groups h
  rw [hstyle, hdepth] at hbody
  rw [hstyle] at hback
  have hbrace : l.style.placed l.depth r"};" = [l.style.indentation l.depth ++ r"};"] :=
    l.style.placed_eq_singleton l.depth (by decide) (by decide)
  rw [Layout.lines_writeAll_enclosed (hback.trans hdepth) hbody,
    Layout.opening_of_ne (by simp [header]), hbrace]
  rfl

/-- Base names without line feeds leave the opening line of a class in one piece. -/
theorem feed_not_mem_opening (c : Class) (h : ∀ b ∈ c.bases, '\n' ∉ b.name.toList) :
    '\n' ∉ (c.header ++ r" {").toList := by
  have hspells : Spells (· != '\n') := fun d hd => by
    rw [bne_iff_ne]
    rintro rfl
    cases hd
  have hcode : ∀ s : String, '\n' ∉ s.toList → Code (· != '\n') s := by
    intro s hs d hd
    rw [bne_iff_ne]
    rintro rfl
    exact hs hd
  -- The header reads the name and the bases only.
  have hfragments : Within (· != '\n') (Class.fragments { c with doc := none, members := [] }) := by
    refine within_append.mpr ⟨within_append.mpr ⟨within_cons.mpr ⟨?_, within_nil⟩, ?_⟩, within_nil⟩
    · exact hcode _ c.name.acceptable.2.1
    · intro f hf
      obtain ⟨b, hb, rfl⟩ := List.mem_map.mp hf
      exact hcode b.name (h b hb)
  have hheader : Code (· != '\n') c.header :=
    Class.code_header (c := { c with doc := none, members := [] }) hspells hfragments
  intro hfeed
  rw [String.toList_append] at hfeed
  rcases List.mem_append.mp hfeed with hfeed | hfeed
  · exact absurd (hheader _ hfeed) (by decide)
  · exact absurd hfeed (by decide)

/-- Between its opening line and its closing one a class has its groups in the order in which
their visibilities occur first, one empty line between two of them. A group is its label and its
members, each with the lines that it has on its own; `Regrouped` says which members in which
order. -/
theorem lines_regrouped {l : Layout} (h : l.style.Valid) (c : Class) :
    c.Regrouped ∧
    (∀ m ∈ c.members, ∃ own,
      Layout.run { style := l.style, depth := l.depth + 1 } (m.steps l.style) = .ok own ∧
      own.lines = linesAt l.style (l.depth + 1) (m.steps l.style) ∧ own.lines ≠ []) ∧
    (∀ v, EndsFull (c.groupLines l.style (l.depth + 1) v)) ∧
    ((∀ b ∈ c.bases, '\n' ∉ b.name.toList) → l.style.placed l.depth (c.header ++ r" {") =
      [l.style.indentation l.depth ++ (c.header ++ r" {")]) ∧
    ∃ top out, l.run (docSteps c.doc) = .ok top ∧ l.run (c.steps l.style) = .ok out ∧
      out.lines = top.lines ++ l.style.placed l.depth (c.header ++ r" {") ++
        c.bodyLines l.style (l.depth + 1) c.groups ++ [l.style.indentation l.depth ++ r"};"] := by
  have hwidth := h.docWidth_pos
  refine ⟨c.regrouped, fun m _ => ?_, fun v => c.endsFull_groupLines hwidth v, fun hbases =>
    l.style.placed_eq_singleton l.depth (by simp) (c.feed_not_mem_opening hbases),
    _, _, Layout.run_eq_ok hwidth _, Layout.run_eq_ok hwidth _, ?_⟩
  · obtain ⟨own, hown, hlines⟩ := Layout.exists_run_linesAt hwidth (m.steps l.style)
    refine ⟨own, hown, hlines, ?_⟩
    rw [hlines]
    exact ((m.declared l.style).endsFull_linesAt hwidth (l.depth + 1)).1
  · have hblock := c.lines_writeAll_block (l := l.writeAll (docSteps c.doc))
    rw [l.style_writeAll, Layout.depth_writeAll_of_nested (nested_docSteps c.doc : Nested false _)]
      at hblock
    rw [steps, List.append_assoc, List.append_assoc, Layout.writeAll_append, ← List.append_assoc]
    exact hblock hwidth

/-- A method that stands in front of the constructor of its group, and data on both sides. -/
def tank : Class where
  id := 1
  name := ⟨"Tank", by decide⟩
  bases := [⟨2, "Unit", .everyone⟩]
  members := [
    .method { id := 3, name := ⟨"fill", by decide⟩, visibility := .everyone },
    .attr { id := 4, name := ⟨"level", by decide⟩, type := .scalar {} .float none true },
    .constructor { id := 5, name := ⟨"Tank", by decide⟩ },
    .attr { id := 6, name := ⟨"size", by decide⟩, type := .scalar {} .float none true,
            visibility := .everyone }]

theorem lines_regrouped_tank :
    Style.Valid {} ∧ tank.Regrouped ∧ ∃ out, Layout.run { style := {} } (tank.steps {}) = .ok out ∧
      out.lines = [r"class Tank : public Unit {", "public:", "    float size;", "    Tank();",
        "    void fill();", "", "private:", "    float level;", r"};"] := by
  have hvalid : Style.Valid {} := ⟨by decide, by decide, by decide, by decide⟩
  obtain ⟨hregrouped, _, _, _, top, out, htop, hout, hlines⟩ :=
    lines_regrouped (l := { style := {} }) hvalid tank
  refine ⟨hvalid, hregrouped, out, hout, hlines.trans ?_⟩
  cases htop
  decide +kernel

end Class

end CWriter

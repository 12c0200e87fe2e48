import CWriter.Proofs.Flags.Runs
import CWriter.Proofs.Layout.Parts
import CWriter.Proofs.Routines.Filled

/-!
# Bodies that are shown

A routine whose body was just filled is laid out with that body, unless it is told to be a
prototype or a word stands in the place of the body. Filling a body takes the word `0` away and
leaves the words `default` and `delete`, behind which the new body is lost.
-/
namespace CWriter

namespace Routine

variable {r : Routine}

theorem isDefinition_of_body (hbody : r.body ≠ []) (hdefinition : r.definition ≠ some false) :
    r.isDefinition = true := by
  rw [isDefinition]
  split
  · next decided heq =>
    cases decided with
    | true => rfl
    | false => contradiction
  · simpa using hbody

theorem nested_signatureSteps (r : Routine) (isDefinition : Bool) (signature : String) :
    Nested false (r.signatureSteps isDefinition signature) :=
  (r.matched_signatureSteps (p := fun _ => true) (fun _ _ => rfl) (within_true _) isDefinition
    fun _ _ => rfl).nested

theorem nested_assignedSteps (r : Routine) (signature word : String) :
    Nested false (r.assignedSteps signature word) :=
  (r.matched_assignedSteps (p := fun _ => true) (fun _ _ => rfl) (within_true _)
    (fun _ _ => rfl) fun _ _ => rfl).nested

theorem lines_signatureSteps (r : Routine) (signature : String) {l : Layout}
    (h : 0 < l.style.docWidth) :
    (l.writeAll (r.signatureSteps true signature)).lines =
      (l.writeAll (docSteps r.doc)).lines ++
        l.style.placed l.depth (Layout.opening signature r"{") ++
        (r.body.flatMap fun item => linesAt l.style (l.depth + 1) item.steps) ++
        [l.style.indentation l.depth ++ r"}"] := by
  have hbrace : l.style.placed l.depth r"}" = [l.style.indentation l.depth ++ r"}"] :=
    l.style.placed_eq_singleton l.depth (by decide) (by decide)
  rw [signatureSteps, if_pos rfl, bodySteps_eq_flatMap,
    Layout.lines_writeAll_doc_block (BodyItem.nested false) BodyItem.anchored_steps _ _ _ _ h,
    hbrace]

theorem lines_assignedSteps (r : Routine) (signature word : String) (l : Layout) :
    (l.writeAll (r.assignedSteps signature word)).lines =
      (l.writeAll (docSteps r.doc)).lines ++
        l.style.placed l.depth (signature ++ " = " ++ word ++ ";") :=
  l.lines_writeAll_doc_line r.doc _

end Routine

namespace Entity

/-- The word that stands in the place of a body and stays there when the body is filled. -/
def bodyWord? : Entity → Option String
  | constructor c =>
    if c.isDefault then some "default" else if c.isDelete then some "delete" else none
  | destructor d => if d.isDefault then some "default" else none
  | _ => none

/-- The signature as it stands in front of a body, or of the word in its place. -/
def bodyHeader (style : Style) : Entity → String
  | function f => f.signature style
  | method m => m.signature style
  | constructor c =>
    c.signature style ++ if c.isDefault || c.isDelete then "" else c.initializerList
  | destructor d => d.signature
  | _ => ""

/-- What an entity lays out is what the steps lay out, in any layout. -/
def WrittenAs (e : Entity) (style : Style) (steps : List Step) : Prop :=
  ∃ own, e.steps? style = some own ∧ ∀ l : Layout, l.run own = l.run steps

theorem WrittenAs.text_eq {e : Entity} {style : Style} {steps : List Step}
    (h : e.WrittenAs style steps) : e.text style = render style steps := by
  obtain ⟨own, hown, hrun⟩ := h
  rw [text, hown, render, ← hrun]
  rfl

/-- With room for comments the steps are taken. -/
theorem WrittenAs.run {e : Entity} {steps : List Step} {l : Layout}
    (h : e.WrittenAs l.style steps) (hwidth : 0 < l.style.docWidth) :
    ∃ own, e.steps? l.style = some own ∧ l.run own = .ok (l.writeAll steps) := by
  obtain ⟨own, hown, hrun⟩ := h
  exact ⟨own, hown, (hrun l).trans (Layout.run_eq_ok hwidth steps)⟩

/-- A routine with a body that no flag rules out is written with the body, or with the word. -/
theorem writtenAs_of_body {e : Entity} {r : Routine} (hroutine : e.routine? = some r)
    (hbodiless : e.bodiless = false) (hbody : r.body ≠ []) (hdefinition : r.definition ≠ some false)
    (style : Style) :
    e.WrittenAs style (e.bodyWord?.elim (r.signatureSteps true (e.bodyHeader style))
      (r.assignedSteps (e.bodyHeader style))) := by
  have hshown := Routine.isDefinition_of_body hbody hdefinition
  cases e with
  | function f =>
    cases hroutine
    exact ⟨_, rfl, fun l => by rw [Function.steps, hshown]; rfl⟩
  | method m =>
    cases hroutine
    have hpure : m.isPure = false := hbodiless
    exact ⟨_, rfl, fun l => by rw [Method.steps, hpure, hshown]; rfl⟩
  | constructor c =>
    cases hroutine
    have hdefined : c.isDefinition = true := by
      rw [Constructor.isDefinition, hshown, Bool.or_true]
    refine ⟨_, rfl, fun l => (l.run_spell _ _).trans ?_⟩
    rw [hdefined, bodyWord?, bodyHeader]
    cases c.isDefault with
    | true => simp
    | false =>
      cases c.isDelete with
      | true => simp
      | false => rfl
  | destructor d =>
    cases hroutine
    have hpure : d.isPure = false := hbodiless
    refine ⟨_, rfl, fun l => ?_⟩
    rw [Destructor.steps, hpure, hshown, bodyWord?]
    cases d.isDefault <;> rfl
  | _ => cases hroutine

/-- Wherever there is room for comments: the lines of the documentation, the signature as it
opens a block, the lines of each item of the body one level deeper, and the closing brace. -/
def ShowsBody (e : Entity) (r : Routine) : Prop :=
  ∀ l : Layout, 0 < l.style.docWidth → ∃ steps top out,
    e.steps? l.style = some steps ∧ l.run (docSteps r.doc) = .ok top ∧ l.run steps = .ok out ∧
    out.depth = l.depth ∧
    (∀ item ∈ r.body, ∃ own,
      Layout.run { style := l.style, depth := l.depth + 1 } item.steps = .ok own ∧
      own.lines = linesAt l.style (l.depth + 1) item.steps) ∧
    out.lines = top.lines ++
      l.style.placed l.depth (Layout.opening (e.bodyHeader l.style) r"{") ++
      (r.body.flatMap fun item => linesAt l.style (l.depth + 1) item.steps) ++
      [l.style.indentation l.depth ++ r"}"]

/-- Wherever there is room for comments: the lines of the documentation, and the signature with
the word. Nothing of the body is shown. -/
def ShowsWord (e : Entity) (r : Routine) (word : String) : Prop :=
  ∀ l : Layout, 0 < l.style.docWidth → ∃ steps top out,
    e.steps? l.style = some steps ∧ l.run (docSteps r.doc) = .ok top ∧ l.run steps = .ok out ∧
    out.depth = l.depth ∧
    out.lines = top.lines ++
      l.style.placed l.depth (e.bodyHeader l.style ++ " = " ++ word ++ ";")

theorem showsBody {e : Entity} {r : Routine} (hroutine : e.routine? = some r)
    (hbodiless : e.bodiless = false) (hbody : r.body ≠ []) (hdefinition : r.definition ≠ some false)
    (hword : e.bodyWord? = none) : e.ShowsBody r := by
  intro l h
  obtain ⟨steps, hsteps, hrun⟩ :=
    (writtenAs_of_body hroutine hbodiless hbody hdefinition l.style).run h
  rw [hword] at hrun
  exact ⟨steps, _, _, hsteps, Layout.run_eq_ok h _, hrun,
    Layout.depth_writeAll_of_nested (r.nested_signatureSteps true _) l,
    fun item _ => Layout.exists_run_linesAt h item.steps, r.lines_signatureSteps _ h⟩

theorem showsWord {e : Entity} {r : Routine} (hroutine : e.routine? = some r)
    (hbodiless : e.bodiless = false) (hbody : r.body ≠ []) (hdefinition : r.definition ≠ some false)
    {word : String} (hword : e.bodyWord? = some word) : e.ShowsWord r word := by
  intro l h
  obtain ⟨steps, hsteps, hrun⟩ :=
    (writtenAs_of_body hroutine hbodiless hbody hdefinition l.style).run h
  rw [hword] at hrun
  exact ⟨steps, _, _, hsteps, Layout.run_eq_ok h _, hrun,
    Layout.depth_writeAll_of_nested (r.nested_assignedSteps _ _) l, r.lines_assignedSteps _ _ l⟩

/-- Lines that end in a semicolon do not end in a brace. -/
theorem ShowsBody.lines_ne_placed {e : Entity} {r : Routine} (h : e.ShowsBody r)
    {steps : List Step} (hsteps : e.steps? {} = some steps) {out : Layout}
    (hout : Layout.run { style := {} } steps = .ok out) (front : List String) (text : String) :
    out.lines ≠ front ++ ({} : Style).placed 0 (text ++ ";") := by
  intro hlines
  obtain ⟨steps', top, out', hsteps', -, hout', -, -, hbody⟩ := h { style := {} } (by decide)
  cases hsteps.symm.trans hsteps'
  cases hout.symm.trans hout'
  have htext : (text ++ ";").toList = text.toList ++ [';'] := String.toList_append
  obtain ⟨before, line, hplaced, hline⟩ := ({} : Style).exists_placed_concat 0 htext (by decide)
  have hlast : line = ({} : Style).indentation 0 ++ r"}" := by
    have hends := congrArg List.getLast? (hlines.symm.trans hbody)
    rw [hplaced, ← List.append_assoc, List.getLast?_concat, List.getLast?_concat] at hends
    exact Option.some.inj hends
  rw [hlast] at hline
  exact absurd hline (by decide)

theorem not_showsBody {e : Entity} {r : Routine} {word : String} (hword : e.ShowsWord r word) :
    ¬e.ShowsBody r := by
  intro hbody
  obtain ⟨steps, top, out, hsteps, -, hout, -, hlines⟩ := hword { style := {} } (by decide)
  exact hbody.lines_ne_placed hsteps hout _ _ hlines

theorem routine?_withBody {e : Entity} {r : Routine} (hroutine : e.routine? = some r)
    (body : List BodyItem) : (e.bodied.withBody body).routine? = some { r with body } := by
  cases e <;> cases hroutine <;> rfl

theorem bodyWord?_withBody (e : Entity) (body : List BodyItem) :
    (e.bodied.withBody body).bodyWord? = e.bodyWord? := by
  cases e <;> rfl

theorem bodiless_withBody (e : Entity) (body : List BodyItem) :
    (e.bodied.withBody body).bodiless = false := by
  cases e <;> rfl

/-- A body is filled by a call that succeeds, in whatever state the routine was. If the routine is
not told to be a prototype, the body is then shown, unless the routine is `default` or `delete`:
it stays so, and nothing of the body is shown. -/
theorem body_shown {e : Entity} {r : Routine} (hroutine : e.routine? = some r) {verb : Verb}
    {v : Value} (hfills : verb.Fills v) :
    ∃ call, e.call? verb [v] = some call ∧
      ∀ (ledger last : Ledger) (reply : Reply) (after : Entity),
        call ledger = ((.ok reply, after), last) →
          ∃ body, body ≠ [] ∧ verb.Filled v r.body body ∧
            after.routine? = some { r with body } ∧ after.bodyWord? = e.bodyWord? ∧
            (r.definition ≠ some false →
              (after.ShowsBody { r with body } ↔ after.bodyWord? = none) ∧
              ∀ word, after.bodyWord? = some word → after.ShowsWord { r with body } word) := by
  obtain ⟨call, hcall, hfilled⟩ := exists_call_filled hroutine hfills
  refine ⟨call, hcall, fun ledger last reply after heq => ?_⟩
  obtain ⟨body, hbody, rfl⟩ := hfilled ledger last reply after heq
  have hne := hbody.ne_nil hfills
  have hnew := routine?_withBody hroutine body
  have hbodiless := e.bodiless_withBody body
  refine ⟨body, hne, hbody, hnew, e.bodyWord?_withBody body, fun hdefinition => ?_⟩
  have hword : ∀ word, (e.bodied.withBody body).bodyWord? = some word →
      (e.bodied.withBody body).ShowsWord { r with body } word :=
    fun word hword => showsWord hnew hbodiless hne hdefinition hword
  refine ⟨⟨fun hshown => ?_, showsBody hnew hbodiless hne hdefinition⟩, hword⟩
  by_contra hsome
  obtain ⟨word, hsome⟩ := Option.ne_none_iff_exists'.mp hsome
  exact not_showsBody (hword word hsome) hshown

/-- A pure method is given a line, and is pure no longer. -/
theorem body_shown_pure :
    let m : Method := { id := 0, name := ⟨"f", by decide⟩, isVirtual := true, isPure := true }
    (Entity.method m).routine? = some m.toRoutine ∧ Verb.pushLine.Fills (.str "step();") ∧
      ∃ call last reply after body, (Entity.method m).call? .pushLine [.str "step();"] = some call ∧
        call {} = ((.ok reply, after), last) ∧ after.ShowsBody { m.toRoutine with body } ∧
        (after.text {}).toOption =
          some ("\n".intercalate [r"virtual void f() {", "    step();", r"}", ""]) := by
  intro m
  have hfills : Verb.pushLine.Fills (.str "step();") := .inl rfl
  obtain ⟨call, hcall, hshown⟩ := body_shown (e := .method m) rfl hfills
  obtain ⟨last, reply, hrun⟩ : ∃ last reply, call {} =
      ((.ok reply, .method { m with body := [.verbatim "step();"], isPure := false }), last) := by
    rw [← Option.some.inj hcall]
    exact ⟨_, _, rfl⟩
  obtain ⟨body, -, -, -, hword, hboth⟩ := hshown _ _ _ _ hrun
  exact ⟨rfl, hfills, call, last, reply, _, body, hcall, hrun, (hboth (by decide)).1.mpr hword,
    by decide +kernel⟩

/-- A new destructor is made the default one, and a line is pushed behind it. -/
theorem body_shown_default :
    ¬∀ (members : Members) (check : Check Value) (ledger middle last : Ledger) (e after : Entity)
      (rs : List Request) (v : Value) (call : StateM Ledger (Except Fault Reply × Entity))
      (reply : Reply) (r : Routine),
      acceptNamed "Destructor" (.object members) = some check →
        check.alone ledger = (.ok (.entity e), middle) →
        (e.afterAll rs).call? .pushLine [v] = some call →
        call middle = ((.ok reply, after), last) → after.routine? = some r →
        r.definition ≠ some false → after.ShowsBody r := by
  intro h
  have hshown := h [("name", .str "T")] _ {} _ _ _ _ [⟨.setDefault, [.bool true], {}⟩]
    (.str "cleanup();") _ _ _ rfl rfl rfl rfl rfl (by decide)
  obtain ⟨steps, top, out, hsteps, htop, hout, -, -, hlines⟩ := hshown { style := {} } (by decide)
  cases hsteps
  cases htop
  cases hout
  exact absurd hlines (by decide)

end Entity

end CWriter

import CWriter.Proofs.Routines.Bodies

/-!
# Prototypes

A prototype of a routine is a copy made of new parts, without the body and with the setting that
rules a definition out. Identities are not written and a body is written in a definition only, so
it is laid out as the routine itself is once it has that setting. Beside the definition it shows
what a header needs: the same documentation, and the same signature up to the semicolon.
-/
namespace CWriter

namespace CType

mutual

/-- Identities leave no trace in a declaration. -/
theorem declare_shifted (offset : Nat) : (t : CType) → (d : String) →
    (t.shifted offset).declare d = t.declare d
  | integer .., _ | scalar .., _ | named .., _ => rfl
  | template quals name args, d => by
    rw [shifted, declare, declare, declareAll_shifted offset args]
  | pointer inner quals, d => by rw [shifted, declare, declare, inner.declare_shifted offset]
  | reference inner rvalue, d => by rw [shifted, declare, declare, inner.declare_shifted offset]
  | array inner size, d => by rw [shifted, declare, declare, inner.declare_shifted offset]
  | shared _ inner, d => by rw [shifted, declare, declare, inner.declare_shifted offset]

theorem declareAll_shifted (offset : Nat) : (ts : List CType) →
    declareAll (shiftedAll offset ts) = declareAll ts
  | [] => rfl
  | t :: ts => by
    rw [shiftedAll, declareAll, declareAll, t.declare_shifted offset, declareAll_shifted offset ts]

end

mutual

/-- Two copies one after the other are one copy. -/
theorem shifted_shifted (m n : Nat) : (t : CType) →
    (t.shifted m).shifted n = t.shifted (m + n)
  | integer .. | scalar .. | named .. => rfl
  | template quals name args => by
    rw [shifted, shifted, shifted, shiftedAll_shiftedAll m n args]
  | pointer inner quals => by rw [shifted, shifted, shifted, inner.shifted_shifted m n]
  | reference inner rvalue => by rw [shifted, shifted, shifted, inner.shifted_shifted m n]
  | array inner size => by rw [shifted, shifted, shifted, inner.shifted_shifted m n]
  | shared id inner => by
    rw [shifted, shifted, shifted, inner.shifted_shifted m n, Nat.add_assoc]

theorem shiftedAll_shiftedAll (m n : Nat) : (ts : List CType) →
    shiftedAll n (shiftedAll m ts) = shiftedAll (m + n) ts
  | [] => rfl
  | t :: ts => by
    rw [shiftedAll, shiftedAll, shiftedAll, t.shifted_shifted m n, shiftedAll_shiftedAll m n ts]

end

end CType

theorem docSteps_shifted (offset : Nat) (d : Option Doc) :
    docSteps (d.map (Doc.shifted offset)) = docSteps d := by
  cases d <;> rfl

theorem Param.declaration_shifted (offset : Nat) (q : Param) :
    (q.shifted offset).declaration = q.declaration := by
  rw [declaration, declaration]
  exact congrArg (· ++ _) (q.type.declare_shifted offset q.name.text)

theorem paramTexts_shifted (offset : Nat) (params : List Param) :
    paramTexts (params.map (Param.shifted offset)) = paramTexts params := by
  rw [paramTexts, List.map_map]
  exact List.map_congr_left fun q _ => q.declaration_shifted offset

theorem paramList_shifted (style : Style) (offset : Nat) (params : List Param) :
    paramList style (params.map (Param.shifted offset)) = paramList style params := by
  rw [paramList, paramList, paramTexts_shifted, List.isEmpty_map]

theorem Function.signature_toDecl (f : Function) (offset : Nat) (style : Style) :
    (f.toDecl offset).signature style = f.signature style := by
  rw [signature, signature, signatureText, signatureText]
  simp only [toDecl, Callable.toDecl, Routine.toDecl, CType.declare_shifted, paramList_shifted]

theorem Method.signature_toDecl (m : Method) (offset : Nat) (style : Style) :
    (m.toDecl offset).signature style = m.signature style := by
  rw [signature, signature, signatureText, signatureText]
  simp only [toDecl, Callable.toDecl, Routine.toDecl, CType.declare_shifted, paramList_shifted]

theorem Constructor.signature_toDecl (c : Constructor) (offset : Nat) (style : Style) :
    (c.toDecl offset).signature style = c.signature style := by
  have hparams : (c.toDecl offset).paramText style = c.paramText style := by
    rw [paramText, paramText]
    simp only [toDecl, Callable.toDecl, Routine.toDecl, otherParam, paramTexts_shifted,
      paramList_shifted]
    rfl
  rw [signature, signature, hparams]
  rfl

namespace Routine

/-- A prototype of a prototype is one of the routine, with other identities. -/
theorem toDecl_toDecl (m n : Nat) (r : Routine) :
    (r.toDecl m).toDecl n = r.toDecl (m + n) := by
  obtain ⟨⟨⟨id, name⟩, doc⟩, body, definition⟩ := r
  cases doc <;> simp [toDecl, Doc.shifted, Nat.add_assoc]

theorem assignedSteps_toDecl (offset : Nat) (r : Routine) (signature word : String) :
    (r.toDecl offset).assignedSteps signature word = r.assignedSteps signature word := by
  rw [assignedSteps, assignedSteps]
  exact congrArg (· ++ _) (docSteps_shifted offset r.doc)

theorem signatureSteps_toDecl (offset : Nat) (r : Routine) (signature : String) :
    (r.toDecl offset).signatureSteps false signature = r.signatureSteps false signature := by
  rw [signatureSteps, signatureSteps]
  exact congrArg (· ++ _) (docSteps_shifted offset r.doc)

theorem lines_signatureSteps_false (r : Routine) (signature : String) (l : Layout) :
    (l.writeAll (r.signatureSteps false signature)).lines =
      (l.writeAll (docSteps r.doc)).lines ++ l.style.placed l.depth (signature ++ ";") :=
  l.lines_writeAll_doc_line r.doc _

end Routine

theorem Param.shifted_shifted (m n : Nat) (q : Param) :
    (q.shifted m).shifted n = q.shifted (m + n) := by
  simp [shifted, CType.shifted_shifted, Nat.add_assoc]

theorem Callable.toDecl_toDecl (m n : Nat) (c : Callable) :
    (c.toDecl m).toDecl n = c.toDecl (m + n) := by
  have hparams : (c.params.map (Param.shifted m)).map (Param.shifted n) =
      c.params.map (Param.shifted (m + n)) := by
    rw [List.map_map]
    exact List.map_congr_left fun q _ => q.shifted_shifted m n
  simp only [toDecl, Routine.toDecl_toDecl, hparams]

namespace Entity

/-- The prototype of a routine, with identities that are counted from an offset on. -/
def prototype (offset : Nat) : Entity → Entity
  | function f => function (f.toDecl offset)
  | method m => method (m.toDecl offset)
  | constructor c => constructor (c.toDecl offset)
  | destructor d => destructor (d.toDecl offset)
  | e => e

/-- An entity with another setting for definitions, if it is one that has such a setting. -/
def withDefinition (decided : Option Bool) : Entity → Entity
  | function f => function { f with definition := decided }
  | method m => method { m with definition := decided }
  | constructor c => constructor { c with definition := decided }
  | destructor d => destructor { d with definition := decided }
  | e => e

/-- The declaration of a routine without anything that belongs to its definition. -/
def signature (style : Style) : Entity → String
  | function f => f.signature style
  | method m => m.signature style
  | constructor c => c.signature style
  | destructor d => d.signature
  | _ => ""

/-- What a definition has between the signature and the opening brace. -/
def initializers : Entity → String
  | constructor c => c.initializerList
  | _ => ""

def isDefinition : Entity → Bool
  | function f => f.isDefinition
  | method m => m.isDefinition
  | constructor c => c.isDefinition
  | destructor d => d.isDefinition
  | _ => false

/-- The word that stands in the place of a body. -/
def word? : Entity → Option String
  | method m => if m.isPure then some "0" else none
  | destructor d => if d.isDefault then some "default" else if d.isPure then some "0" else none
  | e => e.bodyWord?

variable {e : Entity} {r : Routine}

/-- A routine is written with a word in the place of its body, or as what the setting and the body
make of it. -/
theorem writtenAs_routine (hroutine : e.routine? = some r) (style : Style) :
    e.WrittenAs style (e.word?.elim
      (r.signatureSteps e.isDefinition (e.signature style ++ e.initializers))
      (r.assignedSteps (e.signature style))) := by
  cases e with
  | function f =>
    cases hroutine
    refine ⟨_, rfl, fun l => (l.run_spell _ _).trans ?_⟩
    simp [word?, bodyWord?, signature, initializers, isDefinition]
  | method m =>
    cases hroutine
    refine ⟨_, rfl, fun l => ?_⟩
    cases hpure : m.isPure with
    | true =>
      -- The numbers of a pure method stand between its documentation and its signature.
      simp only [Method.steps, hpure, if_true, word?, Option.elim_some, Routine.assignedSteps,
        Layout.run, List.foldlM_append]
      rfl
    | false =>
      simp [Method.steps, Layout.run_spell, word?, signature, initializers, isDefinition, hpure]
  | constructor c =>
    cases hroutine
    refine ⟨_, rfl, fun l => (l.run_spell _ _).trans ?_⟩
    cases hdefault : c.isDefault <;> cases hdelete : c.isDelete <;>
      simp [word?, bodyWord?, signature, initializers, isDefinition, hdefault, hdelete]
  | destructor d =>
    cases hroutine
    refine ⟨_, rfl, fun l => ?_⟩
    cases hdefault : d.isDefault <;> cases hpure : d.isPure <;>
      simp [Destructor.steps, word?, signature, initializers, isDefinition, hdefault, hpure]
  | _ => cases hroutine

theorem isDefinition_of_told (hroutine : e.routine? = some r) (h : r.definition = some false) :
    e.isDefinition = false := by
  have hplain : r.isDefinition = false := by
    rw [Routine.isDefinition, h]
  cases e with
  | constructor c =>
    cases hroutine
    rw [isDefinition, Constructor.isDefinition, hplain, h]
    simp
  | function | method | destructor =>
    cases hroutine
    exact hplain
  | _ => cases hroutine

/-- Member initializers belong to the definition. -/
theorem initializers_of_not_isDefinition (h : e.isDefinition = false) : e.initializers = "" := by
  cases e with
  | constructor c =>
    have hnone : c.isDefinition = false := h
    rw [initializers, Constructor.initializerList, hnone, Bool.not_false, Bool.or_true]
    rfl
  | _ => rfl

/-- What is told to be no definition ends behind its signature. -/
theorem writtenAs_of_told (hroutine : e.routine? = some r) (h : r.definition = some false)
    (style : Style) : e.WrittenAs style (e.word?.elim
      (r.signatureSteps false (e.signature style)) (r.assignedSteps (e.signature style))) := by
  have hplain := isDefinition_of_told hroutine h
  have hwritten := writtenAs_routine hroutine style
  rwa [hplain, initializers_of_not_isDefinition hplain, String.append_empty] at hwritten

/-- A prototype is told to be no definition and has no body. -/
theorem writtenAs_prototype (hroutine : e.routine? = some r) (offset : Nat) (style : Style) :
    (e.prototype offset).WrittenAs style (e.word?.elim
      (r.signatureSteps false (e.signature style)) (r.assignedSteps (e.signature style))) := by
  have hnew : (e.prototype offset).routine? = some (r.toDecl offset) := by
    cases e <;> cases hroutine <;> rfl
  have hsignature : (e.prototype offset).signature style = e.signature style := by
    cases e with
    | function f => exact f.signature_toDecl offset style
    | method m => exact m.signature_toDecl offset style
    | constructor c => exact c.signature_toDecl offset style
    | _ => rfl
  have hword : (e.prototype offset).word? = e.word? := by
    cases e <;> rfl
  have hassigned : (r.toDecl offset).assignedSteps (e.signature style) =
      r.assignedSteps (e.signature style) :=
    funext fun word => r.assignedSteps_toDecl offset _ word
  have hwritten := writtenAs_of_told hnew rfl style
  rwa [hword, hsignature, r.signatureSteps_toDecl, hassigned] at hwritten

theorem writtenAs_withDefinition_false (hroutine : e.routine? = some r) (style : Style) :
    (e.withDefinition (some false)).WrittenAs style (e.word?.elim
      (r.signatureSteps false (e.signature style)) (r.assignedSteps (e.signature style))) := by
  have hnew : (e.withDefinition (some false)).routine? =
      some { r with definition := some false } := by
    cases e <;> cases hroutine <;> rfl
  have hsignature : (e.withDefinition (some false)).signature style = e.signature style := by
    cases e <;> rfl
  have hword : (e.withDefinition (some false)).word? = e.word? := by
    cases e <;> rfl
  have hwritten := writtenAs_of_told hnew rfl style
  rwa [hword, hsignature] at hwritten

/-- Taking the prototype twice is taking it once. -/
theorem prototype_prototype (m n : Nat) (e : Entity) :
    (e.prototype m).prototype n = e.prototype (m + n) := by
  cases e with
  | function f => simp [prototype, Function.toDecl, Callable.toDecl_toDecl, CType.shifted_shifted]
  | method f => simp [prototype, Method.toDecl, Callable.toDecl_toDecl, CType.shifted_shifted]
  | constructor c => simp [prototype, Constructor.toDecl, Callable.toDecl_toDecl]
  | destructor d => simp [prototype, Destructor.toDecl, Routine.toDecl_toDecl]
  | _ => rfl

/-- Wherever there is room for comments: the lines of the documentation, and the signature with a
semicolon behind it. -/
def ShowsPrototype (e : Entity) (doc : Option Doc) (signature : Style → String) : Prop :=
  ∀ l : Layout, 0 < l.style.docWidth → ∃ steps top out,
    e.steps? l.style = some steps ∧ l.run (docSteps doc) = .ok top ∧ l.run steps = .ok out ∧
    out.depth = l.depth ∧
    out.lines = top.lines ++ l.style.placed l.depth (signature l.style ++ ";")

theorem showsPrototype {doc : Option Doc} (hdoc : r.doc = doc) {signature : Style → String}
    (hwritten : ∀ style, e.WrittenAs style (r.signatureSteps false (signature style))) :
    e.ShowsPrototype doc signature := by
  subst hdoc
  intro l h
  obtain ⟨steps, hsteps, hrun⟩ := (hwritten l.style).run h
  exact ⟨steps, _, _, hsteps, Layout.run_eq_ok h _, hrun,
    Layout.depth_writeAll_of_nested (r.nested_signatureSteps false _) l,
    r.lines_signatureSteps_false _ l⟩

theorem bodyHeader_of_no_word (style : Style) (h : e.word? = none) :
    e.bodyHeader style = e.signature style ++ e.initializers := by
  cases e with
  | constructor c =>
    have hflag : (c.isDefault || c.isDelete) = false := by
      cases hdefault : c.isDefault <;> cases hdelete : c.isDelete <;>
        simp [word?, bodyWord?, hdefault, hdelete] at h ⊢
    rw [bodyHeader, hflag]
    rfl
  | _ => simp [bodyHeader, signature, initializers]

/-- A routine is shown as a definition exactly if it is one and no word takes the place of the
body. -/
theorem showsBody_iff (hroutine : e.routine? = some r) :
    e.ShowsBody r ↔ e.word? = none ∧ e.isDefinition = true := by
  have hwritten := writtenAs_routine hroutine
  constructor
  · intro hbody
    have hword : e.word? = none := by
      by_contra hsome
      obtain ⟨word, hword⟩ := Option.ne_none_iff_exists'.mp hsome
      obtain ⟨steps, hsteps, hrun⟩ := (hwritten {}).run (l := { style := {} }) (by decide)
      rw [hword] at hrun
      exact hbody.lines_ne_placed hsteps hrun _ _ (r.lines_assignedSteps _ _ _)
    refine ⟨hword, ?_⟩
    by_contra hplain
    obtain ⟨steps, hsteps, hrun⟩ := (hwritten {}).run (l := { style := {} }) (by decide)
    rw [hword, Bool.eq_false_iff.mpr hplain] at hrun
    exact hbody.lines_ne_placed hsteps hrun _ _ (r.lines_signatureSteps_false _ _)
  · rintro ⟨hword, hdefined⟩ l h
    obtain ⟨steps, hsteps, hrun⟩ := (hwritten l.style).run h
    rw [hword, hdefined, ← bodyHeader_of_no_word l.style hword] at hrun
    exact ⟨steps, _, _, hsteps, Layout.run_eq_ok h _, hrun,
      Layout.depth_writeAll_of_nested (r.nested_signatureSteps true _) l,
      fun item _ => Layout.exists_run_linesAt h item.steps, r.lines_signatureSteps _ h⟩

/-- A prototype is made by a call that cannot fail, and the routine stays as it is. -/
theorem call?_toDecl (hroutine : e.routine? = some r) :
    ∃ call, e.call? .toDecl [] = some call ∧ ∀ ledger, ∃ last,
      call ledger = ((.ok (.value (.entity (e.prototype ledger.next))), e), last) ∧
        last.warnings = ledger.warnings := by
  cases e <;> cases hroutine <;> exact ⟨_, rfl, fun _ => ⟨_, rfl, rfl⟩⟩

theorem call?_setDefinition (hroutine : e.routine? = some r) :
    ∃ call, e.call? .setDefinition [.bool false] = some call ∧ ∀ ledger, ∃ last,
      call ledger = ((.ok .itself, e.withDefinition (some false)), last) := by
  cases e <;> cases hroutine <;> exact ⟨_, rfl, fun _ => ⟨_, rfl⟩⟩

theorem assignTo_definition (hroutine : e.routine? = some r) (ledger : Ledger) :
    ∃ last, e.assignTo "definition" (.bool false) ledger =
      ((.ok (), e.withDefinition (some false)), last) := by
  cases e <;> cases hroutine <;> exact ⟨_, rfl⟩

/-- A prototype can be taken of a routine in any state. The routine stays as it is, the prototype
is written as the routine is once its definition is set to false, and a prototype of a prototype
is one of the routine. Where the routine is shown with its body, the prototype has the same
documentation and the same signature, without member initializers, and nothing behind the
semicolon. -/
theorem prototype_agrees (hroutine : e.routine? = some r) :
    (∃ call, e.call? .toDecl [] = some call ∧ ∀ ledger, ∃ last,
      call ledger = ((.ok (.value (.entity (e.prototype ledger.next))), e), last) ∧
        last.warnings = ledger.warnings) ∧
    (∃ call, e.call? .setDefinition [.bool false] = some call ∧ ∀ ledger, ∃ last,
      call ledger = ((.ok .itself, e.withDefinition (some false)), last)) ∧
    (∀ ledger, ∃ last, e.assignTo "definition" (.bool false) ledger =
      ((.ok (), e.withDefinition (some false)), last)) ∧
    (∀ offset style, (e.prototype offset).text style =
      (e.withDefinition (some false)).text style) ∧
    (∀ m n, (e.prototype m).prototype n = e.prototype (m + n)) ∧
    (e.ShowsBody r → ∀ offset,
      (e.prototype offset).ShowsPrototype r.doc (e.signature ·) ∧
      ∀ style, e.bodyHeader style = e.signature style ++ e.initializers) := by
  refine ⟨call?_toDecl hroutine, call?_setDefinition hroutine, assignTo_definition hroutine,
    fun offset style => ?_, fun m n => prototype_prototype m n e, fun hbody offset => ?_⟩
  · rw [(writtenAs_prototype hroutine offset style).text_eq,
      (writtenAs_withDefinition_false hroutine style).text_eq]
  · obtain ⟨hword, -⟩ := (showsBody_iff hroutine).mp hbody
    refine ⟨showsPrototype rfl fun style => ?_, fun style => bodyHeader_of_no_word style hword⟩
    have hprototype := writtenAs_prototype hroutine offset style
    rwa [hword] at hprototype

/-- A constructor with a member initializer and without a body of its own. -/
theorem prototype_agrees_initializer :
    let c : Constructor := { id := 1, name := ⟨"T", by decide⟩, initializers := ["x(0)"] }
    (Entity.constructor c).ShowsBody c.toRoutine ∧
      (Entity.constructor c).text {} = .ok ("\n".intercalate [r"T() : x(0) {", r"}", ""]) ∧
      ((Entity.constructor c).prototype 7).ShowsPrototype c.doc
        ((Entity.constructor c).signature ·) ∧
      ((Entity.constructor c).prototype 7).text {} = .ok "T();\n" := by
  intro c
  have hbody : (Entity.constructor c).ShowsBody c.toRoutine :=
    (showsBody_iff rfl).mpr ⟨by decide, by decide⟩
  obtain ⟨-, -, -, htext, -, hshown⟩ := prototype_agrees (e := .constructor c) rfl
  refine ⟨hbody, by decide +kernel, (hshown hbody 7).1, ?_⟩
  rw [htext]
  decide +kernel

end Entity

end CWriter

import CWriter.Proofs.Layout.Writing

/-!
# Runs that succeed

Whether a run of steps succeeds is decided by the style alone: each comment has to fit its width.
Where a run succeeds it is the fold of what its steps write, so it succeeds from every other
layout of that style as well.
-/
namespace CWriter

/-- Whether a step can be taken in a style. -/
def Step.fits (style : Style) : Step → Bool
  | .comment marker text => (commentBlock style marker text).toOption.isSome
  | _ => true

namespace Layout

theorem step_eq_ok_iff {l out : Layout} {s : Step} :
    l.step s = .ok out ↔ s.fits l.style = true ∧ l.write s = out := by
  cases s with
  | comment marker text =>
    rw [step, Step.fits, write, commentTexts]
    cases commentBlock l.style marker text with
    | error fault => simp [Except.map, Except.toOption]
    | ok texts => simp [Except.map, Except.toOption]
  | _ => simp [step, Step.fits, write]

theorem run_cons (l : Layout) (s : Step) (steps : List Step) :
    l.run (s :: steps) = l.step s >>= fun next => next.run steps := by
  rw [run, List.foldlM_cons]
  rfl

theorem run_eq_ok_iff {l out : Layout} {steps : List Step} :
    l.run steps = .ok out ↔ (∀ s ∈ steps, s.fits l.style = true) ∧ l.writeAll steps = out := by
  induction steps generalizing l with
  | nil => simp [run, writeAll, pure, Except.pure]
  | cons s steps ih =>
    rw [run_cons, writeAll_cons, List.forall_mem_cons, and_assoc, ← style_write l s, ← ih]
    cases hstep : l.step s with
    | error fault =>
      constructor
      · intro h
        cases h
      · rintro ⟨hfits, -⟩
        rw [style_write] at hfits
        cases hstep.symm.trans (step_eq_ok_iff.mpr ⟨hfits, rfl⟩)
    | ok next =>
      obtain ⟨hfits, rfl⟩ := step_eq_ok_iff.mp hstep
      simp [style_write, hfits, bind, Except.bind]

end Layout

end CWriter

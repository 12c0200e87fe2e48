import CWriter.Proofs.Layout.Writing

/-!
# Blocks that are opened and closed in pairs

In nested steps each block that is opened is closed again, and only inside a block is one closed
and opened on the same line. What holds of nested steps is proved by induction on them, and so
for every tree at once.
-/
namespace CWriter

/-- Steps in which blocks are opened and closed in pairs. `inside` says that they stand in a
block, which may then be closed and opened again. -/
inductive Nested : Bool → List Step → Prop
  | nil {inside : Bool} : Nested inside []
  | append {inside : Bool} {first second : List Step} :
    Nested inside first → Nested inside second → Nested inside (first ++ second)
  | line {inside : Bool} (text : String) : Nested inside [.line text]
  | label {inside : Bool} (text : String) : Nested inside [.label text]
  | blank {inside : Bool} (count : Int) : Nested inside [.blank count]
  | rule {inside : Bool} : Nested inside [.rule]
  | spell {inside : Bool} (numbers : List Int) : Nested inside [.spell numbers]
  | comment {inside : Bool} {marker : String} (text : String) :
    marker = "//" ∨ marker = "///" → Nested inside [.comment marker text]
  | reopen (header : String) : Nested true [.reopenBlock header]
  | block {inside : Bool} {body : List Step} (header token : String) : Nested true body →
    Nested inside ([.openBlock header r"{"] ++ body ++ [.closeBlock (r"}" ++ token)])
  | indented {inside : Bool} {body : List Step} : Nested false body →
    Nested inside ([.indent] ++ body ++ [.outdent])

namespace Nested

variable {inside : Bool}

theorem flatMap {α : Type} {f : α → List Step} {xs : List α}
    (h : ∀ x ∈ xs, Nested inside (f x)) : Nested inside (xs.flatMap f) := by
  induction xs with
  | nil => exact .nil
  | cons x xs ih =>
    rw [List.flatMap_cons]
    exact (h x (by simp)).append (ih fun y hy => h y (List.mem_cons_of_mem x hy))

theorem comment_marker {steps : List Step} (h : Nested inside steps) {marker text : String}
    (hm : .comment marker text ∈ steps) : marker = "//" ∨ marker = "///" := by
  induction h with
  | append _ _ hf hs => exact (List.mem_append.mp hm).elim hf hs
  | block _ _ _ hb => exact hb (by simpa using hm)
  | indented _ hb => exact hb (by simpa using hm)
  | comment _ hk =>
    simp only [List.mem_singleton, Step.comment.injEq] at hm
    exact hm.1 ▸ hk
  | _ => simp at hm

/-- Nested steps come back to the depth at which they started. -/
theorem foldl_levels {steps : List Step} (h : Nested inside steps) (depth : Int) :
    steps.foldl (fun depth s => depth + s.levels) depth = depth := by
  induction h generalizing depth with
  | nil => rfl
  | append _ _ hf hs => rw [List.foldl_append, hf, hs]
  | block _ _ _ hb | indented _ hb =>
    rw [List.foldl_append, List.foldl_append, hb]
    exact Int.add_neg_cancel_right depth 1
  | _ => exact Int.add_zero depth

end Nested

namespace Layout

theorem depth_writeAll (l : Layout) (steps : List Step) :
    (l.writeAll steps).depth = steps.foldl (fun depth s => depth + s.levels) l.depth := by
  induction steps generalizing l with
  | nil => rfl
  | cons s steps ih => rw [writeAll_cons, ih, depth_write, List.foldl_cons]

theorem depth_writeAll_of_nested {inside : Bool} {steps : List Step} (h : Nested inside steps)
    (l : Layout) : (l.writeAll steps).depth = l.depth := by
  rw [depth_writeAll, h.foldl_levels]

/-- Nested steps that are not part of a block leave no block just opened behind them. -/
theorem opened_writeAll_of_nested {steps : List Step} (h : Nested false steps) {l : Layout}
    (ho : l.opened = false) : (l.writeAll steps).opened = false := by
  have hall : ∀ {inside : Bool} {steps : List Step}, Nested inside steps → inside = false →
      ∀ l : Layout, l.opened = false → (l.writeAll steps).opened = false := by
    intro inside steps h
    induction h with
    | nil => exact fun _ _ ho => ho
    | append _ _ hf hs =>
      intro hi l ho
      rw [writeAll_append]
      exact hs hi _ (hf hi l ho)
    | line | label | rule => exact fun _ _ _ => rfl
    | blank count =>
      intro _ l ho
      refine Bool.eq_false_iff.mpr fun h => ?_
      simpa [Step.opens, ho] using opened_write l (.blank count) h
    | comment text _ =>
      intro _ l ho
      refine Bool.eq_false_iff.mpr fun h => ?_
      simpa [Step.opens, ho] using opened_write l (.comment _ text) h
    | reopen => exact fun hi => absurd hi (by decide)
    | block =>
      intro _ l _
      rw [writeAll_append]
      rfl
    | indented _ hb =>
      intro _ l ho
      rw [writeAll_append, writeAll_append]
      exact hb rfl _ ho
    | spell => exact fun _ _ ho => ho
  exact hall h rfl l ho

end Layout

end CWriter

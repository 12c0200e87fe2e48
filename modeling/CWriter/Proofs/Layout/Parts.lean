import CWriter.Proofs.Layout.Lines
import CWriter.Proofs.Layout.Trace
import CWriter.Proofs.ScopeLines

/-!
# Parts that stand in blocks

The lines of a part are the ones it has on its own, also where it is the first in its block. A
layout that has just opened a block differs from others in one thing, that it adds no blank
lines, and anchored steps ask for none before they have written a line.
-/
namespace CWriter

namespace Layout

/-- A step that asks for no blank lines looks at no block just opened. -/
theorem write_opened (l : Layout) (b : Bool) {s : Step} (h : s.isBlank = false) :
    ({ l with opened := b } : Layout).write s =
      { l.write s with opened := (({ l with opened := b } : Layout).write s).opened } := by
  have hstyle := (style_write { l with opened := b } s).trans (l.style_write s).symm
  have hdepth := (depth_write { l with opened := b } s).trans (l.depth_write s).symm
  have hnewest := (newest_write { l with opened := b } h).trans (newest_write l h).symm
  generalize ({ l with opened := b } : Layout).write s = written at *
  cases written
  simp_all

/-- Blank lines of anchored steps stand below a line of their own, so it does not matter whether
a block had just been opened. -/
theorem newest_writeAll_opened {steps : List Step} (h : anchored steps = true) (l : Layout)
    (b : Bool) : (({ l with opened := b } : Layout).writeAll steps).newest =
      (l.writeAll steps).newest := by
  induction steps generalizing l b with
  | nil => rfl
  | cons s steps ih =>
    simp only [anchored, Bool.and_eq_true, Bool.not_eq_true', Bool.or_eq_true] at h
    obtain ⟨hblank, hrest⟩ := h
    rw [writeAll_cons, writeAll_cons, write_opened l b hblank]
    rcases hrest with hmarks | hanchored
    · cases s with
      | line | label | openBlock => rfl
      | _ => cases hmarks
    · exact ih hanchored _ _

/-- Anchored steps add the lines that they have on their own, wherever they stand. -/
theorem lines_writeAll_anchored {l : Layout} (h : 0 < l.style.docWidth) {steps : List Step}
    (ha : anchored steps = true) :
    (l.writeAll steps).lines = l.lines ++ linesAt l.style l.depth steps := by
  have hbelow : ({ l with opened := false } : Layout) =
      (standing l.style l.depth []).below l.newest := rfl
  rw [lines, ← newest_writeAll_opened ha l false, hbelow, writeAll_below (Or.inl ha), linesAt_eq h,
    below, List.reverse_append]
  rfl

theorem opening_of_ne {header : String} (h : header ≠ "") :
    opening header r"{" = header ++ r" {" := by
  rw [opening, if_neg (by simpa using h), String.append_assoc]
  rfl

/-- A block around what comes back to the depth it starts at. -/
theorem lines_writeAll_enclosed {l : Layout} {header opener : String} {body : List Step}
    {own : List String}
    (hdepth : ((l.write (.openBlock header opener)).writeAll body).depth = l.depth + 1)
    (hbody : ((l.write (.openBlock header opener)).writeAll body).lines =
      (l.write (.openBlock header opener)).lines ++ own) (closer : String) :
    (l.writeAll ([.openBlock header opener] ++ body ++ [.closeBlock closer])).lines =
      l.lines ++ l.style.placed l.depth (opening header opener) ++ own ++
        l.style.placed l.depth closer := by
  have hstyle : ((l.write (.openBlock header opener)).writeAll body).style = l.style := by
    rw [style_writeAll, style_write]
  rw [writeAll_append, writeAll_append, writeAll_cons, writeAll_nil, writeAll_cons, writeAll_nil,
    lines_write, hbody, lines_write]
  change _ ++ Style.placed _ (_ - 1) closer = _
  rw [hstyle, hdepth, Int.add_sub_cancel]
  rfl

/-- Parts one below the other have the lines that each of them has on its own. -/
theorem lines_writeAll_flatMap {α : Type} {f : α → List Step} (hn : ∀ x, Nested false (f x))
    (ha : ∀ x, anchored (f x) = true) (xs : List α) {l : Layout} (h : 0 < l.style.docWidth) :
    (l.writeAll (xs.flatMap f)).depth = l.depth ∧
      (l.writeAll (xs.flatMap f)).lines =
        l.lines ++ xs.flatMap fun x => linesAt l.style l.depth (f x) := by
  induction xs generalizing l with
  | nil => exact ⟨rfl, (List.append_nil l.lines).symm⟩
  | cons x xs ih =>
    have hdepth := depth_writeAll_of_nested (hn x) l
    have hlines := lines_writeAll_anchored h (ha x)
    have hstyle := l.style_writeAll (f x)
    obtain ⟨hrestDepth, hrestLines⟩ := ih (l := l.writeAll (f x)) (by rwa [hstyle])
    rw [List.flatMap_cons, writeAll_append]
    refine ⟨hrestDepth.trans hdepth, ?_⟩
    rw [hrestLines, hlines, hstyle, hdepth, List.flatMap_cons, List.append_assoc]

theorem lines_writeAll_doc_line (l : Layout) (doc : Option Doc) (text : String) :
    (l.writeAll (docSteps doc ++ [.line text])).lines =
      (l.writeAll (docSteps doc)).lines ++ l.style.placed l.depth text := by
  have hdoc : Nested false (docSteps doc) := nested_docSteps doc
  rw [writeAll_append, writeAll_cons, writeAll_nil, lines_write]
  change _ ++ Style.placed _ _ _ = _
  rw [style_writeAll, depth_writeAll_of_nested hdoc]

theorem lines_writeAll_doc_block {α : Type} {f : α → List Step} (hn : ∀ x, Nested false (f x))
    (ha : ∀ x, anchored (f x) = true) (doc : Option Doc) (header closer : String) (xs : List α)
    {l : Layout} (h : 0 < l.style.docWidth) :
    (l.writeAll (docSteps doc ++
        ([.openBlock header r"{"] ++ xs.flatMap f ++ [.closeBlock closer]))).lines =
      (l.writeAll (docSteps doc)).lines ++ l.style.placed l.depth (opening header r"{") ++
        (xs.flatMap fun x => linesAt l.style (l.depth + 1) (f x)) ++
        l.style.placed l.depth closer := by
  have hdoc : Nested false (docSteps doc) := nested_docSteps doc
  rw [writeAll_append, ← l.style_writeAll (docSteps doc), ← depth_writeAll_of_nested hdoc l]
  rw [← l.style_writeAll (docSteps doc)] at h
  generalize l.writeAll (docSteps doc) = top at h ⊢
  have hstyle := top.style_write (.openBlock header r"{")
  have hdepth := top.depth_write (.openBlock header r"{")
  obtain ⟨hback, hlines⟩ := lines_writeAll_flatMap hn ha xs
    (l := top.write (.openBlock header r"{")) (by rwa [hstyle])
  rw [hstyle, hdepth] at hlines
  exact lines_writeAll_enclosed (hback.trans hdepth) hlines closer

end Layout

end CWriter

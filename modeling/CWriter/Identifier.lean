import CWriter.Text.Blank
import CWriter.Text.Quoted

/-!
Names that can stand in a declaration. Keywords and character sets are the caller's concern,
so `std::string` and `operator==` are names; a blank text and a text that spans lines are not.
-/
namespace CWriter

/-- Not blank, and free of line feeds and carriage returns. -/
def Identifier.Acceptable (s : String) : Prop :=
  Text.allBlank s.toList = false ∧ '\n' ∉ s.toList ∧ '\r' ∉ s.toList

instance (s : String) : Decidable (Identifier.Acceptable s) := by
  unfold Identifier.Acceptable; infer_instance

structure Identifier where
  text : String
  acceptable : Identifier.Acceptable text
  deriving DecidableEq

/-- Why a text is no identifier. -/
inductive IdentifierFault where
  | blank
  | lineBreak (text : String)
  deriving DecidableEq

namespace IdentifierFault

def message : IdentifierFault → String
  | blank => "identifier must be a non-empty string"
  | lineBreak text => "identifier must not contain line breaks: " ++ Text.quoted text

end IdentifierFault

namespace Identifier

/-- A blank text is reported as blank even where it holds line breaks. -/
def check (s : String) : Except IdentifierFault Identifier :=
  if h : Acceptable s then .ok ⟨s, h⟩
  else if Text.allBlank s.toList then .error .blank
  else .error (.lineBreak s)

/-- A name that no tree shows: readers start from it and replace it. -/
def placeholder : Identifier := ⟨"_", by decide⟩

theorem check_eq_ok_iff {s : String} {i : Identifier} : check s = .ok i ↔ i.text = s := by
  constructor
  · intro h
    unfold check at h
    split at h
    · cases h; rfl
    · split at h <;> cases h
  · rintro rfl
    simp [check, i.acceptable]

end Identifier

end CWriter

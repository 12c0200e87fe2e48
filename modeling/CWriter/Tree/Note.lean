import CWriter.Identifier
import CWriter.Identity
import CWriter.Layout

/-!
Documentation and plain comments, and the name and documentation that declarations share.
-/
namespace CWriter

/-- A documentation comment. Its texts are kept as given and wrapped when laid out. -/
structure Doc where
  id : Id
  texts : List String := []
  deriving DecidableEq

def Doc.steps (d : Doc) : List Step := d.texts.map (.comment "///")

/-- The steps of the documentation that a declaration may carry. -/
def docSteps : Option Doc → List Step
  | none => []
  | some d => d.steps

/-- A plain comment. A heading stands between two rules. -/
structure Comment where
  id : Id
  text : String := ""
  heading : Bool := false
  deriving DecidableEq

def Comment.steps (c : Comment) : List Step :=
  if c.heading then [.rule, .comment "//" c.text, .rule] else [.comment "//" c.text]

structure Named where
  id : Id
  name : Identifier

structure Documented extends Named where
  doc : Option Doc := none

end CWriter

import CWriter.Text.Digits
import CWriter.Text.Quoted

/-! The layout settings that all output shares. -/
namespace CWriter

structure Style where
  /-- Spaces per level of indentation. -/
  indentWidth : Int := 4
  /-- The column at which comment text is wrapped. -/
  docWidth : Int := 90
  /-- The column at which the rules around a heading end. -/
  headingWidth : Int := 100
  /-- Whether an empty parameter list is written `(void)`. -/
  voidParams : Bool := false
  /-- Blank lines between top-level declarations. -/
  blankLines : Int := 1
  deriving DecidableEq

namespace Style

def leastIndentWidth : Nat := 1
def leastDocWidth : Nat := 20
def leastHeadingWidth : Nat := 10
def leastBlankLines : Nat := 0

/-- The settings that readers accept. Later assignments may leave these bounds. -/
structure Valid (s : Style) : Prop where
  indentWidth : leastIndentWidth ≤ s.indentWidth
  docWidth : leastDocWidth ≤ s.docWidth
  headingWidth : leastHeadingWidth ≤ s.headingWidth
  blankLines : leastBlankLines ≤ s.blankLines

/-- As many spaces as `n` says, and none if it is negative. -/
def spaces (n : Int) : String := String.ofList (List.replicate n.toNat ' ')

def indentUnit (s : Style) : String := spaces s.indentWidth

/-- The indentation at a depth. Depths below zero are not indented. -/
def indentation (s : Style) (depth : Int) : String :=
  spaces (s.indentWidth.toNat * depth.toNat : Nat)

/-- The settings by their names in saved text, each with the text of its value. -/
def savedMembers (s : Style) : List (String × String) := [
  ("indent_width", toString s.indentWidth),
  ("doc_width", toString s.docWidth),
  ("heading_width", toString s.headingWidth),
  ("void_params", toString s.voidParams),
  ("blank_lines", toString s.blankLines)]

/-- A member of a saved object, as it stands on a line of its own. -/
def savedLine (member : String × String) : String := "  \"" ++ member.1 ++ "\": " ++ member.2

/-- The settings as an indented JSON object. -/
def saved (s : Style) : String :=
  r"{" ++ "\n" ++ ",\n".intercalate (s.savedMembers.map savedLine) ++ "\n" ++ r"}"

end Style

end CWriter

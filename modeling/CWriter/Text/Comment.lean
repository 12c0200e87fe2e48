import CWriter.Text.Blank
import CWriter.Text.Lines
import CWriter.Text.Tabs
import CWriter.Text.Wrap

/-!
Text that goes behind a comment marker: lines of bounded width that hold no line break and
do not end in a backslash, which would splice the next line of code into the comment.
-/
namespace CWriter.Text

/-- Comment text is set with tab stops at every fourth column. -/
def tabStop : Nat := 4

/-- A line that ends in a backslash is closed with a further comment marker. -/
def guardSplice (line : List Char) : List Char :=
  if line.getLast? = some '\\' then line ++ " //".toList else line

/-- A source line with its tabs expanded and without the blanks at its end. -/
def normalizeLine (line : List Char) : List Char :=
  trimEnd (expandTabs tabStop 0 line)

/-- Wraps one normalized line, an empty one standing for itself. Fails only when there is a
text to wrap and no room to put it. -/
def wrapLine (width : Int) (line : List Char) : Option (List (List Char)) :=
  if line.isEmpty then some [[]]
  else if width ≤ 0 then none
  else some (wrap width.toNat line)

/-- The source lines of a comment. The empty text is one empty line. -/
def sourceLines (cs : List Char) : List (List Char) :=
  match lines cs with
  | [] => [[]]
  | ls => ls

/-- The lines of a comment with text `cs`, at most `width` wide where words allow. -/
def commentLines (width : Int) (cs : List Char) : Option (List (List Char)) :=
  ((sourceLines cs).mapM fun line => wrapLine width (normalizeLine line)).map fun groups =>
    groups.flatten.map guardSplice

end CWriter.Text

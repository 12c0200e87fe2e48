import CWriter.Number.Word
import CWriter.Style
import CWriter.Text.Comment

/-!
Laying out lines of source text. Everything that can be written is described by a list of
steps; a layout takes them one after the other and holds the lines so far with the depth of
indentation. Steps never repair an unbalanced opening or closing.

A run lays out whatever is asked for, however long its numbers and lines get. Printing takes the
same steps under the limits of a machine and stops at the first one that exceeds a limit. Memory
and the stack of calls are not among the limits: there is as much of both as is needed.
-/
namespace CWriter

/-- One instruction to a layout. -/
inductive Step where
  /-- Text at the current depth; a line feed in it starts a further line. -/
  | line (text : String)
  /-- Text one level shallower than the current depth. -/
  | label (text : String)
  /-- Empty lines, topped up to a count. -/
  | blank (count : Int)
  | openBlock (header token : String)
  /-- Closes a block and opens the next one on the same line. -/
  | reopenBlock (header : String)
  | closeBlock (token : String)
  | indent
  | outdent
  /-- A rule of slashes that ends at the heading width. -/
  | rule
  /-- Text wrapped behind a comment marker. -/
  | comment (marker text : String)
  /-- Numbers put into digits, for the text that comes next. Nothing is written. -/
  | spell (numbers : List Int)
  deriving DecidableEq

/-- Why a tree has no text. -/
inductive LayoutFault where
  /-- There is comment text, and no room to wrap it in. -/
  | noRoom (width : Int)
  /-- The entity has no rendering of its own. -/
  | noRendering
  /-- A number has more digits than are written. -/
  | tooLong
  /-- Text is to be repeated more often than a machine word counts. -/
  | tooOften
  /-- Text that is repeated gets longer than a machine word counts. -/
  | tooWide
  deriving DecidableEq

structure Layout where
  style : Style
  depth : Int := 0
  /-- The lines so far, last one first. -/
  newest : List String := []
  /-- Whether the last line has just opened a block. -/
  opened : Bool := false

namespace Layout

def lines (l : Layout) : List String := l.newest.reverse

def isEmpty (l : Layout) : Bool := l.newest.isEmpty

/-- The empty lines at the end. -/
def trailing (l : Layout) : Nat := (l.newest.takeWhile (·.isEmpty)).length

/-- One line of text with its indentation; an empty line has none. -/
def indented (l : Layout) (text : List Char) : String :=
  if text.isEmpty then "" else l.style.indentation l.depth ++ String.ofList text

/-- Adds lines, given first one first. -/
def append (l : Layout) (new : List String) : Layout :=
  { l with newest := new.reverse ++ l.newest, opened := false }

def line (l : Layout) (text : String) : Layout :=
  l.append ((Text.splitWhere (· == '\n') text.toList).map l.indented)

def label (l : Layout) (text : String) : Layout :=
  l.append [l.style.indentation (l.depth - 1) ++ text]

/-- Nothing is added at the very start, or directly after a line that opens a block. -/
def blank (l : Layout) (count : Int) : Layout :=
  if l.isEmpty || l.opened then l
  else { l with newest := List.replicate (count - l.trailing).toNat "" ++ l.newest }

def move (l : Layout) (levels : Int) : Layout := { l with depth := l.depth + levels }

/-- The line that starts a block. -/
def opening (header token : String) : String :=
  if header.isEmpty then token else header ++ " " ++ token

def openBlock (l : Layout) (header token : String) : Layout :=
  { (l.line (opening header token)).move 1 with opened := true }

def reopenBlock (l : Layout) (header : String) : Layout :=
  { ((l.move (-1)).line (r"} " ++ header ++ r" {")).move 1 with opened := true }

def closeBlock (l : Layout) (token : String) : Layout := (l.move (-1)).line token

/-- A rule keeps at least four slashes. -/
def ruleLength (s : Style) (depth : Int) : Int := max (s.headingWidth - depth * s.indentWidth) 4

def rule (l : Layout) : Layout :=
  l.line (String.ofList (List.replicate (ruleLength l.style l.depth).toNat '/'))

end Layout

/-- One line of a comment behind its marker. -/
def commentLine (marker : String) (text : List Char) : String :=
  if text.isEmpty then marker else marker ++ " " ++ String.ofList text

/-- The lines of a comment with their markers. -/
def commentBlock (s : Style) (marker text : String) : Except LayoutFault (List String) :=
  match Text.commentLines s.docWidth text.toList with
  | none => .error (.noRoom s.docWidth)
  | some ls => .ok (ls.map (commentLine marker))

namespace Layout

/-- Takes one step. Only a comment can fail to be laid out. -/
def step (l : Layout) : Step → Except LayoutFault Layout
  | .line text => .ok (l.line text)
  | .label text => .ok (l.label text)
  | .blank count => .ok (l.blank count)
  | .openBlock header token => .ok (l.openBlock header token)
  | .reopenBlock header => .ok (l.reopenBlock header)
  | .closeBlock token => .ok (l.closeBlock token)
  | .indent => .ok (l.move 1)
  | .outdent => .ok (l.move (-1))
  | .rule => .ok l.rule
  | .comment marker text => (commentBlock l.style marker text).map fun ls => ls.foldl line l
  | .spell _ => .ok l

def run (l : Layout) (steps : List Step) : Except LayoutFault Layout := steps.foldlM step l

/-- A text without the line feeds at its end. -/
def trimFeeds (s : String) : String :=
  String.ofList (s.toList.reverse.dropWhile (· == '\n')).reverse

/-- The text so far: without the empty lines at its end, and closed by one line feed. -/
def text (l : Layout) : String :=
  if l.isEmpty then "" else trimFeeds ("\n".intercalate l.lines) ++ "\n"

end Layout

/-- The text of a list of steps on its own. -/
def render (s : Style) (steps : List Step) : Except LayoutFault String :=
  (Layout.run { style := s } steps).map Layout.text

namespace LayoutFault

/-- What is wrong with numbers that are to be put into digits. -/
def ofNumbers? (numbers : List Int) : Option LayoutFault :=
  if numbers.all Text.isWritable then none else some tooLong

/-- A text that numbers are put into digits for. -/
def spelt (numbers : List Int) (text : String) : Except LayoutFault String :=
  match ofNumbers? numbers with
  | some fault => .error fault
  | none => .ok text

/-- What is wrong with repeating a text of some length. A count below zero repeats nothing, and
has to fit a machine word all the same. -/
def ofRepetition? (length : Nat) (count : Int) : Option LayoutFault :=
  if !Number.fitsWord count then some tooOften
  else if !Number.fitsWord (length * count.toNat : Nat) then some tooWide
  else none

/-- What is wrong with the indentation of a line. The indentation of one level is made first, also
where the line stands at no depth. -/
def ofIndentation? (s : Style) (depth : Int) : Option LayoutFault :=
  (ofRepetition? 1 s.indentWidth).or (ofRepetition? s.indentWidth.toNat depth)

end LayoutFault

/-- The indentation of one level, where it is asked for. -/
def Style.printedUnit (s : Style) : Except LayoutFault String :=
  match LayoutFault.ofRepetition? 1 s.indentWidth with
  | some fault => .error fault
  | none => .ok s.indentUnit

/-- The depth of the lines that a step indents, if it indents any. -/
def Step.inkDepth? (depth : Int) : Step → Option Int
  | .line text => if text.isEmpty then none else some depth
  | .label _ => some (max (depth - 1) 0)
  | .openBlock header token => if (Layout.opening header token).isEmpty then none else some depth
  | .reopenBlock _ => some (depth - 1)
  | .closeBlock token => if token.isEmpty then none else some (depth - 1)
  | .rule | .comment .. => some depth
  | .blank _ | .indent | .outdent | .spell _ => none

/-- The limit that a step exceeds, if it exceeds one. A comment without room has not come so far
as to be indented. -/
def Step.excess? (s : Style) (depth : Int) (step : Step) : Option LayoutFault :=
  let ink := (step.inkDepth? depth).bind (LayoutFault.ofIndentation? s)
  match step with
  | .spell numbers => LayoutFault.ofNumbers? numbers
  | .rule => (LayoutFault.ofRepetition? 1 (Layout.ruleLength s depth)).or ink
  | .comment marker text =>
    match commentBlock s marker text with
    | .error _ => none
    | .ok _ => ink
  | _ => ink

namespace Layout

/-- Takes one step under the limits of a machine. -/
def advance (l : Layout) (s : Step) : Except LayoutFault Layout :=
  match s.excess? l.style l.depth with
  | some fault => .error fault
  | none => l.step s

/-- What a step that fails leaves behind. Blocks are left before their last line is written. -/
def abandoned (l : Layout) : Step → Layout
  | .reopenBlock _ | .closeBlock _ => l.move (-1)
  | _ => l

/-- Takes steps until one fails, and answers with the fault and with what was written by then. -/
def proceed (l : Layout) : List Step → Option LayoutFault × Layout
  | [] => (none, l)
  | s :: rest =>
    match l.advance s with
    | .error fault => (some fault, l.abandoned s)
    | .ok next => next.proceed rest

end Layout

/-- Prints a list of steps on its own: gives out its text, unless a limit is exceeded. -/
def print (s : Style) (steps : List Step) : Except LayoutFault String :=
  match Layout.proceed { style := s } steps with
  | (some fault, _) => .error fault
  | (none, l) => .ok l.text

end CWriter

import CWriter.Text.Blank

/-!
Greedy filling of lines. A source line is cut into chunks, the maximal runs of spaces and of
other characters; lines take chunks while these fit, and a chunk is never broken.
-/
namespace CWriter.Text

/-- Puts a character in front of the first chunk if both are of one sort. -/
def consChunk (c : Char) : List (List Char) → List (List Char)
  | (d :: chunk) :: rest =>
    if (c == ' ') == (d == ' ') then (c :: d :: chunk) :: rest else [c] :: (d :: chunk) :: rest
  | rest => [c] :: rest

/-- The maximal runs of spaces and of other characters, in order. -/
def chunks : List Char → List (List Char)
  | [] => []
  | c :: rest => consChunk c (chunks rest)

/-- The text of a line whose chunks are given last one first. A blank last chunk is left out,
and a line that has nothing else is no line. -/
def closeLine : List (List Char) → Option (List Char)
  | [] => none
  | last :: earlier =>
    match if allBlank last then earlier else last :: earlier with
    | [] => none
    | kept => some kept.reverse.flatten

/-- Fills lines of at most `width` characters. `line` holds the chunks of the open line, last
one first, and `begun` says that a line has been closed before. The first chunk of a line is
taken whatever its length. One blank chunk is dropped where a line starts, except at the very
start of the text. -/
def fill (width : Nat) (begun : Bool) (line : List (List Char)) :
    List (List Char) → List (List Char)
  | [] => (closeLine line).toList
  | chunk :: rest =>
    if line.isEmpty then fill width begun [chunk] rest
    else if line.flatten.length + chunk.length ≤ width then fill width begun (chunk :: line) rest
    else
      let closed := closeLine line
      let begun := begun || closed.isSome
      closed.toList ++
        (if begun && allBlank chunk then fill width begun [] rest
         else fill width begun [chunk] rest)

/-- The lines that a source line is wrapped into. -/
def wrap (width : Nat) (cs : List Char) : List (List Char) :=
  fill width false [] (chunks cs)

theorem flatten_consChunk (c : Char) (l : List (List Char)) :
    (consChunk c l).flatten = c :: l.flatten := by
  unfold consChunk
  split
  · split <;> simp
  · simp

/-- Cutting into chunks loses nothing. -/
theorem flatten_chunks (cs : List Char) : (chunks cs).flatten = cs := by
  induction cs with
  | nil => rfl
  | cons c rest ih => rw [chunks, flatten_consChunk, ih]

end CWriter.Text

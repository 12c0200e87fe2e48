/-! Cutting a text into lines: at every kind of line break, or at chosen characters only. -/
namespace CWriter.Text

/-- The characters that end a line on their own. A carriage return directly before a line
feed forms one break with it. -/
def isLineBreak (c : Char) : Bool :=
  let n := c.toNat
  (0x0a ≤ n && n ≤ 0x0d) || (0x1c ≤ n && n ≤ 0x1e) || n == 0x85 || n == 0x2028 || n == 0x2029

/-- Puts a character in front of the first piece. -/
def consHead (c : Char) : List (List Char) → List (List Char)
  | [] => [[c]]
  | l :: ls => (c :: l) :: ls

/-- The pieces between the characters that satisfy `p`: one more than there are of these. -/
def splitWhere (p : Char → Bool) : List Char → List (List Char)
  | [] => [[]]
  | c :: rest => if p c then [] :: splitWhere p rest else consHead c (splitWhere p rest)

/-- The pieces between line breaks: one more than there are breaks. -/
def segments : List Char → List (List Char)
  | [] => [[]]
  | '\r' :: '\n' :: rest => [] :: segments rest
  | c :: rest => if isLineBreak c then [] :: segments rest else consHead c (segments rest)

/-- The lines of a text. A break ends a line, so a final break opens no further line and the
empty text has none. -/
def lines (cs : List Char) : List (List Char) :=
  let pieces := segments cs
  if pieces.getLast? = some [] then pieces.dropLast else pieces

theorem splitWhere_ne_nil (p : Char → Bool) (cs : List Char) : splitWhere p cs ≠ [] := by
  cases cs with
  | nil => simp [splitWhere]
  | cons c rest =>
    simp only [splitWhere]
    split
    · simp
    · cases splitWhere p rest <;> simp [consHead]

theorem segments_ne_nil (cs : List Char) : segments cs ≠ [] := by
  fun_cases segments cs with
  | case4 c rest => cases segments rest <;> simp [consHead]
  | _ => simp

/-- A text of line breaks alone still has lines. -/
theorem lines_ne_nil {cs : List Char} (h : cs ≠ []) : lines cs ≠ [] := by
  have hpieces : segments cs ≠ [[]] := by
    fun_cases segments cs with
    | case1 => exact absurd rfl h
    | case2 rest => simpa using segments_ne_nil rest
    | case3 c rest => simpa using segments_ne_nil rest
    | case4 c rest => cases segments rest <;> simp [consHead]
  rw [lines]
  split
  · next hlast =>
    -- The piece behind the last break is dropped, and it is not the only one.
    obtain ⟨front, hfront⟩ := List.getLast?_eq_some_iff.mp hlast
    rw [hfront, List.dropLast_concat]
    rintro rfl
    exact hpieces hfront
  · exact segments_ne_nil cs

end CWriter.Text

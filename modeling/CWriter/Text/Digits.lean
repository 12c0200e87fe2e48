import CWriter.Text.Blank

/-!
Integers written in decimal digits: strictly, in digits of any script, and leniently, in ASCII
digits with superfluous zeros, underscores and a fraction of zeros.
-/
namespace CWriter.Text

/-- The code points of the zeros of the decimal digits, as of Unicode 14. The digits one to
nine follow each of them. -/
def zeros : List Nat := [
  0x30, 0x660, 0x6f0, 0x7c0, 0x966, 0x9e6, 0xa66, 0xae6, 0xb66, 0xbe6, 0xc66, 0xce6, 0xd66, 0xde6,
  0xe50, 0xed0, 0xf20, 0x1040, 0x1090, 0x17e0, 0x1810, 0x1946, 0x19d0, 0x1a80, 0x1a90, 0x1b50,
  0x1bb0, 0x1c40, 0x1c50, 0xa620, 0xa8d0, 0xa900, 0xa9d0, 0xa9f0, 0xaa50, 0xabf0, 0xff10, 0x104a0,
  0x10d30, 0x11066, 0x110f0, 0x11136, 0x111d0, 0x112f0, 0x11450, 0x114d0, 0x11650, 0x116c0,
  0x11730, 0x118e0, 0x11950, 0x11c50, 0x11d50, 0x11da0, 0x16a60, 0x16ac0, 0x16b50, 0x1d7ce,
  0x1d7d8, 0x1d7e2, 0x1d7ec, 0x1d7f6, 0x1e140, 0x1e2f0, 0x1e950, 0x1fbf0]

/-- The value of a decimal digit of any script. -/
def anyDigit? (c : Char) : Option Nat :=
  (zeros.find? fun z => z ≤ c.toNat && c.toNat < z + 10).map fun z => c.toNat - z

/-- The value of a decimal digit of any script, zero for other characters. -/
def digitValue (c : Char) : Nat := (anyDigit? c).getD 0

def digitsValue (ds : List Char) : Nat := ds.foldl (fun n d => 10 * n + digitValue d) 0

/-- Why a text is not read as an integer. -/
inductive NumeralFault where
  | unreadable
  | tooLong (digits : Nat)
  deriving DecidableEq

/-- The digits of the longest integer that is read or written. -/
def mostDigits : Nat := 4300

/-- The integers that are written in digits. The sign does not count. -/
def isWritable (n : Int) : Bool := (Nat.toDigits 10 n.natAbs).length ≤ mostDigits

/-- One more than the greatest integer that is written. -/
def writtenBound : Nat := Nat.pow 10 mostDigits

theorem isWritable_iff {n : Int} : isWritable n = true ↔ n.natAbs < writtenBound := by
  have hdigits : 0 < mostDigits := by decide
  unfold isWritable writtenBound
  generalize mostDigits = most at hdigits ⊢
  rw [decide_eq_true_iff]
  exact Nat.length_toDigits_le_iff (by decide) hdigits

/-- What is said of an integer with more digits than are read or written. -/
def digitsMessage (found : String) : String :=
  "Exceeds the limit (" ++ toString mostDigits ++ " digits) for integer string conversion" ++
    found ++ "; use sys.set_int_max_str_digits() to increase the limit"

def withSign (negative : Bool) (n : Nat) : Int := if negative then -(n : Int) else n

/-- Takes off a sign. -/
def takeSign : List Char → Bool × List Char
  | '-' :: rest => (true, rest)
  | '+' :: rest => (false, rest)
  | cs => (false, cs)

/-- No underscore stands at an end or next to another one. -/
def underscoresSeparate : List Char → Bool
  | [] => true
  | '_' :: _ => false
  | [_] => true
  | _ :: '_' :: rest => !rest.isEmpty && underscoresSeparate rest
  | _ :: rest => underscoresSeparate rest

/-- An integer in digits of any script: white space around it, a sign, and single underscores
between digits are allowed. The length is looked at before what follows the digits. -/
def readInteger (s : String) : Except NumeralFault Int :=
  let (negative, body) := takeSign (trimSpace s.toList)
  let run := body.takeWhile fun c => c == '_' || (anyDigit? c).isSome
  let digits := run.filter (· != '_')
  if digits.isEmpty || !underscoresSeparate run then .error .unreadable
  else if mostDigits < digits.length then .error (.tooLong digits.length)
  else if run.length < body.length then .error .unreadable
  else .ok (withSign negative (digitsValue digits))

/-- Drops the zeros and underscores behind a first zero. What they lead up to is kept: a digit
or a minus, or a point with the character in front of it; of zeros alone, the last character. -/
def dropZeros (last : Char) : List Char → Option (List Char)
  | [] => some [last]
  | c :: rest =>
    if c = '0' || c = '_' then dropZeros c rest
    else if c.isDigit || c = '-' then some (c :: rest)
    else if c = '.' then some (last :: c :: rest)
    else none

/-- What may have superfluous zeros in front starts with a digit, or with a minus. -/
def dropLeadingZeros : List Char → Option (List Char)
  | [] => none
  | c :: rest =>
    if c = '0' then dropZeros c rest
    else if c.isDigit || c = '-' then some (c :: rest)
    else none

/-- Leaves out a fraction that holds zeros only. -/
def dropZeroFraction (cs : List Char) : List Char :=
  match cs.dropWhile (· != '.') with
  | _ :: '0' :: zeros => if zeros.all (· == '0') then cs.takeWhile (· != '.') else cs
  | _ => cs

def dropUnderscores (cs : List Char) : List Char :=
  if underscoresSeparate cs then cs.filter (· != '_') else cs

/-- An integer behind its sign without what is superfluous in it. -/
def bare (cs : List Char) : Option (List Char) :=
  (dropLeadingZeros cs).map fun cs => dropUnderscores (dropZeroFraction cs)

/-- A text without white space around it and without what is superfluous. One plus may stand in
front, but not of a minus. -/
def cleaned (cs : List Char) : Option (List Char) :=
  match trimSpace cs with
  | '+' :: '-' :: _ => none
  | '+' :: rest => bare rest
  | '-' :: rest => (bare rest).map ('-' :: ·)
  | cs => bare cs

/-- ASCII digits behind an optional minus, of which only a lone first one may be a zero. The
length is looked at before what follows the digits. -/
def readPlain (cs : List Char) : Except NumeralFault Int :=
  let (negative, body) := match cs with
    | '-' :: rest => (true, rest)
    | cs => (false, cs)
  let digits := body.takeWhile Char.isDigit
  if digits.isEmpty || (digits.head? = some '0' && 1 < digits.length) then .error .unreadable
  else if mostDigits < digits.length then .error (.tooLong digits.length)
  else if digits.length < body.length then .error .unreadable
  else .ok (withSign negative (digitsValue digits))

/-- An integer in ASCII digits, with white space around it and whatever is superfluous. Only
where nothing is, its length counts as the fault. -/
def readLenientInteger (s : String) : Except NumeralFault Int :=
  match readPlain s.toList with
  | .error .unreadable =>
    match (cleaned s.toList).map readPlain with
    | some (.ok n) => .ok n
    | _ => .error .unreadable
  | result => result

end CWriter.Text

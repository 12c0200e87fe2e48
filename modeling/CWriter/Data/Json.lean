import CWriter.Data.Value

/-! Reading JSON text, within limits or without. Numbers that are not finite have names. -/
namespace CWriter.Json

/-- What a text may hold at most; nothing is limited where no number is given. -/
structure Limits where
  /-- How deep lists and objects nest that are not empty. -/
  nesting : Option Nat := none
  /-- How many digits the whole part of a number has. -/
  whole : Option Nat := none

def Limits.allowsWhole (limits : Limits) (length : Nat) : Bool :=
  match limits.whole with
  | none => true
  | some most => length ≤ most

def isJsonSpace (c : Char) : Bool := c == ' ' || c == '\t' || c == '\n' || c == '\r'

def skipSpace (cs : List Char) : List Char := cs.dropWhile isJsonSpace

def hexDigit? (c : Char) : Option Nat :=
  if c.isDigit then some (c.toNat - '0'.toNat)
  else if 'a' ≤ c && c ≤ 'f' then some (c.toNat - 'a'.toNat + 10)
  else if 'A' ≤ c && c ≤ 'F' then some (c.toNat - 'A'.toNat + 10)
  else none

/-- The code unit of four hexadecimal digits. -/
def unit? (a b c d : Char) : Option Nat := do
  return (((← hexDigit? a) * 16 + (← hexDigit? b)) * 16 + (← hexDigit? c)) * 16 + (← hexDigit? d)

/-- The code point of two surrogate units. -/
def pair? (high low : Nat) : Option Char :=
  if 0xd800 ≤ high && high < 0xdc00 && 0xdc00 ≤ low && low < 0xe000 then
    some (Char.ofNat (0x10000 + (high - 0xd800) * 0x400 + (low - 0xdc00)))
  else none

def escape? : Char → Option Char
  | '"' => some '"'
  | '\\' => some '\\'
  | '/' => some '/'
  | 'b' => some '\x08'
  | 'f' => some '\x0c'
  | 'n' => some '\n'
  | 'r' => some '\r'
  | 't' => some '\t'
  | _ => none

/-- Reads a text up to its closing quote. `read` holds the characters so far, last one first. -/
def text? (read : List Char) : List Char → Option (List Char × List Char)
  | [] => none
  | '"' :: rest => some (read.reverse, rest)
  | '\\' :: 'u' :: a :: b :: c :: d :: '\\' :: 'u' :: e :: f :: g :: h :: rest => do
    let high ← unit? a b c d
    if 0xd800 ≤ high && high < 0xdc00 then
      let char ← pair? high (← unit? e f g h)
      text? (char :: read) rest
    else if 0xdc00 ≤ high && high < 0xe000 then none
    else text? (Char.ofNat high :: read) ('\\' :: 'u' :: e :: f :: g :: h :: rest)
  | '\\' :: 'u' :: a :: b :: c :: d :: rest => do
    let n ← unit? a b c d
    if 0xd800 ≤ n && n < 0xe000 then none else text? (Char.ofNat n :: read) rest
  | '\\' :: c :: rest => do text? ((← escape? c) :: read) rest
  | c :: rest => if c.toNat < 0x20 then none else text? (c :: read) rest

def digits (cs : List Char) : List Char × List Char :=
  (cs.takeWhile Char.isDigit, cs.dropWhile Char.isDigit)

def value (ds : List Char) : Nat := ds.foldl (fun n d => 10 * n + (d.toNat - '0'.toNat)) 0

/-- The whole part of a number: one zero, or digits that do not start with one. -/
def whole? (cs : List Char) : Option (List Char × List Char) :=
  match digits cs with
  | ([], _) => none
  | ('0' :: _ :: _, _) => none
  | found => some found

/-- The digits behind a decimal point, if there is one. -/
def fraction? : List Char → Option (Option (List Char) × List Char)
  | '.' :: rest =>
    match digits rest with
    | ([], _) => none
    | (ds, rest) => some (some ds, rest)
  | cs => some (none, cs)

def exponentDigits? (sign : Int) (cs : List Char) : Option (Option Int × List Char) :=
  match digits cs with
  | ([], _) => none
  | (ds, rest) => some (some (sign * value ds), rest)

/-- The exponent, if there is one. -/
def exponent? (cs : List Char) : Option (Option Int × List Char) :=
  match cs with
  | c :: rest =>
    if c = 'e' || c = 'E' then
      match rest with
      | '-' :: rest => exponentDigits? (-1) rest
      | '+' :: rest => exponentDigits? 1 rest
      | rest => exponentDigits? 1 rest
    else some (none, cs)
  | [] => some (none, [])

/-- A number without its sign. -/
def number? (limits : Limits) (negative : Bool) (cs : List Char) :
    Option (Value × List Char) := do
  let (ds, rest) ← whole? cs
  guard (limits.allowsWhole ds.length)
  let (fraction, rest) ← fraction? rest
  let (exponent, rest) ← exponent? rest
  let v := match fraction, exponent with
    | none, none => .int (if negative then -(value ds : Int) else value ds)
    | fraction, exponent =>
      let places := fraction.getD []
      .float (.ofDecimal negative (value (ds ++ places)) (exponent.getD 0 - places.length))
  return (v, rest)

/-- The words for the numbers that are not finite, the sign apart. -/
def infinityWord : List Char := "Infinity".toList

def nanWord : List Char := "NaN".toList

/-- What follows a word that a text starts with. -/
def after? (word cs : List Char) : Option (List Char) :=
  if word.isPrefixOf cs then some (cs.drop word.length) else none

/-- A number or one of the words, the sign being read already. -/
def signed? (limits : Limits) (negative : Bool) (cs : List Char) : Option (Value × List Char) :=
  match after? infinityWord cs with
  | some rest => some (.float (.infinite negative), rest)
  | none => number? limits negative cs

mutual

/-- Reads a value; `fuel` bounds how many values nest or follow each other in it, and `room`
how many lists and objects that are not empty may still nest. -/
def value? (limits : Limits) : Nat → Nat → List Char → Option (Value × List Char)
  | 0, _, _ => none
  | fuel + 1, room, cs =>
    match skipSpace cs with
    | 'n' :: 'u' :: 'l' :: 'l' :: rest => some (.null, rest)
    | 't' :: 'r' :: 'u' :: 'e' :: rest => some (.bool true, rest)
    | 'f' :: 'a' :: 'l' :: 's' :: 'e' :: rest => some (.bool false, rest)
    | '"' :: rest => (text? [] rest).map fun (s, rest) => (.str (String.ofList s), rest)
    | '-' :: rest => signed? limits true rest
    | '[' :: rest =>
      match skipSpace rest, room with
      | ']' :: rest, _ => some (.list [], rest)
      | _, 0 => none
      | rest, room + 1 =>
        (items? limits fuel room rest).map fun (vs, rest) => (.list vs, rest)
    | '{' :: rest =>
      match skipSpace rest, room with
      | '}' :: rest, _ => some (.object [], rest)
      | _, 0 => none
      | rest, room + 1 =>
        (members? limits fuel room rest).map fun (ms, rest) => (.object ms, rest)
    | rest =>
      match after? nanWord rest with
      | some rest => some (.float .nan, rest)
      | none => signed? limits false rest

/-- Reads the items of a list up to its closing bracket. -/
def items? (limits : Limits) : Nat → Nat → List Char → Option (List Value × List Char)
  | 0, _, _ => none
  | fuel + 1, room, cs => do
    let (v, rest) ← value? limits fuel room cs
    match skipSpace rest with
    | ',' :: rest => (items? limits fuel room rest).map fun (vs, rest) => (v :: vs, rest)
    | ']' :: rest => some ([v], rest)
    | _ => none

/-- Reads the members of an object up to its closing brace. -/
def members? (limits : Limits) : Nat → Nat → List Char → Option (List (String × Value) × List Char)
  | 0, _, _ => none
  | fuel + 1, room, cs =>
    match skipSpace cs with
    | '"' :: rest => do
      let (name, rest) ← text? [] rest
      match skipSpace rest with
      | ':' :: rest =>
        let (v, rest) ← value? limits fuel room rest
        match skipSpace rest with
        | ',' :: rest =>
          (members? limits fuel room rest).map fun (ms, rest) =>
            ((String.ofList name, v) :: ms, rest)
        | '}' :: rest => some ([(String.ofList name, v)], rest)
        | _ => none
      | _ => none
    | _ => none

end

/-- Reads a text that holds one value and nothing else. -/
def read (limits : Limits) (s : String) : Option Value :=
  let cs := s.toList
  match value? limits (cs.length + 1) (limits.nesting.getD cs.length) cs with
  | some (v, rest) => if (skipSpace rest).isEmpty then some v else none
  | none => none

end CWriter.Json

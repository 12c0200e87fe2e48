import CWriter.Console.Columns
import CWriter.Console.Emoji
import CWriter.Console.Style
import CWriter.Text.Lines

/-!
Marked-up text, as a console shows it without its styles. A tag stands in brackets; backslashes
in front of one escape each other and then the tag. A closing tag ends the newest style of its
name, or the newest of all.
-/
namespace CWriter.Console

def isTagStart (c : Char) : Bool := ('a' ≤ c && c ≤ 'z') || c == '#' || c == '/' || c == '@'

/-- What follows the first closing bracket, with what is in front of it. No other bracket may
open before it. -/
def closeTag? : List Char → Option (List Char × List Char)
  | [] => none
  | ']' :: rest => some ([], rest)
  | '[' :: _ => none
  | c :: rest => (closeTag? rest).map fun (inside, rest) => (c :: inside, rest)

/-- The inside of a tag that a text starts with, and what follows the tag. -/
def takeTag? : List Char → Option (List Char × List Char)
  | '[' :: c :: rest =>
    if isTagStart c then (closeTag? rest).map fun (inside, rest) => (c :: inside, rest) else none
  | _ => none

theorem length_of_closeTag? {cs inside rest : List Char} (h : closeTag? cs = some (inside, rest)) :
    rest.length < cs.length := by
  fun_induction closeTag? cs generalizing inside with
  | case1 => simp at h
  | case2 r =>
    simp only [Option.some.injEq, Prod.mk.injEq] at h
    rw [← h.2, List.length_cons]
    exact Nat.lt_succ_self _
  | case3 => simp at h
  | case4 c r _ _ ih =>
    obtain ⟨⟨i, s⟩, hs, heq⟩ := Option.map_eq_some_iff.1 h
    simp only [Prod.mk.injEq] at heq
    obtain ⟨-, rfl⟩ := heq
    exact Nat.lt_succ_of_lt (ih hs)

theorem length_of_takeTag? {cs inside rest : List Char} (h : takeTag? cs = some (inside, rest)) :
    rest.length < cs.length := by
  unfold takeTag? at h
  split at h
  · split at h
    · obtain ⟨⟨i, s⟩, hs, heq⟩ := Option.map_eq_some_iff.1 h
      simp only [Prod.mk.injEq] at heq
      obtain ⟨-, rfl⟩ := heq
      have := length_of_closeTag? hs
      simp only [List.length_cons]
      omega
    · simp at h
  · simp at h

/-- A piece of marked-up text: text as it is, or a tag where it stands. -/
inductive Piece where
  | plain (text : List Char)
  | tag (position : Nat) (inside : List Char)

/-- Puts a character in front of the first piece of text. -/
def consPlain (cs : List Char) : List Piece → List Piece
  | .plain text :: rest => .plain (cs ++ text) :: rest
  | pieces => .plain cs :: pieces

/-- The pieces of marked-up text that starts at a position. Of the backslashes in front of a tag
each pair stands for one; one that is left over makes the tag plain text. -/
def pieces (position : Nat) (cs : List Char) : List Piece :=
  match cs with
  | [] => []
  | c :: rest =>
    if c = '\\' then
      let slashes := rest.takeWhile (· == '\\')
      let count := slashes.length + 1
      let rest' := rest.drop slashes.length
      match _h : takeTag? rest' with
      | some (inside, after) =>
        let shown := List.replicate (count / 2) '\\'
        let later := pieces (position + count + inside.length + 2) after
        .plain [] :: .plain shown ::
          if count % 2 = 1 then .plain ('[' :: inside ++ [']']) :: later
          else .tag (position + count) inside :: later
      | none => consPlain (c :: slashes) (pieces (position + count) rest')
    else
      match _h : takeTag? (c :: rest) with
      | some (inside, after) =>
        .plain [] :: .tag position inside :: pieces (position + inside.length + 2) after
      | none => consPlain [c] (pieces (position + 1) rest)
termination_by cs.length
decreasing_by
  · have after_lt := length_of_takeTag? _h
    have rest_le : rest'.length ≤ rest.length := by
      simp only [rest', List.length_drop]
      exact Nat.sub_le ..
    simp only [List.length_cons]
    omega
  · simp only [List.length_drop, List.length_cons]
    omega
  · have := length_of_takeTag? _h
    simpa using this
  · simp

/-- Leaves out a backslash in front of an opening bracket. -/
def unescaped : List Char → List Char
  | [] => []
  | '\\' :: '[' :: rest => '[' :: unescaped rest
  | c :: rest => c :: unescaped rest

/-- The ends of a name that ask for a picture in one of two presentations, and the code points
that choose them. -/
def presentations : List (String × Char) :=
  [("-emoji", Char.ofNat 0xfe0f), ("-text", Char.ofNat 0xfe0e)]

/-- The letters in lower case, also those with marks on them of the first block. -/
def lowered (cs : List Char) : String :=
  String.ofList <| cs.map fun c =>
    let n := c.toNat
    if 0xc0 ≤ n && n ≤ 0xde && n != 0xd7 then Char.ofNat (n + 0x20) else c.toLower

/-- What the name between two colons stands for. -/
def emojiOf? (name : List Char) : Option String :=
  match presentations.find? fun (ending, _) => ending.toList.isSuffixOf name with
  | some (ending, mark) =>
    (emoji? (lowered (name.take (name.length - ending.length)))).map (·.push mark)
  | none => emoji? (lowered name)

/-- Puts emoji in the place of their names. A name holds no blanks; an unknown one is kept, with
both of its colons. `pending` is what has been read since an opening colon, last character
first. -/
def withEmoji (pending : Option (List Char)) : List Char → List Char
  | [] => match pending with
    | some read => ':' :: read.reverse
    | none => []
  | c :: rest =>
    match pending with
    | none => if c = ':' then withEmoji (some []) rest else c :: withEmoji none rest
    | some read =>
      if c = ':' then
        match emojiOf? read.reverse with
        | some emoji => emoji.toList ++ withEmoji none rest
        | none => ':' :: read.reverse ++ [':'] ++ withEmoji none rest
      else if Text.isBlank c then ':' :: read.reverse ++ [c] ++ withEmoji none rest
      else withEmoji (some (c :: read)) rest

/-- Characters that only control a terminal and are not shown. -/
def isTerminalControl (c : Char) : Bool :=
  let n := c.toNat
  n == 0x07 || n == 0x08 || (0x0b ≤ n && n ≤ 0x0d)

/-- What is shown of a piece of plain text. -/
def shownText (cs : List Char) : List Char :=
  (withEmoji none (unescaped cs)).filter fun c => !isTerminalControl c

/-- Why a text is not shown. -/
inductive MarkupFault where
  /-- A closing tag for a style that is not open. -/
  | unmatched (tag : String) (position : Nat)
  /-- A closing tag where no style is open. -/
  | nothingOpen (position : Nat)
  deriving DecidableEq

def MarkupFault.message : MarkupFault → String
  | unmatched tag position =>
    "closing tag '" ++ tag ++ "' at position " ++ toString position ++
      " doesn't match any open tag"
  | nothingOpen position =>
    "closing tag '[/]' at position " ++ toString position ++ " has nothing to close"

/-- The part of a tag in front of its parameters. -/
def tagName (inside : List Char) : List Char := inside.takeWhile (· != '=')

/-- What is shown of pieces where styles are open, the newest first. -/
def shownPieces (styles : List String) : List Piece → Except MarkupFault (List Char)
  | [] => .ok []
  | .plain text :: rest => do return shownText text ++ (← shownPieces styles rest)
  | .tag position inside :: rest =>
    match tagName inside with
    | '/' :: name =>
      let name := Text.trim name
      if name.isEmpty then
        match styles with
        | [] => .error (.nothingOpen position)
        | _ :: others => shownPieces others rest
      else
        let name := normalName (String.ofList name)
        if styles.contains name then shownPieces (styles.erase name) rest
        else .error (.unmatched (String.ofList ('[' :: inside ++ [']'])) position)
    | name => shownPieces (normalName (String.ofList name) :: styles) rest

/-- Every eighth column of a console is a tab stop. -/
def tabStop : Nat := 8

/-- Replaces each tab by the blanks that lead to the next tab stop. -/
def expandTabs (column : Nat) : List Char → List Char
  | [] => []
  | c :: rest =>
    if c = '\t' then
      let n := tabStop - column % tabStop
      List.replicate n ' ' ++ expandTabs (column + n) rest
    else c :: expandTabs (column + columns c) rest

/-- What a console shows of marked-up text. -/
def shown (s : String) : Except MarkupFault String := do
  let cs ← shownPieces [] (pieces 0 s.toList)
  let lines := (Text.splitWhere (· == '\n') cs).map (expandTabs 0)
  return String.ofList (lines.intersperse ['\n']).flatten

end CWriter.Console

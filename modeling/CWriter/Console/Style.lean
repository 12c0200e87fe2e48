import CWriter.Console.Color

/-!
Names of console styles. A style is named by words: attributes, colors, a background color
behind `on`, an attribute that is left out behind `not`, an address behind `link`. Names that
mean the same have one normal form.
-/
namespace CWriter.Console

/-- The attributes in the order in which a normal form lists them. -/
def attributes : List String :=
  ["bold", "dim", "italic", "underline", "blink", "blink2", "reverse", "conceal", "strike",
    "underline2", "frame", "encircle", "overline"]

/-- Short names of attributes. -/
def attributeAliases : List (String × String) :=
  [("b", "bold"), ("d", "dim"), ("i", "italic"), ("u", "underline"), ("r", "reverse"),
    ("c", "conceal"), ("s", "strike"), ("uu", "underline2"), ("o", "overline")]

/-- The attribute that a word names. -/
def attribute? (word : String) : Option String :=
  if attributes.contains word then some word else attributeAliases.lookup word

/-- What the words of a name have said so far. -/
structure StyleWords where
  /-- The attributes mentioned, and whether they are to hold; newest first. -/
  flags : List (String × Bool) := []
  color : Option String := none
  background : Option String := none
  link : Option String := none

namespace StyleWords

/-- Reads the words of a name one after the other. -/
def read (s : StyleWords) : List String → Option StyleWords
  | [] => some s
  | word :: rest =>
    let lower := word.toLower
    match lower, rest with
    | "on", color :: rest =>
      if isColor color.toLower then { s with background := some color.toLower }.read rest
      else none
    | "on", [] => none
    | "not", other :: rest =>
      match attribute? other with
      | some a => { s with flags := (a, false) :: s.flags }.read rest
      | none => none
    | "not", [] => none
    | "link", address :: rest => { s with link := some address }.read rest
    | "link", [] => none
    | _, rest =>
      match attribute? lower with
      | some a => { s with flags := (a, true) :: s.flags }.read rest
      | none => if isColor lower then { s with color := some lower }.read rest else none

/-- The words in their fixed order. -/
def words (s : StyleWords) : List String :=
  attributes.filterMap (fun a => (s.flags.lookup a).map fun holds =>
    if holds then a else "not " ++ a) ++
  s.color.toList ++ s.background.toList.map ("on " ++ ·) ++ s.link.toList.map ("link " ++ ·)

end StyleWords

/-- The normal form of the name of a style; of any other text, the text in lower case without
the blanks around it. -/
def normalName (name : String) : String :=
  let pieces := Text.words name
  match if pieces == ["none"] then some {} else StyleWords.read {} pieces with
  | some s => if s.words.isEmpty then "none" else " ".intercalate s.words
  | none => (String.ofList (Text.trim name.toList)).toLower

end CWriter.Console

import CWriter.Data.Fields
import CWriter.Number.Shortest
import CWriter.Tree.Text

/-! Values as messages show them. -/
namespace CWriter.Value

/-- How many levels of a value are shown. -/
def mostLevels : Nat := 10000

/-- Named values behind each other. -/
def named (separator : String) (members : List (String × String)) : String :=
  separator.intercalate (members.map fun (name, text) => name ++ "=" ++ text)

/-- A tuple of one item has a comma behind the item. -/
def tupleText : List String → String
  | [only] => "(" ++ only ++ ",)"
  | texts => "(" ++ ", ".intercalate texts ++ ")"

/-- A value as it is shown inside another one, down to a level. -/
def exactWithin : Nat → Value → String
  | 0, _ => "..."
  | levels + 1, v =>
    let fields (members : Members) : List (String × String) :=
      members.map fun (name, v) => (name, exactWithin levels v)
    match v with
    | null => "None"
    | bool b => if b then "True" else "False"
    | int n => toString n
    | float x => x.text
    | str s => Text.quoted s
    | word w => w.exact
    | list items => "[" ++ ", ".intercalate (items.map (exactWithin levels)) ++ "]"
    | tuple items => tupleText (items.map (exactWithin levels))
    | object members =>
      r"{" ++ ", ".intercalate ((fields members).map fun (name, text) =>
        Text.quoted name ++ ": " ++ text) ++ r"}"
    | type t => t.className ++ "(" ++ named ", " (fields t.fields) ++ ")"
    | expr e => e.className ++ "(" ++ named ", " (fields e.fields) ++ ")"
    | entity e => e.className ++ "(" ++ named ", " (fields e.fields) ++ ")"

/-- A value as it is shown inside another one. -/
def exact (v : Value) : String := exactWithin mostLevels v

/-- The numbers that are put into digits where a value is shown inside another one, down to a
level. -/
def numeralsWithin : Nat → Value → List Int
  | 0, _ => []
  | levels + 1, v =>
    match v with
    | int n => [n]
    | list items | tuple items => items.flatMap (numeralsWithin levels)
    | object members => members.flatMap fun (_, v) => numeralsWithin levels v
    | v => v.fields.flatMap fun (_, v) => numeralsWithin levels v

/-- Whether an entity has no text of its own beside its fields. -/
def isPlain : Entity → Bool
  | .sheet _ | .baseClass _ | .branch _ | .case _ => true
  | _ => false

/-- Whether an entity in which some parts are followed leads back to itself. -/
def isEndless (follow : Entity → List Entity) : Value → Bool
  | entity e => e.isEndless follow mostLevels []
  | _ => false

/-- Shows a value on its own: a text stands without quotes, and an entity as its text where it
has one. -/
def print (style : Style) (v : Value) : Except LayoutFault String :=
  let spelt (text : String) := LayoutFault.spelt (numeralsWithin mostLevels v) text
  match v with
  | str s => .ok s
  | word w => .ok w.shown
  | type t => LayoutFault.spelt t.numerals t.text
  | expr e => LayoutFault.spelt e.numerals e.text
  | entity e =>
    if isPlain e then spelt (named " " (e.fields.map fun (name, v) => (name, v.exact)))
    else e.print style
  | v => spelt v.exact

/-- A value as messages show it on its own. -/
def display (v : Value) : String :=
  (v.print {}).toOption.getD ("<unprintable " ++ v.className ++ " object>")

/-- The text of a value where any value may stand. -/
def plainText (v : Value) : String := v.text?.getD v.display

end CWriter.Value

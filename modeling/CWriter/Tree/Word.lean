import CWriter.Text.Quoted
import CWriter.Tree.Data

/-!
The fixed words by which data name a visibility, the keyword of a type or a built-in type.
-/
namespace CWriter

/-- The built-in types by their names; `none` is the fixed-width integer. -/
def builtinNames : List (String × Option ScalarKind) :=
  [("void", some .void), ("bool", some .bool), ("char", some .char), ("int", none),
    ("float", some .float), ("double", some .double), ("size", some .size),
    ("uintptr", some .uintptr)]

/-- The name of a built-in type. -/
def builtinName : Option ScalarKind → String
  | none => "int"
  | some .void => "void"
  | some .bool => "bool"
  | some .char => "char"
  | some .float => "float"
  | some .double => "double"
  | some .size => "size"
  | some .uintptr => "uintptr"

theorem lookup_builtinName (kind : Option ScalarKind) :
    builtinNames.lookup (builtinName kind) = some kind := by
  rcases kind with _ | kind
  · decide
  · cases kind <;> decide

/-- A member of one of the enumerations. -/
inductive Word where
  | visibility (v : Visibility)
  | tag (t : TypeTag)
  | builtin (kind : Option ScalarKind)
  deriving DecidableEq

namespace Word

/-- The word as data hold it. -/
def text : Word → String
  | visibility v => v.text
  | tag t => t.text
  | builtin kind => builtinName kind

/-- The enumeration that a word belongs to. -/
def enumeration : Word → String
  | visibility _ => "Visibility"
  | tag _ => "TypeTag"
  | builtin _ => "PrimitiveKind"

/-- The word with its enumeration, as a message shows it. -/
def shown (w : Word) : String := w.enumeration ++ "." ++ w.text.toUpper

/-- The word with its enumeration and its text, as it is shown inside other values. -/
def exact (w : Word) : String := "<" ++ w.shown ++ ": " ++ Text.quoted w.text ++ ">"

end Word

end CWriter

import CWriter.Data.Json
import CWriter.Build.Edit
import CWriter.Schema.Notes

/-! Layout settings from a saved file and from the environment. -/
namespace CWriter.StyleSheet

/-- The limits of saved settings. -/
def limits : Json.Limits := { nesting := some 200, whole := some 4300 }

/-- Reads saved settings. -/
def load (text : String) : Check StyleSheet :=
  match Json.read limits text with
  | none => Check.fail .malformedJson
  | some (.object members) => schema.build members
  | some _ => Check.fail .notObject

/-- The words for yes in the environment. -/
def yesWords : List String := ["1", "true", "yes", "on"]

def isYes (s : String) : Bool :=
  yesWords.contains (String.ofList ((Text.trim s.toList).map Char.toLower))

/-- The settings that are numbers, in the order in which they are looked at. -/
def numberSettings : List String := ["indent_width", "doc_width", "heading_width", "blank_lines"]

/-- A setting of the environment; an empty one counts as none. -/
def setting? (environment : List (String × String)) (name : String) : Option String :=
  (environment.lookup name).filter (!·.isEmpty)

/-- The numbers that the environment sets; the first text that is none is a fault. -/
def numbers (environment : List (String × String)) : List String → Except Fault Members
  | [] => .ok []
  | name :: rest =>
    match setting? environment name with
    | none => numbers environment rest
    | some text =>
      match Text.readInteger text with
      | .error fault => .error (.numeral text fault)
      | .ok n => return (name, .int n) :: (← numbers environment rest)

/-- The members that the environment sets. -/
def ofEnvironment (environment : List (String × String)) : Except Fault Members := do
  let flag := (setting? environment "void_params").toList.map fun text =>
    ("void_params", .bool (isYes text))
  return (← numbers environment numberSettings) ++ flag

end CWriter.StyleSheet

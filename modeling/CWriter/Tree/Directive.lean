import CWriter.Tree.Note

/-! Preprocessor directives that stand alone: inclusions and macro definitions. -/
namespace CWriter

structure Include where
  id : Id
  path : Identifier
  system : Bool := false
  comment : Option String := none

namespace Include

def target (i : Include) : String :=
  if i.system then "<" ++ i.path.text ++ ">" else "\"" ++ i.path.text ++ "\""

/-- The remark behind the directive; an empty one is left out. -/
def remark (i : Include) : String :=
  match i.comment with
  | none => ""
  | some text => if text.isEmpty then "" else "  // " ++ text

def steps (i : Include) : List Step := [.line ("#include " ++ i.target ++ i.remark)]

end Include

/-- A macro definition. Its arguments are plain texts. -/
structure Macro extends Documented where
  args : List String := []
  value : Option String := none

namespace Macro

def head (m : Macro) : String :=
  "#define " ++ m.name.text ++
    (if m.args.isEmpty then "" else "(" ++ ", ".intercalate m.args ++ ")")

/-- The lines of the replacement text. An empty text counts as none. -/
def valueLines (m : Macro) : List String :=
  match m.value with
  | none => []
  | some text => (Text.lines text.toList).map String.ofList

/-- The follow-up lines of a definition: all but the last are continued. -/
def continuation : List String → List Step
  | [] => []
  | [last] => [.line last]
  | text :: rest => .line (text ++ " \\") :: continuation rest

/-- A replacement text of several lines is continued by backslashes, its follow-up lines
indented by one level. -/
def steps (m : Macro) : List Step :=
  docSteps m.doc ++
    match m.valueLines with
    | [] => [.line m.head]
    | [only] => [.line (m.head ++ " " ++ only)]
    | first :: rest =>
      [.line (m.head ++ " " ++ first ++ " \\"), .indent] ++ continuation rest ++ [.outdent]

end Macro

end CWriter

import CWriter.Console.Markup
import CWriter.Files.Tree
import CWriter.Tree.Scope

/-! Saving the text of a scope in a file. -/
namespace CWriter

/-- Why a scope is not saved. -/
inductive SaveFault where
  | noTarget
  | layout (fault : LayoutFault)
  /-- The path holds the null character, which is not the system's to refuse. -/
  | nullInPath
  | refused (target : FilePath) (fault : FileFault)

namespace SaveFault

def message : SaveFault → String
  | noTarget => "Scope has no filename and no explicit path was given"
  | layout _ => ""
  | nullInPath => "embedded null byte"
  | refused target fault => "Failed to write " ++ target.text ++ ": " ++ fault.message

/-- Where the scope should have gone. -/
def target? : SaveFault → Option FilePath
  | refused target _ => some target
  | _ => none

/-- The class of what was behind the fault. -/
def cause? : SaveFault → Option String
  | refused _ fault => some fault.className
  | _ => none

end SaveFault

/-- Where to save a scope: under an explicit path, or else under its own file name in a
directory. -/
structure Destination where
  path : Option String := none
  directory : Option String := none

def Destination.target? (d : Destination) (filename : Option String) : Option FilePath :=
  match d.path, filename with
  | some path, _ => some (.ofString path)
  | none, some name =>
    if name.isEmpty then none
    else some ((FilePath.ofString (d.directory.getD "")).join (.ofString name))
  | none, none => none

/-- Writes a file and makes the directories that lead to it. Directories that were made stay
where the file cannot be written. -/
def FileTree.write (files : FileTree) (target : FilePath) (text : String) :
    Except SaveFault Unit × FileTree :=
  if target.parent.holdsNull then (.error .nullInPath, files)
  else
    match files.makeAll target.parent.reversed with
    | .error e => (.error (.refused target e), files)
    | .ok made =>
      if target.holdsNull then (.error .nullInPath, made)
      else
        match made.writeInPlace target text with
        | .error e => (.error (.refused target e), made)
        | .ok written => (.ok (), written)

/-- Saves a scope and answers with the place of the file. -/
def Scope.save (s : Scope) (style : Style) (d : Destination) (files : FileTree) :
    Except SaveFault (List String) × FileTree :=
  match d.target? s.filename with
  | none => (.error .noTarget, files)
  | some target =>
    match s.print style with
    | .error e => (.error (.layout e), files)
    | .ok text =>
      match files.write target text with
      | (.ok (), files) => (.ok target.location, files)
      | (.error e, files) => (.error e, files)

/-- A message between the tags of a style, as a console shows it. Brackets in the message mark
it up as well. -/
def printed (style message : String) : Except Console.MarkupFault String :=
  Console.shown ("[" ++ style ++ "]" ++ message ++ "[/" ++ style ++ "]")

/-- What is said about the outcome of saving, below a directory. -/
def saveReport (base : String) :
    Except SaveFault (List String) → Option (Except Console.MarkupFault String)
  | .ok place => some (printed "bold green" ("Wrote " ++ "/".intercalate (base :: place)))
  | .error (.refused target e) => some (printed "bold red" (SaveFault.refused target e).message)
  | .error _ => none

end CWriter

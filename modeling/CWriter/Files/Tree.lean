import CWriter.Text.Quoted

/-! Files and directories below one directory, and the paths that lead to them. -/
namespace CWriter

/-- A path in parts, last one first. It holds no empty part and no `.`; the path without parts
is the directory itself. -/
structure FilePath where
  reversed : List String
  deriving DecidableEq

namespace FilePath

/-- Cuts a text at its slashes. -/
def ofString (s : String) : FilePath :=
  ⟨((s.splitOn "/").filter fun part => !(part.isEmpty || part == ".")).reverse⟩

def text (p : FilePath) : String :=
  if p.reversed.isEmpty then "." else "/".intercalate p.reversed.reverse

/-- A path that goes on from another one. -/
def join (p q : FilePath) : FilePath := ⟨q.reversed ++ p.reversed⟩

def parent (p : FilePath) : FilePath := ⟨p.reversed.tail⟩

/-- The bytes of the longest part and of the longest path that the system takes. -/
def longestPart : Nat := 255

def longestPath : Nat := 4095

def isTooLong (p : FilePath) : Bool := longestPath < p.text.utf8ByteSize

/-- No path may hold the null character. -/
def holdsNull (p : FilePath) : Bool := p.reversed.any fun part => part.toList.contains '\x00'

/-- The way to a path, first step first, without the steps that lead up again. -/
def location (p : FilePath) : List String :=
  p.reversed.foldr (fun part place => if part = ".." then place.dropLast else place ++ [part]) []

end FilePath

/-- Why the system refuses to write. -/
inductive FileFault where
  | alreadyThere (path : FilePath)
  | notDirectory (path : FilePath)
  | isDirectory (path : FilePath)
  | nameTooLong (path : FilePath)
  deriving DecidableEq

namespace FileFault

def message : FileFault → String
  | alreadyThere path => "[Errno 17] File exists: " ++ Text.quoted path.text
  | notDirectory path => "[Errno 20] Not a directory: " ++ Text.quoted path.text
  | isDirectory path => "[Errno 21] Is a directory: " ++ Text.quoted path.text
  | nameTooLong path => "[Errno 36] File name too long: " ++ Text.quoted path.text

/-- The class of the fault. -/
def className : FileFault → String
  | alreadyThere _ => "FileExistsError"
  | notDirectory _ => "NotADirectoryError"
  | isDirectory _ => "IsADirectoryError"
  | nameTooLong _ => "OSError"

end FileFault

/-- What stands at a place; where a part of the way there is too long, nothing can. -/
inductive FileKind where
  | missing | file | directory | tooLong
  deriving DecidableEq

structure FileTree where
  files : List (List String × String) := []
  directories : List (List String) := []

namespace FileTree

def kind (t : FileTree) (place : List String) : FileKind :=
  if (t.files.lookup place).isSome then .file
  else if place.isEmpty || t.directories.contains place ||
      t.files.any (fun (other, _) => place.isPrefixOf other) then .directory
  else .missing

/-- What stands on the way to a path whose parts are given last one first: the first thing
that is no directory, or a directory. -/
def way (t : FileTree) : List String → FileKind
  | [] => .directory
  | last :: up =>
    match t.way up with
    | .directory =>
      if FilePath.longestPart < last.utf8ByteSize then .tooLong
      else t.kind (FilePath.location ⟨last :: up⟩)
    | other => other

/-- What a path leads to, if the system takes the path at all. -/
def find (t : FileTree) (p : FilePath) : FileKind :=
  if p.isTooLong then .tooLong else t.way p.reversed

/-- Makes one directory. There is no answer where its parent is missing. -/
def makeOne (t : FileTree) (p : FilePath) : Option (Except FileFault FileTree) :=
  if p.isTooLong then some (.error (.nameTooLong p))
  else
    match t.way p.parent.reversed, t.way p.reversed with
    | .missing, _ => none
    | .file, _ => some (.error (.notDirectory p))
    | .tooLong, _ | .directory, .tooLong => some (.error (.nameTooLong p))
    | .directory, .missing => some (.ok { t with directories := p.location :: t.directories })
    | .directory, .directory => some (.ok t)
    | .directory, .file => some (.error (.alreadyThere p))

/-- Makes a directory and all that lead to it, unless they are there. -/
def makeAll (t : FileTree) : List String → Except FileFault FileTree
  | [] => .ok t
  | last :: up =>
    match t.makeOne ⟨last :: up⟩ with
    | some answer => answer
    | none =>
      match t.makeAll up with
      | .error e => .error e
      | .ok t => (t.makeOne ⟨last :: up⟩).getD (.ok t)

/-- Puts a text in the place of whatever the file held. -/
def put (t : FileTree) (place : List String) (text : String) : FileTree :=
  { t with files := (t.files.filter fun (other, _) => other != place) ++ [(place, text)] }

/-- Writes a file where its directory is there already. -/
def writeInPlace (t : FileTree) (p : FilePath) (text : String) : Except FileFault FileTree :=
  match t.find p with
  | .directory => .error (.isDirectory p)
  | .tooLong => .error (.nameTooLong p)
  | .file | .missing => .ok (t.put p.location text)

end FileTree

end CWriter

import CWriter.Tree.Routine

/-!
Classes. Members stand in the order they were added; they are written in one group for each
visibility, the groups in the order in which their visibility first occurs, and inside a group
the data before the constructors, the destructor and the methods.
-/
namespace CWriter

/-- A base of a class. -/
structure BaseClass where
  id : Id
  name : String
  visibility : Visibility := .everyone

def BaseClass.text (b : BaseClass) : String := b.visibility.text ++ " " ++ b.name

inductive Member where
  | attr (a : Attribute)
  | constructor (c : Constructor)
  | destructor (d : Destructor)
  | method (m : Method)

/-- The sorts of members, in the order of a group. -/
inductive MemberSort where
  | attr | constructor | destructor | method
  deriving DecidableEq

namespace MemberSort

def all : List MemberSort := [attr, constructor, destructor, method]

end MemberSort

namespace Member

def sort : Member → MemberSort
  | attr _ => .attr
  | constructor _ => .constructor
  | destructor _ => .destructor
  | method _ => .method

def visibility : Member → Visibility
  | attr a => a.visibility
  | constructor c => c.visibility
  | destructor d => d.visibility
  | method m => m.visibility

def name : Member → Identifier
  | attr a => a.name
  | constructor c => c.name
  | destructor d => d.name
  | method m => m.name

def steps (style : Style) : Member → List Step
  | attr a => a.steps
  | constructor c => c.steps style
  | destructor d => d.steps
  | method m => m.steps style

/-- Gives a constructor or destructor the name of its class. Other members keep theirs. -/
def renamed (name : Identifier) : Member → Member
  | constructor c => constructor { c with name }
  | destructor d => destructor { d with name }
  | m => m

end Member

structure Class extends Documented where
  bases : List BaseClass := []
  members : List Member := []

namespace Class

/-- The visibilities in use, in the order of their first use. -/
def groups (c : Class) : List Visibility :=
  (c.members.map Member.visibility).foldl
    (fun seen v => if seen.contains v then seen else seen ++ [v]) []

def header (c : Class) : String :=
  "class " ++ c.name.text ++
    (if c.bases.isEmpty then "" else " : " ++ ", ".intercalate (c.bases.map BaseClass.text))

/-- The members of one group in the order in which they are written. -/
def groupMembers (c : Class) (v : Visibility) : List Member :=
  MemberSort.all.flatMap fun s => c.members.filter fun m => m.sort == s && m.visibility == v

def groupSteps (style : Style) (c : Class) (v : Visibility) : List Step :=
  [.label (v.text ++ ":")] ++ (c.groupMembers v).flatMap (Member.steps style)

/-- Groups one after the other with a blank line between them. -/
def groupsSteps (style : Style) (c : Class) : List Visibility → List Step
  | [] => []
  | [last] => c.groupSteps style last
  | v :: rest => c.groupSteps style v ++ [.blank 1] ++ groupsSteps style c rest

def steps (style : Style) (c : Class) : List Step :=
  docSteps c.doc ++ [.openBlock c.header r"{"] ++ c.groupsSteps style c.groups ++
    [.closeBlock r"};"]

def type (c : Class) : CType := .named {} c.name none

end Class

end CWriter

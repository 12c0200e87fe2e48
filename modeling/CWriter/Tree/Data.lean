import CWriter.CType
import CWriter.Tree.Note

/-! Declarations of data: fields, class attributes, parameters and variables. -/
namespace CWriter

/-- Who may use a class member. -/
inductive Visibility where
  | everyone | heirs | owner
  deriving DecidableEq

def Visibility.text : Visibility → String
  | everyone => "public"
  | heirs => "protected"
  | owner => "private"

/-- The width of a bit field. -/
structure BitWidth where
  bits : Nat
  positive : 1 ≤ bits
  deriving DecidableEq

/-- A declaration with an optional bit-field width. -/
def bitFieldText (type : CType) (name : Identifier) (width : Option BitWidth) : String :=
  type.declare name.text ++
    match width with
    | none => ""
    | some w => " : " ++ toString w.bits

/-- The numbers in a declaration with an optional bit-field width. -/
def bitFieldNumerals (type : CType) (width : Option BitWidth) : List Int :=
  type.numerals ++ (width.map fun w => (w.bits : Int)).toList

/-- An initializer behind a declaration. -/
def initializerText : Option String → String
  | none => ""
  | some value => " = " ++ value

/-- A member of a struct or union. -/
structure Field extends Documented where
  type : CType
  width : Option BitWidth := none

namespace Field

def declaration (f : Field) : String := bitFieldText f.type f.name f.width

def numerals (f : Field) : List Int := bitFieldNumerals f.type f.width

def steps (f : Field) : List Step :=
  docSteps f.doc ++ [.spell f.numerals, .line (f.declaration ++ ";")]

end Field

/-- A data member of a class. -/
structure Attribute extends Field where
  visibility : Visibility := .owner
  isStatic : Bool := false
  value : Option String := none

namespace Attribute

def steps (a : Attribute) : List Step :=
  docSteps a.doc ++ [.spell a.numerals, .line ((if a.isStatic then "static " else "") ++
    a.declaration ++ initializerText a.value ++ ";")]

end Attribute

/-- A parameter of a function. It is written only as a part of the parameter list. -/
structure Param extends Named where
  type : CType
  default : Option String := none

def Param.declaration (p : Param) : String :=
  p.type.declare p.name.text ++ initializerText p.default

/-- A variable at file scope or in a body. -/
structure Variable extends Documented where
  type : CType
  value : Option String := none
  isStatic : Bool := false
  isExtern : Bool := false

namespace Variable

def storage (v : Variable) : String :=
  if v.isExtern then "extern " else if v.isStatic then "static " else ""

/-- The declaration line. An external variable has no initializer here. -/
def declaration (v : Variable) : String :=
  v.storage ++ v.type.declare v.name.text ++
    (if v.isExtern then "" else initializerText v.value) ++ ";"

def steps (v : Variable) : List Step :=
  docSteps v.doc ++ [.spell v.type.numerals, .line v.declaration]

end Variable

end CWriter

import CWriter.Identifier
import CWriter.Identity

/-!
C and C++ types, and the text that declares a name with one. The declarator grows from the
name outwards: each pointer, reference and array layer wraps what was collected so far, and
the base type comes in front of it all.
-/
namespace CWriter

structure Qualifiers where
  isConst : Bool := false
  isVolatile : Bool := false
  deriving DecidableEq

/-- The qualifier keywords that hold, in their fixed order. -/
def Qualifiers.words (q : Qualifiers) : List String :=
  (if q.isConst then ["const"] else []) ++ (if q.isVolatile then ["volatile"] else [])

def Qualifiers.text (q : Qualifiers) : String := " ".intercalate q.words

/-- The widths of the fixed-width integer types. -/
inductive IntWidth where
  | w8 | w16 | w32 | w64
  deriving DecidableEq

def IntWidth.bits : IntWidth → Nat
  | w8 => 8
  | w16 => 16
  | w32 => 32
  | w64 => 64

def IntWidth.ofBits? (n : Nat) : Option IntWidth :=
  if n = 8 then some w8 else if n = 16 then some w16 else if n = 32 then some w32
  else if n = 64 then some w64 else none

/-- The built-in types other than the fixed-width integers. -/
inductive ScalarKind where
  | void | bool | char | float | double | size | uintptr
  deriving DecidableEq

namespace ScalarKind

/-- The names of scalar types that do not depend on the sign. -/
def fixedNames : List (ScalarKind × String) :=
  [(void, "void"), (bool, "bool"), (float, "float"), (double, "double"), (size, "size_t"),
    (uintptr, "uintptr_t")]

/-- Every scalar type but that of characters has a fixed name. -/
theorem isSome_lookup_fixedNames {kind : ScalarKind} (h : kind ≠ char) :
    (fixedNames.lookup kind).isSome = true := by
  cases kind with
  | char => exact absurd rfl h
  | _ => rfl

/-- The spelling of a scalar type. Only characters have an unsigned form. -/
def text (signed : Bool) (kind : ScalarKind) : String :=
  if h : kind = char then (if signed then "char" else "unsigned char")
  else (fixedNames.lookup kind).get (isSome_lookup_fixedNames h)

def isInteger : ScalarKind → Bool
  | char | bool | size | uintptr => true
  | void | float | double => false

end ScalarKind

/-- The keyword of an elaborated type. -/
inductive TypeTag where
  | struct | union | enum
  deriving DecidableEq

def TypeTag.text : TypeTag → String
  | struct => "struct"
  | union => "union"
  | enum => "enum"

/-- A type. The qualifiers of a pointer belong to the pointer and not to what it points at. -/
inductive CType where
  | integer (quals : Qualifiers) (width : Option IntWidth) (signed : Bool)
  | scalar (quals : Qualifiers) (kind : ScalarKind) (width : Option Nat) (signed : Bool)
  | named (quals : Qualifiers) (name : Identifier) (tag : Option TypeTag)
  | template (quals : Qualifiers) (name : Identifier) (args : List CType)
  | pointer (inner : CType) (quals : Qualifiers)
  | reference (inner : CType) (rvalue : Bool)
  | array (inner : CType) (size : Option Nat)
  /-- A type that someone may hold on to. It means the same as without its identity. -/
  | shared (id : Id) (type : CType)

namespace CType

/-- Puts the marker of a pointer or reference in front of a declarator. The two are written
together where the declarator starts with a bracket, and where two bare markers meet. -/
def applyMarker (marker declarator : String) : String :=
  match declarator.toList with
  | [] => marker
  | c :: _ =>
    if c = '[' || ((c = '*' || c = '&') && [ "*", "&", "&&"].contains marker) then
      marker ++ declarator
    else marker ++ " " ++ declarator

/-- Puts a base type in front of a declarator. -/
def applyBase (base declarator : String) : String :=
  match declarator.toList with
  | [] => base
  | c :: _ => if c = '[' then base ++ declarator else base ++ " " ++ declarator

/-- Puts an array suffix behind a declarator, in parentheses if it starts with a marker. -/
def applySuffix (suffix declarator : String) : String :=
  match declarator.toList with
  | [] => suffix
  | c :: _ =>
    if c = '*' || c = '&' then "(" ++ declarator ++ ")" ++ suffix else declarator ++ suffix

def qualify (quals : Qualifiers) (base : String) : String :=
  if quals.text.isEmpty then base else quals.text ++ " " ++ base

/-- An integer type without a width has 64 bits. -/
def integerName (width : Option IntWidth) (signed : Bool) : String :=
  (if signed then "int" else "uint") ++ toString (width.getD .w64).bits ++ "_t"

def namedText (name : Identifier) : Option TypeTag → String
  | none => name.text
  | some tag => tag.text ++ " " ++ name.text

def templateText (name : Identifier) (args : List String) : String :=
  if args.isEmpty then name.text else name.text ++ "<" ++ ", ".intercalate args ++ ">"

def pointerMarker (quals : Qualifiers) : String :=
  if quals.text.isEmpty then "*" else "* " ++ quals.text

def referenceMarker (rvalue : Bool) : String := if rvalue then "&&" else "&"

def arraySuffix : Option Nat → String
  | none => "[]"
  | some n => "[" ++ toString n ++ "]"

mutual

/-- The declaration of `declarator` with a type; with the empty declarator, the type itself. -/
def declare : CType → String → String
  | integer quals width signed, d => applyBase (qualify quals (integerName width signed)) d
  | scalar quals kind _ signed, d => applyBase (qualify quals (kind.text signed)) d
  | named quals name tag, d => applyBase (qualify quals (namedText name tag)) d
  | template quals name args, d =>
    applyBase (qualify quals (templateText name (declareAll args))) d
  | pointer inner quals, d => inner.declare (applyMarker (pointerMarker quals) d)
  | reference inner rvalue, d => inner.declare (applyMarker (referenceMarker rvalue) d)
  | array inner size, d => inner.declare (applySuffix (arraySuffix size) d)
  | shared _ type, d => type.declare d

/-- The texts of template arguments. -/
def declareAll : List CType → List String
  | [] => []
  | t :: ts => t.declare "" :: declareAll ts

end

/-- A type on its own. -/
def text (t : CType) : String := t.declare ""

mutual

/-- The numbers that are put into digits where a name is declared with a type. -/
def numerals : CType → List Int
  | integer .. | scalar .. | named .. => []
  | template _ _ args => numeralsAll args
  | pointer inner _ | reference inner _ => inner.numerals
  | array inner size => (size.map Int.ofNat).toList ++ inner.numerals
  | shared _ type => type.numerals

def numeralsAll : List CType → List Int
  | [] => []
  | t :: ts => t.numerals ++ numeralsAll ts

end

def void : CType := scalar {} .void none true

/-- A type without its own identity; what it is made of keeps theirs. -/
def bare : CType → CType
  | shared _ type => type.bare
  | type => type

def id? : CType → Option Id
  | shared id _ => some id
  | _ => none

def isPointer : CType → Bool
  | pointer .. => true
  | shared _ type => type.isPointer
  | _ => false

def isInteger : CType → Bool
  | integer .. => true
  | scalar _ kind _ _ => kind.isInteger
  | shared _ type => type.isInteger
  | _ => false

/-- Changes the qualifiers of a type that has some. The result is another type. -/
def mapQualifiers (f : Qualifiers → Qualifiers) : CType → Option CType
  | integer q w s => some (integer (f q) w s)
  | scalar q k w s => some (scalar (f q) k w s)
  | named q n t => some (named (f q) n t)
  | template q n as => some (template (f q) n as)
  | pointer t q => some (pointer t (f q))
  | reference .. | array .. => none
  | shared _ type => type.mapQualifiers f

def const? : CType → Option CType := mapQualifiers fun q => { q with isConst := true }

def volatile? : CType → Option CType := mapQualifiers fun q => { q with isVolatile := true }

mutual

/-- The same type made of other objects, whose identities are counted from an offset on. -/
def shifted (offset : Nat) : CType → CType
  | integer q w s => integer q w s
  | scalar q k w s => scalar q k w s
  | named q n t => named q n t
  | template q n args => template q n (shiftedAll offset args)
  | pointer t q => pointer (t.shifted offset) q
  | reference t r => reference (t.shifted offset) r
  | array t n => array (t.shifted offset) n
  | shared id t => shared (id + offset) (t.shifted offset)

def shiftedAll (offset : Nat) : List CType → List CType
  | [] => []
  | t :: ts => t.shifted offset :: shiftedAll offset ts

end

end CType

end CWriter

import CWriter.Tree.Statement

/-!
Functions, methods, constructors and destructors. Whether one is written as a prototype or as
a definition is set by `definition`; without a setting, it is a definition once it has a body.
-/
namespace CWriter

structure Routine extends Documented where
  body : List BodyItem := []
  definition : Option Bool := none

structure Callable extends Routine where
  params : List Param := []

structure Function extends Callable where
  returnType : CType := .void
  isStatic : Bool := false
  isInline : Bool := false
  isExtern : Bool := false

/-- A member function. It is never external. -/
structure Method extends Callable where
  visibility : Visibility := .owner
  returnType : CType := .void
  isStatic : Bool := false
  isInline : Bool := false
  isVirtual : Bool := false
  isPure : Bool := false
  isConst : Bool := false
  isOverride : Bool := false

/-- A constructor. Its name is that of the class it belongs to. -/
structure Constructor extends Callable where
  visibility : Visibility := .everyone
  initializers : List String := []
  isExplicit : Bool := false
  isDefault : Bool := false
  isDelete : Bool := false
  isCopy : Bool := false
  isMove : Bool := false

/-- A destructor. Its name is that of the class it belongs to. -/
structure Destructor extends Routine where
  visibility : Visibility := .everyone
  isVirtual : Bool := false
  isDefault : Bool := false
  isPure : Bool := false

/-- The words whose flags hold. -/
def chosen (words : List (Bool × String)) : List String :=
  words.filterMap fun (holds, word) => if holds then some word else none

namespace Routine

def isDefinition (r : Routine) : Bool :=
  match r.definition with
  | some decided => decided
  | none => !r.body.isEmpty

/-- A signature that is ended as a prototype, or opens the body. -/
def signatureSteps (r : Routine) (isDefinition : Bool) (signature : String) : List Step :=
  docSteps r.doc ++
    if isDefinition then
      [.openBlock signature r"{"] ++ bodySteps r.body ++ [.closeBlock r"}"]
    else [.line (signature ++ ";")]

/-- A signature with `= word` in the place of a body. -/
def assignedLine (signature word : String) : Step := .line (signature ++ " = " ++ word ++ ";")

def assignedSteps (r : Routine) (signature word : String) : List Step :=
  docSteps r.doc ++ [assignedLine signature word]

end Routine

/-- Parameters as they stand between the parentheses. -/
def paramTexts (params : List Param) : List String := params.map Param.declaration

def paramNumerals (params : List Param) : List Int := params.flatMap fun p => p.type.numerals

def paramList (style : Style) (params : List Param) : String :=
  if params.isEmpty then (if style.voidParams then "void" else "")
  else ", ".intercalate (paramTexts params)

/-- The words of a signature around its declarator. -/
def signatureText (specifiers : List String) (type : CType) (name : Identifier)
    (params : String) (qualifiers : List String) : String :=
  " ".intercalate
    (specifiers ++ [type.declare (name.text ++ "(" ++ params ++ ")")] ++ qualifiers)

namespace Function

/-- The declaration line up to its end or its opening brace. -/
def signature (f : Function) (style : Style) : String :=
  signatureText
    (chosen [(f.isExtern, "extern"), (f.isStatic, "static"), (f.isInline, "inline")])
    f.returnType f.name (paramList style f.params) []

/-- The numbers in the signature. -/
def numerals (f : Function) : List Int := paramNumerals f.params ++ f.returnType.numerals

/-- The signature is put together before anything is written. -/
def steps (style : Style) (f : Function) : List Step :=
  .spell f.numerals :: f.signatureSteps f.isDefinition (f.signature style)

end Function

namespace Method

def signature (m : Method) (style : Style) : String :=
  signatureText
    (chosen [(m.isStatic, "static"), (m.isInline, "inline"), (m.isVirtual, "virtual")])
    m.returnType m.name (paramList style m.params)
    (chosen [(m.isConst, "const"), (m.isOverride, "override")])

def numerals (m : Method) : List Int := paramNumerals m.params ++ m.returnType.numerals

/-- A pure method has no body, whatever has been put into it. Its signature is put together once
the documentation is written. -/
def steps (style : Style) (m : Method) : List Step :=
  if m.isPure then
    docSteps m.doc ++ [.spell m.numerals, Routine.assignedLine (m.signature style) "0"]
  else .spell m.numerals :: m.signatureSteps m.isDefinition (m.signature style)

end Method

namespace Constructor

/-- The parameter that a copy or move constructor takes first. -/
def otherParam (c : Constructor) : String :=
  let own (quals : Qualifiers) : CType := .named quals c.name none
  let type : CType :=
    if c.isMove then .reference (own {}) true else .reference (own { isConst := true }) false
  type.declare "other"

def paramText (c : Constructor) (style : Style) : String :=
  if c.isCopy || c.isMove then ", ".intercalate (c.otherParam :: paramTexts c.params)
  else paramList style c.params

/-- Member initializers make a constructor a definition, unless something else is set. -/
def isDefinition (c : Constructor) : Bool :=
  (!c.initializers.isEmpty && c.definition.isNone) || c.toRoutine.isDefinition

def signature (c : Constructor) (style : Style) : String :=
  (if c.isExplicit then "explicit " else "") ++ c.name.text ++ "(" ++ c.paramText style ++ ")"

def initializerList (c : Constructor) : String :=
  if c.initializers.isEmpty || !c.isDefinition then ""
  else " : " ++ ", ".intercalate c.initializers

def steps (style : Style) (c : Constructor) : List Step :=
  .spell (paramNumerals c.params) ::
    if c.isDefault then c.assignedSteps (c.signature style) "default"
    else if c.isDelete then c.assignedSteps (c.signature style) "delete"
    else c.signatureSteps c.isDefinition (c.signature style ++ c.initializerList)

end Constructor

namespace Destructor

def signature (d : Destructor) : String :=
  (if d.isVirtual then "virtual " else "") ++ "~" ++ d.name.text ++ "()"

def steps (d : Destructor) : List Step :=
  if d.isDefault then d.assignedSteps d.signature "default"
  else if d.isPure then d.assignedSteps d.signature "0"
  else d.signatureSteps d.isDefinition d.signature

end Destructor

end CWriter

/-!
What can be asked of an object. One verb may mean something to several classes; the arguments
stand in a fixed order, every one of them given.
-/
namespace CWriter

inductive Verb where
  /- Types and expressions. -/
  | const | volatile | pointer | reference | array | declare | isInteger | isPointer
  | member | methodCall | index | deref | address
  /- Whatever has a text. -/
  | text | declaration | header | toType
  /- Notes and directives. -/
  | pushDoc | addText | docLines | setHeading | setSystem | setComment | newArg
  /- Data. -/
  | setValue | setDefault | setBitWidth | setVisibility
  | newField | pushField | fieldByName | fieldAt | annotate
  | newVariant | pushVariant | variantByName
  /- Flags. -/
  | setStatic | setExtern | setInline | setVirtual | setPure | setConst | setOverride
  | setExplicit | setDelete | setCopy | setMove | setGuard
  /- Functions and whatever is like them. -/
  | setBody | pushLine | setDefinition | isDefinition | toDecl
  | newParam | pushParam | paramByName | setReturnType | signature | pushInitializer
  /- Classes. -/
  | setBase | addBase | newAttribute | newMethod | newConstructor | newDestructor | pushMember
  | attributeByName | methodByName | groups
  /- Bodies. -/
  | isEmpty | push | pushRaw | newComment | newVariable | assign | evaluate | call
  | giveBack | jump | label | newIf | newWhile | newDoWhile | newFor | newSwitch
  | thenBlock | newElseIf | elseBlock | newCase | defaultBlock
  /- Scopes. -/
  | setFilename | newInclude | newMacro | newStruct | newUnion | newEnum | newClass
  | newFunction | newDoc | newIfDef | newIncludeGuard | thenScope | elseScope
  deriving DecidableEq

end CWriter

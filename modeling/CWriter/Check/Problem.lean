import CWriter.Data.Shown

/-! What can be wrong with a value, where, and in which words it is reported. -/
namespace CWriter

inductive Complaint where
  | missing
  | notText
  | notList
  | notTuple
  /-- Neither an object nor an instance of the class. -/
  | notInstance (className : String)
  /-- Nothing that a tag could be read from. -/
  | notTaggable
  | noTag (key : String)
  | unknownTag (tag key : String) (expected : List String)
  /-- The value is not one of the fixed ones, given as they are written. -/
  | notFixed (choices : List String)
  /-- The text names no member of an enumeration. -/
  | notMember (names : List String)
  | identifier (fault : IdentifierFault)
  | noJumpTarget
  /-- A number that is to be shown has more digits than are written. -/
  | unwritable
  | tooSmall (least : Nat)
  | notInteger
  | fractional
  | notFinite
  | unreadableInteger
  /-- More digits, or a greater number, than is read as an integer. -/
  | oversizedInteger
  | notBoolean
  | unreadableBoolean
  | notExpression
  /-- Checks nest in checks as deep as they may. -/
  | tooDeep
  /-- An entity is put into itself. -/
  | cyclic
  | frozen
  | noAttribute (name : String)
  | malformedJson
  | notObject
  deriving DecidableEq

namespace Complaint

def inQuotes (s : String) : String := "'" ++ s ++ "'"

/-- Alternatives in a sentence: commas between them, and `or` in front of the last. -/
def alternatives : List String → String
  | [] => ""
  | [only] => only
  | [one, other] => one ++ " or " ++ other
  | one :: rest => one ++ ", " ++ alternatives rest

def message : Complaint → String
  | missing => "Field required"
  | notText => "Input should be a valid string"
  | notList => "Input should be a valid list"
  | notTuple => "Input should be a valid tuple"
  | notInstance className => "Input should be a valid dictionary or instance of " ++ className
  | notTaggable => "Input should be a valid dictionary or object to extract fields from"
  | noTag key => "Unable to extract tag using discriminator " ++ inQuotes key
  | unknownTag tag key expected =>
    "Input tag " ++ inQuotes tag ++ " found using " ++ inQuotes key ++
      " does not match any of the expected tags: " ++ ", ".intercalate (expected.map inQuotes)
  | notFixed choices => "Input should be " ++ alternatives choices
  | notMember names => "Input should be " ++ alternatives (names.map inQuotes)
  | identifier fault => "Value error, " ++ fault.message
  | noJumpTarget => "Value error, goto requires a target label"
  | unwritable => "Value error, " ++ Text.digitsMessage ""
  | tooSmall least => "Input should be greater than or equal to " ++ toString least
  | notInteger => "Input should be a valid integer"
  | fractional => "Input should be a valid integer, got a number with a fractional part"
  | notFinite => "Input should be a finite number"
  | unreadableInteger =>
    "Input should be a valid integer, unable to parse string as an integer"
  | oversizedInteger =>
    "Unable to parse input string as an integer, exceeded maximum size"
  | notBoolean => "Input should be a valid boolean"
  | unreadableBoolean => "Input should be a valid boolean, unable to interpret input"
  | notExpression => "Invalid expression"
  | tooDeep => "Recursion error - maximum validation depth exceeded"
  | cyclic => "Recursion error - cyclic reference detected"
  | frozen => "Instance is frozen"
  | noAttribute name => "Object has no attribute " ++ inQuotes name
  | malformedJson => "Invalid JSON"
  | notObject => "Input should be an object"

/-- The short word for the kind of complaint. -/
def code : Complaint → String
  | missing => "missing"
  | notText => "string_type"
  | notList => "list_type"
  | notTuple => "tuple_type"
  | notInstance _ => "model_type"
  | notTaggable => "model_attributes_type"
  | noTag _ => "union_tag_not_found"
  | unknownTag .. => "union_tag_invalid"
  | notFixed _ => "literal_error"
  | notMember _ => "enum"
  | identifier _ => "value_error"
  | noJumpTarget => "value_error"
  | unwritable => "value_error"
  | tooSmall _ => "greater_than_equal"
  | notInteger => "int_type"
  | fractional => "int_from_float"
  | notFinite => "finite_number"
  | unreadableInteger => "int_parsing"
  | oversizedInteger => "int_parsing_size"
  | notBoolean => "bool_type"
  | unreadableBoolean => "bool_parsing"
  | notExpression => "expr"
  | tooDeep => "recursion_depth_exceeded"
  | cyclic => "recursion_loop"
  | frozen => "frozen_instance"
  | noAttribute _ => "no_such_attribute"
  | malformedJson => "json_invalid"
  | notObject => "model_type"

end Complaint

/-- A complaint with the path that leads to the value it is about. -/
structure Problem where
  path : List String
  complaint : Complaint
  deriving DecidableEq

namespace Problem

def line (p : Problem) : String :=
  ".".intercalate p.path ++ ": " ++ p.complaint.message ++ " [" ++ p.complaint.code ++ "]"

/-- The same problem, seen from one level further out. -/
def under (segment : String) (p : Problem) : Problem := { p with path := segment :: p.path }

end Problem

end CWriter

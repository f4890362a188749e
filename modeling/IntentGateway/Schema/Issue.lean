import IntentGateway.Value.Basic

/-! # Issues found in a received value

A value that does not have the shape asked for is reported with every issue found in it: what is
wrong, where, and with which part.
-/

namespace IntentGateway.Schema

/-- A step on the way to a part of a value. -/
inductive Segment where
  | key (name : String)
  | index (i : Nat)
  deriving Repr, DecidableEq

/-- What is wrong with a part of a value. -/
inductive Fault where
  | missing
  | notRecord (name : String)
  | notString
  /-- A string or bytes that are no text. -/
  | illFormedString
  | notInteger
  /-- A text that is no integer. -/
  | unreadableInteger
  | oversizedInteger
  | fractional
  | notFinite
  | notBoolean
  /-- A text or an integer that is no truth value. -/
  | unreadableBoolean
  /-- A text that is no number. -/
  | unreadableNumber
  | notList
  | notMap
  | notAbove (bound : Int)
  | below (bound : Int)
  | above (bound : Int)
  | notAmong (choices : List String)
  | notLiteral (text : String)
  /-- A field's own parser refused the text. -/
  | refused (message : String)
  deriving Repr, DecidableEq

/-- The tag of a fault on the wire. -/
def Fault.tag : Fault → String
  | .missing => "missing"
  | .notRecord _ => "model_type"
  | .notString => "string_type"
  | .illFormedString => "string_unicode"
  | .notInteger => "int_type"
  | .unreadableInteger => "int_parsing"
  | .oversizedInteger => "int_parsing_size"
  | .fractional => "int_from_float"
  | .notFinite => "finite_number"
  | .notBoolean => "bool_type"
  | .unreadableBoolean => "bool_parsing"
  | .unreadableNumber => "float_parsing"
  | .notList => "list_type"
  | .notMap => "dict_type"
  | .notAbove _ => "greater_than"
  | .below _ => "greater_than_equal"
  | .above _ => "less_than_equal"
  | .notAmong _ => "enum"
  | .notLiteral _ => "literal_error"
  | .refused _ => "value_error"

/-- Choices in single quotes, with `or` before the last one. -/
def listChoices : List String → String
  | [] => ""
  | [choice] => "'" ++ choice ++ "'"
  | [choice, last] => "'" ++ choice ++ "' or '" ++ last ++ "'"
  | choice :: rest => "'" ++ choice ++ "', " ++ listChoices rest

/-- The words of a fault. -/
def Fault.message : Fault → String
  | .missing => "Field required"
  | .notRecord name => "Input should be a valid dictionary or instance of " ++ name
  | .notString => "Input should be a valid string"
  | .illFormedString =>
    "Input should be a valid string, unable to parse raw data as a unicode string"
  | .notInteger => "Input should be a valid integer"
  | .unreadableInteger =>
    "Input should be a valid integer, unable to parse string as an integer"
  | .oversizedInteger =>
    "Unable to parse input string as an integer, exceeded maximum size"
  | .fractional => "Input should be a valid integer, got a number with a fractional part"
  | .notFinite => "Input should be a finite number"
  | .notBoolean => "Input should be a valid boolean"
  | .unreadableBoolean => "Input should be a valid boolean, unable to interpret input"
  | .unreadableNumber => "Input should be a valid number, unable to parse string as a number"
  | .notList => "Input should be a valid list"
  | .notMap => "Input should be a valid dictionary"
  | .notAbove bound => "Input should be greater than " ++ toString bound
  | .below bound => "Input should be greater than or equal to " ++ toString bound
  | .above bound => "Input should be less than or equal to " ++ toString bound
  | .notAmong choices => "Input should be " ++ listChoices choices
  | .notLiteral text => "Input should be '" ++ text ++ "'"
  | .refused message => "Value error, " ++ message

/-- A fault, the way to the faulty part, and the part. Of a missing part the enclosing map is given.
-/
structure Issue where
  fault : Fault
  path : List Segment
  input : Value
  deriving Repr

/-- The issue as seen from outside the part that a segment leads to. -/
def Issue.under (segment : Segment) (issue : Issue) : Issue :=
  { issue with path := segment :: issue.path }

/-- A segment as a value. -/
def Segment.toValue : Segment → Value
  | .key name => .str name
  | .index i => .int i

/-- An issue as it is reported. -/
def Issue.toValue (issue : Issue) : Value :=
  .map [("type", .str issue.fault.tag), ("loc", .list (issue.path.map Segment.toValue)),
    ("msg", .str issue.fault.message), ("input", issue.input)]

end IntentGateway.Schema

import RecordQuery.Value.Text
/-!
What a validation finds wrong, where, and with which words.
-/

namespace RecordQuery

/-- What is wrong with a value that was validated. -/
inductive Complaint
  | textExpected
  | textTooShort (least : Nat)
  | textTooLong (most : Nat)
  | textPattern (pattern : String)
  /-- Bytes that are no text in UTF-8. -/
  | textEncoding
  | tupleExpected
  | dictExpected
  | fieldMissing
  | wordExpected (word : String)
  | patternExpected
  | textPatternExpected
  | patternSource
  | classExpected
  | rangeExpected
  | callableExpected
  | frozen
  /-- A complaint of the given type in words of its own, about the given things. -/
  | custom (type message : String) (context : List (String × Value))

def characters (n : Nat) : String :=
  toString n ++ (if n = 1 then " character" else " characters")

namespace Complaint

def type : Complaint → String
  | .textExpected => "string_type"
  | .textTooShort _ => "string_too_short"
  | .textTooLong _ => "string_too_long"
  | .textPattern _ => "string_pattern_mismatch"
  | .textEncoding => "string_unicode"
  | .tupleExpected => "tuple_type"
  | .dictExpected => "dict_type"
  | .fieldMissing => "missing"
  | .wordExpected _ => "literal_error"
  | .patternExpected => "pattern_type"
  | .textPatternExpected => "pattern_str_type"
  | .patternSource => "pattern_regex"
  | .classExpected => "is_type"
  | .rangeExpected => "is_instance_of"
  | .callableExpected => "callable_type"
  | .frozen => "frozen_instance"
  | .custom type .. => type

def message : Complaint → String
  | .textExpected => "Input should be a valid string"
  | .textTooShort least => "String should have at least " ++ characters least
  | .textTooLong most => "String should have at most " ++ characters most
  | .textPattern pattern => "String should match pattern '" ++ pattern ++ "'"
  | .textEncoding =>
    "Input should be a valid string, unable to parse raw data as a unicode string"
  | .tupleExpected => "Input should be a valid tuple"
  | .dictExpected => "Input should be a valid dictionary"
  | .fieldMissing => "Field required"
  | .wordExpected word => "Input should be '" ++ word ++ "'"
  | .patternExpected => "Input should be a valid pattern"
  | .textPatternExpected => "Input should be a string pattern"
  | .patternSource => "Input should be a valid regular expression"
  | .classExpected => "Input should be a type"
  | .rangeExpected => "Input should be an instance of range"
  | .callableExpected => "Input should be callable"
  | .frozen => "Instance is frozen"
  | .custom _ message _ => message

def context : Complaint → List (String × Value)
  | .textTooShort least => [("min_length", .int least)]
  | .textTooLong most => [("max_length", .int most)]
  | .textPattern pattern => [("pattern", .text pattern)]
  | .wordExpected word => [("expected", .text ("'" ++ word ++ "'"))]
  | .rangeExpected => [("class", .text "range")]
  | .custom _ _ context => context
  | _ => []

end Complaint

/-- A complaint about one part of a value: the path to the part, of names and positions, and what was
found there. -/
structure Issue where
  complaint : Complaint
  location : List Value
  input : Value

/-- All complaints of one validation. -/
structure Report where
  title : String
  issues : List Issue

end RecordQuery

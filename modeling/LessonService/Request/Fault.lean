import LessonService.Content

namespace LessonService.Request

/-- What can be wrong with a part of a request. -/
inductive Fault where
  | missing
  | unexpected
  | notText
  | notEncodable
  | tooShort (least : Nat)
  | notRecord
  | notWhole
  | tooManyDigits
  | below (least : Int)
  | above (greatest : Int)
  /-- None of the names that are allowed. -/
  | notNamed (names : List Text)
  | malformed (message : Text)
deriving DecidableEq

namespace Fault

def kind : Fault → Text
  | missing => "missing"
  | unexpected => "extra_forbidden"
  | notText => "string_type"
  | notEncodable => "string_unicode"
  | tooShort _ => "string_too_short"
  | notRecord => "model_attributes_type"
  | notWhole => "int_parsing"
  | tooManyDigits => "int_parsing_size"
  | below _ => "greater_than_equal"
  | above _ => "less_than_equal"
  | notNamed _ => "literal_error"
  | malformed _ => "json_invalid"

/-- Names in quotes, with an "or" before the last. -/
def choice (names : List Text) : Text :=
  let quoted : List Text := names.map fun n => "'" ++ n ++ "'"
  match quoted.getLast? with
  | none => []
  | some last =>
    if quoted.length = 1 then last else Text.join ", " quoted.dropLast ++ " or " ++ last

def message : Fault → Text
  | missing => "Field required"
  | unexpected => "Extra inputs are not permitted"
  | notText => "Input should be a valid string"
  | notEncodable => "Input should be a valid string, unable to parse raw data as a unicode string"
  | tooShort least =>
    "String should have at least " ++ Text.ofNat least ++ " character" ++ (if least = 1 then ([] : Text) else "s")
  | notRecord => "Input should be a valid dictionary or object to extract fields from"
  | notWhole => "Input should be a valid integer, unable to parse string as an integer"
  | tooManyDigits => "Unable to parse input string as an integer, exceeded maximum size"
  | below least => "Input should be greater than or equal to " ++ Text.ofInt least
  | above greatest => "Input should be less than or equal to " ++ Text.ofInt greatest
  | notNamed names => "Input should be " ++ choice names
  | malformed _ => "JSON decode error"

/-- What the message depends on. -/
def context : Fault → List (Text × Content)
  | tooShort least => [("min_length", .ofInt least)]
  | below least => [("ge", .ofInt least)]
  | above greatest => [("le", .ofInt greatest)]
  | notNamed names => [("expected", .text (choice names))]
  | malformed m => [("error", .text m)]
  | _ => []

end Fault

/-- A fault and the place where it is. -/
structure PlacedFault where
  place : List Content
  fault : Fault

def PlacedFault.describe (f : PlacedFault) : Content :=
  let always : List (Text × Content) := [
    ("type", .text f.fault.kind), ("loc", .tuple f.place), ("msg", .text f.fault.message)]
  let context : List (Text × Content) := [("ctx", .record f.fault.context)]
  .record (if f.fault.context.isEmpty then always else always ++ context)

end LessonService.Request

import TenantGateway.Json.Value

/-! # Problems of a value

What can be wrong with a value that someone else wrote, and where in it.
-/
namespace TenantGateway.Schema

inductive Step where
  | key (name : String)
  | index (i : Nat)
  deriving DecidableEq, Repr

inductive Complaint where
  | missing
  | unknown
  | text
  | tooShort (least : Nat)
  | whole
  | wholeText
  | fraction
  | notFinite
  | tooLarge
  | real
  | realText
  | truth
  | truthText
  | list
  | dictionary
  | record (model : String)
  | body
  | refused (reason : String)
  deriving DecidableEq, Repr

namespace Complaint

def code : Complaint → String
  | .missing => "missing"
  | .unknown => "extra_forbidden"
  | .text => "string_type"
  | .tooShort _ => "string_too_short"
  | .whole => "int_type"
  | .wholeText => "int_parsing"
  | .fraction => "int_from_float"
  | .notFinite => "finite_number"
  | .tooLarge => "int_parsing_size"
  | .real => "float_type"
  | .realText => "float_parsing"
  | .truth => "bool_type"
  | .truthText => "bool_parsing"
  | .list => "list_type"
  | .dictionary => "dict_type"
  | .record _ => "model_type"
  | .body => "model_attributes_type"
  | .refused _ => "value_error"

def message : Complaint → String
  | .missing => "Field required"
  | .unknown => "Extra inputs are not permitted"
  | .text => "Input should be a valid string"
  | .tooShort least =>
    "String should have at least " ++ toString least ++
      if least = 1 then " character" else " characters"
  | .whole => "Input should be a valid integer"
  | .wholeText => "Input should be a valid integer, unable to parse string as an integer"
  | .fraction => "Input should be a valid integer, got a number with a fractional part"
  | .notFinite => "Input should be a finite number"
  | .tooLarge => "Unable to parse input string as an integer, exceeded maximum size"
  | .real => "Input should be a valid number"
  | .realText => "Input should be a valid number, unable to parse string as a number"
  | .truth => "Input should be a valid boolean"
  | .truthText => "Input should be a valid boolean, unable to interpret input"
  | .list => "Input should be a valid list"
  | .dictionary => "Input should be a valid dictionary"
  | .record model => "Input should be a valid dictionary or instance of " ++ model
  | .body => "Input should be a valid dictionary or object to extract fields from"
  | .refused reason => "Value error, " ++ reason

def context? : Complaint → Option Json
  | .tooShort least => some (.obj [("min_length", .int least)])
  | .refused _ => some (.obj [("error", .obj [])])
  | _ => none

end Complaint

structure Problem where
  complaint : Complaint
  location : List Step
  input : Json
  deriving Repr

def Problem.under (step : Step) (p : Problem) : Problem :=
  { p with location := step :: p.location }

def headline (model : String) (problems : List Problem) : String :=
  toString problems.length ++ " validation error" ++ (if problems.length = 1 then "" else "s") ++
    " for " ++ model

end TenantGateway.Schema

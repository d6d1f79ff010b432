/-!
# What is wrong with data

* `Step`, `Issue` — where in the data a fault lies, and what the fault is;
* `Fault` — the ways in which a value can fail to have the expected shape;
* `Fault.code`, `Fault.message` — its short name and its wording;
* `countText` — a list of issues in one line.
-/

namespace QueryDesigner
namespace Validation

/-- One step into nested data: to a field or to an item of a list. -/
inductive Step where
  | field (name : String)
  | index (position : Nat)
  deriving DecidableEq, Repr

/-- The ways in which a value can fail to have the expected shape. -/
inductive Fault where
  | missing
  | notText
  | notInteger
  | unreadableInteger
  | fractionalInteger
  | infiniteInteger
  | belowZero
  | notBoolean
  | unreadableBoolean
  | notList
  | notDictionary
  /-- A record of the named type was expected. -/
  | notRecord (type : String)
  /-- A record that names its own kind was expected. -/
  | notTagged
  | notOneOf (allowed : List String)
  | unknownTag (tag : String) (known : List String)
  | noTag
  deriving DecidableEq, Repr

/-- A fault together with the way to it from the outside. -/
structure Issue where
  path : List Step
  fault : Fault
  deriving DecidableEq, Repr

/-- The words between quotes, with `sep` before the last one. -/
def alternatives : List String → String
  | [] => ""
  | [a] => "'" ++ a ++ "'"
  | [a, b] => "'" ++ a ++ "' or '" ++ b ++ "'"
  | a :: rest => "'" ++ a ++ "', " ++ alternatives rest

/-- The field by which an action names its kind. -/
def tagField : String := "action"

namespace Fault

/-- The short name of a fault. -/
def code : Fault → String
  | missing => "missing"
  | notText => "string_type"
  | notInteger => "int_type"
  | unreadableInteger => "int_parsing"
  | fractionalInteger => "int_from_float"
  | infiniteInteger => "finite_number"
  | belowZero => "greater_than_equal"
  | notBoolean => "bool_type"
  | unreadableBoolean => "bool_parsing"
  | notList => "list_type"
  | notDictionary => "dict_type"
  | notRecord _ => "model_type"
  | notTagged => "model_attributes_type"
  | notOneOf _ => "literal_error"
  | unknownTag _ _ => "union_tag_invalid"
  | noTag => "union_tag_not_found"

/-- The wording of a fault. -/
def message : Fault → String
  | missing => "Field required"
  | notText => "Input should be a valid string"
  | notInteger => "Input should be a valid integer"
  | unreadableInteger => "Input should be a valid integer, unable to parse string as an integer"
  | fractionalInteger => "Input should be a valid integer, got a number with a fractional part"
  | infiniteInteger => "Input should be a finite number"
  | belowZero => "Input should be greater than or equal to 0"
  | notBoolean => "Input should be a valid boolean"
  | unreadableBoolean => "Input should be a valid boolean, unable to interpret input"
  | notList => "Input should be a valid list"
  | notDictionary => "Input should be a valid dictionary"
  | notRecord type => "Input should be a valid dictionary or instance of " ++ type
  | notTagged => "Input should be a valid dictionary or object to extract fields from"
  | notOneOf allowed => "Input should be " ++ alternatives allowed
  | unknownTag tag known =>
    "Input tag '" ++ tag ++ "' found using '" ++ tagField ++
      "' does not match any of the expected tags: " ++
      String.intercalate ", " (known.map fun k => "'" ++ k ++ "'")
  | noTag => "Unable to extract tag using discriminator '" ++ tagField ++ "'"

end Fault

/-- A fault at the place where one stands. -/
def Issue.here (fault : Fault) : Issue := ⟨[], fault⟩

/-- The same issue seen from one step further out. -/
def Issue.under (step : Step) (issue : Issue) : Issue := { issue with path := step :: issue.path }

/-- How many issues there are, in words. -/
def countText (issues : List Issue) : String :=
  toString issues.length ++
    (if issues.length = 1 then " validation error" else " validation errors")

end Validation
end QueryDesigner

import QueryDesigner.Validation.Issue

/-!
# Why an edit fails

* `BadChange` — arguments that are out of range or malformed, with their wording;
* `Rejection` — the four ways in which an edit of a query is turned down;
* `Failure` — a rejection, or arguments that do not even have the expected shape.
-/

namespace QueryDesigner

/-- What is wrong with the arguments of an edit. -/
inductive BadChange where
  | nameMissing
  /-- A new order of the tables that is no permutation of them. -/
  | tableOrder
  /-- A list of the query has no item at that place. -/
  | noItem (what : String) (index : Int)
  | unknownFields (names : List String)
  /-- A changed part is not well formed: the first fault of it. -/
  | badUpdate (part : String) (fault : String)
  | notOrdered (column : String)
  | notInteger (clause : String)
  | negative (clause : String)
  deriving DecidableEq, Repr

/-- The wording of a malformed change. -/
def BadChange.message : BadChange → String
  | nameMissing => "Table name is required"
  | tableOrder => "Table order must list every table key exactly once"
  | noItem what index => "No " ++ what ++ " at index " ++ toString index
  | unknownFields names => "Unknown field(s): " ++ String.intercalate ", " names
  | badUpdate part fault => "Invalid " ++ part ++ " update: " ++ fault
  | notOrdered column => "Column '" ++ column ++ "' is not in ORDER BY"
  | notInteger clause => clause ++ " must be an integer"
  | negative clause => clause ++ " must be non-negative"

/-- An edit that the query turns down. -/
inductive Rejection where
  | duplicateTable (name : String)
  | aliasCollision (aliasName : String)
  | unknownTable (key : String)
  | badChange (cause : BadChange)
  deriving DecidableEq, Repr

/-- The wording of a rejection. -/
def Rejection.message : Rejection → String
  | duplicateTable name => "Table '" ++ name ++ "' is already in the query"
  | aliasCollision aliasName => "Alias '" ++ aliasName ++ "' is already used by another table"
  | unknownTable key => "Table '" ++ key ++ "' is not part of the query"
  | badChange cause => cause.message

/-- The end of an edit that did not succeed. -/
inductive Failure where
  | rejected (rejection : Rejection)
  /-- An argument does not have the expected shape. -/
  | malformed (issues : List Validation.Issue)
  /-- A change is named like an argument of the edit itself. -/
  | reservedName (edit name : String)
  /-- An infinite number where a count is expected. -/
  | infiniteCount
  deriving DecidableEq, Repr

end QueryDesigner

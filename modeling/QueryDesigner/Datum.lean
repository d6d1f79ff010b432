import QueryDesigner.Decimal.Shortest

/-!
# Data of unknown shape

Saved states, schemas and actions arrive as plain data, and are checked before they become values of
the library's own types.

* `Datum` — a null, a truth value, a number, a text, a list or an object with ordered fields;
* `Datum.field?` — the value of a field;
* `Datum.typeName` — the name of the type of a value in a message;
* `Datum.display` — the text that names a value in a message.
-/

namespace QueryDesigner

/-- Plain data.  Whole numbers and fractional numbers are told apart by how they were written. -/
inductive Datum where
  | null
  | bool (value : Bool)
  | integer (value : Int)
  | float (value : Float)
  | text (value : String)
  | list (items : List Datum)
  | object (fields : List (String × Datum))
  deriving Inhabited

namespace Datum

/-- The value of a field, if the datum is an object that has it. -/
def field? (name : String) : Datum → Option Datum
  | object fields => fields.lookup name
  | _ => none

/-- Whether a datum counts as present in a choice: nulls, zeros and empty values do not. -/
def isPresent : Datum → Bool
  | null => false
  | bool b => b
  | integer n => n != 0
  | float x => x != 0
  | text s => s != ""
  | list items => !items.isEmpty
  | object fields => !fields.isEmpty

/-- The name of the type of a value. -/
def typeName : Datum → String
  | null => "NoneType"
  | bool _ => "bool"
  | integer _ => "int"
  | float _ => "float"
  | text _ => "str"
  | list _ => "list"
  | object _ => "dict"

/-- The characters of a text between quotes. -/
def quoted (s : String) : String := "'" ++ s ++ "'"

mutual

/-- The text that names a value in a message. -/
def display : Datum → String
  | null => "None"
  | bool true => "True"
  | bool false => "False"
  | integer n => toString n
  | float x => Decimal.text x
  | text s => quoted s
  | list items => "[" ++ String.intercalate ", " (displayItems items) ++ "]"
  | object fields => "\x7b" ++ String.intercalate ", " (displayFields fields) ++ "\x7d"

/-- The names of the items of a list. -/
def displayItems : List Datum → List String
  | [] => []
  | d :: rest => display d :: displayItems rest

/-- The names of the fields of an object with their values. -/
def displayFields : List (String × Datum) → List String
  | [] => []
  | (name, d) :: rest => (quoted name ++ ": " ++ display d) :: displayFields rest

end

/-- The text of a value that stands where a word is expected: a text stands for itself. -/
def label : Datum → String
  | text s => s
  | d => display d

end Datum

end QueryDesigner

import QueryDesigner.Sql.Lexer
import QueryDesigner.Text.Numeral

/-!
# Values in statements

* `formatValue` — a value as it is written: bare if it reads as a number, else quoted;
* `stripQuotes` — a value without the quotes around it;
* `splitRange` — the two bounds of a range that are separated by a comma;
* `formatRange` — the bounds of a range as they are written.
-/

namespace QueryDesigner

/-- The characters between single quotes, each single quote doubled. -/
def quoteValue (cs : List Char) : List Char := '\'' :: Sql.doubled '\'' cs ++ ['\'']

/-- A value as it is written in a statement.  What reads as a number is written bare. -/
def formatValue (value : String) : String :=
  let stripped := Text.trim value
  if Text.isNumeral stripped then stripped else String.ofList (quoteValue value.toList)

/-- The characters with every two neighbouring quotes taken as one, from left to right. -/
def undoubled (quote : Char) : List Char → List Char
  | c :: d :: rest =>
    if c = quote ∧ d = quote then quote :: undoubled quote rest
    else c :: undoubled quote (d :: rest)
  | cs => cs

/-- The characters without the pair of like quotes around them, if there is one. -/
def unquoted (cs : List Char) : List Char :=
  match cs with
  | c :: d :: rest =>
    if (c = '\'' ∨ c = '"') ∧ (d :: rest).getLast? = some c then undoubled c (d :: rest).dropLast
    else cs
  | _ => cs

/-- A value trimmed and without the quotes around it. -/
def stripQuotes (value : String) : String :=
  String.ofList (unquoted (Text.trimChars value.toList))

/-! ## Ranges -/

/-- Whether a text starts with a blank, `AND` in any letter case, and a blank. -/
def startsWithAnd : List Char → Bool
  | a :: b :: c :: d :: e :: _ =>
    Text.isBlank a && (b == 'A' || b == 'a') && (c == 'N' || c == 'n') && (d == 'D' || d == 'd') &&
      Text.isBlank e
  | _ => false

/-- Whether `AND` stands between blanks somewhere in a text. -/
def hasAnd : List Char → Bool
  | [] => false
  | c :: rest => startsWithAnd (c :: rest) || hasAnd rest

/-- The place of the first comma outside parentheses. -/
def commaPlace? (depth : Int) : List Sql.Token → Option Nat
  | [] => none
  | t :: rest =>
    if t.is "(" then commaPlace? (depth + 1) rest
    else if t.is ")" then commaPlace? (depth - 1) rest
    else if t.is "," ∧ depth = 0 then some t.start
    else commaPlace? depth rest

/-- The place of the comma that separates two bounds.  Where the text has no tokens, because a quote
is left open, it is the first comma of all. -/
def separator? (value : String) : Option Nat :=
  match Sql.tokens? value with
  | some tokens => commaPlace? 0 tokens
  | none => value.toList.findIdx? (· == ',')

/-- The texts before and after the comma between two bounds. -/
def splitRange (value : String) : Option (String × String) :=
  (separator? value).map fun n =>
    (String.ofList (value.toList.take n), String.ofList (value.toList.drop (n + 1)))

/-- A bound as it is written. -/
def formatBound (bound : String) : String := formatValue (stripQuotes bound)

/-- The bounds of a range as they are written.  Bounds with `AND` between them stay as they are. -/
def formatRange (value : String) : String :=
  if hasAnd value.toList then Text.trim value
  else
    match splitRange value with
    | some (low, high) => formatBound low ++ " AND " ++ formatBound high
    | none => formatValue value

end QueryDesigner

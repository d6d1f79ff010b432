import QueryDesigner.Sql.JsonPath
import QueryDesigner.Sql.Syntax
import QueryDesigner.Sql.TimeFormat
import QueryDesigner.Text.LetterCase

/-!
# Functions

A function may have several names, and some calls are written by other means.

* `FunctionInfo`, `functionInfo?` — the functions that are known, each with the name under which it
  is written and the number of its arguments;
* `aggregates` — the functions of many rows;
* `jsonPathOf?` — the path into a JSON value that an argument is;
* `canonicalCall?` — a call under the name by which the function is written.
-/

namespace QueryDesigner
namespace Sql

/-! ## Names and numbers of arguments -/

structure FunctionInfo where
  canonical : String
  least : Nat
  /-- The greatest number of arguments, if there is one. -/
  most : Option Nat
  deriving DecidableEq, Repr

/-- Functions of the same numbers of arguments that are written under their own names. -/
def ownNames (least : Nat) (most : Option Nat) (names : List String) :
    List (String × FunctionInfo) :=
  names.map fun name => (name, ⟨name, least, most⟩)

/-- Other names of a function. -/
def otherNames (canonical : String) (least : Nat) (most : Option Nat) (names : List String) :
    List (String × FunctionInfo) :=
  names.map fun name => (name, ⟨canonical, least, most⟩)

/-- The functions with one argument. -/
def oneArgument : List String :=
  ["ABS", "ACOS", "ASCII", "ASIN", "AVG", "BIT_AND", "BIT_COUNT", "BIT_OR", "BIT_XOR", "COS", "COT",
    "DEGREES", "EXP", "FIRST_VALUE", "HEX", "LAST_VALUE", "LN", "LOWER", "MD5", "QUARTER",
    "RADIANS", "REVERSE", "SHA", "SIGN", "SIN", "SOUNDEX", "SPACE", "SQRT", "STDDEV", "STDDEV_POP",
    "STDDEV_SAMP", "SUM", "TAN", "TO_BASE64", "UPPER", "VARIANCE", "VARIANCE_POP", "ANY_VALUE",
    "FROM_BASE64"]

/-- The functions that are known. -/
def knownFunctions : List (String × FunctionInfo) :=
  ownNames 1 (some 1) oneArgument ++
  ownNames 0 (some 1) ["CURRENT_DATE", "CURRENT_TIME", "DAY", "DAYOFMONTH", "DAYOFWEEK",
    "DAYOFYEAR", "MONTH", "NTILE", "ROW_NUMBER", "SCHEMA", "WEEKOFYEAR", "YEAR", "LOCALTIME",
    "LOCALTIMESTAMP"] ++
  ownNames 0 (some 2) ["CURRENT_TIMESTAMP", "WEEK"] ++
  ownNames 0 (some 3) ["RAND"] ++
  ownNames 0 none ["COUNT", "CUME_DIST", "DENSE_RANK", "PERCENT_RANK", "RANK", "UUID", "ARRAY",
    "JSON_ARRAY"] ++
  ownNames 0 (some 2) ["TIME"] ++
  ownNames 0 (some 3) ["TIMESTAMP"] ++
  ownNames 1 (some 2) ["CEIL", "FLOOR", "LAST_DAY", "LOG", "SHA2", "UNHEX", "ATAN"] ++
  ownNames 1 (some 3) ["DATE", "LAG", "LEAD", "ROUND", "TRUNCATE", "LENGTH", "CHAR_LENGTH"] ++
  ownNames 1 (some 4) ["LTRIM", "RTRIM", "SUBSTRING"] ++
  ownNames 1 (some 7) ["FROM_UNIXTIME"] ++
  ownNames 1 none ["COALESCE", "CONCAT", "CONCAT_WS", "GREATEST", "LEAST", "MAX", "MIN",
    "APPROX_DISTINCT"] ++
  ownNames 2 (some 2) ["LEFT", "NULLIF", "POWER", "REPEAT", "RIGHT", "MOD", "ATAN2"] ++
  ownNames 2 (some 3) ["NTH_VALUE", "REPLACE", "REGEXP_LIKE", "FORMAT", "INSTR", "LOCATE",
    "STR_TO_DATE", "STRPOS", "CHARINDEX", "NVL2", "IIF"] ++
  ownNames 2 (some 4) ["LPAD", "RPAD", "DATE_FORMAT", "DATEDIFF", "TIMESTAMPDIFF"] ++
  ownNames 2 none ["DATE_ADD", "DATE_SUB", "JSON_EXTRACT", "REGEXP_REPLACE"] ++
  ownNames 3 (some 3) ["SUBSTRING_INDEX"] ++
  ownNames 4 (some 4) ["INSERT"] ++
  otherNames "COALESCE" 1 none ["IFNULL", "NVL"] ++
  otherNames "LOWER" 1 (some 1) ["LCASE"] ++
  otherNames "UPPER" 1 (some 1) ["UCASE"] ++
  otherNames "SUBSTRING" 1 (some 4) ["SUBSTR", "MID"] ++
  otherNames "CEIL" 1 (some 2) ["CEILING"] ++
  otherNames "POWER" 2 (some 2) ["POW"] ++
  otherNames "CHAR_LENGTH" 1 (some 3) ["CHARACTER_LENGTH", "LEN"] ++
  otherNames "SHA" 1 (some 1) ["SHA1"] ++
  otherNames "CURRENT_TIME" 0 (some 1) ["CURTIME"] ++
  otherNames "CURRENT_DATE" 0 (some 1) ["CURDATE"] ++
  otherNames "SCHEMA" 0 (some 1) ["DATABASE"] ++
  otherNames "VARIANCE" 1 (some 1) ["VAR_SAMP", "VARIANCE_SAMP"] ++
  otherNames "VARIANCE_POP" 1 (some 1) ["VAR_POP"] ++
  otherNames "STDDEV" 1 (some 1) ["STDEV"] ++
  otherNames "RAND" 0 (some 3) ["RANDOM"] ++
  otherNames "TRUNCATE" 1 (some 3) ["TRUNC"] ++
  otherNames "SIGN" 1 (some 1) ["SIGNUM"] ++
  otherNames "INSERT" 4 (some 4) ["STUFF"] ++
  otherNames "DAYOFMONTH" 0 (some 1) ["DAY_OF_MONTH"] ++
  otherNames "DAYOFWEEK" 0 (some 1) ["DAY_OF_WEEK"] ++
  otherNames "DAYOFYEAR" 0 (some 1) ["DAY_OF_YEAR"] ++
  otherNames "WEEKOFYEAR" 0 (some 1) ["WEEK_OF_YEAR"] ++
  otherNames "DATEDIFF" 2 (some 4) ["DATE_DIFF"] ++
  otherNames "GROUP_CONCAT" 1 none ["ARRAY_AGG"] ++
  otherNames "MIN" 1 (some 1) ["BOOL_AND", "LOGICAL_AND", "BOOLAND_AGG"] ++
  otherNames "MAX" 1 (some 1) ["BOOL_OR", "LOGICAL_OR", "BOOLOR_AGG"] ++
  otherNames "APPROX_DISTINCT" 1 none ["APPROX_COUNT_DISTINCT"] ++
  otherNames "UNHEX" 1 (some 2) ["FROM_HEX"] ++
  otherNames "LAST_DAY" 1 (some 2) ["LAST_DAY_OF_MONTH"] ++
  otherNames "HEX" 1 (some 1) ["TO_HEX"] ++
  otherNames "GROUP_CONCAT" 1 none ["ARRAYAGG"] ++
  otherNames "ARG_MAX" 2 (some 3) ["ARGMAX", "MAX_BY"] ++
  otherNames "ARG_MIN" 2 (some 3) ["ARGMIN", "MIN_BY"] ++
  otherNames "ARRAY_LENGTH" 1 (some 2) ["ARRAY_SIZE"] ++
  otherNames "ARRAY_CONCAT" 1 none ["ARRAY_CAT"] ++
  otherNames "ARRAY_CONTAINS" 2 (some 3) ["ARRAY_HAS"] ++
  otherNames "ARRAY_TO_STRING" 2 (some 3) ["ARRAY_JOIN"] ++
  otherNames "FILTER" 2 (some 2) ["ARRAY_FILTER"] ++
  otherNames "COUNT_IF" 1 (some 1) ["COUNTIF"] ++
  otherNames "DATE_FROM_PARTS" 1 (some 4) ["DATEFROMPARTS"] ++
  otherNames "STARTS_WITH" 2 (some 2) ["STARTSWITH"] ++
  otherNames "ENDS_WITH" 2 (some 2) ["ENDSWITH"] ++
  otherNames "IS_NAN" 1 (some 1) ["ISNAN"] ++
  otherNames "IS_INF" 1 (some 1) ["ISINF"] ++
  otherNames "MAKETIME" 3 (some 6) ["TIME_FROM_PARTS", "TIMEFROMPARTS"] ++
  otherNames "BIT_AND" 1 (some 1) ["BITWISE_AND_AGG"] ++
  otherNames "UUID" 0 none ["GENERATE_UUID", "GEN_RANDOM_UUID", "UUID_STRING"] ++
  otherNames "LPAD" 3 (some 3) ["LEFTPAD"] ++
  otherNames "RPAD" 3 (some 3) ["RIGHTPAD"] ++
  ownNames 0 (some 0) ["PI", "UTC_DATE"] ++
  ownNames 0 (some 1) ["UTC_TIME", "UTC_TIMESTAMP", "CURRENT_USER"] ++
  ownNames 1 (some 1) ["ISNULL", "MONTHNAME", "TO_DAYS", "LOG2", "LOG10", "UNICODE", "MEDIAN",
    "HOUR", "MINUTE", "SECOND", "IS_ASCII"] ++
  ownNames 1 (some 4) ["PARSE_JSON", "JSON_PARSE", "TO_NUMBER"] ++
  ownNames 2 (some 2) ["XOR", "COLLATE", "ARRAY_CONTAINS_ALL", "ARRAY_HAS_ALL", "ARRAY_OVERLAPS"] ++
  ownNames 2 (some 3) ["DATE_TRUNC", "TIMESTAMP_TRUNC", "TIMESTAMP_DIFF"] ++
  ownNames 2 none ["JSON_EXTRACT_SCALAR", "JSON_EXTRACT_PATH_TEXT"]

def functionInfo? (name : String) : Option FunctionInfo := knownFunctions.lookup name

/-- Whether a function takes so many arguments. -/
def FunctionInfo.takes (f : FunctionInfo) (count : Nat) : Bool :=
  f.least ≤ count && (f.most.map fun most => decide (count ≤ most)).getD true

/-- The functions of many rows. -/
def aggregates : List String :=
  ["ANY_VALUE", "APPROX_DISTINCT", "AVG", "BIT_AND", "BIT_OR", "BIT_XOR", "COUNT", "CUME_DIST",
    "DENSE_RANK", "FIRST_VALUE", "GROUP_CONCAT", "JSON_OBJECTAGG", "LAG", "LAST_VALUE", "LEAD",
    "MAX", "MIN", "NTH_VALUE", "NTILE", "PERCENT_RANK", "RANK", "STDDEV", "STDDEV_POP",
    "STDDEV_SAMP", "SUM", "VARIANCE", "VARIANCE_POP"]

/-! ## Arguments -/

/-- An operand of an operator that takes the place of a call. -/
def operandOf (e : Expr) : Expr :=
  match e with
  | .binary .. => .paren e
  | e => e

/-- The path into a JSON value that an argument is.  A number is a place; a text that is no path
stays as it is.  A quote may not be left open. -/
def jsonPathOf? (e : Expr) : Option Expr :=
  let path? (text : String) : Option Expr :=
    match canonicalPath text with
    | .broken => none
    | .other => some e
    | .path path => some (.marker ("'" ++ path ++ "'"))
  match e.bare with
  | .literal (.text value) => path? value
  | .literal (.numeral digits) => path? ("[" ++ digits.text ++ "]")
  | _ => some e

/-- A JSON value.  A text has to be read as one first. -/
def jsonValue (e : Expr) : Expr :=
  match e.bare with
  | .literal (.text _) => .cast e (.named "JSON" [] false)
  | _ => e

/-- The text at a path into a JSON value. -/
def jsonTextAt? (e path : Expr) : Option Expr :=
  (jsonPathOf? path).map fun path => .binary .jsonText (jsonValue e) path

/-- A moment where a function takes only its date anyway. -/
def withoutDate (e : Expr) : Expr :=
  match e with
  | .call ⟨"DATE", false⟩ [e] => e
  | e => e

/-- A format of dates and times. -/
def formatOf (e : Expr) : Expr :=
  match e with
  | .literal (.text format) => .literal (.text (timeFormat format))
  | e => e

/-- The letters for units of time. -/
def unitLetters : List (String × String) :=
  [("D", "DAY"), ("H", "HOUR"), ("M", "MINUTE"), ("MS", "MILLISECOND"), ("NS", "NANOSECOND"),
    ("Q", "QUARTER"), ("S", "SECOND"), ("US", "MICROSECOND"), ("W", "WEEK"), ("Y", "YEAR")]

/-- A unit of time by its whole word, in capitals.  The letters for units are capitals. -/
def wholeUnit (unit : String) : String := Text.upper ((unitLetters.lookup unit).getD unit)

/-- The word for a unit of time. -/
def unitOf (e : Expr) : Expr :=
  match e with
  | .column [] name => .marker (wholeUnit name.text)
  | .literal (.text unit) => .marker (wholeUnit unit)
  | e => e

/-- The word for a unit of time in capitals, whatever its letters are. -/
def unitNamed (e : Expr) : String :=
  match e.bare with
  | .column [] name => wholeUnit (Text.upper name.text)
  | .literal (.text unit) => wholeUnit (Text.upper unit)
  | _ => ""

/-- The first day of the span of time in which a date lies, by way of a text in a format. -/
def startOfUnit (unit : String) (date : Expr) : Expr :=
  let year := Expr.function "YEAR" [date]
  let dated (parts : List Expr) (format : String) : Expr :=
    .function "STR_TO_DATE" [.function "CONCAT" (year :: parts), .string format]
  match unit with
  | "WEEK" =>
    dated [.string " ", .function "WEEK" [date, .number "1"], .string " 1"] "%Y %u %w"
  | "MONTH" => dated [.string " ", .function "MONTH" [date], .string " 1"] "%Y %c %e"
  | "QUARTER" =>
    let month := Expr.binary .sub (.binary .mul (.function "QUARTER" [date]) (.number "3"))
      (.number "2")
    dated [.string " ", month, .string " 1"] "%Y %c %e"
  | "YEAR" => dated [.string " 1 1"] "%Y %c %e"
  | _ => .function "DATE" [date]

/-- The start of the span of time in which a moment lies, counted from the first year. -/
def momentOfUnit (unit : String) (moment : Expr) : Expr :=
  let origin := Expr.string "0000-01-01 00:00:00"
  .function "DATE_ADD"
    [origin, .interval (.function "TIMESTAMPDIFF" [.marker unit, origin, moment]) unit]

/-- A call that moves a date by an interval. -/
def movedDate? (name : String) (date : Expr) : Expr → Option Expr
  | .interval amount unit =>
    some (.function name [withoutDate date, .interval amount (if unit.isEmpty then "DAY" else unit)])
  | _ => none

/-- The day that it is, which may be that of a time zone. -/
def today? : List Expr → Option Expr
  | [] => some (.marker "CURRENT_DATE")
  | [zone] => some (.form ["", " AT TIME ZONE ", ""] [.marker "CURRENT_DATE", zone])
  | _ => none

/-- A text without characters at its ends. -/
def trimmed (place : String) (target : Expr) (removed : Option Expr) : Expr :=
  match removed with
  | some removed =>
    .form ["TRIM(" ++ (if place.isEmpty then "" else place ++ " "), " FROM ", ")"] [removed, target]
  | none =>
    let name := if place = "LEADING" then "LTRIM" else if place = "TRAILING" then "RTRIM" else "TRIM"
    .function name [target]

/-! ## Calls -/

/-- The functions of which only the first argument counts. -/
def firstOnly : List String :=
  ["DATE", "LENGTH", "CHAR_LENGTH", "CHARACTER_LENGTH", "LEN", "LAST_DAY", "LAST_DAY_OF_MONTH"]

/-- A call without its further arguments. -/
def firstArgument (e : Expr) : Expr :=
  match e with
  | .call name (first :: _) => .call name [first]
  | e => e

/-- A call by its arguments under the name of the function.  A call with a wrong number of arguments
is none. -/
def ordinaryCall? (name : String) (args : List Expr) : Option Expr :=
  match functionInfo? name with
  | none => some (.function name args)
  | some f => if f.takes args.length then some (.function f.canonical args) else none

/-- A call under the name by which the function is written. -/
def canonicalCall? (name : String) (args : List Expr) : Option Expr :=
  match name, args with
  | "XOR", [a, b] => some (.binary .xor a b)
  | "COLLATE", [a, b] => some (.binary .collate a b)
  | "MEDIAN", [e] => some (.function "PERCENTILE_CONT" [e, .number "0.5"])
  | "PARSE_JSON", e :: _ => some (.form ["", ""] [e])
  | "JSON_PARSE", e :: _ => some (.form ["", ""] [e])
  | "TO_NUMBER", e :: _ => some (.cast e (.named "DOUBLE" [] false))
  | "IS_ASCII", [e] => some (.function "REGEXP_LIKE" [e, .string "^[[:ascii:]]*$"])
  | "ARRAY_CONTAINS_ALL", [a, b] => some (.form ["", " @> ", ""] [a, b])
  | "ARRAY_HAS_ALL", [a, b] => some (.form ["", " @> ", ""] [a, b])
  | "ARRAY_OVERLAPS", [a, b] => some (.form ["", " && ", ""] [a, b])
  | "UUID", _ => some (.function "UUID" [])
  | "SCHEMA", _ => some (.function "SCHEMA" [])
  | "DATABASE", _ => some (.function "SCHEMA" [])
  | "DATE_TRUNC", unit :: date :: _ => some (startOfUnit (unitNamed unit) date)
  | "TIMESTAMP_TRUNC", moment :: unit :: _ => some (momentOfUnit (unitNamed unit) moment)
  | "TIMESTAMP_DIFF", [a, b] => some (.function "TIMESTAMPDIFF" [.marker "DAY", b, a])
  | "TIMESTAMP_DIFF", [a, b, unit] => some (.function "TIMESTAMPDIFF" [unitOf unit, b, a])
  | "LEFTPAD", [e, size] => some (.function "LPAD" [e, size, .string " "])
  | "RIGHTPAD", [e, size] => some (.function "RPAD" [e, size, .string " "])
  | "JSON_EXTRACT_SCALAR", e :: path :: _ => jsonTextAt? e path
  | "JSON_EXTRACT_PATH_TEXT", e :: path :: _ => jsonTextAt? e path
  | "MOD", [a, b] => some (.binary .mod (operandOf a) (operandOf b))
  | "CURDATE", args => today? args
  | "CURRENT_DATE", args => today? args
  | "LOCALTIME", [] => some (.marker "LOCALTIME")
  | "LOCALTIMESTAMP", [] => some (.marker "LOCALTIMESTAMP")
  | "UTC_DATE", [] => today? [.string "UTC"]
  | "INSTR", a :: b :: others => some (.function "LOCATE" (b :: a :: others))
  | "STRPOS", a :: b :: others => some (.function "LOCATE" (b :: a :: others))
  | "CHARINDEX", a :: b :: others => some (.function "LOCATE" (a :: b :: others))
  | "ISNULL", [e] => some (.paren (.binary .is e .null))
  | "IIF", [condition, yes] => some (.choice condition yes none)
  | "IIF", [condition, yes, no] => some (.choice condition yes (some no))
  | "NVL2", [e, yes] => some (.choice (.unary .not (.binary .is e .null)) yes none)
  | "NVL2", [e, yes, no] => some (.choice (.unary .not (.binary .is e .null)) yes (some no))
  | "MAX", a :: b :: others => some (.function "GREATEST" (a :: b :: others))
  | "MIN", a :: b :: others => some (.function "LEAST" (a :: b :: others))
  | "LOG", [e] => some (.function "LN" [e])
  | "LOG2", [e] => some (.function "LOG" [.number "2", e])
  | "LOG10", [e] => some (.function "LOG" [.number "10", e])
  | "LPAD", [e, size] => some (.function "LPAD" [e, size, .string " "])
  | "RPAD", [e, size] => some (.function "RPAD" [e, size, .string " "])
  | "LTRIM", e :: others => some (trimmed "LEADING" e others.head?)
  | "RTRIM", e :: others => some (trimmed "TRAILING" e others.head?)
  | "UNICODE", [e] => some (.form ["ORD(CONVERT(", " USING utf32))"] [e])
  | "DATE_ADD", [date, amount] => movedDate? "DATE_ADD" date amount
  | "DATE_SUB", [date, amount] => movedDate? "DATE_SUB" date amount
  | "DATE_ADD", _ => none
  | "DATE_SUB", _ => none
  | "DATEDIFF", [a, b] => some (.function "DATEDIFF" [withoutDate a, withoutDate b])
  | "DATE_DIFF", [a, b] => some (.function "DATEDIFF" [withoutDate a, withoutDate b])
  | "DATE_FORMAT", [e, format] => some (.function "DATE_FORMAT" [withoutDate e, formatOf format])
  | "STR_TO_DATE", [e, format] => some (.function "STR_TO_DATE" [e, formatOf format])
  | "FROM_UNIXTIME", [e, format] => some (.function "FROM_UNIXTIME" [e, formatOf format])
  | "MONTHNAME", [e] => some (.function "DATE_FORMAT" [e, .string "%M"])
  | "TO_DAYS", [e] =>
    some (.paren (.binary .add (.function "DATEDIFF" [withoutDate e, .string "0000-01-01"])
      (.number "1")))
  | "LIKE", [pattern, e] => some (.binary .like e pattern)
  | "GLOB", [pattern, e] => some (.binary .glob e pattern)
  | "TIMESTAMPDIFF", [a, b] => some (.function "TIMESTAMPDIFF" [.marker "DAY", b, a])
  | "TIMESTAMPDIFF", unit :: others => some (.function "TIMESTAMPDIFF" (unitOf unit :: others))
  | "JSON_EXTRACT", e :: path :: others =>
    (jsonPathOf? path).map fun path => .function "JSON_EXTRACT" (e :: path :: others)
  | name, args =>
    (ordinaryCall? name args).map fun e => if firstOnly.contains name then firstArgument e else e

end Sql
end QueryDesigner

import QueryDesigner.Decimal.Exact
import QueryDesigner.Sql.Parser.Call

/-!
# Constants

* `constant?` — numbers, texts and the words for constants;
* `userVariable?` — variables, and places that are filled in later;
* `typedConstant?` — a constant after the word for its type;
* `intervalParts` — the amounts and units in a text;
* `Grammar.interval?` — an amount of time.
-/

namespace QueryDesigner
namespace Sql

open QueryDesigner.Sql.Parser

/-- The names of character sets that may stand before a constant. -/
def introducers : List String :=
  ["_ARMSCII8", "_ASCII", "_BIG5", "_BINARY", "_CP1250", "_CP1251", "_CP1256", "_CP1257", "_CP850",
    "_CP852", "_CP866", "_CP932", "_DEC8", "_EUCJPMS", "_EUCKR", "_GB18030", "_GB2312", "_GBK",
    "_GEOSTD8", "_GREEK", "_HEBREW", "_HP8", "_KEYBCS2", "_KOI8R", "_KOI8U", "_LATIN1", "_LATIN2",
    "_LATIN5", "_LATIN7", "_MACCE", "_MACROMAN", "_SJIS", "_SWE7", "_TIS620", "_UCS2", "_UJIS",
    "_UTF8", "_UTF16", "_UTF16LE", "_UTF32", "_UTF8MB3", "_UTF8MB4"]

/-! ## Single tokens -/

/-- A constant that is one token. -/
def constantOf? (t : Token) : Option Expr :=
  match h : t.kind with
  | .number => some (.literal (.numeral ⟨t.text, t.startsWithDigit h⟩))
  | .text => some (.literal (.text t.text))
  | .national => some (.literal (.national t.text))
  | .hex => some (.literal (.hex t.text))
  | .bits => some (.literal (.bits t.text))
  | _ =>
    match t.keyword with
    | "NULL" => some .null
    | "TRUE" => some (.boolean true)
    | "FALSE" => some (.boolean false)
    | "?" => some (.marker "?")
    | _ => none

/-- Text literals in a row are one text. -/
def joinedTexts (first : Token) : Parser Expr := do
  match ← repeated (takeKind? .text) with
  | [] => return (Expr.string first.text).withComments first.comments
  | others => return .function "CONCAT" ((first :: others).map fun t => .string t.text)

/-- A constant. -/
def constant? : Parser (Option Expr) := do
  match ← takeIf? fun t => (constantOf? t).isSome with
  | none => return none
  | some t =>
    if t.kind == .text then return some (← joinedTexts t)
    else return (constantOf? t).map fun e => e.withComments t.comments

/-- The number with the given digits after the point. -/
def zeroPoint (digits : String) : Expr :=
  .number ("0." ++ digits) (by rw [Text.startsWithDigit, String.toList_append]; rfl)

/-- A number that starts with a point. -/
def fraction? : Parser (Option Expr) := do
  match ← get with
  | point :: t :: rest =>
    if point.is "." && t.kind == .number then
      set rest
      return some ((zeroPoint t.text).withComments t.comments)
    else return none
  | _ => return none

/-! ## Variables -/

/-- The text of a quoted or unquoted name in a variable. -/
def variableText (t : Token) : String :=
  match t.kind with
  | .name => backquoted t.text
  | .text => "'" ++ t.text ++ "'"
  | _ => t.text

/-- A variable of the server, with the part of the server that it belongs to. -/
def serverVariable (t : Token) : Parser Expr := do
  if (← accepts ".") then
    let name ← require (takeIf? isLooseName)
    return .marker ("@@" ++ t.text ++ "." ++ name.text)
  else return .form ["@@", ""] [.column [] (identOf t)]

/-- A variable, or a place that is filled in later by name. -/
def userVariable? : Parser (Option Expr) := do
  match ← get with
  | mark :: t :: rest =>
    if mark.is ":" && t.kind == .word && isNameToken [] t then
      set rest
      return some ((Expr.marker (":" ++ t.text)).withComments t.comments)
    else if mark.is "@" && isLooseName t then
      set rest
      return some ((Expr.marker ("@" ++ variableText t)).withComments t.comments)
    else if mark.is "@@" && isLooseName t then
      set rest
      return some (← serverVariable t)
    else return none
  | _ => return none

/-! ## Constants with words before them -/

/-- A constant after the name of its character set. -/
def introduced? : Parser (Option Expr) := attempt do
  match ← takeIf? fun t => introducers.contains t.keyword with
  | none => return none
  | some word => return some (.form [word.text ++ " ", ""] [← require constant?])

/-- A single number or text. -/
def plainConstant? : Parser (Option Expr) := do
  let tokens ← get
  match ← constant? with
  | none => return none
  | some e =>
    match e.bare with
    | .literal (.numeral _) => return some e
    | .literal (.text _) => return some e
    | _ =>
      set tokens
      return none

/-- A constant after the word for its type.  JSON text is a value of its own. -/
def typedConstant? : Parser (Option Expr) := attempt do
  let type ← require typeBeforeText?
  let e ← require plainConstant?
  match type with
  | .named "JSON" _ _ => return some e
  | type => return some (.cast e type)

/-! ## Amounts of time -/

def isAsciiDigit (c : Char) : Bool := '0' ≤ c && c ≤ '9'

def isAsciiLetter (c : Char) : Bool := ('a' ≤ c && c ≤ 'z') || ('A' ≤ c && c ≤ 'Z')

/-- The digits of a number with an optional fraction, and what follows. -/
def readAmount (cs : List Char) : List Char × List Char :=
  let whole := cs.takeWhile isAsciiDigit
  match cs.dropWhile isAsciiDigit with
  | '.' :: rest =>
    let fraction := rest.takeWhile isAsciiDigit
    if fraction.isEmpty then (whole, '.' :: rest)
    else (whole ++ '.' :: fraction, rest.dropWhile isAsciiDigit)
  | rest => (whole, rest)

/-- The amount and the unit with which a text starts, and what follows them. -/
def readPart? (cs : List Char) : Option ((String × String) × List Char) :=
  let cs := Text.dropBlanks cs
  let sign := if cs.head? = some '-' then ['-'] else []
  let (amount, rest) := readAmount (cs.drop sign.length)
  let rest := Text.dropBlanks rest
  let unit := rest.takeWhile isAsciiLetter
  if amount.isEmpty || unit.isEmpty then none
  else
    some ((String.ofList (sign ++ amount), String.ofList unit),
      Text.dropBlanks (rest.drop unit.length))

/-- The amounts and units in a text, which is read in at most the given number of steps. -/
def intervalPartsFrom : Nat → List Char → List (String × String)
  | 0, _ => []
  | _, [] => []
  | steps + 1, c :: rest =>
    match readPart? (c :: rest) with
    | some (part, after) => part :: intervalPartsFrom steps after
    | none => intervalPartsFrom steps rest

/-- The amounts and units in a text. -/
def intervalParts (s : String) : List (String × String) :=
  intervalPartsFrom s.toList.length s.toList

/-- The words for several units of time. -/
def timeUnits : List (String × String) :=
  [("MICROSECONDS", "MICROSECOND"), ("SECONDS", "SECOND"), ("MINUTES", "MINUTE"),
    ("HOURS", "HOUR"), ("DAYS", "DAY"), ("WEEKS", "WEEK"), ("MONTHS", "MONTH"),
    ("QUARTERS", "QUARTER"), ("YEARS", "YEAR")]

/-- A unit of time as it is written. -/
def unitText (unit : String) : String :=
  let unit := wholeUnit (Text.upper unit)
  (timeUnits.lookup unit).getD unit

/-- The words that are units of time wherever a column stands before them. -/
def knownUnits : List String :=
  ["Y", "YY", "YYY", "YYYY", "YR", "YEAR", "YEARS", "YRS", "MM", "MON", "MONS", "MONTH", "MONTHS",
    "D", "DD", "DAY", "DAYS", "DAYOFMONTH", "WEEKDAY", "DOW", "DW", "DAYOFWEEK", "DOY", "DY",
    "DAYOFYEAR", "W", "WK", "WEEK", "WEEKS", "WEEKOFYEAR", "WOY", "WY", "Q", "QTR", "QTRS",
    "QUARTER", "QUARTERS", "H", "HH", "HR", "HOUR", "HOURS", "HRS", "M", "MI", "MIN", "MINUTE",
    "MINUTES", "MINS", "S", "SEC", "SECOND", "SECONDS", "SECS", "MS", "MSEC", "MSECS", "MSECOND",
    "MSECONDS", "MILLISEC", "MILLISECS", "MILLISECOND", "MILLISECONDS", "US", "USEC", "USECS",
    "MICROSEC", "MICROSECS", "MICROSECOND", "MICROSECONDS", "USECOND", "USECONDS", "NS", "NSEC",
    "NANOSEC", "NANOSECOND", "NANOSECONDS", "NSECOND", "NSECONDS", "DECADE", "DECADES", "CENTURY",
    "CENTURIES", "MILLENNIUM"]

/-- The text of a number, which may be negative.  Zeros in front of it count for nothing. -/
def amountText? : Expr → Option String
  | .literal (.numeral digits) =>
    (Decimal.Exact.ofDigits? digits.text).map Decimal.Exact.text
  | .unary .negate e => (amountText? e).map fun text => "-" ++ text
  | _ => none

/-- Whether a word may be a unit of time. -/
def isUnitWord (t : Token) : Bool := t.kind == .word && !reservedWords.contains t.keyword

namespace Grammar

variable (g : Grammar)

/-- What an amount of time starts with. -/
def intervalAmount : Parser Expr := do
  let e ← require (if ← isKind .text then constant? else g.term)
  match e, ← current? with
  | .column [] ⟨_, false⟩, some next =>
    if knownUnits.contains (Text.upper next.text) then return e else refuse
  | e, _ => return e

/-- The unit of an amount, which may be a span of units. -/
def intervalUnit : Parser String := do
  let unit := ((← takeIf? isUnitWord).map fun t => unitText t.text).getD ""
  if (← accepts "TO") then
    let last ← require (takeIf? isLooseName)
    return unit ++ " TO " ++ unitText last.text
  else return unit

/-- An amount of time after its word.  A number is written as a text; a text may hold the unit. -/
def intervalAfterWord : Parser Expr := do
  let amount ← g.intervalAmount
  match amountText? amount.bare, amount.bare with
  | some text, _ => return .interval (.string text) (← intervalUnit)
  | none, .literal (.text text) =>
    match intervalParts text with
    | [] => return .interval amount (← intervalUnit)
    | [(number, unit)] => return .interval (.string number) (unitText unit)
    | _ => return .interval amount ""
  | none, _ => return .interval amount (← intervalUnit)

/-- Further amounts, each of which adds to those before it, in at most the given number of steps. -/
def intervalsFrom : Nat → Expr → Parser Expr
  | 0, e => return e
  | steps + 1, e => do
    let tokens ← get
    let _ ← accept? "+"
    if (← isKind .text) || (← isKind .number) then
      let next ← g.intervalAfterWord
      intervalsFrom steps (.binary .add e next)
    else
      set tokens
      return e

/-- `INTERVAL` with an amount and a unit.  Without them it is a name. -/
def interval? : Parser (Option Expr) := attempt do
  if (← accepts "INTERVAL") then
    let e ← g.intervalAfterWord
    return some (← g.intervalsFrom (← get).length e)
  else return none

end Grammar

end Sql
end QueryDesigner

import QueryDesigner.Layout.Phrase
import QueryDesigner.Text.LetterCase

/-!
# Laying out a statement

* `upperKeywords` — keywords in capitals;
* `commaBreak`, `rangeMark`, `logicBreak`, `joinLine` — the rules for single lines;
* `layOut` — all passes over the glyphs of a statement;
* `format?` — a statement with a line for each clause;
* `preview` — a statement on one line, cut to a length.
-/

namespace QueryDesigner
namespace Layout

/-! ## Keywords -/

def keywords : List String :=
  ["SELECT", "FROM", "WHERE", "AND", "OR", "NOT", "IN", "LIKE", "BETWEEN", "IS", "NULL", "AS",
    "ORDER", "BY", "GROUP", "HAVING", "LIMIT", "OFFSET", "ASC", "DESC", "LEFT", "RIGHT", "INNER",
    "OUTER", "CROSS", "JOIN", "ON", "SET", "VALUES", "INTO", "INSERT", "UPDATE", "DELETE",
    "CREATE", "TABLE", "ALTER", "DROP", "INDEX", "PRIMARY", "KEY", "FOREIGN", "REFERENCES",
    "CONSTRAINT", "DEFAULT", "AUTO_INCREMENT", "UNIQUE", "ENGINE", "CHARSET", "COLLATE", "IF",
    "EXISTS", "CASE", "WHEN", "THEN", "ELSE", "END", "DISTINCT", "ALL", "COUNT", "SUM", "AVG",
    "MIN", "MAX", "CONCAT", "COALESCE", "IFNULL", "NULLIF", "NOW", "CURRENT_TIMESTAMP", "TRUE",
    "FALSE", "UNION", "EXCEPT", "INTERSECT", "USING", "NATURAL", "FULL"]

/-- The ASCII capital that a letter is taken for when letter case is ignored. -/
def keywordLetter (c : Char) : Char :=
  match c with
  | 'ſ' => 'S'
  | '\u212a' => 'K'
  | 'ı' => 'I'
  | 'İ' => 'I'
  | c => c.toUpper

def isKeyword (word : List Char) : Bool :=
  keywords.contains (String.ofList (word.map keywordLetter))

/-- Words as lists of several glyphs, all other glyphs on their own. -/
def runs : List Glyph → List (List Glyph)
  | [] => []
  | g :: rest =>
    match runs rest with
    | (h :: run) :: others =>
      if g.isWord && h.isWord then (g :: h :: run) :: others else [g] :: (h :: run) :: others
    | others => [g] :: others

/-- Whether a word after two glyphs belongs to a qualified name. -/
def isQualified (earlier before : Option Glyph) : Bool :=
  before == some (.char '.') ||
    (earlier == some (.char '.') && (before.map Glyph.isBlank).getD false)

/-- A keyword in capitals; any other run of glyphs as it is. -/
def upperRun (run : List Glyph) : List Glyph :=
  let word := spell run
  if isKeyword word then glyphs (Text.upper (String.ofList word)) else run

/-- Runs put together again with keywords in capitals, after two given glyphs.  The name after a
point is no keyword. -/
def upperRuns (earlier before : Option Glyph) : List (List Glyph) → List Glyph
  | [] => []
  | run :: rest =>
    let shown := if isQualified earlier before then run else upperRun run
    let earlier := if 2 ≤ run.length then run.dropLast.getLast? else before
    shown ++ upperRuns earlier run.getLast? rest

def upperKeywords (gs : List Glyph) : List Glyph := upperRuns none none (runs gs)

/-! ## Clauses -/

/-- The clauses that start a line. -/
def mainClauses : List Phrase :=
  [["SELECT"], ["FROM"], ["WHERE"], ["GROUP", "BY"], ["HAVING"], ["ORDER", "BY"], ["LIMIT"],
    ["OFFSET"], ["SET"], ["VALUES"]]

def joinPhrases : List Phrase :=
  [["LEFT", "OUTER", "JOIN"], ["RIGHT", "OUTER", "JOIN"], ["LEFT", "JOIN"], ["RIGHT", "JOIN"],
    ["INNER", "JOIN"], ["OUTER", "JOIN"], ["CROSS", "JOIN"], ["JOIN"]]

/-- The clauses whose content stands on an indented line. -/
def indentedClauses : List Phrase :=
  [["FROM"], ["WHERE"], ["ORDER", "BY"], ["GROUP", "BY"], ["LIMIT"], ["SET"]]

/-- The start of a statement with its SELECT list on an indented line. -/
def selectLine (gs : List Glyph) : List Glyph :=
  match (matchPhrase? ["SELECT"] gs).bind afterBlanks? with
  | none => gs
  | some rest =>
    match (matchPhrase? ["DISTINCT"] rest).bind afterBlanks? with
    | some after => glyphs ("SELECT DISTINCT\n" ++ indent) ++ after
    | none => glyphs ("SELECT\n" ++ indent) ++ rest

/-! ## Lists and conditions -/

/-- Whether the next parenthesis is a closing one. -/
def closesNext (gs : List Glyph) : Bool :=
  gs.find? (fun g => g == .char '(' || g == .char ')') == some (.char ')')

/-- An indented line after a comma, unless the next parenthesis is a closing one. -/
def commaBreak : Rule := fun _ gs =>
  match gs with
  | .char ',' :: rest =>
    if closesNext rest then none
    else some (glyphs (",\n" ++ indent), rest.dropWhile Glyph.isBlank)
  | _ => none

/-- The character that stands for the AND of a range for a while. -/
def rangeAnd : Char := '\x01'

/-- Marks the AND of a range whose lower bound holds no blanks. -/
def rangeMark : Rule := fun before gs => do
  if (before.map Glyph.isWord).getD false then none
  else
    let rest ← afterBlanks? (← matchPhrase? ["BETWEEN"] gs)
    let low := rest.takeWhile fun g => !g.isBlank
    let rest ← afterBlanks? (rest.dropWhile fun g => !g.isBlank)
    let after ← afterBlanks? (← matchPhrase? ["AND"] rest)
    if low.isEmpty then none
    else some (glyphs "BETWEEN " ++ low ++ [.char ' ', .char rangeAnd, .char ' '], after)

/-- An indented line for every AND and OR. -/
def logicBreak : Rule := fun _ gs => do
  let rest ← afterBlanks? gs
  ["AND", "OR"].findSome? fun word => do
    let after ← afterBlanks? (← matchPhrase? [word] rest)
    some (glyphs ("\n" ++ indent ++ word ++ " "), after)

/-- The marked AND of ranges as a word again. -/
def unmarked (gs : List Glyph) : List Glyph :=
  gs.flatMap fun g => if g = .char rangeAnd then glyphs "AND" else [g]

/-- The predicate of a join on the line of the join. -/
def joinLine : Rule := fun _ gs =>
  match gs with
  | .char '\n' :: rest => do
    let after ← afterBlanks? (← matchPhrase? ["ON"] (rest.dropWhile Glyph.isBlank))
    some (glyphs " ON ", after)
  | _ => none

/-! ## The whole -/

/-- The lines of a text. -/
def linesOf : List Glyph → List (List Glyph)
  | [] => [[]]
  | g :: rest =>
    if g = .char '\n' then [] :: linesOf rest
    else
      match linesOf rest with
      | line :: lines => (g :: line) :: lines
      | [] => [[g]]

/-- The lines that hold more than blanks. -/
def withoutBlankLines (gs : List Glyph) : List Glyph :=
  List.intercalate [.char '\n'] ((linesOf gs).filter fun line => line.any fun g => !g.isBlank)

/-- Runs of blanks become one space, and those at the ends go. -/
def squeezed (gs : List Glyph) : List Glyph :=
  let spaced := rewrite (fun _ gs => (afterBlanks? gs).map fun rest => ([.char ' '], rest)) gs
  ((spaced.dropWhile Glyph.isBlank).reverse.dropWhile Glyph.isBlank).reverse

/-- Every clause on a line of its own. -/
def brokenAtClauses (gs : List Glyph) : List Glyph :=
  rewrite (breakBefore joinPhrases)
    (mainClauses.foldl (fun gs clause => rewrite (breakBefore [clause]) gs) gs)

/-- The content of clauses on indented lines. -/
def indentedContent (gs : List Glyph) : List Glyph :=
  indentedClauses.foldl (fun gs clause => rewrite (indentAfter clause) gs) (selectLine gs)

/-- Conditions on lines of their own. -/
def brokenAtConditions (gs : List Glyph) : List Glyph :=
  unmarked (rewrite logicBreak (rewrite rangeMark gs))

/-- All passes over the glyphs of a statement. -/
def layOut (gs : List Glyph) : List Glyph :=
  withoutBlankLines <| rewrite joinLine <| brokenAtConditions <| rewrite commaBreak <|
    indentedContent <| brokenAtClauses <| upperKeywords <| squeezed gs

/-- A statement with a line for each clause and for each item of its SELECT list, and with keywords
in capitals.  Literals stay as they are.  There is no result if the text holds the spelling of a
literal that it does not have. -/
def format? (sql : String) : Option String :=
  if Text.trim sql = "" then some ""
  else
    let (gs, literals) := protect sql.toList
    (restore? literals (spell (layOut gs))).map String.ofList

/-- A statement on one line.  A longer one is cut and gets dots; a negative length counts from the
end. -/
def preview (maxLength : Int) (sql : String) : String :=
  let text := (Text.squeeze sql).toList
  if (text.length : Int) ≤ maxLength then String.ofList text
  else
    let kept := if maxLength < 0 then (text.length + maxLength).toNat else maxLength.toNat
    String.ofList (text.take kept) ++ "..."

end Layout
end QueryDesigner

import QueryDesigner.Sql.Parser.Basic

/-!
# Numbers of rows

* `limitOptions` — the words after a number of rows;
* `Grammar.limit?` — a LIMIT clause;
* `Grammar.offset?` — an OFFSET clause;
* `Grammar.atPaging` — whether one of them can be read here: only where none can are their words
  names.
-/

namespace QueryDesigner
namespace Sql

open QueryDesigner.Sql.Parser

/-- The words after a number of rows: parts of a hundred, and rows that are equal to the last. -/
def limitOptions : Parser String := do
  let percent := (← acceptOne? ["PERCENT", "%", "MOD"]).isSome
  let rows := (← acceptOne? ["ROW", "ROWS"]).isSome
  let _ ← accept? "ONLY"
  let withTies ← acceptAll ["WITH", "TIES"]
  return (if percent then " PERCENT" else "") ++ (if rows then " ROWS" else "") ++
    (if withTies then " WITH TIES" else if rows then " ONLY" else "")

namespace Grammar

variable (g : Grammar)

/-- A number of rows.  A remainder is none: its sign stands for parts of a hundred. -/
def rowCount? : Parser (Option Expr) := do
  let tokens ← get
  match ← attempt g.term with
  | some (.binary .mod _ _) =>
    set tokens
    g.factor
  | some e => return some e
  | none => g.factor

/-- The values for each of which rows are counted. -/
def countedGroups : Parser (List Expr) := do
  if (← accepts "BY") then exprList g.bitwise else return []

/-- A LIMIT clause, with the number of rows that are skipped if it names that first. -/
def limit? : Parser (Option (Option Expr × Limit)) := do
  match ← accept? "LIMIT" with
  | none => return none
  | some word =>
    let first ← require g.rowCount?
    let options ← limitOptions
    if (← accepts ",") then
      let count ← require g.term
      let groups ← g.countedGroups
      return some (some first, ⟨some (count.withComments word.comments), options, none, groups⟩)
    else
      let groups ← g.countedGroups
      return some (none, ⟨some (first.withComments word.comments), options, none, groups⟩)

/-- An OFFSET clause. -/
def offset? : Parser (Option Offset) := do
  if (← accepts "OFFSET") then
    let count ← require g.term
    let _ ← acceptOne? ["ROW", "ROWS"]
    return some ⟨count, ← g.countedGroups⟩
  else return none

/-- Whether a LIMIT or OFFSET clause can be read here. -/
def atPaging : Parser Bool := do
  if (← wouldFind g.limit?) then return true else wouldFind g.offset?

end Grammar

end Sql
end QueryDesigner

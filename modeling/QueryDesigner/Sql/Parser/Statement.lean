import QueryDesigner.Sql.Lexer
import QueryDesigner.Sql.Parser.Query

/-!
# Statements

* `Grammar.level` — the grammar for parts that are nested at most so deep;
* `Grammar.statement?` — one statement;
* `splitStatements` — tokens between semicolons;
* `statements?` — all statements of a text;
* `script?` — the same, if there is one at all.
-/

namespace QueryDesigner
namespace Sql

open QueryDesigner.Sql.Parser

/-! ## Nesting -/

/-- The grammar for parts that are nested at most so deep. -/
def Grammar.level : Nat → Grammar
  | 0 => .nothing
  | depth + 1 =>
    let g := Grammar.level depth
    { column := g.columnExpr
      unary := g.unaryExpr
      factor := g.factorExpr
      equality := g.equalityExpr
      bitwise := g.bitwiseExpr
      term := g.termExpr
      disjunction := g.disjunctionExpr
      assignment := g.assignmentExpr
      expression := g.expressionItem
      query := g.queryItem
      operand := g.operandItem
      continued := g.continuedQuery
      source := g.sourceItem
      joins := g.joinList }

/-! ## Kinds of statements -/

/-- The words, besides those of commands, with which statements start that are not looked into. -/
def opaqueWords : List String :=
  ["ALTER", "ANALYZE", "BEGIN", "CACHE", "COMMENT", "COMMIT", "COPY", "DROP", "GRANT", "KILL",
    "LOAD", "MERGE", "PRAGMA", "REFRESH", "REVOKE", "ROLLBACK", "SET", "SHOW", "START", "TRUNCATE",
    "UNCACHE", "USE"]

/-- The text of tokens, with single blanks between those that do not touch. -/
def plainText : List Token → String
  | [] => ""
  | [t] => variableText t
  | t :: u :: rest =>
    let gap := if t.stop = u.start ∧ u.kind ≠ .verbatim then "" else " "
    variableText t ++ gap ++ plainText (u :: rest)

namespace Grammar

variable (g : Grammar)

/-- All tokens that are left, as they stand. -/
def remaining : Parser String := do
  let tokens ← get
  set ([] : List Token)
  return plainText tokens

def commandStatement : Parser Statement := return .command (← remaining)

/-- Only these clauses, of which there are no more than steps. -/
def clausesAmong (words : List String) : Nat → Tail → Parser Tail
  | 0, tail => return tail
  | steps + 1, tail => do
    if words.contains (← keyword) then
      match ← g.clause? tail with
      | none => return tail
      | some tail => clausesAmong words steps tail
    else return tail

/-- The clauses that say which rows a statement concerns. -/
def rowClauses : Parser Tail := do
  g.clausesAmong ["WHERE", "ORDER BY", "LIMIT"] (← get).length Tail.empty

/-- The text before the first of the words. -/
def textBefore (words : List String) : Parser String := do
  let tokens ← get
  let starts (t : Token) : Bool := words.contains t.keyword
  set (tokens.dropWhile fun t => !starts t)
  return plainText (tokens.takeWhile fun t => !starts t)

def updateStatement : Parser Statement := do
  let _ ← expect "UPDATE"
  let source ←
    match ← g.wrappedQuery? with
    | some q => pure (TableSource.query q)
    | none => require (g.namedTable ["SET"])
  let joins ← g.joins
  let _ ← expect "SET"
  let assignments ← exprList g.equality
  return .update (withJoins source joins) assignments (← g.rowClauses)

/-- A table with the tables that are joined to it. -/
def joinedSource? : Parser (Option TableSource) := do
  match ← g.source with
  | none => return none
  | some source => return some (withJoins source (← g.joins))

def deleteStatement : Parser Statement := do
  let _ ← expect "DELETE"
  let targets ← if (← keyword) = "FROM" then pure [] else commaList g.source
  let source ← if (← accepts "FROM") then some <$> require g.joinedSource? else pure none
  let others ← if (← accepts "USING") then commaList g.joinedSource? else pure []
  return .delete targets source others (← g.rowClauses)

/-- The columns of a table that new rows have. -/
def newColumns : Parser (List Expr) := do
  if (← keyword) = "(" && !(["(", "SELECT", "WITH"].contains (← keywordAhead)) then
    let _ ← expect "("
    let columns ← commaList looseName?
    let _ ← expect ")"
    return columns.map (Expr.column [])
  else return []

/-- The table that new rows go into, and their columns. -/
def newRowsTarget : Parser (TableSource × List Expr) := do
  let name ← require (g.tableName? false)
  let partition ← g.partitions
  let hasList := (← keyword) = "("
  let columns ← newColumns
  let aliasName ← if !hasList && (← keyword) = "AS" then g.tableAlias? [] else pure none
  return (.table name.path name.computed name.comments partition aliasName [] none [], columns)

/-- What changes in rows that are there already. -/
def rowChanges : Parser (List Expr) := do
  if (← acceptAll ["ON", "DUPLICATE", "KEY", "UPDATE"]) then
    let _ ← accept? "SET"
    exprList g.equality
  else return []

/-- New rows from values or from a query. -/
def insertStatement : Parser Statement := do
  let _ ← expect "INSERT"
  let hints ← g.plannerHints
  let isIgnoring ← accepts "IGNORE"
  let _ ← accept? "INTO"
  let _ ← accept? "TABLE"
  let (target, columns) ← g.newRowsTarget
  match ← orElse? g.wrappedValues? (orElse? g.query g.operand) with
  | none => return .insert hints isIgnoring target columns none (← g.rowChanges)
  | some q =>
    let q ← g.continued q
    return .insert hints isIgnoring target columns (some q) (← g.rowChanges)

def createStatement : Parser Statement := do
  let target ← textBefore ["AS", "SELECT", "WITH"]
  let _ ← accept? "AS"
  match ← orElse? g.query g.operand with
  | none => return .command (target ++ (← remaining))
  | some q => return .create target (← g.continued q)

/-- A question about a query, or about what is named. -/
def describeStatement : Parser Statement := do
  let _ ← acceptOne? ["DESCRIBE", "DESC", "EXPLAIN"]
  let _ ← acceptOne? ["ANALYZE", "EXTENDED", "FORMATTED"]
  match ← attempt (orElse? g.query g.operand) with
  | some q => return .describe (← g.continued q)
  | none =>
    let subject ← remaining
    return .command (if subject.isEmpty then "DESCRIBE" else "DESCRIBE " ++ subject)

/-- A query or an expression. -/
def queryStatement? : Parser (Option Statement) := do
  match ← g.expression with
  | some e =>
    match e.bare with
    | .query q => return some (.query (← g.continued q))
    | _ => return some (.expression e)
  | none =>
    match ← g.query with
    | some q => return some (.query (← g.continued q))
    | none => return none

/-- A statement. -/
def statement? : Parser (Option Statement) := do
  match ← keyword with
  | "DESCRIBE" => return some (← g.describeStatement)
  | "DESC" => return some (← g.describeStatement)
  | "EXPLAIN" => return some (← g.describeStatement)
  | "UPDATE" => return some (← g.updateStatement)
  | "DELETE" => return some (← g.deleteStatement)
  | "INSERT" => return some (← g.insertStatement)
  | "CREATE" => return some (← g.createStatement)
  | word =>
    if opaqueWords.contains word || commandWords.contains word then
      return some (← commandStatement)
    else g.queryStatement?

end Grammar

/-! ## Texts of several statements -/

/-- The tokens between semicolons.  A semicolon at the end starts no further statement. -/
def splitStatements : List Token → List (List Token)
  | [] => [[]]
  | [t] => if t.is ";" then [[]] else [[t]]
  | t :: u :: rest =>
    if t.is ";" then [] :: splitStatements (u :: rest)
    else
      match splitStatements (u :: rest) with
      | first :: others => (t :: first) :: others
      | [] => [[t]]

/-- The nesting that so many tokens can have at most. -/
def depthFor (tokens : List Token) : Nat := 2 * tokens.length + 2

/-- The statement that all of the tokens make up.  Without tokens there is none; tokens that make
up no statement are refused. -/
def statementOf? (tokens : List Token) : Option (Option Statement) :=
  match tokens with
  | [] => some none
  | _ =>
    match (Grammar.level (depthFor tokens)).statement? tokens with
    | some (some statement, []) => some (some statement)
    | _ => none

/-- All statements of a text, unless one of them cannot be read.  Between two semicolons there may
be none. -/
def statements? (s : String) : Option (List (Option Statement)) := do
  (splitStatements (← tokens? s)).mapM statementOf?

/-- All statements of a text that holds at least one. -/
def script? (s : String) : Option (List Statement) := do
  match (← statements? s).filterMap id with
  | [] => none
  | script => some script

end Sql
end QueryDesigner

import QueryDesigner.Sql.Lexer
import QueryDesigner.Sql.Parser.Source

/-!
# Queries

* `Grammar.clauses` — the clauses after the SELECT list and the FROM clause, in any order;
* `Grammar.selectQuery?` — a SELECT statement;
* `Grammar.queryItem` — a query that does not start with a parenthesis;
* `Grammar.setOperations` — operators between queries, which bind to the left;
* `Grammar.continuedQuery` — a query with all that may follow it.
-/

namespace QueryDesigner
namespace Sql

open QueryDesigner.Sql.Parser

/-! ## Clauses -/

namespace Grammar

variable (g : Grammar)

def whereClause (tail : Tail) : Parser Tail := do
  let word ← expect "WHERE"
  let condition ← require g.disjunction
  if tail.condition.isSome then refuse
  else
    return { tail with
      condition := some condition
      comments := { tail.comments with condition := word.comments } }

/-- Several groupings at once.  After `WITH` they concern the groups before them. -/
def groupingSet? (afterWith : Bool) : Parser (Option Expr) := do
  match ← acceptOne? ["CUBE", "ROLLUP"] with
  | none => return none
  | some word =>
    if afterWith then return some (.marker ("WITH " ++ word.keyword))
    else
      let _ ← expect "("
      let items ← exprList g.bitwise
      let _ ← expect ")"
      return some (if items.isEmpty then .marker ("WITH " ++ word.keyword)
        else .listForm word.keyword items)

/-- The sets of groupings, in at most the given depth. -/
def groupingSets? : Nat → Parser (Option Expr)
  | 0 => refuse
  | depth + 1 => do
    if (← accepts "GROUPING SETS") then
      let _ ← expect "("
      let sets ← exprList (orElse? (groupingSets? depth) (orElse? (g.groupingSet? false) g.bitwise))
      let _ ← expect ")"
      return some (.listForm "GROUPING SETS" sets)
    else return none

/-- The groups of a query that have been read so far. -/
structure Groups where
  items : List Expr := []
  sets : List Expr := []
  cubes : List Expr := []
  rollups : List Expr := []
  withTotals : Bool := false

/-- Groups with a set of groupings by its word. -/
def Groups.add (gs : Groups) (isCube : Bool) (e : Expr) : Groups :=
  if isCube then { gs with cubes := gs.cubes ++ [e] } else { gs with rollups := gs.rollups ++ [e] }

/-- What may follow the items of a GROUP BY clause, if there is anything. -/
def furtherGroups? (gs : Groups) : Parser (Option Groups) := do
  let tokens ← get
  let afterWith ← accepts "WITH"
  let isCube := (← keyword) = "CUBE"
  match ← g.groupingSet? afterWith with
  | some e => return some (gs.add isCube e)
  | none =>
    match ← g.groupingSets? (tokens.length + 1) with
    | some e => return some { gs with sets := gs.sets ++ [e] }
    | none =>
      if (← accepts "TOTALS") && afterWith then return some { gs with withTotals := true }
      else
        set tokens
        return none

/-- An item of a GROUP BY clause. -/
def groupItem? : Parser (Option Expr) := do
  if ["CUBE", "ROLLUP"].contains (← keyword) then return none else g.assignment

/-- Groups, in at most the given number of steps. -/
def groupsFrom : Nat → Groups → Parser Groups
  | 0, gs => return gs
  | steps + 1, gs => do
    let items ← exprList g.groupItem?
    let gs := { gs with items := gs.items ++ items }
    match ← g.furtherGroups? gs with
    | none => return gs
    | some gs => groupsFrom steps gs

/-- The words with which clauses start. -/
def clauseWords : List String :=
  ["WHERE", "GROUP BY", "HAVING", "QUALIFY", "WINDOW", "ORDER BY", "LIMIT", "FETCH", "OFFSET", "FOR",
    "LOCK", "TABLESAMPLE", "USING", "CLUSTER BY", "DISTRIBUTE BY", "SORT BY", "CONNECT BY",
    "START WITH"]

/-- The list of a GROUP BY clause may be empty. -/
def groupClause (tail : Tail) : Parser Tail := do
  let word ← expect "GROUP BY"
  let quantifier := ((← acceptOne? ["ALL", "DISTINCT", "DISTINCTROW"]).map fun t =>
    if t.is "ALL" then "ALL" else "DISTINCT").getD ""
  let groups ←
    if clauseWords.contains (← keyword) then pure {} else g.groupsFrom (← get).length {}
  if tail.grouping.isSome then refuse
  else
    return { tail with
      grouping := some
        ⟨quantifier, groups.items, groups.sets ++ groups.cubes ++ groups.rollups,
          groups.withTotals⟩
      comments := { tail.comments with grouping := word.comments } }

def havingClause (tail : Tail) : Parser Tail := do
  let word ← expect "HAVING"
  let condition ← require g.disjunction
  if tail.having.isSome then refuse
  else
    return { tail with
      having := some condition
      comments := { tail.comments with having := word.comments } }

def orderClause (tail : Tail) : Parser Tail := do
  let word ← expect "ORDER BY"
  let items ← g.orderItems
  if tail.order.isEmpty then
    return { tail with order := items, comments := { tail.comments with order := word.comments } }
  else refuse

def qualifyClause (tail : Tail) : Parser Tail := do
  let _ ← expect "QUALIFY"
  let condition ← require g.disjunction
  if tail.qualify.isSome then refuse else return { tail with qualify := some condition }

/-- The words for orders within the parts of which the rows come, in the order in which they are
written. -/
def sortWords : List String := ["CLUSTER BY", "DISTRIBUTE BY", "SORT BY"]

/-- The place of an order among those with other words. -/
def sortRank : Expr → Nat
  | .sorted words _ => sortWords.idxOf words
  | _ => sortWords.length

/-- An order within the parts of which the rows come. -/
def sortClause (tail : Tail) : Parser Tail := do
  let word ← require (acceptOne? sortWords)
  let sort := Expr.sorted word.keyword (← g.orderItems)
  if tail.sorts.any fun other => sortRank other == sortRank sort then refuse
  else
    let earlier := tail.sorts.filter fun other => sortRank other < sortRank sort
    let later := tail.sorts.filter fun other => sortRank sort < sortRank other
    return { tail with sorts := earlier ++ [sort] ++ later }

/-! ## Trees of rows -/

/-- The word that refers to the row above, as an operator or again as a name. -/
def priorAs (kind : TokenKind) (t : Token)
    (h : (kind == .number) = false := by exact Eq.refl false) : Token :=
  if t.is "PRIOR" then { t with toLexeme := .of kind "PRIOR" h } else t

/-- A condition in which a word refers to the row above. -/
def connectionCondition : Parser Expr := do
  let tokens ← get
  set (tokens.map (priorAs .phrase))
  let e ← require g.disjunction
  let rest ← get
  set (tokens.drop (tokens.length - rest.length))
  return e

/-- The first rows of a tree, and how the others are reached from them. -/
def connectionClause (tail : Tail) : Parser Tail := do
  let start ← if (← accepts "START WITH") then some <$> require g.disjunction else pure none
  let _ ← accept? "CONNECT BY"
  let word := if (← accepts "NOCYCLE") then "CONNECT BY NOCYCLE " else "CONNECT BY "
  let condition ← g.connectionCondition
  let start ←
    if start.isNone && (← accepts "START WITH") then some <$> require g.disjunction else pure start
  let connection :=
    match start with
    | some start => Expr.form ["START WITH ", " " ++ word, ""] [start, condition]
    | none => .form [word, ""] [condition]
  if tail.connection.isSome then refuse else return { tail with connection := some connection }

/-- A number of rows that is fetched. -/
def fetch? : Parser (Option Limit) := do
  if (← accepts "FETCH") then
    let direction := ((← acceptOne? ["FIRST", "NEXT"]).map Token.keyword).getD "FIRST"
    let count ←
      if ["ROW", "ROWS", "PERCENT"].contains (← keyword) then pure none else g.field?
    return some ⟨count, ← limitOptions, some direction, []⟩
  else return none

/-- Of two numbers the first one is the offset. -/
def limitClause (tail : Tail) : Parser Tail := do
  if tail.limit.isSome then refuse
  else
    match ← g.fetch? with
    | some limit => return { tail with limit := some limit }
    | none =>
      match ← require g.limit? with
      | (some skip, limit) =>
        return { tail with
          limit := some { limit with groups := [] }
          offset := some ⟨skip, limit.groups⟩ }
      | (none, limit) => return { tail with limit := some limit }

def offsetClause (tail : Tail) : Parser Tail := do
  let offset ← require g.offset?
  if tail.offset.isSome then refuse else return { tail with offset := some offset }

def sampleClause (tail : Tail) : Parser Tail := do
  let sample ←
    if (← acceptAll ["USING", "SAMPLE"]) then g.sampleAfterWord else require g.sample?
  if tail.sample.isSome then refuse else return { tail with sample := some sample }

/-! ## Row locks -/

/-- What a row lock does where rows are locked already. -/
def lockWait : Parser String := do
  if (← accepts "NOWAIT") then return " NOWAIT"
  else if (← accepts "WAIT") then
    match ← takeKind? .number with
    | some t => return " WAIT " ++ t.text
    | none => return ""
  else if (← acceptAll ["SKIP", "LOCKED"]) then return " SKIP LOCKED"
  else return ""

/-- The words of a row lock. -/
def lockWords? : Parser (Option String) := do
  if (← acceptAll ["FOR", "UPDATE"]) then return some "FOR UPDATE"
  else if (← acceptAll ["FOR", "SHARE"]) then return some "FOR SHARE"
  else if (← acceptAll ["LOCK", "IN", "SHARE", "MODE"]) then return some "FOR SHARE"
  else if (← acceptAll ["FOR", "KEY", "SHARE"]) then return some "FOR KEY SHARE"
  else if (← acceptAll ["FOR", "NO", "KEY", "UPDATE"]) then return some "FOR NO KEY UPDATE"
  else return none

/-- A table by its name alone. -/
def lockedTable? : Parser (Option Expr) := do
  match ← g.tableName? true with
  | none => return none
  | some name =>
    match name.path.reverse, name.computed with
    | last :: before, none => return some (.column before.reverse last)
    | _, some e => return some e
    | [], none => refuse

/-- A lock on the rows that a query reads. -/
def lock? : Parser (Option Expr) := do
  match ← lockWords? with
  | none => return none
  | some words =>
    let tables ← if (← accepts "OF") then exprList g.lockedTable? else pure []
    let wait ← lockWait
    match tables with
    | [] => return some (.marker (words ++ wait))
    | tables =>
      return some (.form
        ((words ++ " OF ") :: List.replicate (tables.length - 1) ", " ++ [wait]) tables)

/-! ## Windows -/

/-- A window that calls refer to by its name. -/
def windowDefinition? : Parser (Option Expr) := do
  match ← nameToken? [] with
  | none => return none
  | some name =>
    let _ ← accept? "AS"
    if (← accepts "(") then return some (← g.windowOf (.column [] (identOf name)))
    else
      let base ← require name?
      return some (.namedWindow (.column [] (identOf name)) base)

def windowClause (tail : Tail) : Parser Tail := do
  let _ ← expect "WINDOW"
  let windows ← commaList g.windowDefinition?
  if windows.isEmpty || !tail.windows.isEmpty then refuse
  else return { tail with windows := windows }

/-- The next clause, if there is one. -/
def clause? (tail : Tail) : Parser (Option Tail) := do
  match ← keyword with
  | "WHERE" => return some (← g.whereClause tail)
  | "GROUP BY" => return some (← g.groupClause tail)
  | "HAVING" => return some (← g.havingClause tail)
  | "ORDER BY" => return some (← g.orderClause tail)
  | "LIMIT" => return some (← g.limitClause tail)
  | "FETCH" => return some (← g.limitClause tail)
  | "OFFSET" => return some (← g.offsetClause tail)
  | "WINDOW" => return some (← g.windowClause tail)
  | "QUALIFY" => return some (← g.qualifyClause tail)
  | "TABLESAMPLE" => return some (← g.sampleClause tail)
  | "USING" =>
    if (← keywordAhead) = "SAMPLE" then return some (← g.sampleClause tail) else return none
  | "CONNECT BY" => return some (← g.connectionClause tail)
  | "START WITH" => return some (← g.connectionClause tail)
  | "CLUSTER BY" => return some (← g.sortClause tail)
  | "DISTRIBUTE BY" => return some (← g.sortClause tail)
  | "SORT BY" => return some (← g.sortClause tail)
  | _ =>
    match ← repeated g.lock? with
    | [] => return none
    | locks => if tail.locks.isEmpty then return some { tail with locks := locks } else refuse

/-- All clauses, of which there are no more than steps. -/
def clausesFrom : Nat → Tail → Parser Tail
  | 0, tail => return tail
  | steps + 1, tail => do
    match ← g.clause? tail with
    | none => return tail
    | some tail => clausesFrom steps tail

def clauses (tail : Tail) : Parser Tail := do
  g.clausesFrom (← get).length tail

/-- Joins, then calls that give rows, and then clauses. -/
def modifiers (tail : Tail) : Parser Tail := do
  let joins ← g.joinList
  let views ← repeated g.lateralView?
  g.clauses { tail with joins := tail.joins ++ joins, views := tail.views ++ views }

/-- A query with what may stand after its last part. -/
def modified : Query → Parser Query
  | .select s => return .select { s with tail := ← g.modifiers s.tail }
  | .set op isAll left right tail => return .set op isAll left right (← g.modifiers tail)
  | .wrapped q aliasName tail => return .wrapped q aliasName (← g.modifiers tail)
  | .tables source aliasName tail => return .tables source aliasName (← g.modifiers tail)
  | .values rows aliasName => return .values rows aliasName
  | .withTables isRecursive tables q => return .withTables isRecursive tables (← modified q)
  | .into target isTemporary q => return .into target isTemporary (← modified q)

/-! ## SELECT -/

/-- The words after `SELECT` that advise the server. -/
def adviceWords : List String :=
  ["HIGH_PRIORITY", "STRAIGHT_JOIN", "SQL_SMALL_RESULT", "SQL_BIG_RESULT", "SQL_BUFFER_RESULT",
    "SQL_NO_CACHE", "SQL_CALC_FOUND_ROWS"]

/-- Whether equal rows count once.  `ALL` and `DISTINCT` exclude each other. -/
def distinct : Parser Bool := do
  let tokens ← get
  if 2 ≤ tokens.length ∧ (← keywordAhead) ≠ "." then
    let all ← accepts "ALL"
    let distinct := (← acceptOne? ["DISTINCT", "DISTINCTROW"]).isSome
    if all && distinct then refuse else return distinct
  else return false

/-- What rows have to agree in to be equal. -/
def distinctOn : Parser (List Expr) := do
  if (← accepts "ON") then
    match ← g.rowOfValues? with
    | some (.tuple items) => return items
    | _ => refuse
  else return []

/-- A piece of advice to the planner: a call, or a word in capitals. -/
def plannerHint? : Parser (Option Expr) := do
  match ← g.call? with
  | some e => return some e
  | none => return (← takeIf? isPlainWord).map fun t => .marker t.keyword

/-- Lists of advice, of which there are no more than steps. -/
def plannerHintsFrom : Nat → Parser (List Expr)
  | 0 => return []
  | steps + 1 => do
    match ← commaList g.plannerHint? with
    | [] => return []
    | hints => return hints ++ (← plannerHintsFrom steps)

/-- The advice in a comment.  What cannot be read is taken as it stands, but there has to be
something. -/
def plannerHints : Parser (List Expr) := do
  match ← takeKind? .hint with
  | none => return []
  | some comment =>
    match tokens? comment.text with
    | none => refuse
    | some [] => refuse
    | some tokens =>
      match g.plannerHintsFrom tokens.length tokens with
      | some (hints, []) => return hints
      | _ => return [.marker (Text.trim comment.text)]

/-- The table into which rows go, and whether it is temporary. -/
def into? : Parser (Option (TableSource × Bool)) := do
  if (← accepts "INTO") then
    let isTemporary ← accepts "TEMPORARY"
    let _ ← accept? "UNLOGGED"
    let _ ← accept? "TABLE"
    let name ← require (g.tableName? false)
    return some (.table name.path name.computed name.comments [] none [] none [], isTemporary)
  else return none

/-- A query whose rows may go into a table. -/
def rowsInto (into : Option (TableSource × Bool)) (q : Query) : Query :=
  match into with
  | some (target, isTemporary) => .into target isTemporary q
  | none => q

/-- The FROM clause with the comments of its keyword. -/
def from? : Parser (Option (TableSource × List String)) := do
  match ← accept? "FROM" with
  | none => return none
  | some word => return some (← require g.source, word.comments)

/-- A SELECT statement, given a FROM clause that stands before it. -/
def selectAfter? (before : Option (TableSource × List String)) : Parser (Option Query) := do
  match ← accept? "SELECT" with
  | none => return none
  | some word =>
    let hints ← g.plannerHints
    let isDistinct ← distinct
    let keys ← if isDistinct then g.distinctOn else pure []
    let advice ← repeated (takeIf? fun t => adviceWords.contains t.keyword)
    let items ← exprList g.expression
    let into ← g.into?
    let source ← if before.isSome then pure before else g.from?
    let comments : ClauseComments := { source := (source.map Prod.snd).getD [] }
    let tail ← g.modifiers { Tail.empty with comments := comments }
    return some (rowsInto into (.select
      ⟨word.comments, hints, isDistinct, keys, advice.map Token.keyword, items,
        source.map Prod.fst, tail⟩))

/-- A FROM clause on its own selects everything. -/
def selectEverything (source : TableSource × List String) : Parser Query := do
  let comments : ClauseComments := { source := source.2 }
  let tail ← g.modifiers { Tail.empty with comments := comments }
  return .select { Select.plain [.star []] (some source.1) with tail := tail }

def selectQuery? : Parser (Option Query) := do
  let before ← g.from?
  match ← g.selectAfter? before, before with
  | some q, _ => return some q
  | none, some source => return some (← g.selectEverything source)
  | none, none => return none

/-! ## WITH -/

/-- A name for a query. -/
def commonTable? : Parser (Option Cte) := do
  match ← g.tableAlias? [] with
  | none => return none
  | some aliasName =>
    let _ ← accept? "AS"
    let _ ← expect "("
    let q ← require (orElse? g.query g.operand)
    let q ← g.continued q
    let _ ← expect ")"
    return some ⟨aliasName, q⟩

/-- A query with the tables that it names first. -/
def withQuery? : Parser (Option Query) := do
  if (← accepts "WITH") then
    let isRecursive ← accepts "RECURSIVE"
    let tables ← commaList g.commonTable?
    if tables.isEmpty then refuse
    else
      let q ← require (orElse? g.query g.operand)
      return some (withTablesFirst isRecursive tables (← g.continued q))
  else return none
where
  withTablesFirst (isRecursive : Bool) (tables : List Cte) : Query → Query
    | .into target isTemporary q => .into target isTemporary (.withTables isRecursive tables q)
    | q => .withTables isRecursive tables q

/-! ## Operators between queries -/

/-- A query without further queries after it, and not in parentheses. -/
def simpleQuery? : Parser (Option Query) := do
  match ← g.withQuery? with
  | some q => return some q
  | none =>
    match ← g.selectQuery? with
    | some q => return some q
    | none => if (← accepts "VALUES") then return some (← g.valuesQuery) else return none

/-- A query without further queries after it, which may be in parentheses. -/
def operandItem : Parser (Option Query) := do
  if (← accepts "(") then
    let q ← g.continued (← require g.operand)
    let _ ← expect ")"
    return some (.wrapped q (← g.tableAlias? []) Tail.empty)
  else g.simpleQuery?

/-- An operator between queries, and whether equal rows are kept. -/
def setOperator? : Parser (Option (SetOperator × Bool)) := do
  match ← acceptOne? ["UNION", "EXCEPT", "INTERSECT"] with
  | none => return none
  | some t =>
    let op : SetOperator :=
      match t.keyword with
      | "UNION" => .union
      | "EXCEPT" => .except_
      | _ => .intersect
    if (← accepts "DISTINCT") then return some (op, false)
    else return some (op, ← accepts "ALL")

/-- Order and paging after the last operand belong to the whole. -/
def hoisted : Query → Query
  | .set op isAll left (.select s) tail =>
    let comments :=
      if s.tail.order.isEmpty then tail.comments
      else { tail.comments with order := s.tail.comments.order }
    .set op isAll left
      (.select { s with tail := { s.tail with order := [], limit := none, offset := none } })
      { tail with
        order := if s.tail.order.isEmpty then tail.order else s.tail.order
        limit := s.tail.limit.or tail.limit
        offset := s.tail.offset.or tail.offset
        comments := comments }
  | q => q

/-- A query with the queries after it, in at most the given number of steps. -/
def setOperationsFrom : Nat → Query → Parser Query
  | 0, left => return left
  | steps + 1, left => do
    match ← setOperator? with
    | none => return left
    | some (op, isAll) =>
      let right ← require g.operand
      setOperationsFrom steps (.set op isAll left right Tail.empty)

def setOperations (q : Query) : Parser Query := do
  return hoisted (← g.setOperationsFrom (← get).length q)

/-- A query that does not start with a parenthesis.  A question about a query is none. -/
def queryItem : Parser (Option Query) := do
  if ["DESCRIBE", "EXPLAIN"].contains (← keyword) then refuse
  else
    match ← g.simpleQuery? with
    | none => return none
    | some q => return some (← g.setOperations q)

/-- A query with all that may follow it. -/
def continuedQuery (q : Query) : Parser Query := do
  g.modified (← g.setOperations q)

end Grammar

end Sql
end QueryDesigner

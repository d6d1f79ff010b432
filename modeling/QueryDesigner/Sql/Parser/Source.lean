import QueryDesigner.Sql.Parser.Expression

/-!
# What queries read from

* `Grammar.sample?` — the part of a table that is read;
* `Grammar.namedTable` — a table by name, with its alias and its hints;
* `Grammar.sourceItem` — a table, or a query or tables between parentheses;
* `Grammar.join?` — a table that is joined to the ones before it.
-/

namespace QueryDesigner
namespace Sql

open QueryDesigner.Sql.Parser

/-! ## Values -/

namespace Grammar

variable (g : Grammar)

/-- A value, which may be the one that is meant where none is given. -/
def rowValue? : Parser (Option Expr) := do
  if (← accepts "DEFAULT") then return some (.marker "DEFAULT") else g.expression

/-- A row of values. -/
def rowOfValues? : Parser (Option Expr) := do
  if (← accepts "(") then
    let items ← exprList g.rowValue?
    let _ ← expect ")"
    return some (.tuple items)
  else return (← g.expression).map fun e => .tuple [e]

/-! ## Aliases -/

/-- Names for the columns of a table. -/
def columnNames? : Parser (Option (List Ident)) := attempt do
  if (← get).head?.any fun t => t.is "(" then
    let names ← nameList
    if names.isEmpty then refuse else return some names
  else return none

/-- Another name for a table, which is none of the excluded words. -/
def tableAlias? (excluded : List String) : Parser (Option TableAlias) := do
  if (← g.atPaging) then return none
  else
    let afterAs ← accepts "AS"
    let name ← nameAfter? (afterTableWords ++ excluded) afterAs
    let columns ← columnNames?
    if name.isNone && columns.isNone then return none
    else return some ⟨name.map identOf, columns.getD [], (name.map Token.comments).getD []⟩

/-! ## Tables by name -/

/-- A part of the name of a table.  A call or a marker stands for the table itself. -/
inductive TablePart where
  | name (ident : Ident) (comments : List String)
  | computed (e : Expr)

/-- A part of the name of a table, which may be a call on request. -/
def tablePart? (mayCall : Bool) : Parser (Option TablePart) := do
  match ← if mayCall then g.call? else pure none with
  | some call => return some (.computed call)
  | none =>
    match ← takeIf? fun t => isNameToken [] t || t.kind == .text with
    | some t => return some (.name (identOf t) t.comments)
    | none =>
      if (← current?).any fun t => t.is "?" then
        let _ ← accept? "?"
        return some (.computed (.marker "?"))
      else return (← userVariable?).map .computed

/-- The name of a table: its path, what computes it if it has no name, and its comments. -/
structure TableName where
  path : List Ident := []
  computed : Option Expr := none
  comments : List String := []

def TableName.add (n : TableName) : TablePart → TableName
  | .name ident comments => ⟨n.path ++ [ident], none, comments⟩
  | .computed e => ⟨n.path, some e, []⟩

/-- The part of a table name after a point. -/
def nextPart? (mayCall : Bool) : Parser (Option TablePart) := do
  if (← accepts ".") then
    let part ← require (g.tablePart? mayCall)
    return some part
  else return none

def tableName? (mayCall : Bool) : Parser (Option TableName) := do
  match ← g.tablePart? mayCall with
  | none => return none
  | some first =>
    let others ← repeated (g.nextPart? mayCall)
    return some (others.foldl TableName.add (({} : TableName).add first))

/-- The partitions of a table that are read. -/
def partitions : Parser (List Expr) := do
  if (← accepts "PARTITION") then
    let _ ← expect "("
    let items ← exprList g.disjunction
    let _ ← expect ")"
    return items
  else return []

/-- Advice on the use of an index. -/
def indexHint? : Parser (Option Expr) := do
  match ← acceptOne? ["USE", "FORCE", "IGNORE"] with
  | none => return none
  | some verb =>
    let _ ← acceptOne? ["INDEX", "KEY"]
    let target ←
      if (← accepts "FOR") then
        let t ← require (takeIf? isLooseName)
        pure (" FOR " ++ Text.upper t.text)
      else pure ""
    let _ ← expect "("
    let names ← commaList looseName?
    let _ ← expect ")"
    return some (.listForm (verb.keyword ++ " INDEX" ++ target) (names.map (Expr.column [])))

/-- A word of advice on a table. -/
def advice? : Parser (Option Expr) := do
  match ← g.call? with
  | some e => return some e
  | none => return (← takeIf? isLooseName).map fun t => .marker t.text

/-- Advice on a table. -/
def tableHints : Parser (List Expr) := do
  if (← acceptAll ["WITH", "("]) then
    let words ← commaList g.advice?
    let _ ← expect ")"
    return [.listForm "WITH" words]
  else repeated indexHint?

/-- The start of a sequence of random numbers, after the size of a sample. -/
def sampleSeed : Parser String := do
  if (← accepts "(") then
    let method ← takeIf? isPlainWord
    let seed ← if (← accepts ",") then takeKind? .number else pure none
    let _ ← expect ")"
    return " (" ++ String.intercalate ", " ((method.toList ++ seed.toList).map (·.text)) ++ ")"
  else if (← acceptOne? ["SEED", "REPEATABLE"]).isSome then
    let _ ← expect "("
    let seed ← takeKind? .number
    let _ ← expect ")"
    return " SEED (" ++ (seed.map (·.text)).getD "" ++ ")"
  else return ""

/-- The size of a sample, which may be a share of some buckets. -/
def sampleSize : Parser (List Expr × String) := do
  let size ← if ← isKind .number then g.factor else g.primary?
  if (← accepts "BUCKET") then
    let share ← takeKind? .number
    let _ ← acceptAll ["OUT", "OF"]
    let buckets ← takeKind? .number
    let _ ← accept? "ON"
    let field ← g.field?
    let digits (t : Option Token) : String := (t.map (·.text)).getD ""
    return (field.toList, "BUCKET " ++ digits share ++ " OUT OF " ++ digits buckets ++ " ON ")
  else
    let unit := ((← acceptOne? ["PERCENT", "%", "MOD", "ROWS"]).map fun t =>
      if t.is "ROWS" then "ROWS " else "PERCENT ").getD ""
    return (size.toList, unit)

/-- A sample by its method, its size and the start of its random numbers. -/
def sampleAfterWord : Parser Expr := do
  let method := ((← takeIf? fun t => isPlainWord t || t.is "ROW").map fun t =>
    t.keyword ++ " ").getD ""
  let isWrapped ← accepts "("
  let (size, unit) ← g.sampleSize
  if isWrapped then
    let _ ← expect ")"
  let seed ← sampleSeed
  return .form ["TABLESAMPLE " ++ method ++ "(" ++ unit, ")" ++ seed] size

/-- The part of a table that is read, at random. -/
def sample? : Parser (Option Expr) := do
  if (← accepts "TABLESAMPLE") then
    return some (← g.sampleAfterWord)
  else return none

/-! ## Pivots

A pivot makes columns of rows, or rows of columns.  No server that this library writes for knows it,
so it is read and not kept. -/

/-- A value that a pivot makes a column of, with the name of that column. -/
def pivotValue? : Parser (Option Expr) := do
  match ← g.queryOrExpression with
  | none => return none
  | some e =>
    let _ ← accept? "AS"
    let _ ← g.bitwise
    return some e

/-- The values that a pivot makes columns of. -/
def pivotRange? : Parser (Option Unit) := attempt do
  let _ ← require g.column
  let _ ← expect "IN"
  if (← accepts "(") then
    if (← accepts "ANY") then
      let _ ← g.order?
    else
      let _ ← exprList g.pivotValue?
    let _ ← expect ")"
    return some ()
  else
    let _ ← require name?
    return some ()

/-- The call whose results a pivot puts into columns, with the name of the columns. -/
def pivotCall? : Parser (Option Expr) := do
  match ← g.call? with
  | some e => return some (← g.withAlias false e)
  | none => return none

/-- A pivot with its alias. -/
def pivot? : Parser (Option Unit) := do
  let isPivot ← acceptAll ["PIVOT", "("]
  let isUnpivot ←
    if isPivot then pure false
    else if (← acceptAll ["UNPIVOT", "("]) then pure true
    else if (← acceptAll ["UNPIVOT", "INCLUDE", "NULLS", "("]) then pure true
    else acceptAll ["UNPIVOT", "EXCLUDE", "NULLS", "("]
  if isPivot || isUnpivot then
    let values ← exprList (if isPivot then g.pivotCall? else g.column)
    let _ ← expect "FOR"
    let _ ← repeated g.pivotRange?
    if (← acceptAll ["DEFAULT", "ON", "NULL", "("]) then
      let _ ← g.bitwise
      let _ ← expect ")"
    let _ ← expect ")"
    if !(["PIVOT", "UNPIVOT"].contains (← keyword)) then
      let _ ← g.tableAlias? []
    if values.isEmpty then refuse else return some ()
  else return none

/-- All pivots in a row. -/
def pivots : Parser Unit := do
  let _ ← repeated g.pivot?

/-! ## Tables with all that follows them -/

/-- A table by name.  Its alias is none of the excluded words. -/
def namedTable (excluded : List String) : Parser (Option TableSource) := do
  match ← g.tableName? true with
  | none => return none
  | some name =>
    g.pivots
    let _ ← accept? "*"
    let partition ← g.partitions
    let aliasName ← g.tableAlias? excluded
    let hints ← g.tableHints
    g.pivots
    let sample ← g.sample?
    return some (.table name.path name.computed name.comments partition aliasName hints sample [])

/-! ## Parentheses -/

/-- A source with further joins. -/
def withJoins (source : TableSource) (joins : List Join) : TableSource :=
  match source with
  | .table path function comments partition aliasName hints sample earlier =>
    .table path function comments partition aliasName hints sample (earlier ++ joins)
  | .query (.wrapped q aliasName tail) =>
    .query (.wrapped q aliasName { tail with joins := tail.joins ++ joins })
  | .query (.tables source aliasName tail) =>
    .query (.tables source aliasName { tail with joins := tail.joins ++ joins })
  | source => source

/-- What stands between the parentheses that an alias and a sample follow. -/
def wrappedSource : Parser (Option TableAlias → Tail → Query) := do
  match ← require g.source with
  | .query q => return .wrapped (← g.continued q)
  | source => return .tables (withJoins source (← g.joins))

/-- Rows of values with their alias. -/
def valuesQuery : Parser Query := do
  let rows ← commaList g.rowOfValues?
  let aliasName ← g.tableAlias? []
  return .values rows aliasName

/-- Rows of values between parentheses. -/
def wrappedValues? : Parser (Option Query) := do
  if (← acceptAll ["(", "VALUES"]) then
    let rows ← commaList g.rowOfValues?
    let inner ← g.tableAlias? []
    let _ ← expect ")"
    let outer ← g.tableAlias? []
    return some (.values rows (inner.or outer))
  else return none

/-- A query, or tables, between parentheses. -/
def wrappedQuery? : Parser (Option Query) := do
  match ← g.wrappedValues? with
  | some q => return some q
  | none =>
    if (← accepts "(") then
      let make ← g.wrappedSource
      let _ ← expect ")"
      g.pivots
      let aliasName ← g.tableAlias? []
      let sample ← g.sample?
      g.pivots
      return some (make aliasName { Tail.empty with sample := sample })
    else return none

/-- The items of arrays as rows. -/
def unnested? : Parser (Option TableSource) := do
  match ← g.itemsOfArrays? with
  | some (.call _ arrays) =>
    let withPlaces ← acceptAll ["WITH", "ORDINALITY"]
    return some (.unnested arrays withPlaces (← g.tableAlias? []))
  | _ => return none

/-! ## Sources that see the tables before them -/

/-- A call that gives rows, or a table, with its alias. -/
def lateralCall : Parser TableSource := do
  let name ← require (g.tableName? true)
  let computed ←
    if (← acceptAll ["WITH", "ORDINALITY"]) then
      pure (name.computed.map fun e => Expr.form ["", " WITH ORDINALITY"] [e])
    else pure name.computed
  return .table name.path computed name.comments [] (← g.tableAlias? []) [] none []

/-- The words that say what becomes of rows for which the source is empty. -/
def lateralKind? : Parser (Option LateralKind) := do
  if (← acceptAll ["CROSS", "APPLY"]) then return some .cross
  else if (← acceptAll ["OUTER", "APPLY"]) then return some .outer
  else if (← accepts "LATERAL") then return some .plain
  else return none

/-- A source that sees the tables before it. -/
def lateral? : Parser (Option TableSource) := do
  match ← lateralKind? with
  | none => return none
  | some kind =>
    match ← orElse? g.wrappedQuery? g.query with
    | some q => return some (.lateral kind (.query q))
    | none =>
      match ← g.unnested? with
      | some source => return some (.lateral kind source)
      | none => return some (.lateral kind (← g.lateralCall))

/-- A call that gives rows for each row, with names for the rows and their columns. -/
def lateralView? : Parser (Option Expr) := do
  if (← acceptAll ["LATERAL", "VIEW"]) then
    let words := if (← accepts "OUTER") then "LATERAL VIEW OUTER " else "LATERAL VIEW "
    let call ← require (orElse? g.call? columnName?)
    let table := ((← name?).map fun name => " " ++ name.text).getD ""
    let columns ← if (← accepts "AS") then commaList name? else pure []
    let marks := if columns.isEmpty then [table]
      else (table ++ " AS ") :: List.replicate (columns.length - 1) ", "
    return some (.form (words :: marks) (call :: columns.map (Expr.column [])))
  else return none

/-- Whatever a query can read from. -/
def sourceItem : Parser (Option TableSource) := do
  match ← orElse? g.lateral? g.unnested? with
  | some source => return some source
  | none =>
    if (← accepts "VALUES") then return some (.query (← g.valuesQuery))
    else
      match ← orElse? g.wrappedQuery? g.query with
      | some q => return some (.query q)
      | none => g.namedTable []

/-! ## Joins -/

def joinMethods : List (String × JoinMethod) := [("NATURAL", .natural), ("ASOF", .asof)]

def joinSides : List (String × JoinSide) :=
  [("LEFT", .left), ("RIGHT", .right), ("FULL", .full)]

def joinKinds : List (String × JoinKind) :=
  [("INNER", .inner), ("OUTER", .outer), ("CROSS", .cross), ("SEMI", .semi), ("ANTI", .anti),
    ("STRAIGHT_JOIN", .straight)]

/-- The words of a join up to `JOIN`, with the comments of all of them. -/
def joinHead? : Parser (Option (JoinWords × List String)) := attempt do
  let method ← acceptOne? (joinMethods.map Prod.fst)
  let side ← acceptOne? (joinSides.map Prod.fst)
  let kind ← acceptOne? (joinKinds.map Prod.fst)
  let words : JoinWords :=
    ⟨method.bind fun t => joinMethods.lookup t.keyword, side.bind fun t => joinSides.lookup t.keyword,
      kind.bind fun t => joinKinds.lookup t.keyword⟩
  let last ← if words.kind = some .straight then pure none else some <$> expect "JOIN"
  let comments := [last, method, side, kind].flatMap fun t => (t.map Token.comments).getD []
  return some (words, comments)

/-- The name of a column that both sides of a join have. -/
def sharedColumn? : Parser (Option Ident) := do
  match ← name? with
  | none => return none
  | some first =>
    let others ← repeated do
      if (← accepts ".") then return some (← require name?) else return none
    return some (others.getLastD first)

/-- The columns that both sides of a join have.  Their parentheses may be left out. -/
def sharedColumns : Parser (List Ident) := do
  if (← accepts "(") then
    let names ← commaList sharedColumn?
    let _ ← expect ")"
    return names
  else commaList sharedColumn?

/-- The predicate of a join, or its shared columns, if the next word announces them. -/
def joinTerms? : Parser (Option (Option Expr × List Ident)) := do
  if (← accepts "ON") then return some (← g.disjunction, [])
  else if (← accepts "USING") then return some (none, ← sharedColumns)
  else return none

/-- Joins between a joined table and its own predicate.  Without such a predicate they are left to
be read later. -/
def nestedJoins? : Parser (Option (List Join × Option Expr × List Ident)) := do
  let tokens ← get
  let joins ← g.joins
  match joins, ← g.joinTerms? with
  | _ :: _, some terms => return some (joins, terms)
  | _, _ =>
    set tokens
    return none

/-- A joined table with its terms. -/
def joinBody (words : JoinWords) (comments : List String) : Parser Join := do
  let source ← require g.source
  let mayNest := words.method.isNone && words.kind ≠ some .cross && !source.isUnnested
  let nested ← do
    match ← g.joinTerms? with
    | some (on, shared) => pure (some ([], on, shared))
    | none => if mayNest then g.nestedJoins? else pure none
  g.pivots
  match nested with
  | some (joins, on, shared) => return ⟨words, withJoins source joins, on, shared, comments⟩
  | none => return ⟨words, source, none, [], comments⟩

/-- A table that is joined, by a comma or by words.  A comma with no table after it is passed
over. -/
def join? : Parser (Option Join) := do
  if (← accepts ",") then
    return (← attempt g.source).map fun source => ⟨{}, source, none, [], []⟩
  else
    match ← joinHead? with
    | some (words, comments) => return some (← g.joinBody words comments)
    | none =>
      if (← wouldFind (attempt lateralKind?)) && (← keywordAhead) = "APPLY" then
        let source ← require g.source
        let (on, shared) := (← g.joinTerms?).getD (none, [])
        return some ⟨{}, source, on, shared, []⟩
      else return none

/-- All tables that are joined. -/
def joinList : Parser (List Join) := repeated g.join?

end Grammar

end Sql
end QueryDesigner

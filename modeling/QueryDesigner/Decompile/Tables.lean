import QueryDesigner.Decompile.Reading

/-!
# Reading tables and joins

* `NamedTable` — a table of a statement by name, and by its alias if it has one;
* `Reading.registerTable` — a table comes into the query;
* `Sql.Expr.conjuncts` — the predicates that are tied by AND;
* `Reading.readJoin` — a joined table, and the equality that joins it;
* `Reading.readTables` — all tables of a SELECT statement.
-/

namespace QueryDesigner

/-! ## Tables -/

/-- A table of a statement.  What is no plain name has the empty one. -/
structure NamedTable where
  name : String
  aliasName : Option String
  /-- A database is named before the table. -/
  hasQualifier : Bool
  /-- The table as it is written. -/
  shown : String
  deriving DecidableEq, Repr

/-- The name by which the statement sees the table. -/
def NamedTable.visibleName (t : NamedTable) : String := t.aliasName.getD t.name

/-- The names before a point that say where a table is: the last of them is its database.  What
follows the third name is part of the table. -/
def qualifierOf? (names : List String) : Option String :=
  ((names.take 3).dropLast.getLast?).bind aliasOf

/-- The table that a source names, if the source is one.  A call has no name. -/
def Sql.TableSource.named? (source : Sql.TableSource) : Option NamedTable :=
  match source with
  | .table path function _ _ aliasName _ _ _ =>
    let names := path.map Sql.Ident.text ++ (if function.isSome then [""] else [])
    some
      { name := names.getLastD ""
        aliasName := ((aliasName.bind Sql.TableAlias.name).map Sql.Ident.text).bind aliasOf
        hasQualifier := (qualifierOf? names).isSome
        shown := source.sql .verbatim }
  | _ => none

namespace Reading

/-- The name of a table as the catalog spells it. -/
def resolveTable (table : NamedTable) : Reading String := do
  if table.hasQualifier then warn (.qualifier table.shown)
  let d ← get
  match d.canvas.catalog.bind fun catalog => catalog.findTable? table.name with
  | some found => return found.name
  | none =>
    if !d.unresolved.contains table.name then
      set { d with unresolved := d.unresolved ++ [table.name] }
    return table.name

/-- Adds a table, under a key of its own if its name is taken. -/
def addTable (name : String) (isAliased : Bool) : Reading TableRef := do
  match ← attempt? (Edit.addTable name false) with
  | .ok table => return table
  | .error (.duplicateTable _) =>
    let table ← edit (Edit.addTable name true)
    if !isAliased then warn (.repeated name table.key)
    return table
  | .error rejection => throw (.rejected rejection)

/-- Gives a table its alias, unless that is the key of another table. -/
def giveAlias (table : TableRef) (aliasName : String) : Reading TableRef := do
  if aliasName = table.key then return table
  else
    match ← attempt? (Edit.setAlias table.key (some aliasName)) with
    | .ok table => return table
    | .error (.aliasCollision _) =>
      warn (.aliasClash aliasName table.key)
      return table
    | .error rejection => throw (.rejected rejection)

/-- A table of the statement comes into the query: the result is its key. -/
def registerTable (table : NamedTable) : Reading String := do
  let name ← resolveTable table
  let added ← addTable name table.aliasName.isSome
  let added ←
    match table.aliasName with
    | some aliasName => giveAlias added aliasName
    | none => pure added
  bindName table.visibleName added.key
  return added.key

end Reading

/-! ## Predicates -/

namespace Sql.Expr

/-- Whether an expression stands between parentheses. -/
def isParen (e : Expr) : Bool :=
  match e.bare with
  | .paren _ => true
  | _ => false

/-- Whether an expression is two expressions tied by AND. -/
def isAnd (e : Expr) : Bool :=
  match e.bare with
  | .binary .and _ _ => true
  | _ => false

/-- The expression inside all parentheses. -/
def unnested : Expr → Expr
  | .paren e => e.unnested
  | .commented true _ e => e.unnested
  | .commented false comments e => if e.isParen then e.unnested else .commented false comments e
  | e => e

/-- The predicates that are tied by AND, whatever parentheses stand around them. -/
def conjuncts : Expr → List Expr
  | .binary .and left right => left.conjuncts ++ right.conjuncts
  | .paren e => e.conjuncts
  | .commented true _ e => e.conjuncts
  | .commented false comments e =>
    if e.isParen || e.isAnd then e.conjuncts else [.commented false comments e]
  | e => [e]

/-- The two sides of an equality of columns, each by table and name. -/
def columnEquality? (e : Expr) : Option ((String × String) × (String × String)) :=
  match e.bare with
  | .binary .eq left right =>
    match left.column?, right.column? with
    | some a, some b => some (a, b)
    | _, _ => none
  | _ => none

end Sql.Expr

/-! ## Joins -/

/-- The type of a join by its words, if a query can hold it. -/
def Sql.JoinWords.type? (words : Sql.JoinWords) : Option JoinType :=
  match words.side, words.kind with
  | some .left, _ => some .left
  | some .right, _ => some .right
  | some .full, _ => none
  | none, none => some .inner
  | none, some .inner => some .inner
  | none, some _ => none

/-- The word that names the type of a join. -/
def Sql.JoinWords.typeText (words : Sql.JoinWords) : String :=
  ((words.side.map Sql.JoinSide.text).or (words.kind.map Sql.JoinKind.text)).getD "INNER"

namespace Reading

/-- The first equality of columns among predicates; the others are reported. -/
def joinEquality? :
    List Sql.Expr → Reading (Option (Sql.Expr × (String × String) × (String × String)))
  | [] => return none
  | predicate :: rest => do
    match predicate.columnEquality? with
    | some (left, right) =>
      for other in rest do warn (.joinPredicate other.shown)
      return some (predicate, left, right)
    | none =>
      warn (.joinPredicate predicate.shown)
      joinEquality? rest

/-- Joins two tables on an equality of columns. -/
def addEquality (type : JoinType) (predicate : Sql.Expr) (left right : String × String) :
    Reading Unit := do
  match ← keyOf? left.1, ← keyOf? right.1 with
  | some leftKey, some rightKey =>
    let join : Join :=
      ⟨type, leftKey, ← resolveColumn leftKey left.2, rightKey, ← resolveColumn rightKey right.2⟩
    match ← attempt? (Edit.addJoin join) with
    | .ok _ => pure ()
    | .error rejection => warn (.join rejection)
  | _, _ => warn (.joinTables predicate.shown)

/-- The key of a table that the statement sees already and names without an alias. -/
def seenKey? (table : NamedTable) : Reading (Option String) :=
  if table.aliasName.isSome then return none else keyOf? table.name

/-- The key of a joined table, which comes in unless it is there already. -/
def joinedKey (table : NamedTable) : Reading String := do
  match ← seenKey? table with
  | some key => return key
  | none => registerTable table

/-- A join: its table comes in, and the first equality of columns in its predicate joins it. -/
def readJoin (j : Sql.Join) : Reading Unit := do
  let shown := Text.trim (j.sql .verbatim)
  match j.source.named?, j.on with
  | none, _ => warn (.joinSource shown)
  | some _, none => warn (.joinWithoutPredicate shown)
  | some table, some on =>
    let key ← joinedKey table
    match j.words.type? with
    | none => warn (.joinType j.words.typeText key)
    | some type =>
      match ← joinEquality? on.conjuncts with
      | none => pure ()
      | some (predicate, left, right) => addEquality type predicate left right

/-- The tables of a SELECT statement.  Says whether there is one to select from. -/
def readTables (s : Sql.Select) : Reading Bool := do
  match s.source with
  | none =>
    warn .noSource
    return false
  | some source =>
    match source.named? with
    | none =>
      warn (.source (source.sql .verbatim))
      return false
    | some table =>
      let _ ← registerTable table
      for j in s.tail.joins do readJoin j
      return true

end Reading

end QueryDesigner

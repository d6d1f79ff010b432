import QueryDesigner.Compile.Statement
import QueryDesigner.Decompile.Conditions
import QueryDesigner.Decompile.Items

/-!
# Decompiling a statement

* `Reading.readSelect` — a SELECT statement;
* `Decompiled` — the query that was read, and what was left out;
* `decompile` — a text into a query.
-/

namespace QueryDesigner

namespace Reading

/-- The clauses of a SELECT statement after its tables. -/
def readClauses (s : Sql.Select) : Reading Unit := do
  readItems s
  if let some condition := s.tail.condition then readConditions condition
  if let some grouping := s.tail.grouping then readGroups grouping
  if let some having := s.tail.having then warn (.having having.shown)
  readOrder s.tail.order
  readPaging s.tail

/-- A SELECT statement.  Without a table there is nothing to read. -/
def readSelect (s : Sql.Select) : Reading Unit := do
  if (← readTables s) then readClauses s

/-- A statement, given by its parts: its outermost SELECT statement is read. -/
def readNodes (nodes : List (Nat × Sql.Node)) : Reading Unit := do
  match Sql.mainSelect? nodes with
  | some s => readSelect s
  | none => warn .noSelect

end Reading

/-- A query that was read from a text. -/
structure Decompiled where
  canvas : Canvas
  kind : Sql.StatementKind
  warnings : List Warning := []
  /-- What the query cannot hold, in words. -/
  unsupported : List String := []
  /-- Names of tables that the catalog does not know. -/
  unresolved : List String := []
  deriving DecidableEq, Repr

namespace Decompiled

/-- Nothing was left out. -/
def isComplete (d : Decompiled) : Bool := d.warnings.isEmpty && d.unsupported.isEmpty

/-- A text of which nothing was read. -/
def unread (catalog : Option Catalog) (kind : Sql.StatementKind) (warning : Warning)
    (unsupported : List String) : Decompiled :=
  { canvas := .ofQuery {} catalog, kind, warnings := [warning], unsupported }

end Decompiled

/-- The query of a statement, given by its parts. -/
def decompileNodes (catalog : Option Catalog) (nodes : List (Nat × Sql.Node)) :
    Except Failure Decompiled :=
  match (Reading.readNodes nodes).run { canvas := .ofQuery {} catalog } with
  | .ok _ d =>
    .ok
      { canvas := d.canvas
        kind := .select
        warnings := d.warnings
        unsupported := (Sql.featuresOf nodes).map Sql.Feature.text
        unresolved := d.unresolved }
  | .error failure _ => .error failure

/-- The query that a text holds.  Only SELECT statements are read, and of several statements the
first one. -/
def decompile (sql : String) (catalog : Option Catalog) : Except Failure Decompiled :=
  match Sql.StatementKind.ofText sql with
  | .select =>
    match Sql.statements? sql with
    | none => .ok (.unread catalog .select .unreadable [Sql.unreadableText])
    | some (some statement :: _) => decompileNodes catalog (statement.nodes 0)
    | some _ => .ok (.unread catalog .select .noStatement [])
  | kind => .ok (.unread catalog kind (.notDecomposed kind) [])

end QueryDesigner

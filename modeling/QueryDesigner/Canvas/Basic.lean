import QueryDesigner.Canvas.Failure
import QueryDesigner.Catalog.Basic
import QueryDesigner.Query.State

/-!
# A query that is being edited

* `Canvas` — a query with the catalog it is edited against and the next creation number;
* `Canvas.ofQuery` — the canvas of a saved query;
* `Edit` — a change of the canvas that may fail on its way;
* `Canvas.resolvedColumns?`, `Canvas.columnRefs` — the columns on offer;
* `requireTable`, `itemAt`, `modifyQuery` — the steps of which edits are made.
-/

namespace QueryDesigner

/-- A query under construction. -/
structure Canvas where
  query : Query := {}
  catalog : Option Catalog := none
  /-- The ordinal of the next table that comes in. -/
  nextOrdinal : Int := 0
  deriving DecidableEq, Repr

/-- The ordinal after all ordinals of a list of tables. -/
def ordinalAfter (tables : List TableRef) : Int :=
  match tables with
  | [] => 0
  | t :: rest => rest.foldl (fun n t => max n t.ordinal) t.ordinal + 1

namespace Canvas

/-- The canvas of a saved query: new tables are numbered after the tables that it has. -/
def ofQuery (query : Query) (catalog : Option Catalog) : Canvas :=
  ⟨query, catalog, ordinalAfter query.tables⟩

/-- The columns that the catalog lists for a table. -/
def schemaColumns (c : Canvas) (table : String) : List String :=
  (c.catalog.map fun catalog => catalog.columnNames table).getD []

/-- The columns that a selection of a table stands for. -/
def expand (c : Canvas) (table : TableRef) : Selection → List String
  | .every => c.schemaColumns table.name
  | .only columns => columns

/-- The columns that the table with that key contributes. -/
def resolvedColumns? (c : Canvas) (key : String) : Option (List String) :=
  (c.query.findTable? key).map fun t => c.expand t (c.query.selection key)

/-- The columns of a table that conditions, orders and groups may refer to: the selected ones or,
where none is selected, all that the catalog lists. -/
def offeredColumns (c : Canvas) (table : TableRef) : List String :=
  match c.query.selection table.key with
  | .only (column :: columns) => column :: columns
  | _ => c.schemaColumns table.name

/-- Every reference on offer, table by table. -/
def columnRefs (c : Canvas) : List String :=
  c.query.tables.flatMap fun t => (c.offeredColumns t).map (Reference.qualified t.key)

/-- The catalog's own spelling of a table name. -/
def canonicalName (c : Canvas) (name : String) : String :=
  ((c.catalog.bind fun catalog => catalog.findTable? name).map Catalog.Table.name).getD name

end Canvas

/-- A change of the canvas with a result.  It may fail, and the canvas then stays as it is at that
moment. -/
abbrev Edit (α : Type) := EStateM Failure Canvas α

namespace Edit

def reject (rejection : Rejection) : Edit α := throw (.rejected rejection)

def modifyQuery (f : Query → Query) : Edit Unit :=
  modify fun c => { c with query := f c.query }

/-- The table with that key, which has to exist. -/
def requireTable (key : String) : Edit TableRef := do
  match (← get).query.findTable? key with
  | some table => pure table
  | none => reject (.unknownTable key)

/-- The item of a list at a place counted from zero, if there is one. -/
def itemAt? (items : List α) : Int → Option α
  | .ofNat n => items[n]?
  | .negSucc _ => none

/-- The item at a place, which has to exist. -/
def itemAt (what : String) (items : List α) (index : Int) : Edit α :=
  match itemAt? items index with
  | some item => pure item
  | none => reject (.badChange (.noItem what index))

/-- The columns that the table with that key contributes, which has to exist. -/
def resolvedColumns (key : String) : Edit (List String) := do
  match (← get).resolvedColumns? key with
  | some columns => pure columns
  | none => reject (.unknownTable key)

/-- Puts another catalog in place, or none. -/
def attachCatalog (catalog : Option Catalog) : Edit Unit :=
  modify fun c => { c with catalog }

/-- Empties the query.  Creation numbers keep counting. -/
def clear : Edit Unit := modifyQuery fun _ => {}

end Edit

end QueryDesigner

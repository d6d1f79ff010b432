import QueryDesigner.Query.Basic
import QueryDesigner.Query.Reference
import QueryDesigner.Query.Selection

/-!
# A query

* `Query` — the eight fields that are saved;
* `Query.tableKeys`, `Query.findTable?`, `Query.hasTable` — its tables by key;
* `Query.selection` — the columns selected of a table;
* `Query.DistinctKeys` — no two tables share a key.
-/

namespace QueryDesigner

/-- A SELECT query as it is saved. -/
structure Query where
  tables : List TableRef := []
  columns : Selections := {}
  joins : List Join := []
  conditions : List Condition := []
  orderBy : List Order := []
  groupBy : List String := []
  limit : Option Nat := none
  offset : Option Nat := none
  deriving DecidableEq, Repr

namespace Query

def tableKeys (q : Query) : List String := q.tables.map TableRef.key

/-- The first table with that key. -/
def findTable? (q : Query) (key : String) : Option TableRef := q.tables.find? fun t => t.key == key

def hasTable (q : Query) (key : String) : Bool := (q.findTable? key).isSome

def selection (q : Query) (key : String) : Selection := q.columns.get key

/-- No two tables share a key. -/
def DistinctKeys (q : Query) : Prop := q.tableKeys.Nodup

end Query

end QueryDesigner

import QueryDesigner.Canvas.Basic
import QueryDesigner.Text.Blank

/-!
# Editing the tables of a query

* `Edit.addTable`, `Edit.removeTable` — a table comes in and goes with all that refers to it;
* `Edit.setAlias` — a table changes its key, and all that refers to it follows;
* `Edit.reorderTables` — the tables in another order;
* `Query.selfJoinAlias` — the key of a table that comes in a second time.
-/

namespace QueryDesigner

namespace Query

/-- Whether a name is taken by a key or by a table. -/
def usesName (q : Query) (name : String) : Bool :=
  q.tableKeys.contains name || q.tables.any fun t => t.name == name

/-- A name with a number after it. -/
def numbered (name : String) (n : Nat) : String := name ++ "_" ++ toString n

/-- The least number from `first` on that makes no taken key of the name.  Among one more numbers
than there are keys one is free. -/
def freeNumber (taken : List String) (name : String) (first : Nat) : Nat :=
  ((List.range' first (taken.length + 1)).find? fun n => !taken.contains (numbered name n)).getD
    first

/-- The alias of one more table of that name: the name with the number of such tables and this one,
or with the next number that is free. -/
def selfJoinAlias (q : Query) (name : String) : String :=
  numbered name
    (freeNumber q.tableKeys name (q.tables.countP (fun t => t.name == name) + 1))

/-- The query with one more table, of which every column is selected. -/
def withTable (q : Query) (table : TableRef) : Query :=
  { q with
    tables := q.tables ++ [table]
    columns := q.columns.set table.key .every }

/-- The query without the tables of a key and without all that refers to the key. -/
def withoutTable (q : Query) (key : String) : Query :=
  { q with
    tables := q.tables.filter fun t => t.key != key
    columns := q.columns.erase key
    joins := q.joins.filter fun j => !j.mentions key
    conditions := q.conditions.filter fun c => !Reference.refersTo c.column key
    orderBy := q.orderBy.filter fun o => !Reference.refersTo o.column key
    groupBy := q.groupBy.filter fun g => !Reference.refersTo g key }

/-- The query in which the table with key `old` has the given alias and all that refers to it
refers to `new`. -/
def renamed (q : Query) (old new : String) (aliasName : Option String) : Query :=
  { q with
    tables := q.tables.map fun t => if t.key = old then { t with aliasName } else t
    columns := q.columns.rekey old new
    joins := q.joins.map (Join.rekey old new)
    conditions := q.conditions.map fun c =>
      { c with column := Reference.requalify c.column old new }
    orderBy := q.orderBy.map fun o => { o with column := Reference.requalify o.column old new }
    groupBy := q.groupBy.map fun g => Reference.requalify g old new }

/-- The query in which the first table of a key has the given alias. -/
def withAlias (q : Query) (key : String) (aliasName : Option String) : Query :=
  { q with
    tables := q.tables.modify (q.tables.findIdx fun t => t.key == key) ({ · with aliasName }) }

/-- The last table with that key. -/
def lastTable? (q : Query) (key : String) : Option TableRef :=
  q.tables.reverse.find? fun t => t.key == key

/-- The query with its tables in the order of a list of keys. -/
def inOrder (q : Query) (keys : List String) : Query :=
  { q with tables := keys.filterMap q.lastTable? }

end Query

namespace Edit

/-- Adds a table with every column selected.  The name is trimmed and spelled as in the catalog.  A
name that is taken needs `forced`, and the table then gets an alias of its own. -/
def addTable (name : String) (forced : Bool) : Edit TableRef := do
  let given := Text.trim name
  if given = "" then reject (.badChange .nameMissing)
  let c ← get
  let name := c.canonicalName given
  let taken := c.query.usesName name
  if taken && !forced then reject (.duplicateTable name)
  let aliasName := if taken then some (c.query.selfJoinAlias name) else none
  let table : TableRef := ⟨name, aliasName, c.nextOrdinal⟩
  set { c with query := c.query.withTable table, nextOrdinal := c.nextOrdinal + 1 }
  pure table

/-- Removes a table and all that refers to its key. -/
def removeTable (key : String) : Edit Unit := do
  let _ ← requireTable key
  modifyQuery fun q => q.withoutTable key

/-- The alias that a request for an alias asks for: a blank one asks for none. -/
def requestedAlias (aliasName : Option String) : Option String :=
  aliasName.bind fun s => aliasOf (Text.trim s)

/-- Gives a table another alias.  Without an alias its key is its name. -/
def setAlias (key : String) (aliasName : Option String) : Edit TableRef := do
  let table ← requireTable key
  let aliasName := requestedAlias aliasName
  let newKey := aliasName.getD table.name
  if newKey = key then
    modifyQuery fun q => q.withAlias key aliasName
    pure { table with aliasName }
  else
    if (← get).query.tableKeys.contains newKey then reject (.aliasCollision newKey)
    modifyQuery fun q => q.renamed key newKey aliasName
    requireTable newKey

/-- Puts the tables in the order of a list of their keys. -/
def reorderTables (keys : List String) : Edit Unit := do
  if keys.isPerm (← get).query.tableKeys then modifyQuery fun q => q.inOrder keys
  else reject (.badChange .tableOrder)

end Edit

end QueryDesigner

import QueryDesigner.Text.LetterCase

/-!
# The catalog of a database

Tables with their columns, primary keys and foreign keys.  Names are looked up without regard to
letter case and the first match counts.

* `Catalog`, `Catalog.Table`, `Catalog.Column`, `Catalog.ForeignKey` — the data;
* `Catalog.findTable?`, `Catalog.Table.findColumn?` — look-up;
* `Catalog.columnNames`, `Catalog.resolveColumn?` — the columns of a table and the spelling of one;
* `Catalog.Table.keyColumns` — the primary key, declared or marked;
* `Catalog.Table.foreignKeysTo` — the columns that refer to another table;
* `Catalog.NoRepeats` — no table lists a column name twice.
-/

namespace QueryDesigner

namespace Catalog

/-- The column that a foreign key refers to. -/
structure ForeignKey where
  table : String
  column : String
  deriving DecidableEq, Repr

structure Column where
  name : String
  dataType : String := ""
  nullable : Bool := true
  /-- The kind of key that the column is part of: `PRI`, `UNI`, `MUL`. -/
  keyType : Option String := none
  foreignKey : Option ForeignKey := none
  deriving DecidableEq, Repr

structure Table where
  name : String
  columns : List Column := []
  primaryKey : List String := []
  deriving DecidableEq, Repr

end Catalog

structure Catalog where
  database : Option String := none
  tables : List Catalog.Table := []
  deriving DecidableEq, Repr

namespace Catalog

def Column.isPrimaryKey (c : Column) : Bool := c.keyType == some "PRI"

namespace Table

def columnNames (t : Table) : List String := t.columns.map Column.name

/-- The first column of that name. -/
def findColumn? (t : Table) (name : String) : Option Column :=
  t.columns.find? fun c => Text.sameLetters c.name name

/-- The declared primary key or, where none is declared, the columns marked as part of it. -/
def keyColumns (t : Table) : List String :=
  if t.primaryKey.isEmpty then (t.columns.filter Column.isPrimaryKey).map Column.name
  else t.primaryKey

/-- The columns whose foreign key refers to the named table. -/
def foreignKeysTo (t : Table) (name : String) : List Column :=
  t.columns.filter fun c => c.foreignKey.any fun fk => Text.sameLetters fk.table name

end Table

def tableNames (c : Catalog) : List String := c.tables.map Table.name

/-- The first table of that name; the empty name belongs to no table. -/
def findTable? (c : Catalog) (name : String) : Option Table :=
  if name = "" then none else c.tables.find? fun t => Text.sameLetters t.name name

/-- The columns of the named table; an unknown table has none. -/
def columnNames (c : Catalog) (table : String) : List String :=
  ((c.findTable? table).map Table.columnNames).getD []

/-- The catalog's own spelling of a column of the named table. -/
def resolveColumn? (c : Catalog) (table column : String) : Option String :=
  (c.findTable? table).bind fun t => (t.findColumn? column).map Column.name

/-- No table lists a column name twice. -/
def NoRepeats (c : Catalog) : Prop := ∀ t ∈ c.tables, t.columnNames.Nodup

end Catalog

end QueryDesigner

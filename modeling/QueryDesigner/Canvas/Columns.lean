import QueryDesigner.Canvas.Tables

/-!
# Editing the selected columns

* `Edit.toggleColumn` — one column in or out;
* `Edit.setColumns` — the whole selection of a table;
* `Edit.selectAll`, `Edit.selectNone` — the selections of all tables.
-/

namespace QueryDesigner

namespace Query

def withSelection (q : Query) (key : String) (s : Selection) : Query :=
  { q with columns := q.columns.set key s }

/-- The query in which every table has the same selection. -/
def withEverySelection (q : Query) (s : Selection) : Query :=
  q.tableKeys.foldl (fun q key => q.withSelection key s) q

end Query

/-- The columns with one taken out if it is there and put at the end if not. -/
def toggled (columns : List String) (column : String) : List String :=
  if columns.contains column then columns.erase column else columns ++ [column]

namespace Edit

/-- The key of a table of the query, which is added first if only the catalog knows it. -/
def tableForToggle (key : String) : Edit String := do
  let c ← get
  if c.query.hasTable key then pure key
  else if (c.catalog.bind fun catalog => catalog.findTable? key).isSome then
    let table ← addTable key false
    pure table.key
  else reject (.unknownTable key)

/-- Selects a column or takes its selection back, and says whether it is selected now. -/
def toggleColumn (key column : String) : Edit Bool := do
  let key ← tableForToggle key
  let columns ← resolvedColumns key
  modifyQuery fun q => q.withSelection key (.only (toggled columns column))
  pure !(columns.contains column)

/-- The selection that a list of columns stands for; no list stands for every column. -/
def selectionOf : Option (List String) → Selection
  | none => .every
  | some columns => .only (dedup columns)

/-- Replaces the selection of a table. -/
def setColumns (key : String) (columns : Option (List String)) : Edit Unit := do
  let _ ← requireTable key
  modifyQuery fun q => q.withSelection key (selectionOf columns)

def selectAll : Edit Unit := modifyQuery fun q => q.withEverySelection .every

def selectNone : Edit Unit := modifyQuery fun q => q.withEverySelection (.only [])

end Edit

end QueryDesigner

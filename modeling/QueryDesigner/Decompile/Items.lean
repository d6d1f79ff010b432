import QueryDesigner.Decompile.Reading

/-!
# Reading the SELECT list

* `Coverage` — which columns the items read so far select, and at which item each table first
  appeared;
* `Reading.readItem` — an item of the list;
* `orderByAppearance` — the tables in the order in which the list mentions them;
* `Reading.readItems` — the list.
-/

namespace QueryDesigner

/-- What the items of a SELECT list cover. -/
structure Coverage where
  selections : Selections := {}
  /-- The place of the first item of each table. -/
  places : List (String × Nat) := []
  deriving DecidableEq, Repr

namespace Coverage

/-- A selection with one more column.  Every column stays every column. -/
def withColumn (column : String) : Option Selection → Selection
  | none => .only [column]
  | some .every => .every
  | some (.only columns) =>
    if columns.contains column then .only columns else .only (columns ++ [column])

/-- Notes the place of the first item of a table. -/
def note (c : Coverage) (place : Nat) (key : String) : Coverage :=
  if (c.places.lookup key).isSome then c else { c with places := c.places ++ [(key, place)] }

/-- An item that stands for every column of a table. -/
def addAll (c : Coverage) (place : Nat) (key : String) : Coverage :=
  { c.note place key with selections := c.selections.set key .every }

/-- An item that is one column of a table. -/
def addColumn (c : Coverage) (place : Nat) (key column : String) : Coverage :=
  { c.note place key with
    selections := c.selections.set key (withColumn column (c.selections.get? key)) }

end Coverage

/-- The keys after the first one in the order of their places.  A key without a place comes at the
place that is the number of keys; keys at one place keep their order. -/
def orderByAppearance (places : List (String × Nat)) (keys : List String) : List String :=
  match keys with
  | [] => []
  | first :: rest =>
    let place (key : String) : Nat := (places.lookup key).getD keys.length
    first :: rest.mergeSort fun a b => place a ≤ place b

namespace Reading

/-- The key of the table of a column.  A column without a table belongs to the first one. -/
def itemKey? (firstKey table : String) : Reading (Option String) :=
  if table = "" then return some firstKey else keyOf? table

/-- A column of the SELECT list. -/
def readColumnItem (firstKey : String) (place : Nat) (c : Coverage) (item : Sql.Expr)
    (table column : String) : Reading Coverage := do
  match ← itemKey? firstKey table with
  | none =>
    warn (.itemTable item.shown)
    return c
  | some key =>
    match item.bare with
    | .columns _ _ => return c.addAll place key
    | _ => return c.addColumn place key (← resolveColumn key column)

/-- The item without its alias, which is reported. -/
def withoutAlias (item : Sql.Expr) : Reading Sql.Expr := do
  match item.bare with
  | .aliased e _ =>
    warn (.columnAlias item.shown)
    return e
  | _ => return item

/-- An item of the SELECT list. -/
def readItem (firstKey : String) (place : Nat) (c : Coverage) (item : Sql.Expr) :
    Reading Coverage := do
  let e ← withoutAlias item
  match e.bare, e.column? with
  | .star _, _ => return (← get).canvas.query.tableKeys.foldl (fun c key => c.addAll place key) c
  | _, some (table, column) => readColumnItem firstKey place c e table column
  | _, none =>
    warn (.item e.shown)
    return c

/-- Items from a place on. -/
def readItemsFrom (firstKey : String) : Nat → Coverage → List Sql.Expr → Reading Coverage
  | _, c, [] => return c
  | place, c, item :: rest => do
    readItemsFrom firstKey (place + 1) (← readItem firstKey place c item) rest

/-- Puts the tables in the order in which the SELECT list mentions them; the first one stays. -/
def orderTables (places : List (String × Nat)) : Reading Unit := do
  let keys := (← get).canvas.query.tableKeys
  if 3 ≤ keys.length then edit (Edit.reorderTables (orderByAppearance places keys))

/-- The columns that a selection lists. -/
def listed : Selection → Option (List String)
  | .every => none
  | .only columns => some columns

/-- The SELECT list. -/
def readItems (s : Sql.Select) : Reading Unit := do
  if s.isDistinct then warn .distinct
  let firstKey := ((← get).canvas.query.tableKeys).headD ""
  let c ← readItemsFrom firstKey 0 {} s.items
  for (key, selection) in c.selections.entries do edit (Edit.setColumns key (listed selection))
  orderTables c.places

end Reading

end QueryDesigner

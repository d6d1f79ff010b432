import QueryDesigner.Canvas.Columns
import QueryDesigner.Canvas.Ordering
import QueryDesigner.Canvas.Predicates
import QueryDesigner.Decompile.Warning
import QueryDesigner.Sql.Feature
import QueryDesigner.Sql.Adaptation

/-!
# Reading a statement into a query

* `Reading` — a step that fills the canvas from a part of a statement;
* `Reading.edit`, `Reading.attempt?` — an edit of the canvas on the way;
* `Reading.keyOf?` — the key of a table by the name that the statement uses;
* `Reading.columnRef` — a reference to a column by the key of its table.
-/

namespace QueryDesigner

/-- A query that is being filled from a statement. -/
structure Draft where
  canvas : Canvas := {}
  /-- What was left out so far, the earliest first. -/
  warnings : List Warning := []
  /-- Names of tables that the catalog does not know. -/
  unresolved : List String := []
  /-- The keys of tables by the names, in lower case, under which the statement sees them. -/
  keys : List (String × String) := []
  deriving DecidableEq, Repr

/-- A step that fills the draft.  It fails only where the canvas turns down a table without a
name. -/
abbrev Reading (α : Type) := EStateM Failure Draft α

/-- The text of an expression in a warning. -/
def Sql.Expr.shown (e : Sql.Expr) : String := e.sql .verbatim

namespace Reading

def warn (w : Warning) : Reading Unit :=
  modify fun d => { d with warnings := d.warnings ++ [w] }

/-- An edit of the canvas.  Where it is rejected, the reason is given and the canvas stays as the
edit left it. -/
def attempt? (e : Edit α) : Reading (Except Rejection α) := do
  let d ← get
  match e.run d.canvas with
  | .ok a canvas =>
    set { d with canvas := canvas }
    return .ok a
  | .error (.rejected rejection) canvas =>
    set { d with canvas := canvas }
    return .error rejection
  | .error failure canvas =>
    set { d with canvas := canvas }
    throw failure

/-- An edit of the canvas that has to succeed. -/
def edit (e : Edit α) : Reading α := do
  match ← attempt? e with
  | .ok a => return a
  | .error rejection => throw (.rejected rejection)

/-! ## Names -/

/-- The key of the table that the statement calls by a name. -/
def keyOf? (name : String) : Reading (Option String) := do
  if name = "" then return none else return (← get).keys.lookup (Text.lower name)

/-- Lets the statement see a key by a name, unless the name is taken. -/
def bindName (name key : String) : Reading Unit :=
  modify fun d =>
    let name := Text.lower name
    if (d.keys.lookup name).isSome then d else { d with keys := d.keys ++ [(name, key)] }

/-- The column of a table, spelled as in the catalog if the catalog knows it. -/
def resolveColumn (key column : String) : Reading String := do
  let canvas := (← get).canvas
  let spelling := do
    let table ← canvas.query.findTable? key
    let catalog ← canvas.catalog
    catalog.resolveColumn? table.name column
  return (spelling.bind aliasOf).getD column

/-- A reference to a column, given the name of its table.  Where that is no name of a table it is
dropped or, on request, kept and reported. -/
def columnRef (table column : String) (shown : String) (keepsUnknown : Bool) : Reading String := do
  if table = "" then return column
  else
    match ← keyOf? table with
    | some key => return Reference.qualified key (← resolveColumn key column)
    | none =>
      if keepsUnknown then
        warn (.columnTable shown)
        return Reference.qualified table column
      else return column

end Reading

end QueryDesigner

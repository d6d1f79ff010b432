import QueryDesigner.Compile.Value
import QueryDesigner.Query.State

/-!
# The clauses of a compiled query

Clauses are laid out as data first and written afterwards.

* `SelectItem`, `Query.selectItems` — the SELECT list;
* `JoinClause`, `Query.joinClauses` — each join with the table that it brings in, if any;
* `Query.predicates` — the conditions with the words between them;
* `Condition.text`, `JoinClause.text` and so on — how they are written.
-/

namespace QueryDesigner

/-- A table after FROM or JOIN: its name, and its alias if it has one. -/
def TableRef.source (t : TableRef) : String :=
  match t.aliasName.bind aliasOf with
  | some aliasName => t.name ++ " AS " ++ aliasName
  | none => t.name

/-! ## The SELECT list -/

inductive SelectItem where
  | all (key : String)
  | column (key column : String)
  deriving DecidableEq, Repr

def SelectItem.text : SelectItem → String
  | all key => key ++ ".*"
  | column key name => Reference.qualified key name

/-- What one table contributes: its selected columns, or all where none is selected. -/
def Selection.items (key : String) : Selection → List SelectItem
  | .only (name :: names) => (name :: names).map (SelectItem.column key)
  | _ => [SelectItem.all key]

/-- The SELECT list, table by table. -/
def Query.selectItems (q : Query) : List SelectItem :=
  q.tables.flatMap fun t => (q.selection t.key).items t.key

/-! ## Joins -/

/-- A join that is written out, with the table that it brings in. -/
inductive JoinClause where
  /-- The join brings in a table. -/
  | introduces (join : Join) (table : TableRef)
  /-- Both ends are there already: the join adds a predicate and names its right key. -/
  | refines (join : Join) (key : String)
  deriving DecidableEq, Repr

def JoinClause.join : JoinClause → Join
  | introduces join _ => join
  | refines join _ => join

/-- The key that a clause brings in. -/
def JoinClause.key? : JoinClause → Option String
  | introduces _ table => some table.key
  | refines _ _ => none

def Join.predicate (j : Join) : String :=
  Reference.qualified j.leftTable j.leftColumn ++ " = " ++
    Reference.qualified j.rightTable j.rightColumn

def JoinClause.text : JoinClause → String
  | introduces join table =>
    join.type.text ++ " JOIN " ++ table.source ++ " ON " ++ join.predicate
  | refines join key => join.type.text ++ " JOIN " ++ key ++ " ON " ++ join.predicate

/-- The clause of a join of two tables, of which the introduced ones are known: the right table
comes in if it is not there yet, else the left one, else none. -/
def joinClause (introduced : List String) (join : Join) (left right : TableRef) : JoinClause :=
  if !introduced.contains right.key then .introduces join right
  else if !introduced.contains left.key then .introduces join left
  else .refines join right.key

/-- The clause of a join, if it is complete and both its ends are tables of the query. -/
def Query.clauseOf? (q : Query) (introduced : List String) (join : Join) : Option JoinClause :=
  if join.isComplete then
    match q.findTable? join.leftTable, q.findTable? join.rightTable with
    | some left, some right => some (joinClause introduced join left right)
    | _, _ => none
  else none

/-- The clauses of joins in order, the introduced keys growing on the way. -/
def Query.joinClausesFrom (q : Query) (introduced : List String) : List Join → List JoinClause
  | [] => []
  | join :: rest =>
    match q.clauseOf? introduced join with
    | some clause => clause :: q.joinClausesFrom (clause.key?.toList ++ introduced) rest
    | none => q.joinClausesFrom introduced rest

/-- The clauses of all joins, after the first table. -/
def Query.joinClauses (q : Query) : List JoinClause :=
  match q.tables with
  | [] => []
  | t :: _ => q.joinClausesFrom [t.key] q.joins

/-! ## Conditions -/

/-- How the value of an operator is written. -/
inductive Operator.Operand where
  | absent
  | items
  | range
  | single
  deriving DecidableEq, Repr

def Operator.operand : Operator → Operator.Operand
  | isNull => .absent
  | isNotNull => .absent
  | isIn => .items
  | notIn => .items
  | between => .range
  | notBetween => .range
  | _ => .single

def Condition.text (c : Condition) : String :=
  let lead := c.column ++ " " ++ c.operator.text
  match c.operator.operand with
  | .absent => lead
  | .items => lead ++ " (" ++ c.value ++ ")"
  | .range => lead ++ " " ++ formatRange c.value
  | .single => lead ++ " " ++ formatValue c.value

/-- The conditions that have a column. -/
def Query.predicates (q : Query) : List Condition := q.conditions.filter fun c => c.column != ""

/-- Conditions with their connectors, the first one without. -/
def predicateWords : List Condition → List String
  | [] => []
  | c :: rest => c.text :: rest.flatMap fun d => [d.connector.text, d.text]

/-! ## Order, groups and paging -/

def Order.text (o : Order) : String := o.column ++ " " ++ o.direction.text

/-- The sort entries that have a column. -/
def Query.sorts (q : Query) : List Order := q.orderBy.filter fun o => o.column != ""

/-- The grouping columns that are not empty. -/
def Query.groups (q : Query) : List String := q.groupBy.filter fun g => g != ""

/-- The limit and, only together with it, the offset. -/
def Query.pageText? (q : Query) : Option String :=
  q.limit.map fun limit =>
    "LIMIT " ++ toString limit ++
      ((q.offset.map fun offset => " OFFSET " ++ toString offset).getD "")

end QueryDesigner

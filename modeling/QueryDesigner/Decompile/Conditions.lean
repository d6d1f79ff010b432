import QueryDesigner.Decompile.Tables

/-!
# Reading conditions, groups, order and paging

* `Reading.conditionOf?` — the condition that a predicate is;
* `Reading.readConditions` — the predicates of a WHERE clause;
* `Reading.readGroups`, `Reading.readOrder`, `Reading.readPaging` — the clauses after it.
-/

namespace QueryDesigner

/-! ## Values -/

/-- The content of a number or text literal. -/
def Sql.Expr.literalText? (e : Sql.Expr) : Option String :=
  match e.bare with
  | .literal (.numeral digits) => some digits.text
  | .literal (.text value) => some value
  | _ => none

/-- The bounds of a range as one value: separated by a comma if both are literals without one, else
as they are written. -/
def rangeValue (low high : Sql.Expr) : String :=
  match low.literalText?, high.literalText? with
  | some a, some b =>
    if a.toList.contains ',' || b.toList.contains ',' then low.shown ++ " AND " ++ high.shown
    else a ++ ", " ++ b
  | _, _ => low.shown ++ " AND " ++ high.shown

/-- The operator of a comparison. -/
def comparisonOf? : Sql.BinaryOp → Option Operator
  | .eq => some .eq
  | .ne => some .ne
  | .gt => some .gt
  | .lt => some .lt
  | .ge => some .ge
  | .le => some .le
  | .like => some .like
  | _ => none

/-- The operator that says the opposite. -/
def negatedOperator? : Operator → Option Operator
  | .like => some .notLike
  | .isIn => some .notIn
  | .between => some .notBetween
  | .isNull => some .isNotNull
  | _ => none

/-! ## Predicates -/

/-- How the value of a condition is found. -/
inductive ValueSource where
  | none
  /-- The value is a list or a range, as it is given. -/
  | text (value : String)
  /-- The value is a single operand. -/
  | operand (e : Sql.Expr)

/-- What a predicate says about its left side, if a condition can say it. -/
def testOf? (e : Sql.Expr) : Option (Sql.Expr × Operator × ValueSource) :=
  match e.bare with
  | .binary .is left right =>
    match right.bare with
    | .null => some (left, .isNull, .none)
    | _ => Option.none
  | .binary op left right =>
    (comparisonOf? op).map fun operator => (left, operator, .operand right.afterComments)
  | .among left (item :: items) =>
    some (left, .isIn, .text (String.intercalate ", " ((item :: items).map Sql.Expr.shown)))
  | .between _ left low high => some (left, .between, .text (rangeValue low high))
  | _ => Option.none

/-- What a predicate, which may be negated, says about a column. -/
def columnTest? (predicate : Sql.Expr) :
    Option ((String × String) × Sql.Expr × Operator × ValueSource) :=
  match predicate.bare with
  | .unary .not e => do
    let (left, operator, value) ← testOf? e.unnested
    let column ← left.column?
    let operator ← negatedOperator? operator
    some (column, left, operator, value)
  | _ => do
    let (left, operator, value) ← testOf? predicate
    let column ← left.column?
    some (column, left, operator, value)

namespace Reading

/-- The value of a condition.  An expression that is no number is reported and taken as text. -/
def valueOf (predicate : Sql.Expr) : ValueSource → Reading String
  | .none => return ""
  | .text value => return value
  | .operand e => do
    match e.literalText? with
    | some value => return value
    | Option.none =>
      if !Text.isNumeral e.shown then warn (.value predicate.shown)
      return e.shown

/-- The condition that a predicate is. -/
def conditionOf? (predicate : Sql.Expr) : Reading (Option Condition) := do
  match columnTest? predicate with
  | Option.none => return Option.none
  | some ((table, column), left, operator, value) =>
    let value ← valueOf predicate value
    let column ← columnRef table column left.shown true
    return some ⟨column, operator, value, .and⟩

/-- A predicate of a WHERE clause becomes a condition or is reported. -/
def readPredicate (predicate : Sql.Expr) : Reading Unit := do
  match predicate.bare with
  | .binary .or _ _ => warn (.disjunction predicate.shown)
  | _ =>
    match ← conditionOf? predicate with
    | some condition => discard (edit (Edit.addCondition condition))
    | Option.none => warn (.condition predicate.shown)

/-- The predicates of a WHERE clause. -/
def readConditions (condition : Sql.Expr) : Reading Unit := do
  for predicate in condition.conjuncts do readPredicate predicate

/-! ## The clauses after the conditions -/

def readGroup (e : Sql.Expr) : Reading Unit := do
  match e.column? with
  | some (table, column) =>
    edit (Edit.addGroup (← columnRef table column e.shown false))
  | Option.none => warn (.group e.shown)

def readGroups (grouping : Sql.Grouping) : Reading Unit := do
  for e in grouping.items do readGroup e

def readOrderItem (item : Sql.OrderItem) : Reading Unit := do
  match item.operand.column? with
  | some (table, column) =>
    let direction := if item.isDescending = some true then .descending else .ascending
    let ref ← columnRef table column item.operand.shown false
    discard (edit (Edit.addOrder ref direction))
  | Option.none => warn (.order (item.sql .verbatim))

def readOrder (items : List Sql.OrderItem) : Reading Unit := do
  for item in items do readOrderItem item

/-- The whole number that an expression is. -/
def wholeNumber? (e : Sql.Expr) : Option Int :=
  match e.bare with
  | .literal (.numeral digits) => Text.readInteger? digits.text
  | _ => Option.none

/-- A number after LIMIT or OFFSET. -/
def readCount (paging : Paging) (e : Sql.Expr) : Reading Unit := do
  match wholeNumber? e with
  | some n => edit (Edit.setPaging paging (some n))
  | Option.none => warn (.paging paging.text e.shown)

def readPaging (tail : Sql.Tail) : Reading Unit := do
  if let some limit := tail.limit then
    match limit.fetch, limit.count with
    | none, some e => readCount .limit e
    | _, _ => warn (.paging Paging.limit.text "")
  if let some offset := tail.offset then readCount .offset offset.count

end Reading

end QueryDesigner

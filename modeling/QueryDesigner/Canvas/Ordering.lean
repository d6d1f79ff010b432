import QueryDesigner.Canvas.Basic
import QueryDesigner.Decimal.Shortest
import QueryDesigner.Query.Decode

/-!
# Editing order, grouping and paging

* `Edit.addOrder`, `Edit.removeOrder`, `Edit.toggleDirection` — the sort columns;
* `Edit.addGroup`, `Edit.removeGroup` — the grouping columns;
* `Edit.setLimit`, `Edit.setOffset` — the page;
* `readCount` — the number that a value of any shape stands for as a limit or an offset.
-/

namespace QueryDesigner

open Validation

namespace Query

/-- The first sort entry of a column. -/
def findOrder? (q : Query) (column : String) : Option Order :=
  q.orderBy.find? fun o => o.column == column

/-- The query in which the first sort entry of a column has the other direction. -/
def withFlippedOrder (q : Query) (column : String) : Query :=
  { q with
    orderBy := q.orderBy.modify (q.orderBy.findIdx fun o => o.column == column) fun o =>
      { o with direction := o.direction.flip } }

end Query

/-- The two parts of a page. -/
inductive Paging where
  | limit
  | offset
  deriving DecidableEq, Repr

def Paging.text : Paging → String
  | limit => "LIMIT"
  | offset => "OFFSET"

/-- The integer next to a floating-point number on the side of zero. -/
def truncate (x : Float) : Int :=
  let bits : Nat := x.toBits.toNat
  Text.signedInteger (bits / Decimal.twoTo 63 % 2 == 1) ((Decimal.Binary.ofBits bits).quotient 0)

/-- The number that a value stands for as a limit or an offset: truth values count one and zero,
floating-point numbers are cut toward zero, and text is read as a typed integer. -/
def readCount (paging : Paging) : Datum → Except Failure (Option Int)
  | .null => .ok none
  | .bool b => .ok (some (if b then 1 else 0))
  | .integer n => .ok (some n)
  | .float x =>
    if x.isInf then .error .infiniteCount
    else if x.isNaN then .error (.rejected (.badChange (.notInteger paging.text)))
    else .ok (some (truncate x))
  | .text s =>
    match Text.readInteger? s with
    | some n => .ok (some n)
    | none => .error (.rejected (.badChange (.notInteger paging.text)))
  | _ => .error (.rejected (.badChange (.notInteger paging.text)))

namespace Edit

/-! ## Order -/

/-- Sorts by one more column.  A column that is sorted by already keeps its entry; only for a new
one the direction has to be a proper one. -/
def addOrderWith (column : String) (direction : Decoded Direction) : Edit Order := do
  match (← get).query.findOrder? column with
  | some existing => pure existing
  | none =>
    match direction with
    | .error issues => throw (.malformed issues)
    | .ok direction =>
      let order : Order := ⟨column, direction⟩
      modifyQuery fun q => { q with orderBy := q.orderBy ++ [order] }
      pure order

def addOrder (column : String) (direction : Direction) : Edit Order :=
  addOrderWith column (.ok direction)

def removeOrder (column : String) : Edit Unit :=
  modifyQuery fun q => { q with orderBy := q.orderBy.filter fun o => o.column != column }

/-- Turns the direction of a sort column around. -/
def toggleDirection (column : String) : Edit Order := do
  match (← get).query.findOrder? column with
  | none => reject (.badChange (.notOrdered column))
  | some order =>
    modifyQuery fun q => q.withFlippedOrder column
    pure { order with direction := order.direction.flip }

/-! ## Groups -/

def addGroup (column : String) : Edit Unit :=
  modifyQuery fun q =>
    if q.groupBy.contains column then q else { q with groupBy := q.groupBy ++ [column] }

def removeGroup (column : String) : Edit Unit :=
  modifyQuery fun q => { q with groupBy := q.groupBy.filter fun g => g != column }

/-! ## Paging -/

/-- A count, if given, may not be negative. -/
def nonNegative (paging : Paging) : Option Int → Edit (Option Nat)
  | none => pure none
  | some n =>
    if n < 0 then reject (.badChange (.negative paging.text)) else pure (some n.toNat)

def setPaging (paging : Paging) (count : Option Int) : Edit Unit := do
  let count ← nonNegative paging count
  modifyQuery fun q =>
    match paging with
    | .limit => { q with limit := count }
    | .offset => { q with offset := count }

def setLimit (count : Option Int) : Edit Unit := setPaging .limit count

def setOffset (count : Option Int) : Edit Unit := setPaging .offset count

/-- Sets a part of the page from a value of any shape. -/
def setPagingFrom (paging : Paging) (value : Datum) : Edit Unit :=
  match readCount paging value with
  | .ok count => setPaging paging count
  | .error failure => throw failure

end Edit

end QueryDesigner

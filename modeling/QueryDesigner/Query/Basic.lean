/-!
# The parts of a query

* `JoinType`, `Connector`, `Direction`, `Operator` — the words of which a query is put together,
  each with its written form;
* `TableRef` — a table in the query, and the key by which everything else refers to it;
* `Join`, `Condition`, `Order` — a join of two keys, a predicate and a sort column.
-/

namespace QueryDesigner

inductive JoinType where
  | inner
  | left
  | right
  deriving DecidableEq, Repr

inductive Connector where
  | and
  | or
  deriving DecidableEq, Repr

inductive Direction where
  | ascending
  | descending
  deriving DecidableEq, Repr

inductive Operator where
  | eq
  | ne
  | gt
  | lt
  | ge
  | le
  | like
  | notLike
  | isIn
  | notIn
  | between
  | notBetween
  | isNull
  | isNotNull
  deriving DecidableEq, Repr

namespace JoinType

def text : JoinType → String
  | inner => "INNER"
  | left => "LEFT"
  | right => "RIGHT"

def all : List JoinType := [inner, left, right]

theorem mem_all (t : JoinType) : t ∈ all := by cases t <;> simp [all]

end JoinType

namespace Connector

def text : Connector → String
  | and => "AND"
  | or => "OR"

def all : List Connector := [and, or]

theorem mem_all (c : Connector) : c ∈ all := by cases c <;> simp [all]

end Connector

namespace Direction

def text : Direction → String
  | ascending => "ASC"
  | descending => "DESC"

def all : List Direction := [ascending, descending]

def flip : Direction → Direction
  | ascending => descending
  | descending => ascending

theorem mem_all (d : Direction) : d ∈ all := by cases d <;> simp [all]

theorem flip_flip (d : Direction) : d.flip.flip = d := by cases d <;> rfl

end Direction

namespace Operator

def text : Operator → String
  | eq => "="
  | ne => "!="
  | gt => ">"
  | lt => "<"
  | ge => ">="
  | le => "<="
  | like => "LIKE"
  | notLike => "NOT LIKE"
  | isIn => "IN"
  | notIn => "NOT IN"
  | between => "BETWEEN"
  | notBetween => "NOT BETWEEN"
  | isNull => "IS NULL"
  | isNotNull => "IS NOT NULL"

/-- The operators in the order in which they are offered. -/
def all : List Operator :=
  [eq, ne, gt, lt, ge, le, like, notLike, isIn, notIn, between, notBetween, isNull, isNotNull]

theorem mem_all (o : Operator) : o ∈ all := by cases o <;> simp [all]

end Operator

/-- A table in the query.  An empty alias counts as none.  The ordinal records the order in which
tables came in. -/
structure TableRef where
  name : String
  aliasName : Option String := none
  ordinal : Int := 0
  deriving DecidableEq, Repr

/-- The alias that a text stands for: the empty text stands for none. -/
def aliasOf (s : String) : Option String := if s = "" then none else some s

namespace TableRef

/-- The identifier by which everything else in the query refers to the table. -/
def key (t : TableRef) : String := (t.aliasName.bind aliasOf).getD t.name

end TableRef

/-- An equality of one column each of two tables, given by their keys. -/
structure Join where
  type : JoinType := .inner
  leftTable : String
  leftColumn : String := ""
  rightTable : String
  rightColumn : String := ""
  deriving DecidableEq, Repr

namespace Join

/-- Both columns have been chosen. -/
def isComplete (j : Join) : Bool := j.leftColumn != "" && j.rightColumn != ""

/-- One of the two ends is the table with that key. -/
def mentions (j : Join) (key : String) : Bool := j.leftTable == key || j.rightTable == key

/-- The join with each end that is `old` moved to `new`. -/
def rekey (old new : String) (j : Join) : Join :=
  { j with
    leftTable := if j.leftTable = old then new else j.leftTable
    rightTable := if j.rightTable = old then new else j.rightTable }

end Join

/-- A predicate on a column.  The connector ties it to the predicate before it. -/
structure Condition where
  column : String := ""
  operator : Operator := .eq
  value : String := ""
  connector : Connector := .and
  deriving DecidableEq, Repr

structure Order where
  column : String := ""
  direction : Direction := .ascending
  deriving DecidableEq, Repr

end QueryDesigner

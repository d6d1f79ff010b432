import QueryDesigner.Sql.TypeName
import QueryDesigner.Text.Digit

/-!
# The syntax of SQL statements

* `Ident`, `Literal`, `UnaryOp`, `BinaryOp` — names, constants and operators;
* `Expr` — expressions;
* `TableSource`, `Join` — what a query reads from;
* `Select`, `Query` — SELECT statements, what is put together from them, and what stands around
  them in parentheses;
* `Statement` — statements.

Comments that belong to an expression stand beside it as `Expr.commented`.
-/

namespace QueryDesigner
namespace Sql

/-! ## Names, constants and operators -/

/-- A name, and whether it was written between backquotes. -/
structure Ident where
  text : String
  quoted : Bool := false
  deriving DecidableEq, Repr

/-- The digits of a number, which may have a point and an exponent. -/
structure Numeral where
  text : String
  startsWithDigit : Text.startsWithDigit text = true
  deriving DecidableEq, Repr

inductive Literal where
  | numeral (digits : Numeral)
  | text (value : String)
  | national (value : String)
  | hex (digits : String)
  | bits (digits : String)
  deriving DecidableEq, Repr

/-- A number in digits. -/
def Literal.number (digits : String)
    (h : Text.startsWithDigit digits = true := by exact Eq.refl true) : Literal :=
  .numeral ⟨digits, h⟩

inductive UnaryOp where
  | not
  | negate
  | complement
  deriving DecidableEq, Repr

inductive BinaryOp where
  | assign
  | or
  | and
  | xor
  | eq
  | ne
  | same
  | gt
  | lt
  | ge
  | le
  | like
  | glob
  | similar
  | overlaps
  | extendsLeft
  | extendsRight
  | adjacent
  | escape
  | is
  | bitAnd
  | bitOr
  | bitXor
  | shiftLeft
  | shiftRight
  | add
  | sub
  | mod
  | collate
  | mul
  | div
  | distance
  | jsonText
  deriving DecidableEq, Repr

namespace BinaryOp

def text : BinaryOp → String
  | assign => ":="
  | or => "OR"
  | and => "AND"
  | xor => "XOR"
  | eq => "="
  | ne => "<>"
  | same => "<=>"
  | gt => ">"
  | lt => "<"
  | ge => ">="
  | le => "<="
  | like => "LIKE"
  | glob => "GLOB"
  | similar => "SIMILAR TO"
  | overlaps => "OVERLAPS"
  | extendsLeft => "&<"
  | extendsRight => "&>"
  | adjacent => "-|-"
  | escape => "ESCAPE"
  | is => "IS"
  | bitAnd => "&"
  | bitOr => "|"
  | bitXor => "^"
  | shiftLeft => "<<"
  | shiftRight => ">>"
  | add => "+"
  | sub => "-"
  | mod => "%"
  | collate => "COLLATE"
  | mul => "*"
  | div => "/"
  | distance => "<->"
  | jsonText => "->>"

end BinaryOp

/-- The ways in which queries are put together. -/
inductive SetOperator where
  | union
  | except_
  | intersect
  deriving DecidableEq, Repr

def SetOperator.text : SetOperator → String
  | union => "UNION"
  | except_ => "EXCEPT"
  | intersect => "INTERSECT"

/-- The side of a join from which every row is kept. -/
inductive JoinSide where
  | left
  | right
  | full
  deriving DecidableEq, Repr

def JoinSide.text : JoinSide → String
  | left => "LEFT"
  | right => "RIGHT"
  | full => "FULL"

inductive JoinKind where
  | inner
  | outer
  | cross
  | semi
  | anti
  | straight
  deriving DecidableEq, Repr

def JoinKind.text : JoinKind → String
  | inner => "INNER"
  | outer => "OUTER"
  | cross => "CROSS"
  | semi => "SEMI"
  | anti => "ANTI"
  | straight => "STRAIGHT_JOIN"

/-- How the rows of a join are matched, besides by its predicate. -/
inductive JoinMethod where
  | natural
  | asof
  deriving DecidableEq, Repr

def JoinMethod.text : JoinMethod → String
  | natural => "NATURAL"
  | asof => "ASOF"

/-- What stands before a source that sees the tables before it. -/
inductive LateralKind where
  | plain
  /-- Rows for which the source is empty are left out. -/
  | cross
  /-- Rows for which the source is empty remain. -/
  | outer
  deriving DecidableEq, Repr

def LateralKind.text : LateralKind → String
  | plain => "LATERAL"
  | cross => "INNER JOIN LATERAL"
  | outer => "LEFT JOIN LATERAL"

/-- The words before JOIN. -/
structure JoinWords where
  method : Option JoinMethod := none
  side : Option JoinSide := none
  kind : Option JoinKind := none
  deriving DecidableEq, Repr

/-- The other name of a table, with names for its columns. -/
structure TableAlias where
  name : Option Ident
  columns : List Ident := []
  comments : List String := []
  deriving DecidableEq, Repr

/-- The comments that stand before the keywords of a SELECT statement. -/
structure ClauseComments where
  source : List String := []
  condition : List String := []
  grouping : List String := []
  having : List String := []
  order : List String := []
  deriving DecidableEq, Repr

/-! ## Expressions and queries -/

mutual

inductive Expr where
  /-- Every column, with words that leave out, replace or rename some of them. -/
  | star (changes : List Expr)
  /-- A column; the path before it names its table, schema and so on. -/
  | column (path : List Ident) (name : Ident)
  /-- Every column of a table. -/
  | columns (path : List Ident) (changes : List Expr)
  /-- What stands in the place of a column after the name of a table. -/
  | fieldOf (path : List Ident) (field : Expr)
  | literal (value : Literal)
  | null
  | boolean (value : Bool)
  /-- A place that is filled in later, or a variable, as it is written. -/
  | marker (text : String)
  | unary (op : UnaryOp) (operand : Expr)
  | binary (op : BinaryOp) (left right : Expr)
  /-- A range, whose ends may be given in any order if it is symmetric. -/
  | between (isSymmetric : Bool) (operand low high : Expr)
  | among (operand : Expr) (items : List Expr)
  | amongRows (operand : Expr) (query : Query)
  | case (subject : Option Expr) (branches : List (Expr × Expr)) (otherwise : Option Expr)
  /-- A choice by one condition. -/
  | choice (condition yes : Expr) (no : Option Expr)
  | cast (operand : Expr) (type : TypeName)
  | call (name : Ident) (args : List Expr)
  /-- Arguments of which equal ones count once. -/
  | distinct (items : List Expr)
  /-- A call that is written with words between its parts; the words stand around the parts. -/
  | form (words : List String) (parts : List Expr)
  /-- An amount of time.  The unit may be part of the amount. -/
  | interval (amount : Expr) (unit : String)
  /-- A moment as it is in a time zone. -/
  | inZone (moment zone : Expr)
  | paren (inner : Expr)
  | tuple (items : List Expr)
  | existsRow (query : Query)
  /-- A comparison with all rows. -/
  | allRows (query : Query)
  /-- A comparison with some row. -/
  | anyRow (operand : Expr)
  | query (query : Query)
  /-- An argument with the order of its values. -/
  | ordered (operand : Expr) (order : List OrderItem)
  /-- An argument of which so many values count, after some that are skipped. -/
  | limited (operand : Expr) (skip : Option Expr) (limit : Limit)
  /-- A call that counts only the rows which satisfy a condition. -/
  | filtered (call condition : Expr)
  /-- An order after the words that announce it. -/
  | sorted (words : String) (order : List OrderItem)
  | window (call : Expr) (name : Option Ident) (partition : List Expr) (order : List OrderItem)
      (frame : Option Expr)
  /-- A call in a window that is described elsewhere. -/
  | namedWindow (call : Expr) (name : Ident)
  /-- A call that is qualified by a name. -/
  | member (owner call : Expr)
  | aliased (operand : Expr) (aliasName : Ident)
  /-- An expression with comments before or after it. -/
  | commented (isLeading : Bool) (comments : List String) (operand : Expr)

/-- An entry of an ORDER BY list.  `isDescending` is absent where no direction is written.  Nulls
are small, unless they are moved to the other end. -/
structure OrderItem where
  operand : Expr
  isDescending : Option Bool
  movesNulls : Bool

/-- How many rows are kept. -/
structure Limit where
  count : Option Expr
  /-- Words after the number. -/
  options : String
  /-- The word after `FETCH`, if the clause starts with that. -/
  fetch : Option String
  /-- Rows that agree in these are counted together. -/
  groups : List Expr

/-- How many rows are skipped. -/
structure Offset where
  count : Expr
  /-- Rows that agree in these are counted together. -/
  groups : List Expr

/-- What a query reads from. -/
inductive TableSource where
  /-- A table by name, or a table function after the path. -/
  | table (path : List Ident) (function : Option Expr) (comments : List String)
      (partition : List Expr) (aliasName : Option TableAlias) (hints : List Expr)
      (sample : Option Expr) (joins : List Join)
  | query (query : Query)
  /-- The items of arrays, each with its place on request. -/
  | unnested (arrays : List Expr) (withPlaces : Bool) (aliasName : Option TableAlias)
  /-- A source that sees the tables before it. -/
  | lateral (kind : LateralKind) (source : TableSource)

/-- A join with its predicate, or with the columns that both sides share. -/
structure Join where
  words : JoinWords
  source : TableSource
  on : Option Expr
  shared : List Ident
  comments : List String

/-- A name for a query that the main query can read from. -/
structure Cte where
  aliasName : TableAlias
  query : Query

/-- The groups of a query. -/
structure Grouping where
  /-- `ALL`, `DISTINCT`, or nothing. -/
  quantifier : String
  items : List Expr
  /-- Several groupings at once: `GROUPING SETS`, `CUBE` and `ROLLUP`. -/
  sets : List Expr
  withTotals : Bool

/-- What may follow the SELECT list and the FROM clause. -/
structure Tail where
  joins : List Join
  /-- Calls that give rows for each row. -/
  views : List Expr
  condition : Option Expr
  /-- How the rows of a tree are reached from each other. -/
  connection : Option Expr
  grouping : Option Grouping
  having : Option Expr
  /-- Orders within the parts of which the rows come. -/
  sorts : List Expr
  /-- Windows that calls refer to by name. -/
  windows : List Expr
  /-- A condition on the windows of a row. -/
  qualify : Option Expr
  order : List OrderItem
  limit : Option Limit
  offset : Option Offset
  /-- Row locks. -/
  locks : List Expr
  sample : Option Expr
  comments : ClauseComments

structure Select where
  comments : List String
  /-- Advice to the planner. -/
  hints : List Expr
  isDistinct : Bool
  /-- Rows that agree in these are equal; without any, rows that agree in everything. -/
  distinctOn : List Expr
  /-- Words that advise the server, in capitals. -/
  modifiers : List String
  items : List Expr
  source : Option TableSource
  tail : Tail

inductive Query where
  | select (select : Select)
  | set (op : SetOperator) (isAll : Bool) (left right : Query) (tail : Tail)
  /-- A query between parentheses. -/
  | wrapped (query : Query) (aliasName : Option TableAlias) (tail : Tail)
  /-- Tables between parentheses. -/
  | tables (source : TableSource) (aliasName : Option TableAlias) (tail : Tail)
  | values (rows : List Expr) (aliasName : Option TableAlias)
  | withTables (isRecursive : Bool) (tables : List Cte) (query : Query)
  /-- A query whose rows make up a new table. -/
  | into (target : TableSource) (isTemporary : Bool) (query : Query)

end

/-- Nothing after the SELECT list and the FROM clause. -/
def Tail.empty : Tail :=
  ⟨[], [], none, none, none, none, [], [], none, [], none, none, [], none, {}⟩

/-- A SELECT statement of items from a source, without anything else. -/
def Select.plain (items : List Expr) (source : Option TableSource) : Select :=
  ⟨[], [], false, [], [], items, source, Tail.empty⟩

namespace TableSource

/-- Whether a source is made of the items of arrays. -/
def isUnnested : TableSource → Bool
  | unnested .. => true
  | _ => false

/-- Whether the words of a source join it. -/
def isApplied : TableSource → Bool
  | lateral kind _ => kind != .plain
  | _ => false

end TableSource

/-! ## Statements -/

inductive Statement where
  | query (query : Query)
  | expression (expr : Expr)
  | update (source : TableSource) (assignments : List Expr) (tail : Tail)
  /-- Rows that are taken out of the targets, or of the source if no targets are named; which ones
  they are may depend on other tables. -/
  | delete (targets : List TableSource) (source : Option TableSource) (others : List TableSource)
      (tail : Tail)
  /-- New rows for some columns of a table, and what changes where they are there already. -/
  | insert (hints : List Expr) (isIgnoring : Bool) (target : TableSource) (columns : List Expr)
      (rows : Option Query) (changes : List Expr)
  /-- A question about a query. -/
  | describe (query : Query)
  /-- A table or view with the text before its query. -/
  | create (target : String) (query : Query)
  /-- A statement that is not looked into. -/
  | command (text : String)

/-! ## Looking through comments -/

namespace Expr

/-- The expression without the comments around it. -/
def bare : Expr → Expr
  | commented _ _ e => e.bare
  | e => e

/-- The expression with comments after it, if there are any. -/
def withComments (e : Expr) (comments : List String) : Expr :=
  if comments.isEmpty then e else commented false comments e

/-- The expression with comments before it, if there are any. -/
def withCommentsBefore (e : Expr) (comments : List String) : Expr :=
  if comments.isEmpty then e else commented true comments e

/-- A call of a function by its name in capitals. -/
def function (name : String) (args : List Expr) : Expr := .call ⟨name, false⟩ args

/-- A number in digits. -/
def number (digits : String)
    (h : Text.startsWithDigit digits = true := by exact Eq.refl true) : Expr :=
  .literal (.number digits h)

/-- A text. -/
def string (value : String) : Expr := .literal (.text value)

/-- A word in front of a list between parentheses. -/
def listForm (word : String) (items : List Expr) : Expr :=
  match items with
  | [] => .form [word ++ " ()"] []
  | items => .form ((word ++ " (") :: List.replicate (items.length - 1) ", " ++ [")"]) items

/-- The expression without the comments that stand before it. -/
def afterComments : Expr → Expr
  | commented true _ e => e
  | e => e

end Expr

end Sql
end QueryDesigner

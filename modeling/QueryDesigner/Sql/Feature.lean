import QueryDesigner.Sql.Node
import QueryDesigner.Sql.Parser.Statement

/-!
# Features that a query cannot hold

A query holds one table after FROM, joins on equal columns, conditions without parentheses, groups,
order and paging.  A statement may have more.

* `Feature` — what else a statement may have;
* `Expr.isColumnEquality` — the predicates that a join can hold;
* `hasFeature` — whether a statement has a feature;
* `unsupportedFeatures` — all of them, in the order of their wording.
-/

namespace QueryDesigner
namespace Sql

inductive Feature where
  | caseExpression
  | except_
  | fullJoin
  | having
  | intersect
  | sharedColumns
  | joinWithoutPredicate
  | otherPredicate
  | noSelect
  | disjunction
  | parentheses
  | nestedQuery
  | union
  | commonTables
  | window
  deriving DecidableEq, Repr

namespace Feature

def text : Feature → String
  | caseExpression => "CASE expressions"
  | except_ => "EXCEPT"
  | fullJoin => "FULL JOIN"
  | having => "HAVING"
  | intersect => "INTERSECT"
  | sharedColumns => "JOIN ... USING"
  | joinWithoutPredicate => "JOIN without ON condition"
  | otherPredicate => "Non-equality join conditions"
  | noSelect => "Not a SELECT statement"
  | disjunction => "OR conditions"
  | parentheses => "Parenthesized conditions"
  | nestedQuery => "Subqueries"
  | union => "UNION"
  | commonTables => "WITH clauses (CTEs)"
  | window => "Window functions"

/-- All features, in the order of their wording. -/
def all : List Feature :=
  [caseExpression, except_, fullJoin, having, intersect, sharedColumns, joinWithoutPredicate,
    otherPredicate, noSelect, disjunction, parentheses, nestedQuery, union, commonTables, window]

theorem mem_all (f : Feature) : f ∈ all := by cases f <;> simp [all]

end Feature

/-- What is reported in place of features where a text cannot be read. -/
def unreadableText : String := "Unparseable SQL"

/-! ## Tests -/

/-- The name of what stands in the place of a column. -/
def Expr.fieldName (field : Expr) : String :=
  match field.bare with
  | .literal (.numeral digits) => digits.text
  | .literal (.text value) => value
  | .null => "NULL"
  | _ => ""

/-- The table and the name of a column.  A column without a table has the empty one. -/
def Expr.column? (e : Expr) : Option (String × String) :=
  match e.bare with
  | .column path name => some ((path.getLast?.map Ident.text).getD "", name.text)
  | .columns path _ => some ((path.getLast?.map Ident.text).getD "", "*")
  | .fieldOf path field => some ((path.getLast?.map Ident.text).getD "", field.fieldName)
  | _ => none

def Expr.isColumn (e : Expr) : Bool := e.column?.isSome

/-- The predicates that a join can hold. -/
def Expr.isColumnEquality (e : Expr) : Bool :=
  match e.bare with
  | .binary .eq left right => left.isColumn && right.isColumn
  | _ => false

/-- The feature that a part has whatever it is a part of. -/
def Node.feature? : Node → Option Feature
  | .nested => some .nestedQuery
  | .commonTable => some .commonTables
  | .combination .intersect => some .intersect
  | .combination .except_ => some .except_
  | .combination .union => some .union
  | .window => some .window
  | .caseOf => some .caseExpression
  | _ => none

/-- The features of a join. -/
def Join.features (j : Join) : List Feature :=
  (match j.on with
    | some e => if e.isColumnEquality then [] else [.otherPredicate]
    | none => if j.shared.isEmpty then [.joinWithoutPredicate] else [.sharedColumns]) ++
  (if j.words.side = some .full then [.fullJoin] else [])

/-- The features of a condition. -/
def conditionFeatures (e : Expr) : List Feature :=
  (e.nodes 0).filterMap fun (_, node) =>
    match node with
    | .disjunction => some .disjunction
    | .parenthesized => some .parentheses
    | _ => none

/-- The features of the clauses of a SELECT statement. -/
def Select.features (s : Select) : List Feature :=
  ((s.tail.condition.map conditionFeatures).getD []) ++
    (if s.tail.having.isSome then [.having] else []) ++ s.tail.joins.flatMap Join.features

/-- The features that the parts of a statement have, in any order and number. -/
def rawFeatures (nodes : List (Nat × Node)) : List Feature :=
  nodes.filterMap (fun (_, node) => node.feature?) ++
    match mainSelect? nodes with
    | some s => s.features
    | none => [.noSelect]

/-- The features of a statement given by its parts, each once. -/
def featuresOf (nodes : List (Nat × Node)) : List Feature :=
  let found := rawFeatures nodes
  Feature.all.filter found.contains

/-- The features of the statements of a text, unless it cannot be read. -/
def unsupportedFeatures? (s : String) : Option (List Feature) :=
  (script? s).map fun script => featuresOf (scriptNodes script)

/-- The wording of the features of a text. -/
def unsupportedTexts (s : String) : List String :=
  match unsupportedFeatures? s with
  | some features => features.map Feature.text
  | none => [unreadableText]

end Sql
end QueryDesigner

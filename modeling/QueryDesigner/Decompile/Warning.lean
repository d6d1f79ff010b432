import QueryDesigner.Canvas.Failure
import QueryDesigner.Sql.Kind

/-!
# What is left out when a statement is read

* `Warning` — a part of a statement that the query cannot hold, as it is written;
* `Warning.message` — its wording.
-/

namespace QueryDesigner

/-- A part of a statement that is left out, or a name that is changed. -/
inductive Warning where
  | notDecomposed (kind : Sql.StatementKind)
  /-- The text cannot be read. -/
  | unreadable
  | noStatement
  | noSelect
  | noSource
  | source (text : String)
  | qualifier (source : String)
  /-- A table that comes in a second time under a key of its own. -/
  | repeated (name key : String)
  | aliasClash (aliasName key : String)
  | joinSource (join : String)
  | joinWithoutPredicate (join : String)
  | joinType (words key : String)
  | joinPredicate (predicate : String)
  | joinTables (predicate : String)
  | join (rejection : Rejection)
  | distinct
  | columnAlias (item : String)
  | item (text : String)
  | itemTable (item : String)
  | disjunction (predicate : String)
  | condition (predicate : String)
  /-- An expression that is taken as the text of a value. -/
  | value (predicate : String)
  | columnTable (column : String)
  | group (text : String)
  | having (predicate : String)
  | order (text : String)
  | paging (clause count : String)
  deriving DecidableEq, Repr

/-- The wording of a warning. -/
def Warning.message : Warning → String
  | notDecomposed kind => kind.text ++ " statements are not decomposed into a query model"
  | unreadable => "SQL could not be parsed"
  | noStatement => "No statement found"
  | noSelect => "No SELECT statement found"
  | noSource => "No FROM clause found"
  | source text => "Unrecognised table source dropped: " ++ text
  | qualifier text => "Database qualifier dropped from " ++ text
  | repeated name key => "Table " ++ name ++ " repeated without an alias; using " ++ key
  | aliasClash aliasName key =>
    "Alias " ++ aliasName ++ " clashes with another table; using " ++ key
  | joinSource text => "JOIN source is not a table: " ++ text
  | joinWithoutPredicate text => "JOIN without ON condition dropped: " ++ text
  | joinType words key => words ++ " JOIN on " ++ key ++ " dropped"
  | joinPredicate predicate => "Extra join predicate dropped: " ++ predicate
  | joinTables predicate => "Join condition references unknown table: " ++ predicate
  | join rejection => "Join dropped: " ++ rejection.message
  | distinct => "DISTINCT dropped"
  | columnAlias text => "Column alias dropped: " ++ text
  | item text => "Expression dropped from SELECT: " ++ text
  | itemTable text => "Unknown table in SELECT: " ++ text
  | disjunction predicate => "OR condition dropped: " ++ predicate
  | condition predicate => "Condition not recognised: " ++ predicate
  | value predicate => "Value treated as string literal: " ++ predicate
  | columnTable column => "Unknown table qualifier in " ++ column
  | group text => "GROUP BY expression dropped: " ++ text
  | having predicate => "HAVING clause dropped: " ++ predicate
  | order text => "ORDER BY expression dropped: " ++ text
  | paging clause count => clause ++ " value not recognised: " ++ count

end QueryDesigner

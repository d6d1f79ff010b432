import QueryDesigner.Compile.Clause

/-!
# Compiling a query

* `Query.lines` — the clauses of the statement, one a line;
* `Query.compile` — the statement;
* `emptyStatement` — what stands for a query without tables.
-/

namespace QueryDesigner

/-- A clause with its items after the keyword; without items there is no clause. -/
def listClause (keyword separator : String) (items : List String) : List String :=
  if items.isEmpty then [] else [keyword ++ " " ++ String.intercalate separator items]

/-- The clauses of a query whose first table is given. -/
def Query.lines (q : Query) (first : TableRef) : List String :=
  ["SELECT " ++ String.intercalate ", " (q.selectItems.map SelectItem.text),
    "FROM " ++ first.source] ++
  q.joinClauses.map JoinClause.text ++
  listClause "WHERE" " " (predicateWords q.predicates) ++
  listClause "GROUP BY" ", " q.groups ++
  listClause "ORDER BY" ", " (q.sorts.map Order.text) ++
  q.pageText?.toList

/-- What is shown while no table has been picked. -/
def emptyStatement : String := "SELECT * FROM table_name;"

/-- The statement of a query: a line for each clause, and a semicolon. -/
def Query.compile (q : Query) : String :=
  match q.tables with
  | [] => emptyStatement
  | first :: _ => String.intercalate "\n" (q.lines first) ++ ";"

end QueryDesigner

import QueryDesigner.Catalog.Basic
import QueryDesigner.Query.State

/-!
# Suggested joins

Candidates for joins between the tables of a query, read off foreign keys and off the naming
convention `<table>_<key column>`.

* `Join.ends` — what identifies a join, whichever way round it is written;
* `Suggestion.foreignKeyJoins`, `Suggestion.namingJoins` — the candidates for two tables;
* `Suggestion.fresh` — candidates without those that are known or repeated;
* `suggestJoins` — the joins to suggest for a query.
-/

namespace QueryDesigner

/-- One end of a join: a table key and a column in lower case. -/
abbrev JoinEnd := String × String

/-- The order of ends: by table key, then by column. -/
def JoinEnd.before (a b : JoinEnd) : Bool := a.1 < b.1 || (a.1 == b.1 && a.2 < b.2)

/-- The ends of a join in order, one if both are the same.  Joins with the same ends are the same
join. -/
def Join.ends (j : Join) : List JoinEnd :=
  let left : JoinEnd := (j.leftTable, Text.lower j.leftColumn)
  let right : JoinEnd := (j.rightTable, Text.lower j.rightColumn)
  if left = right then [left] else if JoinEnd.before left right then [left, right]
  else [right, left]

namespace Suggestion

/-- A table of a query with what the catalog says about it. -/
structure KnownTable where
  ref : TableRef
  info : Catalog.Table
  deriving DecidableEq, Repr

/-- For every foreign key from one table to another, the join of its column with the column that it
refers to. -/
def foreignKeyJoins (source target : KnownTable) : List Join :=
  (source.info.foreignKeysTo target.info.name).filterMap fun column =>
    column.foreignKey.map fun key =>
      { leftTable := source.ref.key
        leftColumn := column.name
        rightTable := target.ref.key
        rightColumn :=
          ((target.info.findColumn? key.column).map Catalog.Column.name).getD key.column }

/-- If the owner has a single key column, the join with the column of the other table that is named
after both. -/
def namingJoins (owner other : KnownTable) : List Join :=
  match owner.info.keyColumns with
  | [key] =>
    match other.info.findColumn? (owner.info.name ++ "_" ++ key) with
    | some column =>
      [{ leftTable := other.ref.key
         leftColumn := column.name
         rightTable := owner.ref.key
         rightColumn := key }]
    | none => []
  | _ => []

/-- A table of a query, if the catalog knows it. -/
def known? (catalog : Catalog) (t : TableRef) : Option KnownTable :=
  (catalog.findTable? t.name).map (KnownTable.mk t)

/-- The candidates for two tables: foreign keys before names, and the first table before the
second. -/
def candidates (catalog : Catalog) (a b : TableRef) : List Join :=
  match known? catalog a, known? catalog b with
  | some a, some b =>
    foreignKeyJoins a b ++ foreignKeyJoins b a ++ namingJoins a b ++ namingJoins b a
  | _, _ => []

/-- Every two items of a list, in its order. -/
def pairs : List α → List (α × α)
  | [] => []
  | x :: rest => rest.map (fun y => (x, y)) ++ pairs rest

/-- The candidates whose ends are not among the known ones, each once. -/
def fresh (known : List (List JoinEnd)) : List Join → List Join
  | [] => []
  | j :: rest =>
    if known.contains j.ends then fresh known rest else j :: fresh (j.ends :: known) rest

end Suggestion

/-- The joins to suggest for a query. -/
def suggestJoins (catalog : Catalog) (q : Query) : List Join :=
  Suggestion.fresh (q.joins.map Join.ends)
    ((Suggestion.pairs q.tables).flatMap fun p => Suggestion.candidates catalog p.1 p.2)

end QueryDesigner

import QueryDesigner.Query.Decode

/-!
# Queries as saved data

* `TableRef.fields`, `Order.fields`, `Selection.encode` — the parts of a query as data;
* `Query.fields`, `Query.encode` — a query as it is saved.
-/

namespace QueryDesigner

namespace Datum

/-- A value that may be absent, as data. -/
def ofOption (encode : α → Datum) : Option α → Datum
  | none => null
  | some a => encode a

def texts (ts : List String) : Datum := list (ts.map text)

def count (n : Nat) : Datum := integer n

end Datum

def TableRef.fields (t : TableRef) : List (String × Datum) :=
  [("name", .text t.name), ("alias", .ofOption .text t.aliasName), ("ordinal", .integer t.ordinal)]

def Order.fields (o : Order) : List (String × Datum) :=
  [("column", .text o.column), ("direction", .text o.direction.text)]

def Selection.encode : Selection → Datum
  | every => .null
  | only columns => .texts columns

/-- The fields of a saved query. -/
def Query.fields (q : Query) : List (String × Datum) :=
  [("tables", .list (q.tables.map fun t => .object t.fields)),
    ("columns", .object (q.columns.entries.map fun e => (e.1, e.2.encode))),
    ("joins", .list (q.joins.map fun j => .object j.fields)),
    ("conditions", .list (q.conditions.map fun c => .object c.fields)),
    ("order_by", .list (q.orderBy.map fun o => .object o.fields)),
    ("group_by", .texts q.groupBy),
    ("limit", .ofOption .count q.limit),
    ("offset", .ofOption .count q.offset)]

/-- A query as it is saved. -/
def Query.encode (q : Query) : Datum := .object q.fields

end QueryDesigner

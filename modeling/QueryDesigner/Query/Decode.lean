import QueryDesigner.Query.State
import QueryDesigner.Validation.Decoder

/-!
# Queries from saved data

* `TableRef.decode`, `Join.decode`, `Condition.decode`, `Order.decode` — the parts of a query;
* `Query.decode` — a saved query;
* `Join.fields`, `Condition.fields` — a part as data, in which single fields can be replaced.
-/

namespace QueryDesigner

open Validation

/-! ## Words -/

def JoinType.decode : Decoder JoinType :=
  Decoder.oneOf (JoinType.all.map fun t => (t.text, t))

def Connector.decode : Decoder Connector :=
  Decoder.oneOf (Connector.all.map fun c => (c.text, c))

def Direction.decode : Decoder Direction :=
  Decoder.oneOf (Direction.all.map fun d => (d.text, d))

def Operator.decode : Decoder Operator :=
  Decoder.oneOf (Operator.all.map fun o => (o.text, o))

/-! ## Parts -/

def TableRef.decode : Decoder TableRef :=
  Decoder.record "TableRef" fun fields =>
    let name := required fields "name" Decoder.text
    let aliasName := defaulted fields "alias" none (Decoder.optional Decoder.text)
    let ordinal := defaulted fields "ordinal" 0 Decoder.integer
    .both (.both (name.map TableRef.mk) aliasName) ordinal

def Join.decode : Decoder Join :=
  Decoder.record "JoinSpec" fun fields =>
    let type := defaulted fields "type" .inner fun d => JoinType.decode (Decoder.keyword d)
    let leftTable := required fields "left_table" Decoder.text
    let leftColumn := defaulted fields "left_column" "" Decoder.text
    let rightTable := required fields "right_table" Decoder.text
    let rightColumn := defaulted fields "right_column" "" Decoder.text
    .both (.both (.both (.both (type.map Join.mk) leftTable) leftColumn) rightTable) rightColumn

/-- The text of a condition's value: nulls are empty, truth values are one and zero, and numbers
are written out. -/
def Condition.decodeValue : Decoder String
  | .null => .ok ""
  | .bool b => .ok (if b then "1" else "0")
  | .integer n => .ok (toString n)
  | .float x => .ok (Decimal.text x)
  | d => Decoder.text d

def Condition.decode : Decoder Condition :=
  Decoder.record "ConditionSpec" fun fields =>
    let column := defaulted fields "column" "" Decoder.text
    let operator := defaulted fields "operator" .eq fun d => Operator.decode (Decoder.keyword d)
    let value := defaulted fields "value" "" decodeValue
    let connector := defaulted fields "connector" .and fun d => Connector.decode (Decoder.keyword d)
    .both (.both (.both (column.map Condition.mk) operator) value) connector

def Order.decode : Decoder Order :=
  Decoder.record "OrderSpec" fun fields =>
    let column := defaulted fields "column" "" Decoder.text
    let direction := defaulted fields "direction" .ascending fun d =>
      Direction.decode (Decoder.keyword d)
    .both (column.map Order.mk) direction

/-! ## Queries -/

/-- A selection: null selects every column. -/
def Selection.decode : Decoder Selection
  | .null => .ok .every
  | d => (Decoder.list Decoder.text d).map .only

def Query.decode : Decoder Query :=
  Decoder.record "QueryModel" fun fields =>
    let tables := defaulted fields "tables" [] (Decoder.list TableRef.decode)
    let columns := defaulted fields "columns" {} fun d =>
      (Decoder.dictionary Selection.decode d).map Selections.ofList
    let joins := defaulted fields "joins" [] (Decoder.list Join.decode)
    let conditions := defaulted fields "conditions" [] (Decoder.list Condition.decode)
    let orderBy := defaulted fields "order_by" [] (Decoder.list Order.decode)
    let groupBy := defaulted fields "group_by" [] (Decoder.list Decoder.text)
    let limit := defaulted fields "limit" none (Decoder.optional Decoder.natural)
    let offset := defaulted fields "offset" none (Decoder.optional Decoder.natural)
    .both (.both (.both (.both (.both (.both (.both (tables.map Query.mk) columns) joins)
      conditions) orderBy) groupBy) limit) offset

/-! ## Parts as data -/

def Join.fields (j : Join) : List (String × Datum) :=
  [("type", .text j.type.text), ("left_table", .text j.leftTable),
    ("left_column", .text j.leftColumn), ("right_table", .text j.rightTable),
    ("right_column", .text j.rightColumn)]

def Condition.fields (c : Condition) : List (String × Datum) :=
  [("column", .text c.column), ("operator", .text c.operator.text), ("value", .text c.value),
    ("connector", .text c.connector.text)]

/-- The fields with the values of `changes` in place of their own. -/
def overrideFields (fields changes : List (String × Datum)) : List (String × Datum) :=
  fields.map fun f => (f.1, (changes.lookup f.1).getD f.2)

end QueryDesigner

import QueryDesigner.Query.Decode

/-!
# Actions

What a user does to a query, one step at a time, as data that can be stored and sent.

* `Action` — the twenty-one kinds of step;
* `Action.tag` — the name of a kind;
* `Action.decode` — an action from plain data, whose `action` field names the kind;
* `Timeline.decode` — a list of actions.
-/

namespace QueryDesigner

open Validation

/-- A step of a user. -/
inductive Action where
  | addTable (name : String) (forced : Bool)
  | removeTable (key : String)
  | setAlias (key : String) (aliasName : Option String)
  | toggleColumn (key column : String)
  | setColumns (key : String) (columns : Option (List String))
  | selectAll
  | selectNone
  | addJoin (join : Join)
  | updateJoin (index : Int) (changes : List (String × Datum))
  | removeJoin (index : Int)
  | addCondition (condition : Condition)
  | updateCondition (index : Int) (changes : List (String × Datum))
  | removeCondition (index : Int)
  | addOrder (column : String) (direction : Direction)
  | removeOrder (column : String)
  | toggleDirection (column : String)
  | addGroup (column : String)
  | removeGroup (column : String)
  | setLimit (count : Option Int)
  | setOffset (count : Option Int)
  | clear

namespace Action

/-- The name of the kind of an action. -/
def tag : Action → String
  | addTable .. => "add_table"
  | removeTable .. => "remove_table"
  | setAlias .. => "set_alias"
  | toggleColumn .. => "toggle_column"
  | setColumns .. => "set_columns"
  | selectAll => "select_all"
  | selectNone => "select_none"
  | addJoin .. => "add_join"
  | updateJoin .. => "update_join"
  | removeJoin .. => "remove_join"
  | addCondition .. => "add_condition"
  | updateCondition .. => "update_condition"
  | removeCondition .. => "remove_condition"
  | addOrder .. => "add_order"
  | removeOrder .. => "remove_order"
  | toggleDirection .. => "toggle_direction"
  | addGroup .. => "add_group"
  | removeGroup .. => "remove_group"
  | setLimit .. => "set_limit"
  | setOffset .. => "set_offset"
  | clear => "clear"

/-! ## From data -/

/-- A reader of the fields of one kind of action. -/
abbrev FieldReader := List (String × Datum) → Decoded Action

def keyReader (make : String → Action) : FieldReader := fun fields =>
  (required fields "key" Decoder.text).map make

def columnReader (make : String → Action) : FieldReader := fun fields =>
  (required fields "column" Decoder.text).map make

def indexReader (make : Int → Action) : FieldReader := fun fields =>
  (required fields "index" Decoder.integer).map make

def changesReader (make : Int → List (String × Datum) → Action) : FieldReader := fun fields =>
  .both ((required fields "index" Decoder.integer).map make)
    (defaulted fields "changes" [] (Decoder.dictionary .ok))

def countReader (make : Option Int → Action) : FieldReader := fun fields =>
  (defaulted fields "value" none (Decoder.optional Decoder.integer)).map make

/-- A direction as an action gives it: in capitals. -/
def plainDirection : Decoder Direction := Direction.decode

/-- The kinds of action with the readers of their fields. -/
def kinds : List (String × FieldReader) :=
  [("add_table", fun fields =>
      .both ((required fields "name" Decoder.text).map addTable)
        (defaulted fields "force_self_join" false Decoder.boolean)),
    ("remove_table", keyReader removeTable),
    ("set_alias", fun fields =>
      .both ((required fields "key" Decoder.text).map setAlias)
        (defaulted fields "alias" none (Decoder.optional Decoder.text))),
    ("toggle_column", fun fields =>
      .both ((required fields "key" Decoder.text).map toggleColumn)
        (required fields "column" Decoder.text)),
    ("set_columns", fun fields =>
      .both ((required fields "key" Decoder.text).map setColumns)
        (defaulted fields "columns" none (Decoder.optional (Decoder.list Decoder.text)))),
    ("select_all", fun _ => .ok selectAll),
    ("select_none", fun _ => .ok selectNone),
    ("add_join", fun fields => (required fields "join" Join.decode).map addJoin),
    ("update_join", changesReader updateJoin),
    ("remove_join", indexReader removeJoin),
    ("add_condition", fun fields =>
      (defaulted fields "condition" {} Condition.decode).map addCondition),
    ("update_condition", changesReader updateCondition),
    ("remove_condition", indexReader removeCondition),
    ("add_order", fun fields =>
      .both ((required fields "column" Decoder.text).map addOrder)
        (defaulted fields "direction" .ascending plainDirection)),
    ("remove_order", columnReader removeOrder),
    ("toggle_direction", columnReader toggleDirection),
    ("add_group", columnReader addGroup),
    ("remove_group", columnReader removeGroup),
    ("set_limit", countReader setLimit),
    ("set_offset", countReader setOffset),
    ("clear", fun _ => .ok clear)]

/-- The reader of a named kind, if the name is a text and there is such a kind. -/
def reader? : Datum → Option FieldReader
  | .text name => kinds.lookup name
  | _ => none

def decode : Decoder Action
  | .object fields =>
    match fields.lookup tagField with
    | none => Decoded.fail .noTag
    | some kind =>
      match reader? kind with
      | some read => Decoded.under (.field kind.label) (read fields)
      | none => Decoded.fail (.unknownTag kind.label (kinds.map Prod.fst))
  | _ => Decoded.fail .notTagged

end Action

namespace Timeline

/-- A list of actions; every issue of every action is reported. -/
def decode : Decoder (List Action) := Decoder.list Action.decode

/-- A list of actions of which the first that is not well formed is reported, as if it were the
only one. -/
def decodeEach : List Datum → Decoded (List Action)
  | [] => .ok []
  | d :: rest => do
    let action ← Decoded.under (.index 0) (Action.decode d)
    let actions ← decodeEach rest
    return action :: actions

end Timeline

end QueryDesigner

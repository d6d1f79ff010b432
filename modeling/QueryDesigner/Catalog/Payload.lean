import QueryDesigner.Catalog.Basic
import QueryDesigner.Validation.Decoder

/-!
# Catalogs from schema payloads

A payload is a schema object, bare or in a `data` envelope.  Rows of its `relationships` supply
foreign keys for columns that declare none.

* `Catalog.decode` — the catalog that a schema object declares;
* `Catalog.link` — one relationship added to a catalog;
* `Catalog.PayloadError` — what is wrong with a payload;
* `Catalog.ofPayload`, `Catalog.ofPayload?` — the catalog of a payload.
-/

namespace QueryDesigner
namespace Catalog

open Validation

/-! ## Declared tables -/

/-- A foreign key may be given as a relationship row, with `to_table` and `to_column`. -/
def rowAsReference (fields : List (String × Datum)) : List (String × Datum) :=
  if (fields.lookup "table").isNone then
    match fields.lookup "to_table" with
    | some table => [("table", table), ("column", (fields.lookup "to_column").getD .null)]
    | none => fields
  else fields

def decodeReference (fields : List (String × Datum)) : Decoded ForeignKey :=
  .both ((required fields "table" Decoder.text).map ForeignKey.mk)
    (required fields "column" Decoder.text)

def ForeignKey.decode : Decoder ForeignKey :=
  Decoder.record "ForeignKeyRef" fun fields => decodeReference (rowAsReference fields)

/-- Words for "nullable" in any letter case; other data is decoded as a truth value. -/
def decodeNullable : Decoder Bool
  | .text s => .ok (["YES", "TRUE", "1"].contains (Text.upper (Text.trim s)))
  | d => Decoder.boolean d

/-- A kind of key in capitals; a blank one counts as none. -/
def decodeKeyType : Decoder (Option String)
  | .text s =>
    let kind := Text.upper (Text.trim s)
    .ok (if kind = "" then none else some kind)
  | d => Decoder.optional Decoder.text d

def Column.decode : Decoder Column :=
  Decoder.record "ColumnInfo" fun fields =>
    let name := required fields "name" Decoder.text
    let dataType := defaulted fields "data_type" "" Decoder.text
    let nullable := defaulted fields "nullable" true decodeNullable
    let keyType := defaulted fields "key_type" none decodeKeyType
    let foreignKey := defaulted fields "foreign_key" none (Decoder.optional ForeignKey.decode)
    .both (.both (.both (.both (name.map Column.mk) dataType) nullable) keyType) foreignKey

def Table.decode : Decoder Table :=
  Decoder.record "TableInfo" fun fields =>
    let name := required fields "name" Decoder.text
    let columns := defaulted fields "columns" [] (Decoder.list Column.decode)
    let primaryKey := defaulted fields "primary_key" [] (Decoder.list Decoder.text)
    .both (.both (name.map Table.mk) columns) primaryKey

/-- The catalog that a schema object declares. -/
def decode : Decoder Catalog :=
  Decoder.record "SchemaCatalog" fun fields =>
    let database := defaulted fields "database" none (Decoder.optional Decoder.text)
    let tables := defaulted fields "tables" [] (Decoder.list Table.decode)
    .both (database.map Catalog.mk) tables

/-! ## Relationships -/

/-- Changes the first item that satisfies a test. -/
def modifyFirst (p : α → Bool) (f : α → α) : List α → List α
  | [] => []
  | x :: rest => if p x then f x :: rest else x :: modifyFirst p f rest

/-- The catalog in which the named column of the named table refers to `target`. -/
def link (c : Catalog) (table column : String) (target : ForeignKey) : Catalog :=
  { c with
    tables := modifyFirst (fun t => Text.sameLetters t.name table)
      (fun t => { t with
        columns := modifyFirst (fun k => Text.sameLetters k.name column)
          (fun k => { k with foreignKey := some target }) t.columns })
      c.tables }

/-- What is wrong with a payload. -/
inductive PayloadError where
  /-- The declared tables or a foreign key do not have the expected shape. -/
  | invalid (issues : List Issue)
  /-- A value of some type stands where one with fields or letters is looked into. -/
  | lacks (type ability : String)
  /-- A single value of some type stands where several are looked through. -/
  | notSeveral (type : String)
  deriving DecidableEq, Repr

/-- The wording of what is wrong with a payload. -/
def PayloadError.message : PayloadError → String
  | invalid issues => countText issues
  | lacks type ability => "'" ++ type ++ "' object has no attribute '" ++ ability ++ "'"
  | notSeveral type => "'" ++ type ++ "' object is not iterable"

/-- A value that has no fields. -/
def lacksFields (d : Datum) : PayloadError := .lacks d.typeName "get"

/-- The text of a name in a row. -/
def rowName : Datum → Except PayloadError String
  | .text s => .ok s
  | d => .error (.lacks d.typeName "lower")

/-- The table that a row starts from.  Values that count as absent name no table. -/
def rowTable? (c : Catalog) (fields : List (String × Datum)) : Except PayloadError (Option Table) :=
  let name := (fields.lookup "from_table").getD (.text "")
  if name.isPresent then (rowName name).map c.findTable? else .ok none

/-- One relationship row added: it supplies the foreign key of a column that has none yet. -/
def addRow (c : Catalog) : Datum → Except PayloadError Catalog
  | .object fields => do
    match ← rowTable? c fields with
    | none => .ok c
    | some table =>
      let name ← rowName ((fields.lookup "from_column").getD (.text ""))
      let target := (fields.lookup "to_table").getD .null
      match table.findColumn? name with
      | none => .ok c
      | some column =>
        if column.foreignKey.isNone && target.isPresent then
          let reference := [("table", target),
            ("column", (fields.lookup "to_column").getD (.text ""))]
          match decodeReference reference with
          | .ok key => .ok (c.link table.name column.name key)
          | .error issues => .error (.invalid issues)
        else .ok c
  | d => .error (lacksFields d)

/-- The rows of a payload: a single value has none to offer. -/
def rows (relationships : Datum) : Except PayloadError (List Datum) :=
  if relationships.isPresent then
    match relationships with
    | .list items => .ok items
    | .object fields => .ok (fields.map fun field => .text field.1)
    | .text s => .ok (s.toList.map fun ch => .text (String.ofList [ch]))
    | d => .error (.notSeveral d.typeName)
  else .ok []

/-! ## Payloads -/

/-- The schema object of a payload, taken out of its envelope. -/
def schemaFields (fields : List (String × Datum)) : List (String × Datum) :=
  if (fields.lookup "tables").isNone then
    match fields.lookup "data" with
    | some (.object inner) => inner
    | _ => fields
  else fields

/-- The catalog of a schema object together with its relationships. -/
def ofFields (fields : List (String × Datum)) : Except PayloadError Catalog := do
  let declared ←
    match decode (.object fields) with
    | .ok c => .ok c
    | .error issues => .error (.invalid issues)
  (← rows ((fields.lookup "relationships").getD .null)).foldlM addRow declared

/-- Whether `part` stands somewhere in a list of characters. -/
def hasPart (part : List Char) : List Char → Bool
  | [] => part.isEmpty
  | c :: rest => part.isPrefixOf (c :: rest) || hasPart part rest

/-- The catalog of a payload. -/
def ofPayload : Datum → Except PayloadError Catalog
  | .object fields => ofFields (schemaFields fields)
  | .list items =>
    if items.any (fun | .text s => s == "tables" | _ => false) then
      .error (.invalid [Issue.here (.notRecord "SchemaCatalog")])
    else .error (lacksFields (.list items))
  | .text s =>
    if hasPart "tables".toList s.toList then
      .error (.invalid [Issue.here (.notRecord "SchemaCatalog")])
    else .error (lacksFields (.text s))
  | d => .error (.notSeveral d.typeName)

/-- The catalog of a payload; a payload that counts as absent gives none. -/
def ofPayload? (payload : Datum) : Except PayloadError (Option Catalog) :=
  if payload.isPresent then (ofPayload payload).map some else .ok none

end Catalog
end QueryDesigner

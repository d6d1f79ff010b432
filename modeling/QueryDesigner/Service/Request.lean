import QueryDesigner.Validation.Decoder

/-!
# Requests to the service

* `Fields` — an object as it came in;
* `CompileRequest`, `DecompileRequest`, `SuggestRequest`, `ReplayRequest`, `FormatRequest` — what
  the service is asked, each with its decoder.
-/

namespace QueryDesigner
namespace Service

open Validation

/-- An object as it came in. -/
abbrev Fields := List (String × Datum)

def Fields.decode : Decoder Fields := Decoder.dictionary .ok

/-- The fields with the schema under its proper name: it may also be called `schema_`. -/
def withSchemaName (fields : Fields) : Fields :=
  if (fields.lookup "schema").isSome then fields
  else
    match fields.lookup "schema_" with
    | some schema => ("schema", schema) :: fields
    | none => fields

/-- The schema of a request that may lack one. -/
def schemaField (fields : Fields) : Decoded (Option Fields) :=
  defaulted (withSchemaName fields) "schema" none (Decoder.optional Fields.decode)

/-- The state of a request; without one the query is empty. -/
def stateField (fields : Fields) : Decoded Fields := defaulted fields "state" [] Fields.decode

structure CompileRequest where
  state : Fields
  schema : Option Fields

def CompileRequest.decode : Decoder CompileRequest :=
  Decoder.record "CompileRequest" fun fields =>
    .both ((stateField fields).map CompileRequest.mk) (schemaField fields)

structure DecompileRequest where
  sql : String
  schema : Option Fields

def DecompileRequest.decode : Decoder DecompileRequest :=
  Decoder.record "DecompileRequest" fun fields =>
    .both ((required fields "sql" Decoder.text).map DecompileRequest.mk) (schemaField fields)

structure SuggestRequest where
  state : Fields
  schema : Fields

def SuggestRequest.decode : Decoder SuggestRequest :=
  Decoder.record "SuggestJoinsRequest" fun fields =>
    .both ((stateField fields).map SuggestRequest.mk)
      (required (withSchemaName fields) "schema" Fields.decode)

structure ReplayRequest where
  actions : List Fields
  state : Option Fields
  schema : Option Fields
  stopOnError : Bool

def ReplayRequest.decode : Decoder ReplayRequest :=
  Decoder.record "ReplayRequest" fun fields =>
    let actions := required fields "actions" (Decoder.list Fields.decode)
    let state := defaulted fields "state" none (Decoder.optional Fields.decode)
    let stopOnError := defaulted fields "stop_on_error" true Decoder.boolean
    .both (.both (.both (actions.map ReplayRequest.mk) state) (schemaField fields)) stopOnError

structure FormatRequest where
  sql : String

def FormatRequest.decode : Decoder FormatRequest :=
  Decoder.record "FormatRequest" fun fields =>
    (required fields "sql" Decoder.text).map FormatRequest.mk

end Service
end QueryDesigner

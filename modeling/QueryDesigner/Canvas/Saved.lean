import QueryDesigner.Canvas.Basic
import QueryDesigner.Catalog.Payload
import QueryDesigner.Query.Decode

/-!
# Canvases from saved data

* `Obstacle` — why no answer can be given, whatever was asked, with its wording;
* `catalogOf` — the catalog of a schema payload, if there is one;
* `Canvas.ofSaved` — the canvas of a saved query.
-/

namespace QueryDesigner

/-- Why no answer can be given. -/
inductive Obstacle where
  /-- The schema is no catalog. -/
  | schema (error : Catalog.PayloadError)
  /-- Data do not have the expected shape. -/
  | data (issues : List Validation.Issue)
  /-- An edit failed. -/
  | edit (failure : Failure)
  deriving DecidableEq, Repr

/-- The wording of a failed edit. -/
def Failure.message : Failure → String
  | rejected rejection => rejection.message
  | malformed issues => Validation.countText issues
  | reservedName edit name =>
    "QueryModel." ++ edit ++ "() got multiple values for argument '" ++ name ++ "'"
  | infiniteCount => "cannot convert float infinity to integer"

def Obstacle.message : Obstacle → String
  | schema error => error.message
  | data issues => Validation.countText issues
  | edit failure => failure.message

/-- The catalog of a schema payload, if there is one. -/
def catalogOf (schema : Datum) : Except Obstacle (Option Catalog) :=
  (Catalog.ofPayload? schema).mapError .schema

/-- The canvas of a saved query. -/
def Canvas.ofSaved (state : Datum) (catalog : Option Catalog) : Except Obstacle Canvas :=
  ((Query.decode state).mapError .data).map fun query => .ofQuery query catalog

end QueryDesigner

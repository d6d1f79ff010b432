import QueryDesigner.Canvas.Saved
import QueryDesigner.Decompile.Statement
import QueryDesigner.Layout.Format
import QueryDesigner.Query.Encode
import QueryDesigner.Service.Request
import QueryDesigner.Settings
import QueryDesigner.Suggestion
import QueryDesigner.Timeline.Replay

/-!
# Answers of the service

* `Service.compile`, `Service.decompile`, `Service.suggest`, `Service.replay` — the answer to a
  request, or one line that says why there is none;
* `Service.Replayed` — what the answer to a replay shows of the report;
* `Service.format` — a statement laid out, with its preview.
-/

namespace QueryDesigner
namespace Service

/-- An answer, or one line that says why there is none. -/
abbrev Answer (α : Type) := Except String α

/-- The text before its first line break. -/
def firstLine (s : String) : String := String.ofList (s.toList.takeWhile (· != '\n'))

/-- An answer whose obstacles are worded after a heading. -/
def Answer.ofOutcome (heading : String) (outcome : Except Obstacle α) : Answer α :=
  outcome.mapError fun obstacle => firstLine (heading ++ obstacle.message)

/-- The catalog of the schema of a request. -/
def catalogOf (schema : Option Fields) : Except Obstacle (Option Catalog) :=
  match schema with
  | some fields => QueryDesigner.catalogOf (.object fields)
  | none => .ok none

/-- The canvas of the state and the schema of a request. -/
def canvasOf (state : Fields) (schema : Option Fields) : Except Obstacle Canvas := do
  Canvas.ofSaved (.object state) (← catalogOf schema)

/-- The statement of a saved query. -/
def compile (r : CompileRequest) : Answer String :=
  .ofOutcome "Failed to compile query: " do
    return (← canvasOf r.state r.schema).query.compile

/-- The query that a statement holds. -/
def decompile (r : DecompileRequest) : Answer Decompiled :=
  .ofOutcome "Failed to parse SQL: " do
    (QueryDesigner.decompile r.sql (← catalogOf r.schema)).mapError .edit

/-- The joins to suggest for a saved query.  Without a catalog there are none. -/
def suggest (r : SuggestRequest) : Answer (List Join) :=
  .ofOutcome "" do
    let canvas ← canvasOf r.state (some r.schema)
    return (canvas.catalog.map fun catalog => suggestJoins catalog canvas.query).getD []

/-- The canvas on which a timeline is replayed: that of the state, unless the state is empty. -/
def replayCanvas (r : ReplayRequest) : Except Obstacle Canvas :=
  match r.state with
  | some (field :: fields) => canvasOf (field :: fields) r.schema
  | _ => (catalogOf r.schema).map fun catalog => { catalog }

/-- A timeline replayed: the state that it leads to, as it is saved, with its statement, and what was
turned down.  It is a success if nothing was. -/
structure Replayed where
  success : Bool
  state : Fields
  sql : String
  applied : Nat
  refused : List Timeline.Refused

def Replayed.ofReport (r : Timeline.Report) : Replayed :=
  ⟨r.refused.isEmpty, r.canvas.query.fields, r.canvas.query.compile, r.applied, r.refused⟩

/-- What becomes of a timeline. -/
def replay (r : ReplayRequest) : Answer Replayed :=
  .ofOutcome "Failed to replay actions: " do
    let canvas ← replayCanvas r
    let actions ← (Timeline.decodeEach (r.actions.map Datum.object)).mapError Obstacle.data
    let report ← (Timeline.replay r.stopOnError canvas actions).mapError Obstacle.edit
    return .ofReport report

/-- A statement laid out, with its preview on one line. -/
structure Formatted where
  sql : String
  preview : String
  deriving DecidableEq, Repr

/-- A statement laid out.  There is no answer where the layout itself has none. -/
def format (settings : Settings) (r : FormatRequest) : Option Formatted :=
  (Layout.format? r.sql).map fun sql => ⟨sql, Layout.preview settings.previewLength r.sql⟩

end Service
end QueryDesigner

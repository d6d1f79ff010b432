import QueryDesigner.Canvas.Columns
import QueryDesigner.Canvas.Ordering
import QueryDesigner.Canvas.Predicates
import QueryDesigner.Timeline.Action

/-!
# Replaying a timeline

* `Action.apply` — the edit that an action asks for;
* `Timeline.Report` — what became of a timeline: the canvas, and which actions were turned down;
* `Timeline.replay` — a list of actions applied in order.

An action that is turned down is noted and leaves the canvas as it is.  Replay then stops or goes
on, as asked.
-/

namespace QueryDesigner

/-- The edit that an action asks for. -/
def Action.apply : Action → Edit Unit
  | addTable name forced => discard (Edit.addTable name forced)
  | removeTable key => Edit.removeTable key
  | setAlias key aliasName => discard (Edit.setAlias key aliasName)
  | toggleColumn key column => discard (Edit.toggleColumn key column)
  | setColumns key columns => Edit.setColumns key columns
  | selectAll => Edit.selectAll
  | selectNone => Edit.selectNone
  | addJoin join => discard (Edit.addJoin join)
  | updateJoin index changes => discard (Edit.updateJoin index changes)
  | removeJoin index => discard (Edit.removeJoin index)
  | addCondition condition => discard (Edit.addCondition condition)
  | updateCondition index changes => discard (Edit.updateCondition index changes)
  | removeCondition index => discard (Edit.removeCondition index)
  | addOrder column direction => discard (Edit.addOrder column direction)
  | removeOrder column => Edit.removeOrder column
  | toggleDirection column => discard (Edit.toggleDirection column)
  | addGroup column => Edit.addGroup column
  | removeGroup column => Edit.removeGroup column
  | setLimit count => Edit.setLimit count
  | setOffset count => Edit.setOffset count
  | clear => Edit.clear

namespace Timeline

/-- An action that was turned down, by its place in the timeline. -/
structure Refused where
  index : Nat
  action : String
  cause : Rejection
  deriving DecidableEq, Repr

/-- What became of a timeline. -/
structure Report where
  canvas : Canvas
  applied : Nat := 0
  refused : List Refused := []
  deriving DecidableEq, Repr

/-- The report after the action at a place was applied. -/
def Report.noteApplied (r : Report) (canvas : Canvas) : Report :=
  { r with canvas, applied := r.applied + 1 }

/-- The report after the action at a place was turned down. -/
def Report.noteRefused (r : Report) (canvas : Canvas) (refused : Refused) : Report :=
  { r with canvas, refused := r.refused ++ [refused] }

/-- Applies actions in order, the first of them standing at `index` in the timeline. -/
def replayFrom (stopOnError : Bool) (index : Nat) (report : Report) :
    List Action → Except Failure Report
  | [] => .ok report
  | action :: rest =>
    match action.apply.run report.canvas with
    | .ok _ canvas => replayFrom stopOnError (index + 1) (report.noteApplied canvas) rest
    | .error (.rejected cause) canvas =>
      let report := report.noteRefused canvas ⟨index, action.tag, cause⟩
      if stopOnError then .ok report else replayFrom stopOnError (index + 1) report rest
    | .error failure _ => .error failure

/-- Applies a timeline to a canvas. -/
def replay (stopOnError : Bool) (canvas : Canvas) (actions : List Action) : Except Failure Report :=
  replayFrom stopOnError 0 { canvas } actions

/-- The canvas that a timeline starts on: a given one, against the given catalog if there is one, or
an empty one. -/
def start (catalog : Option Catalog) : Option Canvas → Canvas
  | none => { catalog }
  | some canvas =>
    match catalog with
    | some catalog => { canvas with catalog := some catalog }
    | none => canvas

end Timeline

end QueryDesigner

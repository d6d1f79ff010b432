import QueryDesigner.Canvas.Basic
import QueryDesigner.Query.Decode

/-!
# Editing joins and conditions

* `Edit.addJoin`, `Edit.updateJoin`, `Edit.removeJoin` — the joins, whose ends are tables of the
  query;
* `Edit.addCondition`, `Edit.updateCondition`, `Edit.removeCondition` — the conditions;
* `Edit.revised` — a part in which some fields are replaced, checked like a part that is read.
-/

namespace QueryDesigner
namespace Edit

open Validation

/-- The names that a change may not have, since the edit's own arguments are named so. -/
def reservedNames : List String := ["self", "index"]

/-- The names of a list that are not among the known ones, each once, in order. -/
def unknownNames (known names : List String) : List String :=
  (dedup (names.filter fun n => !known.contains n)).mergeSort

/-- The first fault of a part that is not well formed. -/
def firstFault : List Issue → String
  | [] => ""
  | issue :: _ => issue.fault.message

/-- A part with some of its fields replaced. -/
def revised (part : String) (decode : Decoder α) (fields changes : List (String × Datum)) :
    Edit α := do
  let unknown := unknownNames (fields.map Prod.fst) (changes.map Prod.fst)
  if unknown ≠ [] then reject (.badChange (.unknownFields unknown))
  match decode (.object (overrideFields fields changes)) with
  | .ok value => pure value
  | .error issues => reject (.badChange (.badUpdate part (firstFault issues)))

/-- Refuses changes with a reserved name. -/
def refuseReserved (edit : String) (changes : List (String × Datum)) : Edit Unit :=
  match changes.find? fun change => reservedNames.contains change.1 with
  | some change => throw (.reservedName edit change.1)
  | none => pure ()

/-! ## Joins -/

/-- Both ends of a join have to be tables of the query. -/
def requireEnds (join : Join) : Edit Unit := do
  let _ ← requireTable join.leftTable
  let _ ← requireTable join.rightTable

def addJoin (join : Join) : Edit Join := do
  requireEnds join
  modifyQuery fun q => { q with joins := q.joins ++ [join] }
  pure join

/-- Replaces some fields of a join. -/
def updateJoin (index : Int) (changes : List (String × Datum)) : Edit Join := do
  refuseReserved "update_join" changes
  let current ← itemAt "join" (← get).query.joins index
  let updated ← revised "JoinSpec" Join.decode current.fields changes
  requireEnds updated
  modifyQuery fun q => { q with joins := q.joins.set index.toNat updated }
  pure updated

def removeJoin (index : Int) : Edit Join := do
  let current ← itemAt "join" (← get).query.joins index
  modifyQuery fun q => { q with joins := q.joins.eraseIdx index.toNat }
  pure current

/-! ## Conditions -/

def addCondition (condition : Condition) : Edit Condition := do
  modifyQuery fun q => { q with conditions := q.conditions ++ [condition] }
  pure condition

/-- Replaces some fields of a condition. -/
def updateCondition (index : Int) (changes : List (String × Datum)) : Edit Condition := do
  refuseReserved "update_condition" changes
  let current ← itemAt "condition" (← get).query.conditions index
  let updated ← revised "ConditionSpec" Condition.decode current.fields changes
  modifyQuery fun q => { q with conditions := q.conditions.set index.toNat updated }
  pure updated

def removeCondition (index : Int) : Edit Condition := do
  let current ← itemAt "condition" (← get).query.conditions index
  modifyQuery fun q => { q with conditions := q.conditions.eraseIdx index.toNat }
  pure current

end Edit
end QueryDesigner

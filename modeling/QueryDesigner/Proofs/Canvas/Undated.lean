import QueryDesigner.Proofs.Canvas.Mutation
import QueryDesigner.Proofs.Query.Undated

/-!
# Edits do not look at ordinals

* `Canvas.undated` — a canvas with all ordinals, and the number of the next table, set to zero;
* `Edit.undatedEnd` — the end of an edit, seen without the ordinals of its canvas;
* `Edit.Blind` — an edit that ends the same way, up to ordinals, with and without them;
* `Mutation.blind` — every mutation is blind, and so is every action.
-/

namespace QueryDesigner

/-- The canvas with all ordinals, and the number of the next table, set to zero. -/
def Canvas.undated (c : Canvas) : Canvas := ⟨c.query.undated, c.catalog, 0⟩

namespace Canvas

variable {c d : Canvas}

@[simp] theorem query_undated (c : Canvas) : c.undated.query = c.query.undated := rfl

@[simp] theorem catalog_undated (c : Canvas) : c.undated.catalog = c.catalog := rfl

theorem undated_congr (hquery : c.query.undated = d.query.undated)
    (hcatalog : c.catalog = d.catalog) : c.undated = d.undated := by
  rw [undated, undated, hquery, hcatalog]

@[simp] theorem undated_undated (c : Canvas) : c.undated.undated = c.undated :=
  undated_congr (by simp) rfl

@[simp] theorem nameFor_undated (c : Canvas) (name : String) :
    c.undated.nameFor name = c.nameFor name := rfl

theorem incoming_undated (c : Canvas) (name : String) :
    c.undated.incoming name = (c.incoming name).undated := by
  simp only [incoming, query_undated, Query.usesName_undated, Query.selfJoinAlias_undated]
  rfl

@[simp] theorem columnsOf_undated (c : Canvas) (key : String) :
    c.undated.columnsOf key = c.columnsOf key := by
  simp only [columnsOf, resolvedColumns?, query_undated, Query.findTable?_undated]
  cases c.query.findTable? key <;> rfl

theorem undated_withTable (c : Canvas) (t : TableRef) :
    (c.undated.withTable t.undated).undated = (c.withTable t).undated := by
  refine undated_congr ?_ rfl
  rw [withTable, query_undated, ← Query.undated_withTable, Query.undated_undated]
  rfl

theorem undated_withSelection (c : Canvas) (key : String) (s : Selection) :
    (c.undated.withSelection key s).undated = (c.withSelection key s).undated :=
  undated_congr (Query.undated_undated (c.query.withSelection key s)) rfl

end Canvas

namespace Edit

variable {α : Type}

/-- The end of an edit, seen without the ordinals of its canvas. -/
def undatedEnd : EStateM.Result Failure Canvas α → EStateM.Result Failure Canvas α
  | .ok a c => .ok a c.undated
  | .error f c => .error f c.undated

@[simp] theorem undatedEnd_ok (a : α) (c : Canvas) :
    undatedEnd (.ok a c) = .ok a c.undated := rfl

@[simp] theorem undatedEnd_error (f : Failure) (c : Canvas) :
    undatedEnd (.error f c : EStateM.Result Failure Canvas α) = .error f c.undated := rfl

/-- Two ends on one query are the same if it has its ordinals in the one only. -/
theorem undatedEnd_query (a : α) (c : Canvas) (q : Query) :
    undatedEnd (.ok a { c.undated with query := q.undated }) =
      undatedEnd (.ok a { c with query := q }) :=
  congrArg (EStateM.Result.ok a) (Canvas.undated_congr q.undated_undated rfl)

/-- The edit ends the same way, up to ordinals, with and without them. -/
def Blind (e : Edit α) : Prop := ∀ c : Canvas, undatedEnd (e.run c.undated) = undatedEnd (e.run c)

theorem Blind.discard {e : Edit α} (h : e.Blind) : Blind (discard e) := by
  intro c
  have hc := h c
  simp only [run_discard]
  -- Two of the four cases contradict `hc`.
  cases hundated : e.run c.undated <;> cases hplain : e.run c <;> simp_all

theorem blind_modifyQuery {f : Query → Query} (h : ∀ q, (f q).undated = f q.undated) :
    (modifyQuery f).Blind := by
  intro c
  simp only [run_modifyQuery, Canvas.query_undated, ← h]
  exact undatedEnd_query () c _

/-! ## The tables -/

theorem blind_addTable (name : String) (forced : Bool) :
    (discard (addTable name forced)).Blind := by
  intro c
  simp only [run_discard, run_addTable, Canvas.nameFor_undated, Canvas.query_undated,
    Query.usesName_undated, Canvas.incoming_undated]
  split_ifs
  · simp
  · simp
  · simp [Canvas.undated_withTable]

theorem blind_removeTable (key : String) : (removeTable key).Blind := by
  intro c
  simp only [run_removeTable, Canvas.query_undated, Query.findTable?_undated,
    ← Query.undated_withoutTable]
  cases c.query.findTable? key with
  | none =>
      simp
  | some t =>
      exact undatedEnd_query () c _

theorem blind_setAlias (key : String) (aliasName : Option String) :
    (discard (setAlias key aliasName)).Blind := by
  intro c
  simp only [run_discard, run_setAlias, Canvas.query_undated, Query.findTable?_undated,
    Query.tableKeys_undated, ← Query.undated_withAlias, ← Query.undated_renamed]
  cases c.query.findTable? key with
  | none =>
      simp
  | some t =>
      simp only [Option.map_some, TableRef.name_undated]
      by_cases hsame : (requestedAlias aliasName).getD t.name = key
      · simp only [hsame, if_true]
        exact undatedEnd_query () c _
      · by_cases hused : (requestedAlias aliasName).getD t.name ∈ c.query.tableKeys
        · simp [hsame, hused]
        · simp only [hsame, hused, List.contains_eq_mem, decide_false, Bool.false_eq_true, if_false,
            undatedEnd_ok]
          exact undatedEnd_query () c _

theorem blind_reorderTables (keys : List String) : (reorderTables keys).Blind := by
  intro c
  simp only [run_reorderTables, Canvas.query_undated, Query.tableKeys_undated,
    ← Query.undated_inOrder]
  split_ifs
  · exact undatedEnd_query () c _
  · simp

/-! ## The selected columns -/

/-- The key of the table does not depend on its ordinal, whether the table is there or comes in. -/
theorem blind_tableForToggle (key : String) : (tableForToggle key).Blind := by
  intro c
  simp only [run_tableForToggle, Canvas.query_undated, Query.hasTable_undated,
    Canvas.catalog_undated, run_addTable, Canvas.nameFor_undated, Query.usesName_undated,
    Canvas.incoming_undated]
  split_ifs <;> simp [Canvas.undated_withTable]

theorem blind_toggleColumn (key column : String) : (toggleColumn key column).Blind := by
  intro c
  have hkey := blind_tableForToggle key c
  simp only [run_toggleColumn]
  -- The look-up of the table fails with and without ordinals, or it succeeds with and without.
  cases hundated : (tableForToggle key).run c.undated with
  | error f d =>
      cases hplain : (tableForToggle key).run c with
      | error f' d' =>
          simpa [hundated, hplain] using hkey
      | ok k d' =>
          simp [hundated, hplain] at hkey
  | ok k d =>
      cases hplain : (tableForToggle key).run c with
      | error f d' =>
          simp [hundated, hplain] at hkey
      | ok k' d' =>
          simp only [hundated, hplain, undatedEnd_ok, EStateM.Result.ok.injEq] at hkey
          rcases hkey with ⟨rfl, hsame⟩
          have hcolumns : d.columnsOf k = d'.columnsOf k := by
            rw [← d.columnsOf_undated, hsame, d'.columnsOf_undated]
          simp only [undatedEnd_ok, hcolumns, ← d.undated_withSelection, hsame,
            d'.undated_withSelection]

theorem blind_setColumns (key : String) (columns : Option (List String)) :
    (setColumns key columns).Blind := by
  intro c
  simp only [run_setColumns, Canvas.query_undated, Query.findTable?_undated]
  cases c.query.findTable? key with
  | none =>
      simp
  | some t =>
      exact congrArg (EStateM.Result.ok ()) (c.undated_withSelection key _)

/-! ## Joins and conditions -/

/-- Joins that are put in place once the ends of one of them have been looked up. -/
theorem undatedEnd_requireEnds (join : Join) (joins : List Join) (c : Canvas) :
    undatedEnd
        (match (requireEnds join).run c.undated with
        | .ok _ _ => .ok join { c.undated with query := { c.undated.query with joins } }
        | .error f _ => .error f c.undated) =
      undatedEnd
        (match (requireEnds join).run c with
        | .ok _ _ => .ok join { c with query := { c.query with joins } }
        | .error f _ => .error f c) := by
  simp only [run_requireEnds, Canvas.query_undated, Query.findTable?_undated]
  cases c.query.findTable? join.leftTable with
  | none =>
      simp
  | some left =>
      cases c.query.findTable? join.rightTable with
      | none =>
          simp
      | some right =>
          exact undatedEnd_query join c { c.query with joins }

theorem blind_addJoin (join : Join) : (addJoin join).Blind := by
  intro c
  rw [run_addJoin, run_addJoin]
  exact undatedEnd_requireEnds join (c.query.joins ++ [join]) c

theorem blind_updateJoin (index : Int) (changes : List (String × Datum)) :
    (updateJoin index changes).Blind := by
  intro c
  have hjoins : c.undated.query.joins = c.query.joins := rfl
  rw [run_updateJoin, run_updateJoin, hjoins]
  cases changes.find? fun change => reservedNames.contains change.1 with
  | some change =>
      simp
  | none =>
      cases itemAt? c.query.joins index with
      | none =>
          simp
      | some current =>
          dsimp only
          cases revision "JoinSpec" Join.decode current.fields changes with
          | error r =>
              simp
          | ok updated =>
              exact undatedEnd_requireEnds updated (c.query.joins.set index.toNat updated) c

theorem blind_removeJoin (index : Int) : (removeJoin index).Blind := by
  intro c
  have hjoins : c.undated.query.joins = c.query.joins := rfl
  rw [run_removeJoin, run_removeJoin, hjoins]
  cases itemAt? c.query.joins index with
  | none =>
      simp
  | some current =>
      exact undatedEnd_query current c { c.query with joins := c.query.joins.eraseIdx index.toNat }

theorem blind_addCondition (condition : Condition) : (addCondition condition).Blind := by
  intro c
  exact undatedEnd_query condition c
    { c.query with conditions := c.query.conditions ++ [condition] }

theorem blind_updateCondition (index : Int) (changes : List (String × Datum)) :
    (updateCondition index changes).Blind := by
  intro c
  have hconditions : c.undated.query.conditions = c.query.conditions := rfl
  rw [run_updateCondition, run_updateCondition, hconditions]
  cases changes.find? fun change => reservedNames.contains change.1 with
  | some change =>
      simp
  | none =>
      cases itemAt? c.query.conditions index with
      | none =>
          simp
      | some current =>
          dsimp only
          cases revision "ConditionSpec" Condition.decode current.fields changes with
          | error r =>
              simp
          | ok updated =>
              exact undatedEnd_query updated c
                { c.query with conditions := c.query.conditions.set index.toNat updated }

theorem blind_removeCondition (index : Int) : (removeCondition index).Blind := by
  intro c
  have hconditions : c.undated.query.conditions = c.query.conditions := rfl
  rw [run_removeCondition, run_removeCondition, hconditions]
  cases itemAt? c.query.conditions index with
  | none =>
      simp
  | some current =>
      exact undatedEnd_query current c
        { c.query with conditions := c.query.conditions.eraseIdx index.toNat }

/-! ## Order, groups and paging -/

theorem blind_addOrderWith (column : String) (direction : Validation.Decoded Direction) :
    (addOrderWith column direction).Blind := by
  intro c
  rw [run_addOrderWith, run_addOrderWith, Canvas.query_undated, Query.findOrder?_undated]
  cases c.query.findOrder? column with
  | some existing =>
      simp
  | none =>
      cases direction with
      | error issues =>
          simp
      | ok direction =>
          exact undatedEnd_query (⟨column, direction⟩ : Order) c
            { c.query with orderBy := c.query.orderBy ++ [⟨column, direction⟩] }

theorem blind_toggleDirection (column : String) : (toggleDirection column).Blind := by
  intro c
  rw [run_toggleDirection, run_toggleDirection, Canvas.query_undated, Query.findOrder?_undated]
  cases c.query.findOrder? column with
  | none =>
      simp
  | some order =>
      exact undatedEnd_query _ c (c.query.withFlippedOrder column)

theorem blind_addGroup (column : String) : (addGroup column).Blind := by
  refine blind_modifyQuery fun q => ?_
  have hgroups : q.undated.groupBy = q.groupBy := rfl
  rw [hgroups]
  split_ifs <;> rfl

theorem blind_setPagingFrom (paging : Paging) (value : Datum) :
    (setPagingFrom paging value).Blind := by
  intro c
  rw [run_setPagingFrom, run_setPagingFrom]
  cases readCount paging value with
  | error f =>
      simp
  | ok count =>
      simp only [run_setPaging]
      cases countOf paging count with
      | error r =>
          simp
      | ok count =>
          cases paging with
          | limit =>
              exact undatedEnd_query () c { c.query with limit := count }
          | offset =>
              exact undatedEnd_query () c { c.query with offset := count }

end Edit

/-! ## Every mutation -/

theorem Mutation.blind (m : Mutation) : m.edit.Blind := by
  cases m with
  | addTable name forced =>
      exact Edit.blind_addTable name forced
  | removeTable key =>
      exact Edit.blind_removeTable key
  | setAlias key aliasName =>
      exact Edit.blind_setAlias key aliasName
  | toggleColumn key column =>
      exact (Edit.blind_toggleColumn key column).discard
  | setColumns key columns =>
      exact Edit.blind_setColumns key columns
  | reorderTables keys =>
      exact Edit.blind_reorderTables keys
  | selectAll =>
      exact Edit.blind_modifyQuery fun q => q.undated_withEverySelection .every
  | selectNone =>
      exact Edit.blind_modifyQuery fun q => q.undated_withEverySelection (.only [])
  | addJoin join =>
      exact (Edit.blind_addJoin join).discard
  | updateJoin index changes =>
      exact (Edit.blind_updateJoin index changes).discard
  | removeJoin index =>
      exact (Edit.blind_removeJoin index).discard
  | addCondition condition =>
      exact (Edit.blind_addCondition condition).discard
  | updateCondition index changes =>
      exact (Edit.blind_updateCondition index changes).discard
  | removeCondition index =>
      exact (Edit.blind_removeCondition index).discard
  | addOrder column direction =>
      exact (Edit.blind_addOrderWith column direction).discard
  | removeOrder column =>
      exact Edit.blind_modifyQuery (f := fun q =>
        { q with orderBy := q.orderBy.filter fun o => o.column != column }) fun _ => rfl
  | toggleDirection column =>
      exact (Edit.blind_toggleDirection column).discard
  | addGroup column =>
      exact Edit.blind_addGroup column
  | removeGroup column =>
      exact Edit.blind_modifyQuery (f := fun q =>
        { q with groupBy := q.groupBy.filter fun g => g != column }) fun _ => rfl
  | setPaging paging value =>
      exact Edit.blind_setPagingFrom paging value
  | clear =>
      exact Edit.blind_modifyQuery (f := fun _ => {}) fun _ => rfl

theorem Action.blind_apply (a : Action) : a.apply.Blind := by
  rw [Action.apply_eq]
  exact a.mutation.blind

end QueryDesigner

import QueryDesigner.Proofs.Canvas.Outcome
import QueryDesigner.Timeline.Replay

/-!
# Mutations, and what a failed one leaves behind

* `Mutation` — a call of one of the twenty-two edits of a canvas, with its arguments;
* `Action.mutation` — the mutation that an action of a timeline asks for;
* `Edit.Atomic` — an edit that fails leaves the canvas exactly as it was;
* `Mutation.atomic` — every mutation is atomic, and so is every action.

The edits run in a monad whose state survives a failure, so atomicity is a fact about where their
exits stand and not one about the monad.
-/

namespace QueryDesigner

/-- A call of an edit.  The direction of a sort column and the counts of a page may have any shape;
they are checked by the edit itself. -/
inductive Mutation where
  | addTable (name : String) (forced : Bool)
  | removeTable (key : String)
  | setAlias (key : String) (aliasName : Option String)
  | toggleColumn (key column : String)
  | setColumns (key : String) (columns : Option (List String))
  | reorderTables (keys : List String)
  | selectAll
  | selectNone
  | addJoin (join : Join)
  | updateJoin (index : Int) (changes : List (String × Datum))
  | removeJoin (index : Int)
  | addCondition (condition : Condition)
  | updateCondition (index : Int) (changes : List (String × Datum))
  | removeCondition (index : Int)
  | addOrder (column : String) (direction : Validation.Decoded Direction)
  | removeOrder (column : String)
  | toggleDirection (column : String)
  | addGroup (column : String)
  | removeGroup (column : String)
  | setPaging (paging : Paging) (value : Datum)
  | clear

namespace Mutation

/-- The edit that is called. -/
def edit : Mutation → Edit Unit
  | addTable name forced => discard (Edit.addTable name forced)
  | removeTable key => Edit.removeTable key
  | setAlias key aliasName => discard (Edit.setAlias key aliasName)
  | toggleColumn key column => discard (Edit.toggleColumn key column)
  | setColumns key columns => Edit.setColumns key columns
  | reorderTables keys => Edit.reorderTables keys
  | selectAll => Edit.selectAll
  | selectNone => Edit.selectNone
  | addJoin join => discard (Edit.addJoin join)
  | updateJoin index changes => discard (Edit.updateJoin index changes)
  | removeJoin index => discard (Edit.removeJoin index)
  | addCondition condition => discard (Edit.addCondition condition)
  | updateCondition index changes => discard (Edit.updateCondition index changes)
  | removeCondition index => discard (Edit.removeCondition index)
  | addOrder column direction => discard (Edit.addOrderWith column direction)
  | removeOrder column => Edit.removeOrder column
  | toggleDirection column => discard (Edit.toggleDirection column)
  | addGroup column => Edit.addGroup column
  | removeGroup column => Edit.removeGroup column
  | setPaging paging value => Edit.setPagingFrom paging value
  | clear => Edit.clear

end Mutation

/-- A count as plain data. -/
def countDatum : Option Int → Datum
  | none => .null
  | some n => .integer n

theorem readCount_countDatum (paging : Paging) (count : Option Int) :
    readCount paging (countDatum count) = .ok count := by
  cases count <;> rfl

/-- The mutation that an action asks for. -/
def Action.mutation : Action → Mutation
  | addTable name forced => .addTable name forced
  | removeTable key => .removeTable key
  | setAlias key aliasName => .setAlias key aliasName
  | toggleColumn key column => .toggleColumn key column
  | setColumns key columns => .setColumns key columns
  | selectAll => .selectAll
  | selectNone => .selectNone
  | addJoin join => .addJoin join
  | updateJoin index changes => .updateJoin index changes
  | removeJoin index => .removeJoin index
  | addCondition condition => .addCondition condition
  | updateCondition index changes => .updateCondition index changes
  | removeCondition index => .removeCondition index
  | addOrder column direction => .addOrder column (.ok direction)
  | removeOrder column => .removeOrder column
  | toggleDirection column => .toggleDirection column
  | addGroup column => .addGroup column
  | removeGroup column => .removeGroup column
  | setLimit count => .setPaging .limit (countDatum count)
  | setOffset count => .setPaging .offset (countDatum count)
  | clear => .clear

theorem Action.apply_eq (a : Action) : a.apply = a.mutation.edit := by
  cases a with
  | setLimit count =>
      simp [apply, mutation, Mutation.edit, Edit.setPagingFrom, readCount_countDatum, Edit.setLimit]
  | setOffset count =>
      simp [apply, mutation, Mutation.edit, Edit.setPagingFrom, readCount_countDatum, Edit.setOffset]
  | _ =>
      rfl

/-! ## A failed edit leaves the canvas as it was -/

namespace Edit

/-- An edit that fails leaves the canvas as it was. -/
def Atomic {α : Type} (e : Edit α) : Prop :=
  ∀ ⦃c c' : Canvas⦄ ⦃f : Failure⦄, e.run c = .error f c' → c' = c

theorem Atomic.discard {α : Type} {e : Edit α} (h : e.Atomic) : Atomic (discard e) := by
  intro c c' f hrun
  rw [run_discard] at hrun
  cases he : e.run c with
  | ok a d =>
      simp [he] at hrun
  | error g d =>
      simp only [he, EStateM.Result.error.injEq] at hrun
      rcases hrun with ⟨rfl, rfl⟩
      exact h he

theorem atomic_addTable (name : String) (forced : Bool) : (addTable name forced).Atomic := by
  intro c c' f hrun
  rw [run_addTable] at hrun
  split_ifs at hrun <;> simp_all

theorem atomic_removeTable (key : String) : (removeTable key).Atomic := by
  intro c c' f hrun
  rw [run_removeTable] at hrun
  split at hrun <;> simp_all

theorem atomic_setAlias (key : String) (aliasName : Option String) :
    (setAlias key aliasName).Atomic := by
  intro c c' f hrun
  rw [run_setAlias] at hrun
  split at hrun
  · simp_all
  · dsimp only at hrun
    split_ifs at hrun
    simp_all

/-- The table that a toggle adds is the last thing of it that can fail. -/
theorem atomic_toggleColumn (key column : String) : (toggleColumn key column).Atomic := by
  intro c c' f hrun
  rw [run_toggleColumn, run_tableForToggle] at hrun
  split_ifs at hrun with hthere hknown
  · cases hadd : (addTable key false).run c with
    | ok table d =>
        simp [hadd] at hrun
    | error g d =>
        simp only [hadd, EStateM.Result.error.injEq] at hrun
        rcases hrun with ⟨rfl, rfl⟩
        exact atomic_addTable key false hadd
  · simp_all

theorem atomic_setColumns (key : String) (columns : Option (List String)) :
    (setColumns key columns).Atomic := by
  intro c c' f hrun
  rw [run_setColumns] at hrun
  split at hrun <;> simp_all

theorem atomic_reorderTables (keys : List String) : (reorderTables keys).Atomic := by
  intro c c' f hrun
  rw [run_reorderTables] at hrun
  split_ifs at hrun
  simp_all

theorem atomic_addJoin (join : Join) : (addJoin join).Atomic := by
  intro c c' f hrun
  rw [run_addJoin] at hrun
  split at hrun <;> simp_all

theorem atomic_updateJoin (index : Int) (changes : List (String × Datum)) :
    (updateJoin index changes).Atomic := by
  intro c c' f hrun
  rw [run_updateJoin] at hrun
  repeat' split at hrun
  all_goals simp_all

theorem atomic_removeJoin (index : Int) : (removeJoin index).Atomic := by
  intro c c' f hrun
  rw [run_removeJoin] at hrun
  split at hrun <;> simp_all

theorem atomic_updateCondition (index : Int) (changes : List (String × Datum)) :
    (updateCondition index changes).Atomic := by
  intro c c' f hrun
  rw [run_updateCondition] at hrun
  repeat' split at hrun
  all_goals simp_all

theorem atomic_removeCondition (index : Int) : (removeCondition index).Atomic := by
  intro c c' f hrun
  rw [run_removeCondition] at hrun
  split at hrun <;> simp_all

theorem atomic_addOrderWith (column : String) (direction : Validation.Decoded Direction) :
    (addOrderWith column direction).Atomic := by
  intro c c' f hrun
  rw [run_addOrderWith] at hrun
  repeat' split at hrun
  all_goals simp_all

theorem atomic_toggleDirection (column : String) : (toggleDirection column).Atomic := by
  intro c c' f hrun
  rw [run_toggleDirection] at hrun
  split at hrun <;> simp_all

theorem atomic_setPagingFrom (paging : Paging) (value : Datum) :
    (setPagingFrom paging value).Atomic := by
  intro c c' f hrun
  rw [run_setPagingFrom] at hrun
  split at hrun
  · rw [run_setPaging] at hrun
    split at hrun <;> simp_all
  · simp_all

end Edit

theorem Mutation.atomic (m : Mutation) : m.edit.Atomic := by
  cases m with
  | addTable name forced =>
      exact (Edit.atomic_addTable name forced).discard
  | removeTable key =>
      exact Edit.atomic_removeTable key
  | setAlias key aliasName =>
      exact (Edit.atomic_setAlias key aliasName).discard
  | toggleColumn key column =>
      exact (Edit.atomic_toggleColumn key column).discard
  | setColumns key columns =>
      exact Edit.atomic_setColumns key columns
  | reorderTables keys =>
      exact Edit.atomic_reorderTables keys
  | addJoin join =>
      exact (Edit.atomic_addJoin join).discard
  | updateJoin index changes =>
      exact (Edit.atomic_updateJoin index changes).discard
  | removeJoin index =>
      exact (Edit.atomic_removeJoin index).discard
  | updateCondition index changes =>
      exact (Edit.atomic_updateCondition index changes).discard
  | removeCondition index =>
      exact (Edit.atomic_removeCondition index).discard
  | addOrder column direction =>
      exact (Edit.atomic_addOrderWith column direction).discard
  | toggleDirection column =>
      exact (Edit.atomic_toggleDirection column).discard
  | setPaging paging value =>
      exact Edit.atomic_setPagingFrom paging value
  | _ =>
      -- The other edits have no exit but the last one.
      intro c c' f hrun
      cases hrun

/-- A mutation that fails, for whatever reason and on whatever canvas, changes none of the eight
parts of the query, nor the catalog, nor the number that the next table gets. -/
theorem Mutation.unchanged_of_failure (m : Mutation) (c c' : Canvas) (f : Failure) :
    m.edit.run c = .error f c' →
      (c'.query.tables = c.query.tables ∧ c'.query.columns = c.query.columns ∧
        c'.query.joins = c.query.joins ∧ c'.query.conditions = c.query.conditions ∧
        c'.query.orderBy = c.query.orderBy ∧ c'.query.groupBy = c.query.groupBy ∧
        c'.query.limit = c.query.limit ∧ c'.query.offset = c.query.offset) ∧
      c'.catalog = c.catalog ∧ c'.nextOrdinal = c.nextOrdinal := by
  intro hrun
  have hsame : c' = c := m.atomic hrun
  subst hsame
  exact ⟨⟨rfl, rfl, rfl, rfl, rfl, rfl, rfl, rfl⟩, rfl, rfl⟩

/-- The name in a toggle is known to the catalog, so that its table would come in, but another table
has it as its alias: the failure comes from within the toggle. -/
theorem Mutation.unchanged_toggle_of_shadowed :
    let c : Canvas :=
      { query := { tables := [⟨"buyers", some "Orders", 0⟩], columns := ⟨[("Orders", .every)]⟩ }
        catalog := some { tables := [{ name := "Orders", columns := [{ name := "id" }] }] }
        nextOrdinal := 1 }
    ∃ c', (Mutation.toggleColumn "ORDERS" "id").edit.run c =
        .error (.rejected (.duplicateTable "Orders")) c' ∧
      (c'.query.tables = c.query.tables ∧ c'.query.columns = c.query.columns ∧
        c'.query.joins = c.query.joins ∧ c'.query.conditions = c.query.conditions ∧
        c'.query.orderBy = c.query.orderBy ∧ c'.query.groupBy = c.query.groupBy ∧
        c'.query.limit = c.query.limit ∧ c'.query.offset = c.query.offset) ∧
      c'.catalog = c.catalog ∧ c'.nextOrdinal = c.nextOrdinal := by
  intro c
  have hrun : (Mutation.toggleColumn "ORDERS" "id").edit.run c =
      .error (.rejected (.duplicateTable "Orders")) c := by
    rfl
  exact ⟨c, hrun, Mutation.unchanged_of_failure _ _ _ _ hrun⟩

theorem Action.atomic_apply (a : Action) : a.apply.Atomic := by
  rw [Action.apply_eq]
  exact a.mutation.atomic

end QueryDesigner

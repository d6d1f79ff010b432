import QueryDesigner.Proofs.Canvas.Step
import QueryDesigner.Proofs.Query.Qualified

/-!
# Sort entries and groups without repetitions

A column that is sorted or grouped by already is not added again.  A rename rewrites the entries in
bulk, and does not look for entries that were there under the new key before.

* `Query.Unrepeated` — no column is sorted by twice, and none is grouped by twice;
* `Query.Merges` — a rename brings together two sort entries or two groups;
* `Mutation.KeepsSorting`, `Mutation.sorting_run` — the calls that leave sort entries and groups as
  they are;
* `Canvas.unrepeated_after_iff` — the step lemma: a rename that merges is the only event that makes
  a repetition;
* `Canvas.unrepeated_along_iff` — the run lemma.
-/

namespace QueryDesigner

namespace Query

variable {q : Query}

/-- No column is sorted by twice, and none is grouped by twice. -/
structure Unrepeated (q : Query) : Prop where
  orders : (q.orderBy.map Order.column).Nodup
  groups : q.groupBy.Nodup

/-- With `new` in place of `old` two sort entries would have the same column, or two groups would be
equal. -/
def Merges (q : Query) (old new : String) : Prop :=
  Reference.Merges old new (q.orderBy.map Order.column) ∨ Reference.Merges old new q.groupBy

namespace Unrepeated

theorem empty : ({} : Query).Unrepeated := ⟨List.nodup_nil, List.nodup_nil⟩

theorem congr {r : Query} (h : q.Unrepeated) (horders : r.orderBy = q.orderBy)
    (hgroups : r.groupBy = q.groupBy) : r.Unrepeated :=
  ⟨horders ▸ h.orders, hgroups ▸ h.groups⟩

theorem withoutTable (h : q.Unrepeated) (key : String) : (q.withoutTable key).Unrepeated where
  orders := h.orders.sublist (List.Sublist.map Order.column List.filter_sublist)
  groups := h.groups.sublist List.filter_sublist

theorem removeOrder (h : q.Unrepeated) (column : String) :
    ({ q with orderBy := q.orderBy.filter fun o => o.column != column } : Query).Unrepeated where
  orders := h.orders.sublist (List.Sublist.map Order.column List.filter_sublist)
  groups := h.groups

theorem removeGroup (h : q.Unrepeated) (column : String) :
    ({ q with groupBy := q.groupBy.filter fun g => g != column } : Query).Unrepeated where
  orders := h.orders
  groups := h.groups.sublist List.filter_sublist

/-- A column that has no sort entry yet may get one. -/
theorem withOrder {order : Order} (h : q.Unrepeated) (hnew : q.findOrder? order.column = none) :
    ({ q with orderBy := q.orderBy ++ [order] } : Query).Unrepeated where
  orders := by
    have hfree : order.column ∉ q.orderBy.map Order.column := by
      simpa [findOrder?, List.find?_eq_none] using hnew
    have hconcat := h.orders.concat hfree
    simpa using hconcat
  groups := h.groups

theorem withGroup {group : String} (h : q.Unrepeated) (hnew : group ∉ q.groupBy) :
    ({ q with groupBy := q.groupBy ++ [group] } : Query).Unrepeated where
  orders := h.orders
  groups := by
    have hconcat := h.groups.concat hnew
    simpa using hconcat

/-- A flip of the direction leaves the column as it is. -/
theorem withFlippedOrder (h : q.Unrepeated) (column : String) :
    (q.withFlippedOrder column).Unrepeated where
  orders := by
    have hkept : ∀ o : Order, ({ o with direction := o.direction.flip } : Order).column =
        id o.column := fun _ => rfl
    have hcolumns := map_modify q.orderBy (q.orderBy.findIdx fun o => o.column == column) hkept
    rw [List.modify_id] at hcolumns
    simpa [Query.withFlippedOrder, hcolumns] using h.orders
  groups := h.groups

end Unrepeated

/-- A rename makes a repetition exactly if it merges two entries. -/
theorem unrepeated_renamed_iff {old new : String} {aliasName : Option String}
    (h : q.Unrepeated) : (q.renamed old new aliasName).Unrepeated ↔ ¬ q.Merges old new := by
  have horders : (q.renamed old new aliasName).orderBy.map Order.column =
      (q.orderBy.map Order.column).map fun r => Reference.requalify r old new := by
    simp [renamed]
  rw [Merges, not_or]
  constructor
  · rintro ⟨hcolumns, hgroups⟩
    rw [horders] at hcolumns
    exact ⟨(Reference.nodup_map_requalify_iff h.orders).1 hcolumns,
      (Reference.nodup_map_requalify_iff h.groups).1 hgroups⟩
  · rintro ⟨hnotOrders, hnotGroups⟩
    refine ⟨?_, (Reference.nodup_map_requalify_iff h.groups).2 hnotGroups⟩
    rw [horders]
    exact (Reference.nodup_map_requalify_iff h.orders).2 hnotOrders

theorem sorting_withEverySelection (q : Query) (s : Selection) :
    (q.withEverySelection s).orderBy = q.orderBy ∧ (q.withEverySelection s).groupBy = q.groupBy :=
  withEverySelection_of (P := fun r => r.orderBy = q.orderBy ∧ r.groupBy = q.groupBy) ⟨rfl, rfl⟩
    fun _ _ _ hr => hr

end Query

/-! ## Calls that are about something else -/

namespace Mutation

/-- The call adds no sort entry or group and removes none, and it changes no key. -/
def KeepsSorting : Mutation → Prop
  | removeTable .. | setAlias .. | addOrder .. | removeOrder .. | toggleDirection .. | addGroup ..
  | removeGroup .. | clear => False
  | _ => True

theorem sorting_run {m : Mutation} (h : m.KeepsSorting) (c : Canvas) :
    (finalState (m.edit.run c)).query.orderBy = c.query.orderBy ∧
      (finalState (m.edit.run c)).query.groupBy = c.query.groupBy := by
  cases m with
  | selectAll =>
      exact c.query.sorting_withEverySelection .every
  | selectNone =>
      exact c.query.sorting_withEverySelection (.only [])
  | setPaging paging value =>
      simp only [edit, Edit.run_setPagingFrom, Edit.run_setPaging]
      cases paging <;> grind [finalState, Query.withPaging]
  | removeTable | setAlias | addOrder | removeOrder | toggleDirection | addGroup | removeGroup
  | clear =>
      cases h
  | _ =>
      -- In every exit the query is the old one, or another part of it has changed.
      simp only [edit, Edit.run_discard, Edit.run_addTable, Edit.run_toggleColumn,
        Edit.run_tableForToggle, Edit.run_setColumns, Edit.run_reorderTables, Edit.run_addJoin,
        Edit.run_requireEnds, Edit.run_updateJoin, Edit.run_removeJoin, Edit.run_addCondition,
        Edit.run_updateCondition, Edit.run_removeCondition]
      grind [finalState, Canvas.withTable, Query.withTable, Canvas.withSelection,
        Query.withSelection, Query.inOrder]

end Mutation

namespace Canvas

variable {c : Canvas}

/-! ## Steps -/

/-- The keys before and after, where an event gives another key to a table. -/
def renaming? (c : Canvas) : Event → Option (String × String)
  | .mutate (.setAlias key aliasName) =>
    match (Edit.setAlias key aliasName).run c with
    | .ok table _ => if table.key = key then none else some (key, table.key)
    | .error .. => none
  | _ => none

/-- The event is a rename that brings together two sort entries or two groups. -/
def Merges (c : Canvas) (e : Event) : Prop :=
  ∃ old new, c.renaming? e = some (old, new) ∧ c.query.Merges old new

/-- A request for an alias renames the table, or it leaves all references as they are. -/
theorem setAlias_cases (c : Canvas) (key : String) (aliasName : Option String) :
    let e : Event := .mutate (.setAlias key aliasName)
    (∃ new given, c.renaming? e = some (key, new) ∧
        (c.after e).query = c.query.renamed key new given) ∨
      c.renaming? e = none ∧ (c.after e).query.orderBy = c.query.orderBy ∧
        (c.after e).query.groupBy = c.query.groupBy := by
  intro e
  have hafter : c.after e = finalState ((Edit.setAlias key aliasName).run c) :=
    finalState_discard _ c
  cases hrun : (Edit.setAlias key aliasName).run c with
  | error f d =>
      obtain rfl := Edit.atomic_setAlias key aliasName hrun
      right
      simp [e, renaming?, hafter, hrun, finalState]
  | ok table d =>
      rcases Edit.of_run_setAlias hrun with ⟨t, _, _, ⟨hsame, rfl⟩ | ⟨hne, _, rfl⟩⟩
      · right
        simp [e, renaming?, hafter, hrun, finalState, hsame, Query.withAlias]
      · left
        refine ⟨table.key, Edit.requestedAlias aliasName, ?_, ?_⟩
        · simp only [e, renaming?, hrun]
          rw [if_neg hne]
        · rw [hafter, hrun]
          rfl

theorem unrepeated_of_keepsSorting {m : Mutation} (hm : m.KeepsSorting)
    (h : c.query.Unrepeated) : (c.after (.mutate m)).query.Unrepeated :=
  h.congr (Mutation.sorting_run hm c).1 (Mutation.sorting_run hm c).2

/-- A rename that merges is the only event that makes a repetition. -/
theorem unrepeated_after_iff (e : Event) (h : c.query.Unrepeated) :
    (c.after e).query.Unrepeated ↔ ¬ c.Merges e := by
  -- Other events than renames merge nothing, so that they have to keep entries apart.
  have hkeeps : c.renaming? e = none → (c.after e).query.Unrepeated →
      ((c.after e).query.Unrepeated ↔ ¬ c.Merges e) := by
    intro hnone hafter
    simp [hafter, Merges, hnone]
  cases e with
  | attach catalog =>
      exact hkeeps rfl h
  | mutate m =>
      cases m with
      | setAlias key aliasName =>
          rcases c.setAlias_cases key aliasName with
            ⟨new, given, hrenaming, hquery⟩ | ⟨hnone, horders, hgroups⟩
          · rw [hquery, Query.unrepeated_renamed_iff h]
            simp [Merges, hrenaming]
          · exact hkeeps hnone (h.congr horders hgroups)
      | removeTable key =>
          refine hkeeps rfl ?_
          simp only [after, Event.edit, Mutation.edit, Edit.run_removeTable]
          split
          · exact h.withoutTable key
          · exact h
      | addOrder column direction =>
          refine hkeeps rfl ?_
          simp only [after, Event.edit, Mutation.edit, finalState_discard, Edit.run_addOrderWith]
          split
          · exact h
          · rename_i hnew
            split
            · exact h
            · exact h.withOrder hnew
      | removeOrder column =>
          exact hkeeps rfl (h.removeOrder column)
      | toggleDirection column =>
          refine hkeeps rfl ?_
          simp only [after, Event.edit, Mutation.edit, finalState_discard,
            Edit.run_toggleDirection]
          split
          · exact h
          · exact h.withFlippedOrder column
      | addGroup column =>
          refine hkeeps rfl ?_
          simp only [after, Event.edit, Mutation.edit, Edit.run_addGroup, finalState]
          split_ifs with hthere
          · exact h
          · exact h.withGroup (by simpa using hthere)
      | removeGroup column =>
          exact hkeeps rfl (h.removeGroup column)
      | clear =>
          exact hkeeps rfl .empty
      | _ =>
          exact hkeeps rfl (unrepeated_of_keepsSorting trivial h)

/-! ## Runs -/

/-- No event of a run is a rename that merges entries. -/
def NeverMerges (c : Canvas) : List Event → Prop
  | [] => True
  | e :: rest => ¬ c.Merges e ∧ (c.after e).NeverMerges rest

/-- From entries without repetitions, these stay without repetitions all along a run exactly if the
run never merges any. -/
theorem unrepeated_along_iff {events : List Event} (h : c.query.Unrepeated) :
    (∀ n, (c.afterAll (events.take n)).query.Unrepeated) ↔ c.NeverMerges events := by
  induction events generalizing c with
  | nil =>
      simpa [afterAll, NeverMerges] using h
  | cons e rest ih =>
      constructor
      · intro hall
        have hafter : (c.after e).query.Unrepeated := by simpa [afterAll] using hall 1
        refine ⟨(unrepeated_after_iff e h).1 hafter, (ih hafter).1 fun n => ?_⟩
        simpa [afterAll] using hall (n + 1)
      · rintro ⟨hnot, hrest⟩ n
        have hafter := (unrepeated_after_iff e h).2 hnot
        cases n with
        | zero =>
            simpa [afterAll] using h
        | succ n =>
            simpa [afterAll] using (ih hafter).2 hrest n

/-- From an empty canvas, whatever columns are added to the order and the groups, no state of a run
has two sort entries with one column or two equal groups, exactly if no rename of the run brings
together an entry under the old key and one that is there under the new key. -/
theorem unrepeated_iff_neverMerges (catalog : Option Catalog) (events : List Event) :
    (∀ n, (({ catalog } : Canvas).afterAll (events.take n)).query.Unrepeated) ↔
      ({ catalog } : Canvas).NeverMerges events :=
  unrepeated_along_iff .empty

/-- A column of an alias that no table has yet, and the same column of the table that gets it. -/
example :
    let c := ({} : Canvas).afterAll
      ([.addTable "users" false, .addGroup "u.id", .addGroup "users.id",
        .addOrder "u.id" (.ok .ascending), .addOrder "users.id" (.ok .descending),
        .setAlias "users" (some "u")].map .mutate)
    c.query.groupBy = ["u.id", "u.id"] ∧ c.query.orderBy.map Order.column = ["u.id", "u.id"] := by
  decide +kernel

end Canvas

end QueryDesigner

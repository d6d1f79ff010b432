import QueryDesigner.Proofs.Canvas.Run
import QueryDesigner.Proofs.Query.References
import QueryDesigner.Proofs.Validation.Decoder

/-!
# What a mutation can do to a canvas

* `Mutation.given`, `Event.given` — the references that a call hands over;
* `Canvas.Step` — the ways in which a canvas can change in one call, each with what is known of it;
* `Mutation.step` — every call, failed or not, changes the canvas in one of these ways;
* `Canvas.Step.keyed` — each of them keeps a query keyed, against any catalog.

What a run preserves is proved from `Canvas.Step`, one case for each way, and not from the programs
of the twenty-one calls.
-/

namespace QueryDesigner

/-! ## Steps -/

/-- The references that a call hands over, to be kept in the query. -/
def Mutation.given : Mutation → List String
  | addCondition condition => [condition.column]
  | updateCondition _ changes =>
    match changes.lookup "column" with
    | some (.text column) => [column]
    | _ => []
  | addOrder column _ => [column]
  | addGroup column => [column]
  | _ => []

/-- The references that an event hands over. -/
def Event.given : Event → List String
  | mutate m => m.given
  | attach _ => []

/-- The ways in which a canvas can change in one call that hands over the given references. -/
inductive Canvas.Step (given : List String) (c : Canvas) : Canvas → Prop where
  | stays : Step given c c
  | tableIn {name : String} :
      Text.trim name ≠ "" → Step given c (c.withTable (c.incoming (c.nameFor name)))
  /-- A toggle of a table that only the catalog knows. -/
  | toggledIn {name : String} (s : Selection) :
      Text.trim name ≠ "" →
        Step given c
          ((c.withTable (c.incoming (c.nameFor name))).withSelection
            (c.incoming (c.nameFor name)).key s)
  | tableOut (key : String) : Step given c { c with query := c.query.withoutTable key }
  /-- Another alias that gives the same key. -/
  | aliased {key : String} {request : Option String} {table : TableRef} :
      c.query.findTable? key = some table →
        ({ table with aliasName := Edit.requestedAlias request } : TableRef).key = key →
          Step given c { c with query := c.query.withAlias key (Edit.requestedAlias request) }
  | renamed {key new : String} {request : Option String} {table : TableRef} :
      c.query.findTable? key = some table → new ∉ c.query.tableKeys →
        ({ table with aliasName := Edit.requestedAlias request } : TableRef).key = new →
          Step given c { c with query := c.query.renamed key new (Edit.requestedAlias request) }
  | reordered {keys : List String} :
      keys.Perm c.query.tableKeys → Step given c { c with query := c.query.inOrder keys }
  | selected {key : String} (s : Selection) :
      key ∈ c.query.tableKeys → Step given c (c.withSelection key s)
  | allSelected (s : Selection) : Step given c { c with query := c.query.withEverySelection s }
  | joined {joins : List Join} :
      (∀ j ∈ joins,
        j ∈ c.query.joins ∨ j.leftTable ∈ c.query.tableKeys ∧ j.rightTable ∈ c.query.tableKeys) →
        Step given c { c with query := { c.query with joins } }
  /-- A change of the conditions, the order, the groups or the page. -/
  | referred {q : Query} :
      q.tables = c.query.tables → q.columns = c.query.columns → q.joins = c.query.joins →
        (∀ r ∈ q.references, r ∈ c.query.references ∨ r ∈ given) →
          Step given c { c with query := q }
  | cleared : Step given c { c with query := {} }

namespace Canvas.Step

variable {given : List String} {c : Canvas}

theorem conditions {conditions : List Condition} :
    (∀ condition ∈ conditions,
      (∃ old ∈ c.query.conditions, old.column = condition.column) ∨ condition.column ∈ given) →
        Step given c { c with query := { c.query with conditions } } := by
  intro h
  refine .referred rfl rfl rfl fun r hr => ?_
  rw [Query.mem_references] at hr ⊢
  rcases hr with ⟨condition, hcondition, rfl⟩ | hr
  · exact (h condition hcondition).imp_left .inl
  · exact .inl (.inr hr)

theorem orders {orderBy : List Order} :
    (∀ order ∈ orderBy,
      (∃ old ∈ c.query.orderBy, old.column = order.column) ∨ order.column ∈ given) →
        Step given c { c with query := { c.query with orderBy } } := by
  intro h
  refine .referred rfl rfl rfl fun r hr => ?_
  rw [Query.mem_references] at hr ⊢
  rcases hr with hr | ⟨order, horder, rfl⟩ | hr
  · exact .inl (.inl hr)
  · exact (h order horder).imp_left fun hold => .inr (.inl hold)
  · exact .inl (.inr (.inr hr))

theorem groups {groupBy : List String} :
    (∀ group ∈ groupBy, group ∈ c.query.groupBy ∨ group ∈ given) →
      Step given c { c with query := { c.query with groupBy } } := by
  intro h
  refine .referred rfl rfl rfl fun r hr => ?_
  rw [Query.mem_references] at hr ⊢
  rcases hr with hr | hr | hr
  · exact .inl (.inl hr)
  · exact .inl (.inr (.inl hr))
  · exact (h r hr).imp_left fun hold => .inr (.inr hold)

end Canvas.Step

namespace Edit

open Canvas (Step)
open Validation (Decoder Decoded)

variable {given : List String}

/-! ## The step of each edit -/

theorem mem_of_itemAt? {α : Type} {items : List α} {index : Int} {item : α} :
    itemAt? items index = some item → item ∈ items := by
  intro h
  cases index with
  | ofNat n =>
      exact List.mem_of_getElem? h
  | negSucc n =>
      cases h

theorem step_addTable (name : String) (forced : Bool) (c : Canvas) :
    Step given c (finalState ((addTable name forced).run c)) := by
  rw [run_addTable]
  split_ifs with hblank
  · exact .stays
  · exact .stays
  · exact .tableIn hblank

theorem step_setAlias (key : String) (aliasName : Option String) (c : Canvas) :
    Step given c (finalState ((setAlias key aliasName).run c)) := by
  rw [run_setAlias]
  cases hfind : c.query.findTable? key with
  | none =>
      exact .stays
  | some table =>
      have hkey := TableRef.key_requestedAlias table aliasName
      dsimp only
      split_ifs with hsame hused
      · exact .aliased hfind (hkey.trans hsame)
      · exact .stays
      · exact .renamed hfind (by simpa using hused) hkey

theorem step_toggleColumn (key column : String) (c : Canvas) :
    Step given c (finalState ((toggleColumn key column).run c)) := by
  rw [run_toggleColumn, run_tableForToggle]
  by_cases hthere : c.query.hasTable key = true
  · simp only [hthere, if_true]
    exact .selected _ (Query.hasTable_iff.1 hthere)
  · simp only [hthere, Bool.false_eq_true, if_false]
    split_ifs
    · rw [run_addTable]
      split_ifs with hblank
      · exact .stays
      · exact .stays
      · exact .toggledIn _ hblank
    · exact .stays

theorem step_setColumns (key : String) (columns : Option (List String)) (c : Canvas) :
    Step given c (finalState ((setColumns key columns).run c)) := by
  rw [run_setColumns]
  cases hfind : c.query.findTable? key with
  | none =>
      exact .stays
  | some table =>
      exact .selected _ (Query.hasTable_iff.1 (by rw [Query.hasTable, hfind]; rfl))

theorem step_addJoin (join : Join) (c : Canvas) :
    Step given c (finalState ((addJoin join).run c)) := by
  rw [run_addJoin]
  split
  · rename_i hends
    refine .joined fun j hj => ?_
    rcases List.mem_append.1 hj with hj | hj
    · exact .inl hj
    · rw [List.mem_singleton.1 hj]
      exact .inr (ends_of_run_requireEnds hends)
  · exact .stays

theorem step_updateJoin (index : Int) (changes : List (String × Datum)) (c : Canvas) :
    Step given c (finalState ((updateJoin index changes).run c)) := by
  rw [run_updateJoin]
  -- The exits in the order of the checks; the last case is the one that changes a join.
  split
  · exact .stays
  split
  · exact .stays
  split
  · exact .stays
  split
  · rename_i hends
    refine .joined fun j hj => ?_
    rcases List.mem_or_eq_of_mem_set hj with hj | rfl
    · exact .inl hj
    · exact .inr (ends_of_run_requireEnds hends)
  · exact .stays

theorem step_removeJoin (index : Int) (c : Canvas) :
    Step given c (finalState ((removeJoin index).run c)) := by
  rw [run_removeJoin]
  split
  · exact .stays
  · exact .joined fun j hj => .inl (List.mem_of_mem_eraseIdx hj)

/-- A condition that is revised has the column that it had, or one that the changes name. -/
theorem column_of_revision {current updated : Condition} {changes : List (String × Datum)} :
    revision "ConditionSpec" Condition.decode current.fields changes = .ok updated →
      updated.column = current.column ∨
        changes.lookup "column" = some (.text updated.column) := by
  intro h
  have hdecode : Condition.decode (.object (overrideFields current.fields changes)) =
      .ok updated := by
    simp only [revision] at h
    split_ifs at h
    cases hrevised : Condition.decode (.object (overrideFields current.fields changes)) with
    | error issues =>
        simp [hrevised] at h
    | ok revised =>
        simpa [hrevised] using h
  -- The four fields are read one after the other; the column is the innermost one.
  simp only [Condition.decode, Decoder.record, Decoded.both_eq_ok_iff] at hdecode
  rcases hdecode with ⟨_, _, ⟨_, _, ⟨make, operator, hmake, _, rfl⟩, _, rfl⟩, _, rfl⟩
  rcases Decoded.map_eq_ok_iff.1 hmake with ⟨column, hcolumn, rfl⟩
  have hfield : (changes.lookup "column").getD (.text current.column) = .text column := by
    simpa [Validation.defaulted, overrideFields, Condition.fields, List.lookup,
      Decoded.under_eq_ok_iff, Decoder.text_eq_ok_iff] using hcolumn
  cases hchange : changes.lookup "column" with
  | none =>
      simp only [hchange, Option.getD_none, Datum.text.injEq] at hfield
      exact .inl hfield.symm
  | some d =>
      simp only [hchange, Option.getD_some] at hfield
      exact .inr (by rw [hfield])

theorem step_updateCondition (index : Int) (changes : List (String × Datum)) (c : Canvas) :
    Step (Mutation.updateCondition index changes).given c
      (finalState ((updateCondition index changes).run c)) := by
  rw [run_updateCondition]
  split
  · exact .stays
  cases hitem : itemAt? c.query.conditions index with
  | none =>
      exact .stays
  | some current =>
      dsimp only
      split
      · exact .stays
      · rename_i updated hrevision
        refine .conditions fun condition hcondition => ?_
        rcases List.mem_or_eq_of_mem_set hcondition with hold | rfl
        · exact .inl ⟨condition, hold, rfl⟩
        · rcases column_of_revision hrevision with hcolumn | hcolumn
          · exact .inl ⟨current, mem_of_itemAt? hitem, hcolumn.symm⟩
          · exact .inr (by simp [Mutation.given, hcolumn])

theorem step_removeCondition (index : Int) (c : Canvas) :
    Step given c (finalState ((removeCondition index).run c)) := by
  rw [run_removeCondition]
  split
  · exact .stays
  · exact .conditions fun condition hcondition =>
      .inl ⟨condition, List.mem_of_mem_eraseIdx hcondition, rfl⟩

theorem step_addOrderWith (column : String) (direction : Validation.Decoded Direction)
    (c : Canvas) :
    Step (Mutation.addOrder column direction).given c
      (finalState ((addOrderWith column direction).run c)) := by
  rw [run_addOrderWith]
  split
  · exact .stays
  split
  · exact .stays
  · refine .orders fun order horder => ?_
    rcases List.mem_append.1 horder with hold | hnew
    · exact .inl ⟨order, hold, rfl⟩
    · rw [List.mem_singleton.1 hnew]
      exact .inr (by simp [Mutation.given])

theorem step_toggleDirection (column : String) (c : Canvas) :
    Step given c (finalState ((toggleDirection column).run c)) := by
  rw [run_toggleDirection]
  split
  · exact .stays
  · refine .orders fun order horder => ?_
    -- A flip changes no column, so that the columns of all entries are what they were.
    have hkept : ∀ o : Order, ({ o with direction := o.direction.flip } : Order).column =
        id o.column := fun _ => rfl
    have hcolumns := Query.map_modify c.query.orderBy
      (c.query.orderBy.findIdx fun o => o.column == column) hkept
    have hmem := List.mem_map_of_mem (f := Order.column) horder
    rw [hcolumns, List.modify_id] at hmem
    exact .inl (List.mem_map.1 hmem)

theorem step_addGroup (column : String) (c : Canvas) :
    Step (Mutation.addGroup column).given c (finalState ((addGroup column).run c)) := by
  rw [run_addGroup]
  cases hin : c.query.groupBy.contains column with
  | true =>
      exact .stays
  | false =>
      refine .groups fun group hgroup => ?_
      rcases List.mem_append.1 hgroup with hold | hnew
      · exact .inl hold
      · exact .inr (by simpa [Mutation.given] using hnew)

theorem step_setPagingFrom (paging : Paging) (value : Datum) (c : Canvas) :
    Step given c (finalState ((setPagingFrom paging value).run c)) := by
  rw [run_setPagingFrom]
  split
  · rw [run_setPaging]
    split
    · cases paging <;> exact .referred rfl rfl rfl fun r hr => .inl hr
    · exact .stays
  · exact .stays

end Edit

/-! ## Every mutation -/

theorem finalState_discard {α : Type} (e : Edit α) (c : Canvas) :
    finalState ((discard e).run c) = finalState (e.run c) := by
  rw [Edit.run_discard]
  cases e.run c <;> rfl

namespace Mutation

/-- A call, whether it fails or not, changes the canvas in one of the ways of `Canvas.Step`. -/
theorem step (m : Mutation) (c : Canvas) : c.Step m.given (finalState (m.edit.run c)) := by
  cases m with
  | addTable name forced =>
      rw [edit, finalState_discard]
      exact Edit.step_addTable name forced c
  | removeTable key =>
      rw [edit, Edit.run_removeTable]
      split
      · exact .tableOut key
      · exact .stays
  | setAlias key aliasName =>
      rw [edit, finalState_discard]
      exact Edit.step_setAlias key aliasName c
  | toggleColumn key column =>
      rw [edit, finalState_discard]
      exact Edit.step_toggleColumn key column c
  | setColumns key columns =>
      exact Edit.step_setColumns key columns c
  | reorderTables keys =>
      rw [edit, Edit.run_reorderTables]
      split_ifs with hperm
      · exact .reordered (List.isPerm_iff.1 hperm)
      · exact .stays
  | selectAll =>
      exact .allSelected .every
  | selectNone =>
      exact .allSelected (.only [])
  | addJoin join =>
      rw [edit, finalState_discard]
      exact Edit.step_addJoin join c
  | updateJoin index changes =>
      rw [edit, finalState_discard]
      exact Edit.step_updateJoin index changes c
  | removeJoin index =>
      rw [edit, finalState_discard]
      exact Edit.step_removeJoin index c
  | addCondition condition =>
      rw [edit, finalState_discard, Edit.run_addCondition]
      refine .conditions fun condition' hcondition => ?_
      rcases List.mem_append.1 hcondition with hold | hnew
      · exact .inl ⟨condition', hold, rfl⟩
      · rw [List.mem_singleton.1 hnew]
        exact .inr (by simp [given])
  | updateCondition index changes =>
      rw [edit, finalState_discard]
      exact Edit.step_updateCondition index changes c
  | removeCondition index =>
      rw [edit, finalState_discard]
      exact Edit.step_removeCondition index c
  | addOrder column direction =>
      rw [edit, finalState_discard]
      exact Edit.step_addOrderWith column direction c
  | removeOrder column =>
      exact .orders fun order horder => .inl ⟨order, List.mem_of_mem_filter horder, rfl⟩
  | toggleDirection column =>
      rw [edit, finalState_discard]
      exact Edit.step_toggleDirection column c
  | addGroup column =>
      exact Edit.step_addGroup column c
  | removeGroup column =>
      exact .groups fun group hgroup => .inl (List.mem_of_mem_filter hgroup)
  | setPaging paging value =>
      exact Edit.step_setPagingFrom paging value c
  | clear =>
      exact .cleared

end Mutation

/-! ## Keyed queries along a run -/

namespace Canvas

variable {c c' : Canvas}

/-- Whatever the catalog lists, keys identify tables after a step if they did before. -/
theorem Step.keyed {given : List String} (h : c.Step given c') :
    c.query.Keyed → c'.query.Keyed := by
  intro hc
  cases h with
  | stays =>
      exact hc
  | tableIn hname =>
      exact hc.withTable (canonicalName_ne_empty hname) (c.incoming_key_notMem _)
  | toggledIn s hname =>
      refine (hc.withTable (canonicalName_ne_empty hname)
        (c.incoming_key_notMem _)).withSelection s ?_
      rw [Query.tableKeys_withTable]
      simp
  | tableOut key =>
      exact hc.withoutTable key
  | aliased hfind hsame =>
      exact hc.withAlias hfind hsame
  | renamed hfind hfree hnew =>
      exact hc.renamed hfind hfree hnew
  | reordered hperm =>
      exact hc.inOrder hperm
  | selected s hkey =>
      exact hc.withSelection s hkey
  | allSelected s =>
      exact hc.withEverySelection s
  | joined hends =>
      exact hc.withJoins fun j hj => (hends j hj).elim (hc.joinEnds j) id
  | referred htables hcolumns hjoins _ =>
      exact hc.congr htables hcolumns hjoins
  | cleared =>
      exact .empty

theorem keyed_after (e : Event) : c.query.Keyed → (c.after e).query.Keyed := by
  intro hc
  cases e with
  | mutate m =>
      exact (m.step c).keyed hc
  | attach catalog =>
      exact hc

theorem keyed_afterAll (events : List Event) :
    c.query.Keyed → (c.afterAll events).query.Keyed := by
  intro hc
  induction events generalizing c with
  | nil =>
      exact hc
  | cons e rest ih =>
      exact ih (keyed_after e hc)

end Canvas

end QueryDesigner

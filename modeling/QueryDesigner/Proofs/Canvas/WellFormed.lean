import QueryDesigner.Proofs.Canvas.Mutation
import QueryDesigner.Proofs.Invariant
import QueryDesigner.Proofs.Query.WellFormed
import QueryDesigner.Proofs.Text.LetterCase

/-!
# Canvases stay well-formed

* `Canvas.WellFormed` — a well-formed query whose tables have ordinals of their own, all of them
  before the next one;
* `Edit.preserves_addTable`, … — each edit keeps a canvas well-formed, also where it fails;
* `Mutation.preserves`, `Event.preserves` — the step lemma;
* `Canvas.wellFormed_after` — the run lemma.
-/

namespace QueryDesigner

namespace Canvas

/-- A well-formed query whose tables have ordinals of their own, all of them before the next one. -/
structure WellFormed (c : Canvas) : Prop where
  query : c.query.WellFormed
  ordinals : (c.query.tables.map TableRef.ordinal).Nodup
  below : ∀ t ∈ c.query.tables, t.ordinal < c.nextOrdinal

/-- No table of the catalog at hand lists a column name twice. -/
def NoRepeats (c : Canvas) : Prop := ∀ catalog ∈ c.catalog, catalog.NoRepeats

variable {c : Canvas}

theorem WellFormed.empty (catalog : Option Catalog) : ({ catalog } : Canvas).WellFormed where
  query := .empty
  ordinals := by simp
  below := by simp

/-- Edits that leave tables, and with them their ordinals, in place or only in another order. -/
theorem WellFormed.withQuery (h : c.WellFormed) {q : Query} (hq : q.WellFormed)
    (hordinals : (q.tables.map TableRef.ordinal).Perm (c.query.tables.map TableRef.ordinal)) :
    ({ c with query := q } : Canvas).WellFormed where
  query := hq
  ordinals := hordinals.nodup_iff.2 h.ordinals
  below := by
    intro t ht
    have hmem : t.ordinal ∈ c.query.tables.map TableRef.ordinal :=
      hordinals.mem_iff.1 (List.mem_map_of_mem ht)
    rcases List.mem_map.1 hmem with ⟨u, hu, hut⟩
    rw [← hut]
    exact h.below u hu

/-- A change of conditions, order, groups or paging. -/
theorem WellFormed.withRest (h : c.WellFormed) {q : Query} (htables : q.tables = c.query.tables)
    (hcolumns : q.columns = c.query.columns) (hjoins : q.joins = c.query.joins) :
    ({ c with query := q } : Canvas).WellFormed :=
  h.withQuery (h.query.congr htables hcolumns hjoins) (by rw [htables])

theorem canonicalName_ne_empty {name : String} : name ≠ "" → c.canonicalName name ≠ "" := by
  intro hname
  cases hcat : c.catalog with
  | none =>
      simpa [canonicalName, hcat] using hname
  | some catalog =>
      cases hfind : catalog.findTable? name with
      | none =>
          simpa [canonicalName, hcat, hfind] using hname
      | some t =>
          -- A name that is empty has no letters to agree with.
          have hsame : Text.sameLetters t.name name = true := by
            simp only [Catalog.findTable?, hname, if_false] at hfind
            simpa using List.find?_some hfind
          have ht : t.name ≠ "" := by
            intro hempty
            rw [hempty] at hsame
            exact hname (Text.sameLetters_empty hsame)
          simpa [canonicalName, hcat, hfind] using ht

theorem incoming_key_notMem (c : Canvas) (name : String) :
    (c.incoming name).key ∉ c.query.tableKeys := by
  cases hused : c.query.usesName name with
  | true =>
      have hkey : (c.incoming name).key = c.query.selfJoinAlias name := by
        have hne : c.query.selfJoinAlias name ≠ "" := Query.numbered_ne_empty _ _
        simp [incoming, hused, TableRef.key, aliasOf, hne]
      rw [hkey]
      exact Query.selfJoinAlias_notMem c.query name
  | false =>
      have hfree : name ∉ c.query.tableKeys := by
        intro hmem
        simp [Query.usesName, hmem] at hused
      simpa [incoming, hused, TableRef.key] using hfree

theorem WellFormed.withTable {name : String} (h : c.WellFormed) (hname : name ≠ "") :
    (c.withTable (c.incoming name)).WellFormed where
  query := h.query.withTable hname (c.incoming_key_notMem name)
  ordinals := by
    have hnew : c.nextOrdinal ∉ c.query.tables.map TableRef.ordinal := by
      intro hmem
      rcases List.mem_map.1 hmem with ⟨t, ht, hordinal⟩
      exact absurd (h.below t ht) (by omega)
    simpa [Canvas.withTable, Query.withTable, incoming, List.nodup_append, h.ordinals]
      using fun t ht hordinal => hnew (List.mem_map.2 ⟨t, ht, hordinal⟩)
  below := by
    intro t ht
    simp only [Canvas.withTable, Query.withTable, List.mem_append, List.mem_singleton] at ht ⊢
    rcases ht with ht | rfl
    · have hlt := h.below t ht
      omega
    · simp [incoming]

end Canvas

namespace Edit

/-! ## Tables -/

theorem preserves_addTable (name : String) (forced : Bool) :
    Preserves Canvas.WellFormed (addTable name forced) := by
  intro c hc
  rw [run_addTable]
  split_ifs with hblank hused
  · exact hc
  · exact hc
  · exact hc.withTable (Canvas.canonicalName_ne_empty hblank)

theorem preserves_removeTable (key : String) :
    Preserves Canvas.WellFormed (removeTable key) := by
  intro c hc
  rw [run_removeTable]
  cases c.query.findTable? key with
  | none =>
      exact hc
  | some table =>
      -- Fewer tables, in their old order.
      refine ⟨hc.query.withoutTable key, ?_, ?_⟩
      · exact hc.ordinals.sublist (List.filter_sublist.map _)
      · intro t ht
        exact hc.below t (List.mem_of_mem_filter ht)

theorem preserves_setAlias (key : String) (aliasName : Option String) :
    Preserves Canvas.WellFormed (setAlias key aliasName) := by
  intro c hc
  rw [run_setAlias]
  cases hfind : c.query.findTable? key with
  | none =>
      exact hc
  | some table =>
      have hkey := TableRef.key_requestedAlias table aliasName
      dsimp only
      split_ifs with hsame hused
      · rcases Query.tables_withAlias (requestedAlias aliasName) hfind with
          ⟨before, after, hsplit, hnew⟩
        refine hc.withQuery (hc.query.withAlias hfind (hkey.trans hsame)) ?_
        simp [hsplit, hnew]
      · exact hc
      · have hfree : (requestedAlias aliasName).getD table.name ∉ c.query.tableKeys := by
          simpa using hused
        refine hc.withQuery (hc.query.renamed hfind hfree hkey) ?_
        have hordinals : ((c.query.renamed key ((requestedAlias aliasName).getD table.name)
            (requestedAlias aliasName)).tables.map TableRef.ordinal) =
              c.query.tables.map TableRef.ordinal := by
          simp only [Query.renamed, List.map_map]
          refine List.map_congr_left fun t _ => ?_
          by_cases ht : t.key = key <;> simp [ht]
        rw [hordinals]

theorem preserves_reorderTables (keys : List String) :
    Preserves Canvas.WellFormed (reorderTables keys) := by
  intro c hc
  rw [run_reorderTables]
  split_ifs with hperm
  · have hperm' := List.isPerm_iff.1 hperm
    exact hc.withQuery (hc.query.inOrder hperm')
      ((hc.query.distinct.tables_inOrder hperm').2.map TableRef.ordinal)
  · exact hc

/-! ## Selected columns -/

theorem selectionOf_distinct (columns : Option (List String)) : (selectionOf columns).Distinct := by
  cases columns with
  | none =>
      trivial
  | some columns =>
      exact dedup_nodup columns

theorem preserves_setColumns (key : String) (columns : Option (List String)) :
    Preserves Canvas.WellFormed (setColumns key columns) := by
  intro c hc
  rw [run_setColumns]
  cases hfind : c.query.findTable? key with
  | none =>
      exact hc
  | some table =>
      have hkey : key ∈ c.query.tableKeys := by
        rw [← Query.hasTable_iff, Query.hasTable, hfind]
        rfl
      exact hc.withQuery (hc.query.withSelection hkey (selectionOf_distinct columns)) (.refl _)

theorem toggled_nodup {columns : List String} (h : columns.Nodup) (column : String) :
    (toggled columns column).Nodup := by
  unfold toggled
  split_ifs with hin
  · exact h.erase column
  · rw [List.contains_iff_mem] at hin
    have hnew : ∀ a ∈ columns, a ≠ column := by
      intro a ha hac
      exact hin (hac ▸ ha)
    simpa [List.nodup_append, h] using hnew

/-- What a toggle starts from lists no column twice: a selection does not, and neither does the
catalog. -/
theorem columnsOf_nodup {c : Canvas} (hc : c.WellFormed) (hcat : c.NoRepeats) (key : String) :
    (c.columnsOf key).Nodup := by
  cases hfind : c.query.findTable? key with
  | none =>
      simp [Canvas.columnsOf, Canvas.resolvedColumns?, hfind]
  | some table =>
      have hdistinct := hc.query.selections.get key
      cases hsel : c.query.columns.get key with
      | only columns =>
          rw [hsel] at hdistinct
          have hnodup : columns.Nodup := hdistinct
          simpa [Canvas.columnsOf, Canvas.resolvedColumns?, hfind, Query.selection, hsel,
            Canvas.expand] using hnodup
      | every =>
          cases hcatalog : c.catalog with
          | none =>
              simp [Canvas.columnsOf, Canvas.resolvedColumns?, hfind, Query.selection, hsel,
                Canvas.expand, Canvas.schemaColumns, hcatalog]
          | some catalog =>
              cases htable : catalog.findTable? table.name with
              | none =>
                  simp [Canvas.columnsOf, Canvas.resolvedColumns?, hfind, Query.selection, hsel,
                    Canvas.expand, Canvas.schemaColumns, hcatalog, Catalog.columnNames, htable]
              | some found =>
                  have hmem : found ∈ catalog.tables := by
                    unfold Catalog.findTable? at htable
                    split_ifs at htable
                    exact List.mem_of_find?_eq_some htable
                  have hnodup := hcat catalog (by simp [hcatalog]) found hmem
                  simpa [Canvas.columnsOf, Canvas.resolvedColumns?, hfind, Query.selection, hsel,
                    Canvas.expand, Canvas.schemaColumns, hcatalog, Catalog.columnNames, htable]
                    using hnodup

theorem run_tableForToggle_ok {key k : String} {c c' : Canvas} :
    (tableForToggle key).run c = .ok k c' →
      c' = c ∨ ∃ table, (addTable key false).run c = .ok table c' := by
  intro h
  rw [run_tableForToggle] at h
  split_ifs at h
  · exact .inl (EStateM.Result.ok.inj h).2.symm
  · cases hadd : (addTable key false).run c with
    | ok table d =>
        rw [hadd] at h
        exact .inr ⟨table, by rw [(EStateM.Result.ok.inj h).2]⟩
    | error f d =>
        simp [hadd] at h

/-- Adding a table leaves the catalog as it is. -/
theorem catalog_of_run_addTable {name : String} {forced : Bool} {table : TableRef}
    {c c' : Canvas} : (addTable name forced).run c = .ok table c' → c'.catalog = c.catalog := by
  intro h
  rw [run_addTable] at h
  split_ifs at h
  rw [← (EStateM.Result.ok.inj h).2]
  rfl

theorem wellFormed_toggleColumn (key column : String) {c : Canvas} (hc : c.WellFormed)
    (hcat : c.NoRepeats) : (finalState ((toggleColumn key column).run c)).WellFormed := by
  rw [run_toggleColumn]
  cases hkey : (tableForToggle key).run c with
  | error f c' =>
      have hsame : c' = c := by
        rw [run_tableForToggle] at hkey
        split_ifs at hkey
        · cases hadd : (addTable key false).run c with
          | ok table d =>
              simp [hadd] at hkey
          | error g d =>
              simp only [hadd, EStateM.Result.error.injEq] at hkey
              rw [← hkey.2]
              exact atomic_addTable key false hadd
        · exact (EStateM.Result.error.inj hkey).2.symm
      rw [hsame]
      exact hc
  | ok k c' =>
      have hthere : k ∈ c'.query.tableKeys :=
        Query.hasTable_iff.1 (hasTable_of_run_tableForToggle hkey)
      have hmid : c'.WellFormed ∧ c'.NoRepeats := by
        rcases run_tableForToggle_ok hkey with rfl | ⟨table, hadd⟩
        · exact ⟨hc, hcat⟩
        · have hadded := preserves_addTable key false c hc
          rw [hadd] at hadded
          exact ⟨hadded, by rw [Canvas.NoRepeats, catalog_of_run_addTable hadd]; exact hcat⟩
      have hnodup := toggled_nodup (columnsOf_nodup hmid.1 hmid.2 k) column
      exact hmid.1.withQuery (hmid.1.query.withSelection hthere hnodup) (.refl _)

/-! ## Joins -/

theorem ends_of_run_requireEnds {join : Join} {c c' : Canvas} {u : Unit} :
    (requireEnds join).run c = .ok u c' →
      join.leftTable ∈ c.query.tableKeys ∧ join.rightTable ∈ c.query.tableKeys := by
  intro h
  rw [run_requireEnds] at h
  simp only [← Query.hasTable_iff, Query.hasTable]
  cases hl : c.query.findTable? join.leftTable <;>
    cases hr : c.query.findTable? join.rightTable <;> simp [hl, hr] at h ⊢

theorem preserves_addJoin (join : Join) : Preserves Canvas.WellFormed (addJoin join) := by
  intro c hc
  rw [run_addJoin]
  split
  · rename_i hends
    refine hc.withQuery (hc.query.withJoins ?_) (.refl _)
    intro j hj
    rcases List.mem_append.1 hj with hj | hj
    · exact hc.query.joinEnds j hj
    · rw [List.mem_singleton.1 hj]
      exact ends_of_run_requireEnds hends
  · exact hc

theorem preserves_updateJoin (index : Int) (changes : List (String × Datum)) :
    Preserves Canvas.WellFormed (updateJoin index changes) := by
  intro c hc
  rw [run_updateJoin]
  -- The exits in the order of the checks; the last case is the one that changes a join.
  split
  · exact hc
  split
  · exact hc
  split
  · exact hc
  split
  · rename_i hends
    refine hc.withQuery (hc.query.withJoins ?_) (.refl _)
    intro j hj
    rcases List.mem_or_eq_of_mem_set hj with hj | rfl
    · exact hc.query.joinEnds j hj
    · exact ends_of_run_requireEnds hends
  · exact hc

theorem preserves_removeJoin (index : Int) :
    Preserves Canvas.WellFormed (removeJoin index) := by
  intro c hc
  rw [run_removeJoin]
  cases itemAt? c.query.joins index with
  | none =>
      exact hc
  | some current =>
      refine hc.withQuery (hc.query.withJoins ?_) (.refl _)
      intro j hj
      exact hc.query.joinEnds j (List.mem_of_mem_eraseIdx hj)

/-! ## The other edits -/

theorem preserves_selectEvery {s : Selection} (hs : s.Distinct) :
    Preserves Canvas.WellFormed (modifyQuery fun q => q.withEverySelection s) := by
  intro c hc
  refine hc.withQuery (hc.query.withEverySelection hs) ?_
  rw [Query.tables_withEverySelection]

theorem preserves_updateCondition (index : Int) (changes : List (String × Datum)) :
    Preserves Canvas.WellFormed (updateCondition index changes) := by
  intro c hc
  rw [run_updateCondition]
  split
  · exact hc
  split
  · exact hc
  split
  · exact hc
  · exact hc.withRest rfl rfl rfl

theorem preserves_removeCondition (index : Int) :
    Preserves Canvas.WellFormed (removeCondition index) := by
  intro c hc
  rw [run_removeCondition]
  split
  · exact hc
  · exact hc.withRest rfl rfl rfl

theorem preserves_addOrderWith (column : String) (direction : Validation.Decoded Direction) :
    Preserves Canvas.WellFormed (addOrderWith column direction) := by
  intro c hc
  rw [run_addOrderWith]
  split
  · exact hc
  split
  · exact hc
  · exact hc.withRest rfl rfl rfl

theorem preserves_toggleDirection (column : String) :
    Preserves Canvas.WellFormed (toggleDirection column) := by
  intro c hc
  rw [run_toggleDirection]
  split
  · exact hc
  · exact hc.withRest rfl rfl rfl

theorem preserves_addGroup (column : String) : Preserves Canvas.WellFormed (addGroup column) := by
  intro c hc
  rw [run_addGroup]
  cases hin : c.query.groupBy.contains column with
  | true =>
      exact hc
  | false =>
      exact hc.withRest rfl rfl rfl

theorem preserves_setPaging (paging : Paging) (count : Option Int) :
    Preserves Canvas.WellFormed (setPaging paging count) := by
  intro c hc
  rw [run_setPaging]
  split
  · cases paging <;> exact hc.withRest rfl rfl rfl
  · exact hc

theorem preserves_setPagingFrom (paging : Paging) (value : Datum) :
    Preserves Canvas.WellFormed (setPagingFrom paging value) := by
  intro c hc
  rw [run_setPagingFrom]
  split
  · exact preserves_setPaging paging _ c hc
  · exact hc

/-- A cleared query has no tables, whatever number comes next. -/
theorem preserves_clear : Preserves Canvas.WellFormed clear := by
  intro c _
  exact ⟨.empty, List.nodup_nil, fun t ht => absurd ht List.not_mem_nil⟩

end Edit

/-! ## Every mutation -/

namespace Mutation

/-- No mutation looks for another catalog. -/
theorem catalog_run (m : Mutation) (c : Canvas) :
    (finalState (m.edit.run c)).catalog = c.catalog := by
  cases m <;>
    simp only [edit, Edit.run_discard, Edit.run_addTable, Edit.run_removeTable, Edit.run_setAlias,
      Edit.run_toggleColumn, Edit.run_tableForToggle, Edit.run_setColumns, Edit.run_reorderTables,
      Edit.run_selectAll, Edit.run_selectNone, Edit.run_addJoin, Edit.run_requireEnds,
      Edit.run_updateJoin, Edit.run_removeJoin, Edit.run_addCondition, Edit.run_updateCondition,
      Edit.run_removeCondition, Edit.run_addOrderWith, Edit.run_removeOrder,
      Edit.run_toggleDirection, Edit.run_addGroup, Edit.run_removeGroup, Edit.run_setPagingFrom,
      Edit.run_setPaging, Edit.run_clear] <;>
    grind [finalState, Canvas.withTable, Canvas.withSelection]

/-- One step of a run: only a toggle needs the catalog, of which it takes the columns of a table of
which every column is selected. -/
theorem wellFormed_run (m : Mutation) {c : Canvas} (hc : c.WellFormed) (hcat : c.NoRepeats) :
    (finalState (m.edit.run c)).WellFormed := by
  cases m with
  | addTable name forced =>
      exact (Edit.preserves_addTable name forced).discard c hc
  | removeTable key =>
      exact Edit.preserves_removeTable key c hc
  | setAlias key aliasName =>
      exact (Edit.preserves_setAlias key aliasName).discard c hc
  | toggleColumn key column =>
      have htoggled := Edit.wellFormed_toggleColumn key column hc hcat
      simp only [edit, Edit.run_discard]
      cases hrun : (Edit.toggleColumn key column).run c <;> rwa [hrun] at htoggled
  | setColumns key columns =>
      exact Edit.preserves_setColumns key columns c hc
  | reorderTables keys =>
      exact Edit.preserves_reorderTables keys c hc
  | selectAll =>
      exact Edit.preserves_selectEvery (s := .every) trivial c hc
  | selectNone =>
      exact Edit.preserves_selectEvery (s := .only []) List.nodup_nil c hc
  | addJoin join =>
      exact (Edit.preserves_addJoin join).discard c hc
  | updateJoin index changes =>
      exact (Edit.preserves_updateJoin index changes).discard c hc
  | removeJoin index =>
      exact (Edit.preserves_removeJoin index).discard c hc
  | addCondition condition =>
      exact hc.withRest rfl rfl rfl
  | updateCondition index changes =>
      exact (Edit.preserves_updateCondition index changes).discard c hc
  | removeCondition index =>
      exact (Edit.preserves_removeCondition index).discard c hc
  | addOrder column direction =>
      exact (Edit.preserves_addOrderWith column direction).discard c hc
  | removeOrder column =>
      exact hc.withRest rfl rfl rfl
  | toggleDirection column =>
      exact (Edit.preserves_toggleDirection column).discard c hc
  | addGroup column =>
      exact Edit.preserves_addGroup column c hc
  | removeGroup column =>
      exact hc.withRest rfl rfl rfl
  | setPaging paging value =>
      exact Edit.preserves_setPagingFrom paging value c hc
  | clear =>
      exact Edit.preserves_clear c hc

end Mutation

end QueryDesigner

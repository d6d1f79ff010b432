import QueryDesigner.Proofs.Canvas.Run

/-!
# A toggle flips one column

* `filter_toggled`, `mem_toggled_iff`, `toggled_toggled` — what a toggle does to a list of columns,
  and what a second one does after it;
* `Canvas.Target` — the table that a toggle acts on, with the columns that it contributes before:
  it is there, or it comes in from the catalog;
* `Edit.exists_target` — where a toggle finds its table;
* `Canvas.Flips` — what a toggle leaves behind;
* `Canvas.toggle_flips_one_column` — every toggle that succeeds after a run of edits flips the one
  column of the one table, and nothing else.
-/

namespace QueryDesigner

/-! ## Lists of columns -/

section Toggled

variable {columns : List String} {column : String}

theorem toggled_of_mem (h : column ∈ columns) : toggled columns column = columns.erase column := by
  rw [toggled, if_pos (List.contains_iff_mem.2 h)]

theorem toggled_of_notMem (h : column ∉ columns) : toggled columns column = columns ++ [column] := by
  rw [toggled, if_neg (mt List.contains_iff_mem.1 h)]

/-- The other columns stay in their order. -/
theorem filter_toggled (hcolumns : columns.Nodup) :
    (toggled columns column).filter (· != column) = columns.filter (· != column) := by
  by_cases hin : column ∈ columns
  · rw [toggled_of_mem hin, hcolumns.erase_eq_filter, List.filter_filter]
    simp
  · rw [toggled_of_notMem hin, List.filter_append]
    simp

theorem mem_toggled_iff (hcolumns : columns.Nodup) :
    column ∈ toggled columns column ↔ column ∉ columns := by
  by_cases hin : column ∈ columns
  · simp [toggled_of_mem hin, hcolumns.mem_erase_iff, hin]
  · simp [toggled_of_notMem hin, hin]

/-- A column that was not there goes again; one that was there comes back at the end. -/
theorem toggled_toggled (hcolumns : columns.Nodup) :
    toggled (toggled columns column) column =
      if column ∈ columns then columns.filter (· != column) ++ [column] else columns := by
  split_ifs with hin
  · have hgone : column ∉ toggled columns column := fun h => (mem_toggled_iff hcolumns).1 h hin
    rw [toggled_of_notMem hgone, toggled_of_mem hin, hcolumns.erase_eq_filter]
  · have hthere : column ∈ toggled columns column := (mem_toggled_iff hcolumns).2 hin
    rw [toggled_of_mem hthere, toggled_of_notMem hin, List.erase_append_right _ hin]
    simp

end Toggled

/-! ## The table of a toggle -/

/-- The table that a toggle with the given key acts on: its key, the canvas that holds it, and the
columns that it contributes there. -/
inductive Canvas.Target (c : Canvas) (given : String) : String → Canvas → List String → Prop where
  | present {before : List String} :
      c.resolvedColumns? given = some before → Target c given given c before
  /-- A table that only the catalog knows comes in with all the columns that the catalog lists. -/
  | added {known : Catalog.Table} {table : TableRef} {base : Canvas} :
      given ∉ c.query.tableKeys →
      (c.catalog.bind fun catalog => catalog.findTable? given) = some known →
      (Edit.addTable given false).run c = .ok table base →
        Target c given table.key base (c.schemaColumns table.name)

namespace Canvas

variable {c base : Canvas} {given key : String} {before : List String}

theorem resolvedColumns?_isSome_iff :
    (c.resolvedColumns? key).isSome = true ↔ key ∈ c.query.tableKeys := by
  rw [← Query.hasTable_iff, Query.hasTable, resolvedColumns?, Option.isSome_map]

theorem columnsOf_of_resolvedColumns? (h : c.resolvedColumns? key = some before) :
    c.columnsOf key = before := by
  rw [columnsOf, h, Option.getD_some]

/-- A table that has just come in contributes what the catalog lists. -/
theorem resolvedColumns?_of_run_addTable {name : String} {table : TableRef}
    (h : (Edit.addTable name false).run c = .ok table base) :
    base.resolvedColumns? table.key = some (c.schemaColumns table.name) := by
  rw [Edit.run_addTable] at h
  split_ifs at h
  rcases EStateM.Result.ok.inj h with ⟨rfl, rfl⟩
  -- The new key is free, so a search for it passes over all tables that were there before.
  have hnew : ∀ t ∈ c.query.tables, (t.key == (c.incoming (c.nameFor name)).key) = false := by
    intro t ht
    have hne : t.key ≠ (c.incoming (c.nameFor name)).key := fun heq =>
      c.incoming_key_notMem (c.nameFor name) (heq ▸ List.mem_map_of_mem ht)
    simpa using hne
  have hfind : (c.withTable (c.incoming (c.nameFor name))).query.findTable?
      (c.incoming (c.nameFor name)).key = some (c.incoming (c.nameFor name)) := by
    simp only [withTable, Query.withTable, Query.findTable?]
    rw [List.find?_append, List.find?_eq_none.2 (by simpa using hnew)]
    simp
  have hselection : (c.withTable (c.incoming (c.nameFor name))).query.selection
      (c.incoming (c.nameFor name)).key = .every := by
    simp [Query.selection, withTable, Query.withTable, Selections.get]
  rw [resolvedColumns?, hfind, Option.map_some, hselection]
  rfl

theorem Target.resolvedColumns? (h : c.Target given key base before) :
    base.resolvedColumns? key = some before := by
  cases h with
  | present hbefore =>
      exact hbefore
  | added _ _ hadd =>
      exact resolvedColumns?_of_run_addTable hadd

theorem Target.wellFormed (h : c.Target given key base before) (hc : c.WellFormed)
    (hcatalog : c.NoRepeats) : base.WellFormed ∧ base.NoRepeats := by
  cases h with
  | present _ =>
      exact ⟨hc, hcatalog⟩
  | added _ _ hadd =>
      refine ⟨(Edit.preserves_addTable given false).of_run hc hadd, ?_⟩
      rw [NoRepeats, Edit.catalog_of_run_addTable hadd]
      exact hcatalog

end Canvas

namespace Edit

variable {c base : Canvas} {given key column : String} {selected : Bool} {c' : Canvas}

theorem exists_target (h : (tableForToggle given).run c = .ok key base) :
    ∃ before, c.Target given key base before := by
  rw [run_tableForToggle] at h
  split_ifs at h with hthere hknown
  · rcases EStateM.Result.ok.inj h with ⟨rfl, rfl⟩
    have hsome := Canvas.resolvedColumns?_isSome_iff.2 (Query.hasTable_iff.1 hthere)
    rcases Option.isSome_iff_exists.1 hsome with ⟨before, hbefore⟩
    exact ⟨before, .present hbefore⟩
  · rcases Option.isSome_iff_exists.1 hknown with ⟨known, hknown⟩
    cases hadd : (addTable given false).run c with
    | error f d =>
        simp [hadd] at h
    | ok table d =>
        simp only [hadd] at h
        rcases EStateM.Result.ok.inj h with ⟨rfl, rfl⟩
        exact ⟨_, .added (mt Query.hasTable_iff.2 hthere) hknown hadd⟩

/-- A toggle of a table that is there. -/
theorem run_toggleColumn_of_resolvedColumns? {before : List String}
    (h : c.resolvedColumns? key = some before) :
    (toggleColumn key column).run c =
      .ok (!before.contains column) (c.withSelection key (.only (toggled before column))) := by
  have hthere : c.query.hasTable key = true :=
    Query.hasTable_iff.2 (Canvas.resolvedColumns?_isSome_iff.1 (by rw [h]; rfl))
  rw [run_toggleColumn, run_tableForToggle, if_pos hthere]
  simp only [Canvas.columnsOf_of_resolvedColumns? h]

end Edit

namespace Canvas

/-! ## What a toggle leaves behind -/

/-- The outcome `c'` of a toggle of a column on a canvas, where the table with that key contributed
the columns `before`. -/
structure Flips (base : Canvas) (key : String) (before : List String) (column : String)
    (selected : Bool) (c' : Canvas) : Prop where
  selected_iff : selected = true ↔ column ∉ before
  /-- The selection is explicit now.  All columns but the toggled one are where they were. -/
  listed : ∃ columns, c'.query.columns.get? key = some (.only columns) ∧ columns.Nodup ∧
    (column ∈ columns ↔ selected = true) ∧
    columns.filter (· != column) = before.filter (· != column)
  others : ∀ k, k ≠ key → c'.query.columns.get? k = base.query.columns.get? k
  keys : c'.query.columns.keys = base.query.columns.keys
  rest : c' = { base with query := { base.query with columns := c'.query.columns } }
  /-- A second toggle takes the first one back, but for the place of a column that was there. -/
  back : ∃ c'', (Edit.toggleColumn key column).run c' = .ok (!selected) c'' ∧
    c''.resolvedColumns? key =
      some (if selected then before else before.filter (· != column) ++ [column])

theorem resolvedColumns?_withSelection {c : Canvas} {key : String} (h : key ∈ c.query.tableKeys)
    (columns : List String) :
    (c.withSelection key (.only columns)).resolvedColumns? key = some columns := by
  rw [← Query.hasTable_iff, Query.hasTable, Option.isSome_iff_exists] at h
  rcases h with ⟨table, htable⟩
  have hfind : (c.withSelection key (.only columns)).query.findTable? key = some table := htable
  rw [resolvedColumns?, hfind]
  simp [withSelection, Query.withSelection, Query.selection, Selections.get, expand]

theorem flips_withSelection {base : Canvas} {key column : String} {before : List String}
    (hbase : base.WellFormed) (hcatalog : base.NoRepeats)
    (hbefore : base.resolvedColumns? key = some before) :
    base.Flips key before column (!before.contains column)
      (base.withSelection key (.only (toggled before column))) := by
  have hnodup : before.Nodup :=
    columnsOf_of_resolvedColumns? hbefore ▸ Edit.columnsOf_nodup hbase hcatalog key
  have hthere : key ∈ base.query.tableKeys := resolvedColumns?_isSome_iff.1 (by rw [hbefore]; rfl)
  have hselected : (!before.contains column) = true ↔ column ∉ before := by simp
  refine ⟨hselected, ?_, ?_, ?_, rfl, ?_⟩
  · exact ⟨toggled before column, Selections.get?_set _ _ _, Edit.toggled_nodup hnodup column,
      (mem_toggled_iff hnodup).trans hselected.symm, filter_toggled hnodup⟩
  · intro k hk
    exact Selections.get?_set_of_ne _ _ hk
  · exact Selections.keys_set_of_mem (hbase.query.keyed.mem_keys.2 hthere)
  · -- The second toggle finds the selection of the first one.
    have hmid := resolvedColumns?_withSelection hthere (toggled before column)
    have hflag : (toggled before column).contains column = !before.contains column := by
      rw [Bool.eq_iff_iff, List.contains_iff_mem, hselected]
      exact mem_toggled_iff hnodup
    refine ⟨(base.withSelection key (.only (toggled before column))).withSelection key
      (.only (toggled (toggled before column) column)), ?_, ?_⟩
    · rw [Edit.run_toggleColumn_of_resolvedColumns? hmid, hflag]
    · have hmid' : key ∈ (base.withSelection key
          (.only (toggled before column))).query.tableKeys := hthere
      rw [resolvedColumns?_withSelection hmid', toggled_toggled hnodup]
      by_cases hin : column ∈ before <;> simp [hin]

/-! ## After any run -/

/-- After any run from an empty canvas, against catalogs that list no column of a table twice, a
toggle that succeeds acts on one table, which is there or comes in from the catalog, and flips the
one column of it. -/
theorem toggle_flips_one_column (catalog : Option Catalog) (events : List Event)
    (key column : String) (selected : Bool) (c' : Canvas) :
    let c := ({ catalog } : Canvas).afterAll events
    (∀ k ∈ catalog, k.NoRepeats) → (∀ e ∈ events, e.Admissible) →
      (Edit.toggleColumn key column).run c = .ok selected c' →
        ∃ k base before, c.Target key k base before ∧ base.Flips k before column selected c' := by
  intro c hcatalog hevents hrun
  have hstart : ({ catalog } : Canvas).WellFormed ∧ ({ catalog } : Canvas).NoRepeats :=
    ⟨.empty catalog, hcatalog⟩
  have hc := wellFormed_afterAll hevents hstart
  have hlists := noRepeats_afterAll hevents hstart
  rw [Edit.run_toggleColumn] at hrun
  cases hkey : (Edit.tableForToggle key).run c with
  | error f d =>
      simp [hkey] at hrun
  | ok k base =>
      rcases Edit.exists_target hkey with ⟨before, htarget⟩
      have hbefore := htarget.resolvedColumns?
      simp only [hkey, columnsOf_of_resolvedColumns? hbefore] at hrun
      rcases EStateM.Result.ok.inj hrun with ⟨rfl, rfl⟩
      have hbase := htarget.wellFormed hc hlists
      exact ⟨k, base, before, htarget, flips_withSelection hbase.1 hbase.2 hbefore⟩

/-- The first table comes in from the catalog, under its own spelling, when a column of it is
toggled. -/
theorem toggle_flips_one_column_of_catalog_table :
    let catalog : Catalog :=
      { tables := [{ name := "staff", columns := [{ name := "id" }, { name := "boss" }] },
          { name := "rooms", columns := [{ name := "no" }] }] }
    let c := ({ catalog := some catalog } : Canvas).afterAll
      [.mutate (.addTable "rooms" false), .mutate (.setColumns "rooms" (some []))]
    ∃ c', (Edit.toggleColumn "STAFF" "id").run c = .ok false c' ∧
      c'.query.tableKeys = ["rooms", "staff"] ∧
      ∃ k base before, c.Target "STAFF" k base before ∧ base.Flips k before "id" false c' := by
  intro catalog c
  have hlists : ∀ k ∈ some catalog, k.NoRepeats := by
    intro k hk
    obtain rfl := Option.mem_some.1 hk
    simp [Catalog.NoRepeats, catalog, Catalog.Table.columnNames]
  have hevents : ∀ e ∈ [Event.mutate (.addTable "rooms" false),
      .mutate (.setColumns "rooms" (some []))], e.Admissible := by
    simp [Event.Admissible]
  have hrun : (Edit.toggleColumn "STAFF" "id").run c =
      .ok false (finalState ((Edit.toggleColumn "STAFF" "id").run c)) := by
    decide +kernel
  exact ⟨_, hrun, by decide +kernel,
    toggle_flips_one_column (some catalog) _ _ _ _ _ hlists hevents hrun⟩

end Canvas

end QueryDesigner

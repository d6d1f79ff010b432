import QueryDesigner.Proofs.Decompile.Grouping
import QueryDesigner.Proofs.Decompile.Total

/-!
# The order of the columns that are read

* `Reading.SameList` — what the clauses after the SELECT list leave alone;
* `Reading.selectItems_of_readClauses` — the SELECT list of the query that is read;
* `Sql.listOf?` — the SELECT list of a text as columns of its tables;
* `column_order_of_complete` — where nothing is reported, the query has the SELECT list of the
  statement, regrouped table by table, and the very list just where it is grouped already.
-/

namespace QueryDesigner

/-- The SELECT list, table by table. -/
theorem Query.selectItems_eq (q : Query) :
    q.selectItems = q.tableKeys.flatMap fun key => (q.selection key).items key := by
  simp [selectItems, tableKeys, List.flatMap_map]

/-- A table of which nothing is selected contributes all of its columns. -/
theorem SelectItem.items_covered (key : String) (items : List SelectItem) :
    ((Coverage.covered key items).getD .every).items key =
      (Selection.ofItems key items).items key := by
  unfold Coverage.covered
  cases hmention : SelectItem.mention key items with
  | true =>
      rfl
  | false =>
      rw [Coverage.ofItems_of_not_mention hmention]
      rfl

namespace Reading

variable {catalog : Option Catalog} {d : Draft}

/-! ## The clauses after the SELECT list -/

/-- The tables and the selections are those of an earlier draft, and no warning is taken back. -/
structure SameList (d₀ d : Draft) : Prop where
  tables : d.canvas.query.tables = d₀.canvas.query.tables
  columns : d.canvas.query.columns = d₀.canvas.query.columns
  warnings : d₀.warnings <+: d.warnings

theorem restStable_sameList (d₀ : Draft) : RestStable (SameList d₀) where
  warn w _ d hd := ⟨hd.tables, hd.columns, hd.warnings.trans (List.prefix_append _ _)⟩
  addGroup column d hd := by
    rw [Edit.run_addGroup]
    dsimp only
    split_ifs <;> exact ⟨hd.tables, hd.columns, hd.warnings⟩
  addOrder column direction d hd := by
    rw [Edit.addOrder, Edit.run_addOrderWith]
    split <;> exact ⟨hd.tables, hd.columns, hd.warnings⟩
  setPaging paging count d hd := by
    rw [Edit.run_setPaging]
    split
    · cases paging <;> exact ⟨hd.tables, hd.columns, hd.warnings⟩
    · exact ⟨hd.tables, hd.columns, hd.warnings⟩

theorem preserves_sameList_readConditions (d₀ : Draft) (condition : Sql.Expr) :
    Preserves (SameList d₀) (readConditions condition) := by
  refine (Preserves.forM (fun predicate d hd => ?_) _).bind fun _ => .pure _
  rcases account_readPredicate predicate d with ⟨account, hrun, _⟩
  rw [hrun]
  exact ⟨hd.tables, hd.columns, hd.warnings.trans (List.prefix_append _ _)⟩

/-! ## The whole list -/

/-- The SELECT list of the query once the clauses are read, and that no item is lost unless something
is reported. -/
theorem selectItems_of_readClauses {s : Sql.Select} {d' : Draft} (hd : Ready catalog d)
    (hrun : (readClauses s).run d = .ok () d') :
    d'.canvas.query.selectItems =
        ((orderByAppearance (Coverage.ofItems (s.items.map d.itemsOf)).places
          d.canvas.query.tableKeys).flatMap fun key =>
            (Selection.ofItems key (s.items.flatMap d.itemsOf)).items key) ∧
      (d'.warnings = [] → ∀ item ∈ s.items, d.itemsOf item ≠ []) := by
  rcases run_readItems s hd with ⟨d₁, hitems, htables, -, hselection, hcomplete⟩
  rw [readClauses_eq, EStateM.run_bind, hitems] at hrun
  have hrest : Preserves (SameList d₁) (do
      forM s.tail.condition readConditions
      readRest s : Reading Unit) :=
    (Preserves.optionForM (preserves_sameList_readConditions d₁) _).bind fun _ =>
      (restStable_sameList d₁).preserves_readRest s
  -- the clauses after the list neither touch it nor take a warning back
  have hsame : SameList d₁ d' := hrest.of_run ⟨rfl, rfl, List.prefix_rfl⟩ hrun
  have hkeys : d'.canvas.query.tableKeys = d₁.canvas.query.tableKeys := by
    rw [Query.tableKeys, hsame.tables, Query.tableKeys]
  have hselected : ∀ key, d'.canvas.query.selection key = d₁.canvas.query.selection key := by
    intro key
    rw [Query.selection, hsame.columns, Query.selection]
  constructor
  · rw [Query.selectItems_eq, hkeys, htables]
    refine List.flatMap_congr fun key _ => ?_
    rw [hselected, hselection, SelectItem.items_covered]
  · intro hnone
    exact hcomplete (List.prefix_nil.1 (hnone ▸ hsame.warnings))

/-- What each item stands for, where it stands for something. -/
theorem itemsOf_eq (d : Draft) {e : Sql.Expr} (he : d.itemsOf e ≠ []) :
    d.itemsOf e = d.canvas.query.tableKeys.map .all ∨ ∃ item, d.itemsOf e = [item] := by
  rcases itemsOf_cases d e with hall | ⟨table, key, column, _, hone⟩ | hnone
  · exact .inl hall
  · exact .inr ⟨_, hone⟩
  · exact absurd hnone he

/-- Where there is nothing to select from, that is reported. -/
theorem warnings_of_readTables {s : Sql.Select} {d' : Draft} :
    (readTables s).run d = .ok false d' → d'.warnings ≠ [] := by
  intro hrun
  unfold readTables at hrun
  split at hrun
  · cases hrun
    simp
  · split at hrun
    · cases hrun
      simp
    · rcases run_bind_eq_ok.1 hrun with ⟨_, _, _, hjoins⟩
      rcases run_bind_eq_ok.1 hjoins with ⟨_, _, _, hend⟩
      cases hend

end Reading

/-- A result of a text with a SELECT statement is what was read of that statement. -/
theorem readSelect_of_decompile {sql : String} {catalog : Option Catalog} {s : Sql.Select}
    {result : Decompiled} :
    Sql.selectOf? sql = some s → decompile sql catalog = .ok result →
      ∃ d, (Reading.readSelect s).run { canvas := .ofQuery {} catalog } = .ok () d ∧
        result.canvas = d.canvas ∧ result.warnings = d.warnings := by
  intro hs hresult
  have hread := @decompile_eq sql catalog s hs
  rw [hresult] at hread
  cases hrun : (Reading.readSelect s).run { canvas := .ofQuery {} catalog } with
  | error failure d =>
      rw [hrun] at hread
      cases hread
  | ok _ d =>
      rw [hrun] at hread
      exact ⟨d, rfl, Prod.mk.inj (Except.ok.inj hread)⟩

/-- The SELECT list of a text, if it selects from a table: the keys of its tables, and what each item
of the list stands for. -/
def Sql.listOf? (sql : String) (catalog : Option Catalog) :
    Option (List String × List (List SelectItem)) :=
  (Sql.selectOf? sql).bind fun s =>
    match (Reading.readTables s).run { canvas := .ofQuery {} catalog } with
    | .ok true d => some (d.canvas.query.tableKeys, s.items.map d.itemsOf)
    | _ => none

/-- Of a text that is read completely each item of the SELECT list stands for columns of the tables.
Where every table is mentioned, the query has these columns table by table: the first table first and
the others in the order in which the list mentions them, each once, with all columns if a star stands
for them and else with those that are named, in the order in which they are named first.  The order of
the list is kept just where it is of that kind already. -/
theorem column_order_of_complete (sql : String) (catalog : Option Catalog) (result : Decompiled) :
    decompile sql catalog = .ok result → result.isComplete = true →
      ∃ keys list, Sql.listOf? sql catalog = some (keys, list) ∧ (∀ part ∈ list, part ≠ []) ∧
        ((∀ key ∈ keys, ∃ item ∈ list.flatten, item.key = key) →
          result.canvas.query.selectItems = SelectItem.regrouped keys list) ∧
        (result.canvas.query.selectItems = list.flatten ↔
          SelectItem.Grouped keys list.flatten) := by
  intro hresult hcomplete
  have hwarnings : result.warnings = [] := by
    rw [Decompiled.isComplete, Bool.and_eq_true] at hcomplete
    exact List.isEmpty_iff.1 hcomplete.1
  cases hs : Sql.selectOf? sql with
  | none =>
      rcases exists_decompile_of_none catalog hs with ⟨result', hresult', hreported⟩
      rw [hresult] at hresult'
      cases hresult'
      exact absurd hwarnings hreported
  | some s =>
      rcases readSelect_of_decompile hs hresult with ⟨d', hrun, hcanvas, hreported⟩
      -- the draft after the tables is the one by which the items are understood
      rcases run_bind_eq_ok.1 hrun with ⟨hasTables, d, htables, hclauses⟩
      have hmeets := Reading.meets_readTables s _
        ⟨Reading.seeing_empty catalog, Reading.unselected_empty catalog⟩
      rw [htables] at hmeets
      cases hasTables with
      | false =>
          cases hclauses
          exact absurd (hreported.symm.trans hwarnings) (Reading.warnings_of_readTables htables)
      | true =>
          have hd := hmeets.2 rfl
          rcases Reading.selectItems_of_readClauses hd hclauses with ⟨hselect, hall⟩
          have hitems := hall (hreported.symm.trans hwarnings)
          -- nothing was reported, so that each item stands for a star or for one thing
          have hlist : ∀ part ∈ s.items.map d.itemsOf, part ≠ [] ∧
              (part = d.canvas.query.tableKeys.map .all ∨ ∃ item, part = [item]) := by
            intro part hpart
            rcases List.mem_map.1 hpart with ⟨e, he, rfl⟩
            exact ⟨hitems e he, Reading.itemsOf_eq d (hitems e he)⟩
          have hread : Sql.listOf? sql catalog =
              some (d.canvas.query.tableKeys, s.items.map d.itemsOf) := by
            simp only [Sql.listOf?, hs, Option.bind_some, htables]
          rw [hcanvas, hselect, List.flatMap_def]
          refine ⟨_, _, hread, fun part hpart => (hlist part hpart).1, fun hmention => ?_, ?_⟩
          · rw [SelectItem.orderByAppearance_ofItems hmention]
            rfl
          · exact SelectItem.flatMap_ofItems_eq_iff hd.sound.query.distinct
              (fun part hpart => (hlist part hpart).2) fun part hpart => (hlist part hpart).1

/-- The SELECT list of the query that a text holds, if the text is read completely. -/
def completeItems? (sql : String) (catalog : Option Catalog) : Option (List SelectItem) :=
  (decompile sql catalog).toOption.bind fun result =>
    if result.isComplete then some result.canvas.query.selectItems else none

theorem exists_of_completeItems? {sql : String} {catalog : Option Catalog}
    {items : List SelectItem} :
    completeItems? sql catalog = some items →
      ∃ result, decompile sql catalog = .ok result ∧ result.isComplete = true ∧
        result.canvas.query.selectItems = items := by
  intro h
  unfold completeItems? at h
  cases hresult : decompile sql catalog with
  | error failure =>
      rw [hresult] at h
      cases h
  | ok result =>
      rw [hresult] at h
      change (if result.isComplete = true then _ else _) = _ at h
      split_ifs at h with hcomplete
      exact ⟨result, rfl, hcomplete, Option.some.inj h⟩

/-- A column without a table, one with its table, and a star. -/
theorem column_order_of_grouped_columns :
    ∃ result list, decompile "SELECT y, a.z, b.* FROM a JOIN b ON a.i = b.i" none = .ok result ∧
      result.isComplete = true ∧
      Sql.listOf? "SELECT y, a.z, b.* FROM a JOIN b ON a.i = b.i" none =
        some (["a", "b"], list) ∧
      list.flatten = [.column "a" "y", .column "a" "z", .all "b"] ∧
      result.canvas.query.selectItems = list.flatten := by
  have hlist : Sql.listOf? "SELECT y, a.z, b.* FROM a JOIN b ON a.i = b.i" none =
      some (["a", "b"], [[.column "a" "y"], [.column "a" "z"], [.all "b"]]) := by
    decide +kernel
  have hitems : (completeItems? "SELECT y, a.z, b.* FROM a JOIN b ON a.i = b.i" none).isSome =
      true := by
    decide +kernel
  rcases Option.isSome_iff_exists.1 hitems with ⟨items, hitems⟩
  rcases exists_of_completeItems? hitems with ⟨result, hresult, hcomplete, _⟩
  rcases column_order_of_complete _ none result hresult hcomplete with
    ⟨keys, list, hread, _, _, hkept⟩
  rw [hlist] at hread
  cases hread
  -- the items stand table by table, so that the theorem says that they keep their order
  refine ⟨result, _, hresult, hcomplete, hlist, rfl, hkept.2 ⟨["a", "b"],
    fun key => if key = "a" then .only ["y", "z"] else .every, .refl _, rfl, fun key => ?_,
    by decide +kernel⟩⟩
  dsimp only
  split_ifs
  · simp [Selection.Distinct]
  · trivial

/-- The columns of the first table come first, also where the list names them last. -/
theorem column_order_lost_of_joined_table_first :
    ∃ result list, decompile "SELECT b.x, a.y FROM a JOIN b ON a.i = b.i" none = .ok result ∧
      result.isComplete = true ∧
      Sql.listOf? "SELECT b.x, a.y FROM a JOIN b ON a.i = b.i" none = some (["a", "b"], list) ∧
      list.flatten = [.column "b" "x", .column "a" "y"] ∧
      result.canvas.query.selectItems = [.column "a" "y", .column "b" "x"] ∧
      result.canvas.query.selectItems ≠ list.flatten := by
  have hlist : Sql.listOf? "SELECT b.x, a.y FROM a JOIN b ON a.i = b.i" none =
      some (["a", "b"], [[.column "b" "x"], [.column "a" "y"]]) := by
    decide +kernel
  have hitems : completeItems? "SELECT b.x, a.y FROM a JOIN b ON a.i = b.i" none =
      some [.column "a" "y", .column "b" "x"] := by
    decide +kernel
  rcases exists_of_completeItems? hitems with ⟨result, hresult, hcomplete, hselect⟩
  refine ⟨result, _, hresult, hcomplete, hlist, rfl, hselect, ?_⟩
  rw [hselect]
  simp

end QueryDesigner

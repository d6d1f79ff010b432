import QueryDesigner.Proofs.Decompile.Coverage
import QueryDesigner.Proofs.Decompile.Tables

/-!
# Reading the SELECT list

* `Draft.itemsOf` — the columns of the query that an item of the SELECT list stands for;
* `Reading.run_readItem`, `Reading.run_readItemsFrom` — an item adds what it stands for, and one that
  stands for nothing is reported;
* `Reading.run_readItems` — what the SELECT list makes of the canvas.
-/

namespace QueryDesigner

namespace Draft

/-- The key of the table that the statement calls by a name. -/
def keyOf? (d : Draft) (name : String) : Option String :=
  if name = "" then none else d.keys.lookup (Text.lower name)

/-- The column of a table as the catalog spells it, if the catalog knows it. -/
def spelling (d : Draft) (key column : String) : String :=
  let spelling := do
    let table ← d.canvas.query.findTable? key
    let catalog ← d.canvas.catalog
    catalog.resolveColumn? table.name column
  (spelling.bind aliasOf).getD column

/-- The key of the first table, to which columns without a table belong. -/
def firstKey (d : Draft) : String := d.canvas.query.tableKeys.headD ""

/-- The key of the table of an item. -/
def itemKey? (d : Draft) (table : String) : Option String :=
  if table = "" then some d.firstKey else d.keyOf? table

/-- The draft with more warnings. -/
def reporting (d : Draft) (reported : List Warning) : Draft :=
  { d with warnings := d.warnings ++ reported }

end Draft

/-- The item without its alias. -/
def Sql.Expr.unaliased (item : Sql.Expr) : Sql.Expr :=
  match item.bare with
  | .aliased e _ => e
  | _ => item

namespace Draft

/-- What a column of a table stands for: all columns of the table, or the one with that name. -/
def columnItem (d : Draft) (e : Sql.Expr) (key column : String) : SelectItem :=
  match e.bare with
  | .columns _ _ => .all key
  | _ => .column key (d.spelling key column)

/-- What an item without an alias stands for.  An item that names no table of the query, or is no
column, stands for nothing. -/
def unaliasedItems (d : Draft) (e : Sql.Expr) : List SelectItem :=
  match e.bare, e.column? with
  | .star _, _ => d.canvas.query.tableKeys.map .all
  | _, some (table, column) => ((d.itemKey? table).map fun key => d.columnItem e key column).toList
  | _, none => []

/-- What an item of a SELECT list stands for. -/
def itemsOf (d : Draft) (item : Sql.Expr) : List SelectItem := d.unaliasedItems item.unaliased

end Draft

namespace Reading

theorem run_withoutAlias (item : Sql.Expr) (d : Draft) :
    ∃ reported, (withoutAlias item).run d = .ok item.unaliased (d.reporting reported) := by
  have hsame : d.reporting [] = d := by simp [Draft.reporting]
  unfold withoutAlias Sql.Expr.unaliased
  cases item.bare with
  | aliased e aliasName =>
      exact ⟨[.columnAlias item.shown], rfl⟩
  | _ =>
      exact ⟨[], by rw [hsame]; rfl⟩

theorem run_itemKey? (table : String) (d : Draft) :
    (itemKey? d.firstKey table).run d = .ok (d.itemKey? table) d := by
  unfold itemKey? Draft.itemKey?
  split_ifs
  · rfl
  · exact run_keyOf? table d

/-- A column, or all columns of one table. -/
theorem run_readColumnItem (place : Nat) (c : Coverage) (e : Sql.Expr) (table column : String)
    (d : Draft) :
    ∃ reported, (readColumnItem d.firstKey place c e table column).run d =
        .ok (((d.itemKey? table).map fun key => d.columnItem e key column).toList.foldl
          (Coverage.add place) c) (d.reporting reported) ∧
      (reported = [] → (d.itemKey? table).isSome = true) := by
  unfold readColumnItem
  rw [EStateM.run_bind, run_itemKey?]
  cases d.itemKey? table with
  | none =>
      exact ⟨[.itemTable e.shown], rfl, by simp⟩
  | some key =>
      refine ⟨[], ?_, fun _ => rfl⟩
      have hsame : d.reporting [] = d := by simp [Draft.reporting]
      rw [hsame]
      unfold Draft.columnItem
      generalize e.bare = bare
      cases bare <;> rfl

/-- An item without its alias. -/
def readUnaliased (firstKey : String) (place : Nat) (c : Coverage) (e : Sql.Expr) :
    Reading Coverage := do
  match e.bare, e.column? with
  | .star _, _ => return (← get).canvas.query.tableKeys.foldl (fun c key => c.addAll place key) c
  | _, some (table, column) => readColumnItem firstKey place c e table column
  | _, none =>
    warn (.item e.shown)
    return c

theorem readItem_eq (firstKey : String) (place : Nat) (c : Coverage) (item : Sql.Expr) :
    readItem firstKey place c item =
      withoutAlias item >>= readUnaliased firstKey place c := rfl

theorem run_readUnaliased (place : Nat) (c : Coverage) (e : Sql.Expr) (d : Draft) :
    ∃ reported, (readUnaliased d.firstKey place c e).run d =
        .ok ((d.unaliasedItems e).foldl (Coverage.add place) c) (d.reporting reported) ∧
      (HasTable d → reported = [] → d.unaliasedItems e ≠ []) := by
  have hstar : ∃ reported, (EStateM.Result.ok
      (d.canvas.query.tableKeys.foldl (fun c key => c.addAll place key) c) d :
        EStateM.Result Failure Draft Coverage) =
        .ok ((d.canvas.query.tableKeys.map SelectItem.all).foldl (Coverage.add place) c)
          (d.reporting reported) ∧
      (HasTable d → reported = [] → d.canvas.query.tableKeys.map SelectItem.all ≠ []) := by
    refine ⟨[], by rw [List.foldl_map]; simp [Draft.reporting, Coverage.add], fun hd _ hnil => hd ?_⟩
    simpa [Query.tableKeys] using hnil
  unfold readUnaliased Draft.unaliasedItems
  cases e.column? with
  | some column =>
      rcases column with ⟨table, column⟩
      have hcolumn : ∃ reported, (readColumnItem d.firstKey place c e table column).run d =
          .ok (((d.itemKey? table).map fun key => d.columnItem e key column).toList.foldl
            (Coverage.add place) c) (d.reporting reported) ∧
          (HasTable d → reported = [] →
            ((d.itemKey? table).map fun key => d.columnItem e key column).toList ≠ []) := by
        rcases run_readColumnItem place c e table column d with ⟨reported, hrun, hfound⟩
        refine ⟨reported, hrun, fun _ hnone => ?_⟩
        rcases Option.isSome_iff_exists.1 (hfound hnone) with ⟨key, hkey⟩
        simp [hkey]
      cases e.bare <;> first | exact hstar | exact hcolumn
  | none =>
      have hother : ∃ reported, (EStateM.Result.ok c (d.reporting [.item e.shown]) :
          EStateM.Result Failure Draft Coverage) = .ok c (d.reporting reported) ∧
          (HasTable d → reported = [] → ([] : List SelectItem) ≠ []) :=
        ⟨[.item e.shown], rfl, by simp⟩
      cases e.bare <;> first | exact hstar | exact hother

/-- An item adds what it stands for, and one that stands for nothing is reported. -/
theorem run_readItem (place : Nat) (c : Coverage) (item : Sql.Expr) (d : Draft) :
    ∃ reported, (readItem d.firstKey place c item).run d =
        .ok ((d.itemsOf item).foldl (Coverage.add place) c) (d.reporting reported) ∧
      (HasTable d → reported = [] → d.itemsOf item ≠ []) := by
  rcases run_withoutAlias item d with ⟨first, halias⟩
  rcases run_readUnaliased place c item.unaliased (d.reporting first) with ⟨second, hrun, hitems⟩
  have hreport : (d.reporting first).reporting second = d.reporting (first ++ second) := by
    simp [Draft.reporting]
  refine ⟨first ++ second, ?_, fun hd hnone => hitems hd (List.append_eq_nil_iff.1 hnone).2⟩
  rw [readItem_eq, EStateM.run_bind, halias, ← hreport]
  exact hrun

/-- The items of the list, one after the other.  What is reported on the way does not change what the
items stand for. -/
theorem run_readItemsFrom (place : Nat) (c : Coverage) (items : List Sql.Expr) (d : Draft) :
    ∃ reported, (readItemsFrom d.firstKey place c items).run d =
        .ok (c.addFrom place (items.map d.itemsOf)) (d.reporting reported) ∧
      (HasTable d → reported = [] → ∀ item ∈ items, d.itemsOf item ≠ []) := by
  induction items generalizing place c d with
  | nil =>
      exact ⟨[], by simp [readItemsFrom, Coverage.addFrom, Draft.reporting], by simp⟩
  | cons item rest ih =>
      rcases run_readItem place c item d with ⟨first, hitem, hfirst⟩
      rcases ih (place + 1) ((d.itemsOf item).foldl (Coverage.add place) c) (d.reporting first) with
        ⟨second, hrest, hsecond⟩
      refine ⟨first ++ second, ?_, fun hd hnone => ?_⟩
      · have hreport : (d.reporting first).reporting second = d.reporting (first ++ second) := by
          simp [Draft.reporting]
        rw [readItemsFrom, EStateM.run_bind, hitem, ← hreport]
        exact hrest
      · rcases List.append_eq_nil_iff.1 hnone with ⟨hfirst', hsecond'⟩
        intro e he
        rcases List.mem_cons.1 he with rfl | he
        · exact hfirst hd hfirst'
        · exact hsecond hd hsecond' e he

/-! ## Which tables items belong to -/

variable {catalog : Option Catalog} {d : Draft}

theorem firstKey_mem (hd : HasTable d) : d.firstKey ∈ d.canvas.query.tableKeys := by
  unfold Draft.firstKey Query.tableKeys
  cases htables : d.canvas.query.tables with
  | nil =>
      exact absurd htables hd
  | cons t rest =>
      simp

theorem itemKey?_mem (hd : Ready catalog d) {table key : String} :
    d.itemKey? table = some key → key ∈ d.canvas.query.tableKeys := by
  intro h
  unfold Draft.itemKey? at h
  split_ifs at h
  · cases h
    exact firstKey_mem hd.hasTable
  · unfold Draft.keyOf? at h
    split_ifs at h
    rcases List.lookup_eq_some_iff.1 h with ⟨before, after, hsplit, _⟩
    exact hd.names (Text.lower table, key) (by simp [hsplit])

/-- An item stands for every column of every table, for one thing, or for nothing. -/
theorem itemsOf_cases (d : Draft) (e : Sql.Expr) :
    d.itemsOf e = d.canvas.query.tableKeys.map .all ∨
      (∃ table key column, d.itemKey? table = some key ∧
        d.itemsOf e = [d.columnItem e.unaliased key column]) ∨
      d.itemsOf e = [] := by
  unfold Draft.itemsOf Draft.unaliasedItems
  split
  · exact .inl rfl
  · rename_i table column _ _
    cases hkey : d.itemKey? table with
    | none =>
        exact .inr (.inr rfl)
    | some key =>
        exact .inr (.inl ⟨table, key, column, hkey, rfl⟩)
  · exact .inr (.inr rfl)

theorem key_columnItem (e : Sql.Expr) (key column : String) :
    (d.columnItem e key column).key = key := by
  unfold Draft.columnItem
  split <;> rfl

theorem key_mem_of_itemsOf (hd : Ready catalog d) {e : Sql.Expr} {item : SelectItem} :
    item ∈ d.itemsOf e → item.key ∈ d.canvas.query.tableKeys := by
  intro hitem
  rcases itemsOf_cases d e with hall | ⟨table, key, column, hkey, hone⟩ | hnone
  · rw [hall] at hitem
    rcases List.mem_map.1 hitem with ⟨key, hkey, rfl⟩
    exact hkey
  · rw [hone, List.mem_singleton] at hitem
    rw [hitem, key_columnItem]
    exact itemKey?_mem hd hkey
  · rw [hnone] at hitem
    cases hitem

/-! ## The whole list -/

/-- The draft with another query. -/
def withQuery (d : Draft) (query : Query) : Draft := { d with canvas := { d.canvas with query } }

/-- The draft with other selections. -/
def withColumns (d : Draft) (columns : Selections) : Draft :=
  withQuery d { d.canvas.query with columns }

theorem run_setColumns {entries : List (String × Selection)} :
    (∀ e ∈ entries, e.1 ∈ d.canvas.query.tableKeys) →
      EStateM.run (forIn entries PUnit.unit fun e _ => do
          edit (Edit.setColumns e.1 (listed e.2)); pure (.yield PUnit.unit)) d =
        .ok PUnit.unit (withColumns d (entries.foldl
          (fun m e => m.set e.1 (Edit.selectionOf (listed e.2))) d.canvas.query.columns)) := by
  intro hentries
  induction entries generalizing d with
  | nil =>
      rfl
  | cons e rest ih =>
      rcases Option.isSome_iff_exists.1 (Query.hasTable_iff.2 (hentries e List.mem_cons_self)) with
        ⟨table, hfind⟩
      have hset : (edit (Edit.setColumns e.1 (listed e.2))).run d = .ok () (withColumns d
          (d.canvas.query.columns.set e.1 (Edit.selectionOf (listed e.2)))) := by
        rw [run_edit, Edit.run_setColumns, hfind]
        rfl
      rw [List.forIn_cons, bind_assoc, EStateM.run_bind, hset]
      dsimp only
      simp only [pure_bind]
      exact ih fun e' he' => hentries e' (List.mem_cons_of_mem e he')

/-- The tables come into the order in which the list mentions them. -/
theorem run_orderTables (places : List (String × Nat)) (hd : d.canvas.query.Keyed) :
    ∃ tables, (orderTables places).run d =
        .ok () (withQuery d { d.canvas.query with tables }) ∧
      tables.map TableRef.key = orderByAppearance places d.canvas.query.tableKeys ∧
      tables.Perm d.canvas.query.tables := by
  have hget : (orderTables places).run d =
      (if 3 ≤ d.canvas.query.tableKeys.length then
        edit (Edit.reorderTables (orderByAppearance places d.canvas.query.tableKeys))
      else pure ()).run d := rfl
  rw [hget]
  split_ifs with hlength
  · have hperm := perm_orderByAppearance places d.canvas.query.tableKeys
    rw [run_edit, Edit.run_reorderTables, if_pos (List.isPerm_iff.2 hperm)]
    rcases hd.distinct.tables_inOrder hperm with ⟨hkeys, htables⟩
    exact ⟨_, rfl, hkeys, htables⟩
  · refine ⟨d.canvas.query.tables, rfl, ?_, .refl _⟩
    rw [orderByAppearance_of_length_lt (by omega)]
    rfl

/-- The columns of a table were collected without repetitions, so that nothing is left to drop. -/
theorem selectionOf_listed {s : Selection} (hs : s.Distinct) :
    Edit.selectionOf (listed s) = s := by
  cases s with
  | every =>
      rfl
  | only columns =>
      exact congrArg Selection.only (dedup_eq_self hs)

/-- What the list selects of a table is what its items select of it, and every column where none
belongs to the table. -/
theorem get_covered (hd : Unselected d) (items : List (List SelectItem)) (key : String) :
    ((Coverage.ofItems items).selections.entries.foldl
        (fun m e => m.set e.1 (Edit.selectionOf (listed e.2))) d.canvas.query.columns).get key =
      (Coverage.covered key items.flatten).getD .every := by
  have hnodup := Coverage.nodup_keys_ofItems items
  have hsame : (Coverage.ofItems items).selections.entries.foldl
      (fun m e => m.set e.1 (Edit.selectionOf (listed e.2))) d.canvas.query.columns =
        (Coverage.ofItems items).selections.entries.foldl
          (fun m e => m.set e.1 e.2) d.canvas.query.columns := by
    refine List.foldl_ext _ _ _ fun m e he => ?_
    have hselection := Selections.get?_of_mem hnodup he
    rw [Coverage.get?_ofItems] at hselection
    rw [selectionOf_listed (Coverage.distinct_covered hselection)]
  have hevery : (d.canvas.query.columns.get? key).getD .every = .every := by
    cases hget : d.canvas.query.columns.get? key with
    | none =>
        rfl
    | some s =>
        exact hd _ (Selections.mem_keys_of_get? hget)
  rw [hsame, Selections.get, Selections.get?_foldl_set hnodup, Coverage.get?_ofItems]
  cases Coverage.covered key items.flatten with
  | none =>
      exact hevery
  | some s =>
      rfl

/-- The list itself, after the word DISTINCT. -/
def readList (firstKey : String) (items : List Sql.Expr) : Reading Unit := do
  let c ← readItemsFrom firstKey 0 {} items
  for entry in c.selections.entries do edit (Edit.setColumns entry.1 (listed entry.2))
  orderTables c.places

theorem readItems_eq (s : Sql.Select) :
    readItems s = (do
      if s.isDistinct then warn .distinct
      let d ← get
      readList d.firstKey s.items) := rfl

/-- Once the items have been read, the tables come into their order and get their selections. -/
theorem run_readList_of_items {items : List Sql.Expr} {list : List (List SelectItem)}
    {reported : List Warning} (hd : Sound d) (hunselected : Unselected d)
    (hread : (readItemsFrom d.firstKey 0 {} items).run d =
      .ok (Coverage.ofItems list) (d.reporting reported))
    (hlist : ∀ item ∈ list.flatten, item.key ∈ d.canvas.query.tableKeys) :
    ∃ tables columns, (readList d.firstKey items).run d =
        .ok () (withQuery (d.reporting reported) { d.canvas.query with tables, columns }) ∧
      tables.map TableRef.key =
        orderByAppearance (Coverage.ofItems list).places d.canvas.query.tableKeys ∧
      tables.Perm d.canvas.query.tables ∧
      ∀ key, columns.get key = (Coverage.covered key list.flatten).getD .every := by
  -- Every entry of the coverage stands for a table, so that no selection is turned down.
  have hkeys : ∀ e ∈ (Coverage.ofItems list).selections.entries,
      e.1 ∈ (d.reporting reported).canvas.query.tableKeys := by
    intro e he
    have hget := Selections.get?_of_mem (Coverage.nodup_keys_ofItems _) he
    rw [Coverage.get?_ofItems] at hget
    rcases Coverage.exists_of_covered hget with ⟨item, hitem, hkey⟩
    rw [← hkey]
    exact hlist item hitem
  have hset := run_setColumns hkeys
  have hsound : Sound (withColumns (d.reporting reported)
      ((Coverage.ofItems list).selections.entries.foldl
        (fun m e => m.set e.1 (Edit.selectionOf (listed e.2))) d.canvas.query.columns)) :=
    (Preserves.forM (fun e => preserves_edit (clauseStable_sound.setColumns _ _)) _).of_run
      (s := d.reporting reported) hd hset
  rcases run_orderTables (Coverage.ofItems list).places hsound.query.keyed with
    ⟨tables, horder, hplaced, htables⟩
  refine ⟨tables, _, ?_, hplaced, htables, fun key => get_covered hunselected list key⟩
  unfold readList
  rw [EStateM.run_bind, hread]
  dsimp only
  rw [EStateM.run_bind, hset]
  exact horder

theorem run_readList (items : List Sql.Expr) (hd : Ready catalog d) :
    ∃ d', (readList d.firstKey items).run d = .ok () d' ∧
      d'.canvas.query.tableKeys = orderByAppearance
        (Coverage.ofItems (items.map d.itemsOf)).places d.canvas.query.tableKeys ∧
      d'.canvas.query.tables.Perm d.canvas.query.tables ∧
      (∀ key, d'.canvas.query.selection key =
        (Coverage.covered key (items.flatMap d.itemsOf)).getD .every) ∧
      (d'.warnings = [] → ∀ item ∈ items, d.itemsOf item ≠ []) := by
  rcases run_readItemsFrom 0 {} items d with ⟨reported, hread, hitems⟩
  have hread' : (readItemsFrom d.firstKey 0 {} items).run d =
      .ok (Coverage.ofItems (items.map d.itemsOf)) (d.reporting reported) := hread
  have hlist : ∀ item ∈ (items.map d.itemsOf).flatten, item.key ∈ d.canvas.query.tableKeys := by
    intro item hitem
    rw [← List.flatMap_def] at hitem
    rcases List.mem_flatMap.1 hitem with ⟨e, _, hitem⟩
    exact key_mem_of_itemsOf hd hitem
  rcases run_readList_of_items hd.sound hd.unselected hread' hlist with
    ⟨tables, columns, hrun, hplaced, htables, hcolumns⟩
  refine ⟨_, hrun, hplaced, htables, fun key => ?_, fun hnone => ?_⟩
  · rw [List.flatMap_def]
    exact hcolumns key
  · exact hitems hd.hasTable (List.append_eq_nil_iff.1 hnone).2

theorem Ready.reporting (hd : Ready catalog d) (reported : List Warning) :
    Ready catalog (d.reporting reported) :=
  ⟨hd.toBound.withWarnings _, hd.hasTable, hd.unselected⟩

/-- The SELECT list is always read.  It puts the tables into the order in which it mentions them and
selects what its items stand for; where nothing is reported, all of them stand for something. -/
theorem run_readItems (s : Sql.Select) (hd : Ready catalog d) :
    ∃ d', (readItems s).run d = .ok () d' ∧
      d'.canvas.query.tableKeys = orderByAppearance
        (Coverage.ofItems (s.items.map d.itemsOf)).places d.canvas.query.tableKeys ∧
      d'.canvas.query.tables.Perm d.canvas.query.tables ∧
      (∀ key, d'.canvas.query.selection key =
        (Coverage.covered key (s.items.flatMap d.itemsOf)).getD .every) ∧
      (d'.warnings = [] → ∀ item ∈ s.items, d.itemsOf item ≠ []) := by
  rw [readItems_eq]
  cases s.isDistinct with
  | true =>
      exact run_readList s.items (hd.reporting [.distinct])
  | false =>
      exact run_readList s.items hd

end Reading

end QueryDesigner

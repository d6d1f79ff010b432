import QueryDesigner.Proofs.Decompile.ColumnOrder
import QueryDesigner.Proofs.RoundTrip.Joins

/-!
# The SELECT list of a plain query is read back

* `Draft.Reads` — an item that stands for what it says;
* `Reading.run_readItemsFrom_of_reads` — such items are collected one after the other;
* `Reading.Selected` — a draft that has the tables, the joins and the selections of a query;
* `Query.IsPlain.run_readItems` — the SELECT list of a plain query leads to one.
-/

namespace QueryDesigner

/-- The item stands for what it says. -/
def Draft.Reads (d : Draft) : SelectItem → Prop
  | .all key => d.keyOf? key = some key
  | .column key name => d.Resolves key name

theorem Draft.itemKey?_eq {d : Draft} {key : String} (h : d.keyOf? key = some key) :
    d.itemKey? key = some key := by
  have hne : key ≠ "" := by
    rintro rfl
    cases h
  rw [itemKey?, if_neg hne, h]

namespace Reading

variable {catalog : Option Catalog} {d : Draft}

theorem run_readItem_of_reads (place : Nat) (c : Coverage) {i : SelectItem} (hi : d.Reads i) :
    (readItem d.firstKey place c i.written.expr).run d = .ok (c.add place i) d := by
  have hkey : ∀ {key : String}, d.keyOf? key = some key →
      (itemKey? d.firstKey key).run d = .ok (some key) d := by
    intro key h
    rw [run_itemKey?, Draft.itemKey?_eq h]
  cases i with
  | all key =>
      have hcolumns : readItem d.firstKey place c (SelectItem.all key).written.expr =
          readColumnItem d.firstKey place c (SelectItem.all key).written.expr key "*" := rfl
      rw [hcolumns, readColumnItem, EStateM.run_bind, hkey hi]
      rfl
  | column key name =>
      have hcolumn : readItem d.firstKey place c (SelectItem.column key name).written.expr =
          readColumnItem d.firstKey place c (SelectItem.column key name).written.expr key name := rfl
      rw [hcolumn, readColumnItem, EStateM.run_bind, hkey hi.stands]
      exact congrArg (fun s => EStateM.Result.ok (c.addColumn place key s) d) hi.spelled

/-- Items that stand for what they say are collected without a word. -/
theorem run_readItemsFrom_of_reads (place : Nat) (c : Coverage) {items : List SelectItem}
    (h : ∀ i ∈ items, d.Reads i) :
    (readItemsFrom d.firstKey place c (items.map fun i => i.written.expr)).run d =
      .ok (c.addFrom place (items.map fun i => [i])) d := by
  induction items generalizing place c with
  | nil => rfl
  | cons i rest ih =>
      obtain ⟨hi, hrest⟩ := List.forall_mem_cons.1 h
      rw [List.map_cons, readItemsFrom, EStateM.run_bind, run_readItem_of_reads place c hi]
      exact ih (place + 1) (c.add place i) hrest

/-- The draft has the tables, the joins and the selections of the query, and nothing was reported. -/
structure Selected (catalog : Option Catalog) (q : Query) (d : Draft) : Prop
    extends Knows catalog q.tables d where
  query : d.canvas.query.Draws q.tables q.completeJoins
  selection : ∀ key, d.canvas.query.selection key = q.pruned.selection key
  warnings : d.warnings = []

end Reading

/-- Two lists of the same tables with the same keys in a row. -/
theorem eq_of_perm_of_map_key {ts us : List TableRef} (hperm : ts.Perm us)
    (hkeys : ts.map TableRef.key = us.map TableRef.key) (hnodup : (us.map TableRef.key).Nodup) :
    ts = us := by
  induction ts generalizing us with
  | nil => exact hperm.nil_eq
  | cons t rest ih =>
      cases us with
      | nil => cases hkeys
      | cons u others =>
          obtain ⟨hkey, hrest⟩ := List.cons.inj hkeys
          have ht : t ∈ u :: others := hperm.mem_iff.1 List.mem_cons_self
          obtain rfl := List.inj_on_of_nodup_map hnodup ht List.mem_cons_self hkey
          rw [ih (hperm.cons_inv) hrest (List.nodup_cons.1 hnodup).2]

/-- The tables in another order, which their keys tell, and with other selections. -/
theorem Query.Draws.arranged {q : Query} {tables tables' : List TableRef} {joins : List Join}
    (h : q.Draws tables joins) {ts : List TableRef} {columns : Selections}
    (hts : ts.Perm q.tables) (hperm : tables.Perm tables')
    (hkeys : ts.map TableRef.key = tables'.map TableRef.key)
    (hnodup : (tables'.map TableRef.key).Nodup) :
    ({ q with tables := ts, columns } : Query).Draws tables' joins := by
  have hundated : ∀ us : List TableRef,
      (us.map TableRef.undated).map TableRef.key = us.map TableRef.key := fun us => by simp
  have htables : ts.map TableRef.undated = tables'.map TableRef.undated := by
    refine eq_of_perm_of_map_key ?_ (by rw [hundated, hundated, hkeys]) (by rwa [hundated])
    refine (hts.map TableRef.undated).trans ?_
    rw [h.map_undated]
    exact hperm.map TableRef.undated
  have hq : ({ q with tables := ts, columns } : Query).undated =
      { q.undated with tables := ts.map TableRef.undated, columns } := rfl
  rw [Draws, hq, h, htables]

theorem Query.exists_mem_selectItems {q : Query} {key : String} (hkey : key ∈ q.tableKeys) :
    ∃ i ∈ q.selectItems, i.key = key := by
  obtain ⟨i, hi⟩ := List.exists_mem_of_ne_nil _ (SelectItem.items_ne_nil key (q.selection key))
  rw [q.selectItems_eq]
  exact ⟨i, List.mem_flatMap.2 ⟨key, hkey, hi⟩, SelectItem.key_of_mem_items hi⟩

namespace Query.IsPlain

variable {catalog : Option Catalog} {q : Query} (hq : q.IsPlain catalog) {first : TableRef}
  {rest : List TableRef} (htables : q.tables = first :: rest) {d : Draft}
include hq

/-- A column that the statement names with its table is read as it is. -/
theorem resolves (hd : Reading.Knows catalog q.tables d) {key column : String}
    (hkey : key ∈ q.tableKeys) (hnames : q.Names key column) : d.Resolves key column := by
  obtain ⟨t, ht, rfl⟩ := List.mem_map.1 hkey
  obtain ⟨hname, hspelled⟩ := hq.columns t ht column hnames
  exact hd.resolves ht hname.ne_empty hspelled

theorem reads_of_mem_selectItems (hd : Reading.Knows catalog q.tables d) {i : SelectItem}
    (hi : i ∈ q.selectItems) : d.Reads i := by
  have hkey := mem_tableKeys_of_selectItems hi
  have hstands : ∀ key ∈ q.tableKeys, d.keyOf? key = some key := by
    intro key hkey
    obtain ⟨t, ht, rfl⟩ := List.mem_map.1 hkey
    rw [Draft.keyOf?, if_neg (hd.named t ht), hd.seen t ht]
  cases i with
  | all key => exact hstands key hkey
  | column key name => exact hq.resolves hd hkey (names_of_mem_selectItems hi)

/-- The items of a query select of each table what the query selects of it. -/
theorem covered_selectItems (key : String) :
    (Coverage.covered key q.selectItems).getD .every = q.pruned.selection key := by
  by_cases hkey : key ∈ q.tableKeys
  · have hmention : SelectItem.mention key q.selectItems = true := by
      simpa [SelectItem.mention] using exists_mem_selectItems hkey
    rw [Coverage.covered, if_pos hmention, q.selectItems_eq,
      SelectItem.ofItems_flatMap hq.distinctKeys (hq.selections key hkey) hkey, Option.getD_some]
    exact (q.columns.get_pruned hkey).symm
  · have hmention : SelectItem.mention key q.selectItems ≠ true := by
      intro hmention
      obtain ⟨i, hi, heq⟩ := List.any_eq_true.1 hmention
      exact hkey (beq_iff_eq.1 heq ▸ mem_tableKeys_of_selectItems hi)
    rw [Coverage.covered, if_neg hmention, Option.getD_none]
    exact (q.columns.get_pruned_of_notMem hkey).symm

include htables in
/-- The selections of the query are read back, and its tables come into their order. -/
theorem run_readItems {p : Sql.PlainSelect} (hp : p.Writes q)
    (hd : Reading.Drawn catalog (first.andIntroduced q.joinClauses) q.completeJoins d) :
    ∃ d', (Reading.readItems p.select).run d = .ok () d' ∧ Reading.Selected catalog q d' := by
  have hperm := hq.perm_introduced htables
  have hknows := hd.knows.mono hperm.symm.subset
  have hkeys : d.canvas.query.tableKeys = (first.andIntroduced q.joinClauses).map TableRef.key :=
    hd.query.tableKeys_eq
  have hkeysPerm : q.tableKeys.Perm d.canvas.query.tableKeys := by
    rw [hkeys]
    exact (hperm.map TableRef.key).symm
  have hnodup : d.canvas.query.tableKeys.Nodup := hkeysPerm.nodup_iff.1 hq.distinctKeys
  -- each item of the list stands for itself
  have hflatten : (q.selectItems.map fun i => [i]).flatten = q.selectItems := by
    rw [← List.flatMap_def, List.flatMap_singleton']
  have hexprs : p.select.items = q.selectItems.map fun i => i.written.expr := by
    rw [Sql.PlainSelect.select, hp.items, List.map_map]
    rfl
  have hread : (Reading.readItemsFrom d.firstKey 0 {} p.select.items).run d =
      .ok (Coverage.ofItems (q.selectItems.map fun i => [i])) (d.reporting []) := by
    rw [hexprs, Reading.run_readItemsFrom_of_reads 0 {} fun i hi =>
      hq.reads_of_mem_selectItems hknows hi]
    simp [Draft.reporting, Coverage.ofItems]
  obtain ⟨tables, columns, hrun, hplaced, hmoved, hcolumns⟩ :=
    Reading.run_readList_of_items hd.sound hd.unselected hread fun i hi => by
      rw [hflatten] at hi
      exact hkeysPerm.subset (mem_tableKeys_of_selectItems hi)
  have hrun' : (Reading.readItems p.select).run d = .ok () (Reading.withQuery (d.reporting [])
      { d.canvas.query with tables, columns }) := hrun
  -- the list mentions the tables in the order of the query
  have horder : orderByAppearance (Coverage.ofItems (q.selectItems.map fun i => [i])).places
      d.canvas.query.tableKeys = q.tableKeys := by
    rw [SelectItem.orderByAppearance_ofItems fun key hkey => by
      rw [hflatten]
      exact exists_mem_selectItems (hkeysPerm.symm.subset hkey)]
    refine SelectItem.byAppearance_of_grouped hnodup
      (List.forall_mem_map.2 fun i _ => .inr ⟨i, rfl⟩) (List.forall_mem_map.2 fun i _ => by simp)
      hkeysPerm ?_ (hflatten.trans q.selectItems_eq)
    rw [hkeys, tableKeys, htables]
    rfl
  have hdraws : ({ d.canvas.query with tables, columns } : Query).Draws q.tables q.completeJoins :=
    hd.query.arranged hmoved hperm (hplaced.trans horder) hq.distinctKeys
  have hsound :=
    (Reading.preserves_readItems Reading.clauseStable_sound p.select).of_run hd.sound hrun'
  refine ⟨_, hrun', ?_⟩
  exact
    { catalog := hknows.catalog
      named := hknows.named
      seen := hknows.seen
      found := fun t ht => hdraws.exists_findTable? hsound.query.keyed ht
      query := hdraws
      selection := fun key => by
        refine (hcolumns key).trans ?_
        rw [hflatten, hq.covered_selectItems key]
      warnings := (List.append_nil _).trans hd.warnings }

end Query.IsPlain

end QueryDesigner

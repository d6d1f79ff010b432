import QueryDesigner.Proofs.Query.Keyed

/-!
# Well-formed queries

* `Query.WellFormed` — every table has a key of its own, selections stand for exactly these keys and
  list no column twice, and joins end in them;
* `WellFormed.withTable`, `WellFormed.renamed`, … — what the edits make of a well-formed query is
  well-formed.
-/

namespace QueryDesigner

/-- Every table has a name and a key of its own, every key has one selection, which lists no column
twice, and both ends of every join are keys. -/
structure Query.WellFormed (q : Query) : Prop where
  named : ∀ t ∈ q.tables, t.name ≠ ""
  distinct : q.DistinctKeys
  columnKeys : q.columns.keys.Perm q.tableKeys
  selections : q.columns.Distinct
  joinEnds : ∀ j ∈ q.joins, j.leftTable ∈ q.tableKeys ∧ j.rightTable ∈ q.tableKeys

namespace Query

variable {q : Query}

theorem Keyed.wellFormed (h : q.Keyed) (hselections : q.columns.Distinct) : q.WellFormed :=
  ⟨h.named, h.distinct, h.columnKeys, hselections, h.joinEnds⟩

namespace WellFormed

theorem keyed (h : q.WellFormed) : q.Keyed :=
  ⟨h.named, h.distinct, h.columnKeys, h.joinEnds⟩

theorem empty : ({} : Query).WellFormed :=
  Keyed.empty.wellFormed (by simp [Selections.Distinct])

/-! ## Tables -/

theorem withTable {t : TableRef} :
    q.WellFormed → t.name ≠ "" → t.key ∉ q.tableKeys → (q.withTable t).WellFormed := by
  intro h hname hkey
  exact (h.keyed.withTable hname hkey).wellFormed (h.selections.set trivial)

theorem withoutTable (key : String) : q.WellFormed → (q.withoutTable key).WellFormed := by
  intro h
  exact (h.keyed.withoutTable key).wellFormed (h.selections.erase key)

theorem renamed {old new : String} {aliasName : Option String} {table : TableRef} :
    q.WellFormed → q.findTable? old = some table → new ∉ q.tableKeys →
      ({ table with aliasName } : TableRef).key = new →
        (q.renamed old new aliasName).WellFormed := by
  intro h hfind hfree hnew
  have hfree' : new ∉ q.columns.keys := fun hmem => hfree (h.keyed.mem_keys.1 hmem)
  exact (h.keyed.renamed hfind hfree hnew).wellFormed (h.selections.rekey h.keyed.keys_nodup hfree')

theorem withAlias {key : String} {aliasName : Option String} {table : TableRef} :
    q.WellFormed → q.findTable? key = some table →
      ({ table with aliasName } : TableRef).key = key → (q.withAlias key aliasName).WellFormed := by
  intro h hfind hsame
  exact (h.keyed.withAlias hfind hsame).wellFormed h.selections

theorem inOrder {keys : List String} :
    q.WellFormed → keys.Perm q.tableKeys → (q.inOrder keys).WellFormed := by
  intro h hperm
  exact (h.keyed.inOrder hperm).wellFormed h.selections

/-! ## Selections -/

theorem withSelection {key : String} {s : Selection} :
    q.WellFormed → key ∈ q.tableKeys → s.Distinct → (q.withSelection key s).WellFormed := by
  intro h hkey hs
  exact (h.keyed.withSelection s hkey).wellFormed (h.selections.set hs)

theorem withEverySelection {s : Selection} (hs : s.Distinct) (h : q.WellFormed) :
    (q.withEverySelection s).WellFormed := by
  refine (h.keyed.withEverySelection s).wellFormed ?_
  have hfold : ∀ (keys : List String) (r : Query), r.columns.Distinct →
      (keys.foldl (fun q key => q.withSelection key s) r).columns.Distinct := by
    intro keys
    induction keys with
    | nil =>
        intro r hr
        exact hr
    | cons k rest ih =>
        intro r hr
        exact ih _ (hr.set hs)
  exact hfold q.tableKeys q h.selections

/-! ## Other parts -/

/-- Joins may come and go as long as they end in tables of the query. -/
theorem withJoins (h : q.WellFormed) {joins : List Join}
    (hends : ∀ j ∈ joins, j.leftTable ∈ q.tableKeys ∧ j.rightTable ∈ q.tableKeys) :
    ({ q with joins } : Query).WellFormed :=
  (h.keyed.withJoins hends).wellFormed h.selections

/-- Conditions, order, groups and paging have no part in it. -/
theorem congr {r : Query} (h : q.WellFormed) (htables : r.tables = q.tables)
    (hcolumns : r.columns = q.columns) (hjoins : r.joins = q.joins) : r.WellFormed :=
  (h.keyed.congr htables hcolumns hjoins).wellFormed (hcolumns ▸ h.selections)

end WellFormed
end Query
end QueryDesigner

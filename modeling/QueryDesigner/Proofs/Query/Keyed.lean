import QueryDesigner.Proofs.Canvas.Outcome
import QueryDesigner.Proofs.Query.FreeNumber
import QueryDesigner.Proofs.Query.Selections

/-!
# Keys identify tables

* `Query.Keyed` — every table has a key of its own, selections stand for exactly these keys, and
  joins end in them;
* `Keyed.withTable`, `Keyed.renamed`, … — what the edits make of a keyed query is keyed;
* `Query.tables_withAlias`, `Keyed.tables_renamed`, `DistinctKeys.tables_inOrder` — the tables after
  an edit that keeps them.

The clauses lean on each other: a rename keeps the selections in step with the tables only because
no selection is left over from a table that is gone.
-/

namespace QueryDesigner

/-- Every table has a name and a key of its own, every key has one selection, and both ends of every
join are keys. -/
structure Query.Keyed (q : Query) : Prop where
  named : ∀ t ∈ q.tables, t.name ≠ ""
  distinct : q.DistinctKeys
  columnKeys : q.columns.keys.Perm q.tableKeys
  joinEnds : ∀ j ∈ q.joins, j.leftTable ∈ q.tableKeys ∧ j.rightTable ∈ q.tableKeys

namespace TableRef

/-- The key is the alias, or the name where the alias is absent or empty. -/
theorem key_eq (t : TableRef) :
    t.key = t.name ∨ ∃ a, a ≠ "" ∧ t.aliasName = some a ∧ t.key = a := by
  rcases t with ⟨name, _ | a, ordinal⟩
  · exact .inl rfl
  · by_cases ha : a = ""
    · exact .inl (by simp [key, aliasOf, ha])
    · exact .inr ⟨a, ha, rfl, by simp [key, aliasOf, ha]⟩

theorem key_ne_empty {t : TableRef} (h : t.name ≠ "") : t.key ≠ "" := by
  rcases t.key_eq with hkey | ⟨a, ha, _, hkey⟩
  · rwa [hkey]
  · rwa [hkey]

end TableRef

namespace Query

variable {q : Query}

/-! ## Tables after an edit -/

theorem tableKeys_withTable (q : Query) (t : TableRef) :
    (q.withTable t).tableKeys = q.tableKeys ++ [t.key] := by
  simp [withTable, tableKeys]

theorem tableKeys_withoutTable (q : Query) (key : String) :
    (q.withoutTable key).tableKeys = q.tableKeys.filter fun k => k != key := by
  simp [withoutTable, tableKeys, List.filter_map, Function.comp_def]

/-- A list with its first item of a kind changed. -/
theorem modify_findIdx {α : Type} {p : α → Bool} {f : α → α} {before after : List α} {x : α} :
    (∀ y ∈ before, p y = false) → p x = true →
      (before ++ x :: after).modify ((before ++ x :: after).findIdx p) f =
        before ++ f x :: after := by
  intro hbefore hx
  induction before with
  | nil =>
      simp [List.findIdx_cons, hx]
  | cons y ys ih =>
      have hy : p y = false := hbefore y (by simp)
      have hys := ih fun z hz => hbefore z (List.mem_cons_of_mem y hz)
      simp [List.findIdx_cons, hy, hys]

/-- A change at one place seen through a view. -/
theorem map_modify {α β : Type} {f : α → α} {g : α → β} {f' : β → β} (xs : List α) (n : Nat) :
    (∀ x, g (f x) = f' (g x)) → (xs.modify n f).map g = (xs.map g).modify n f' := by
  intro h
  refine List.ext_getElem? fun i => ?_
  simp only [List.getElem?_map, List.getElem?_modify]
  cases xs[i]? with
  | none =>
      simp
  | some x =>
      by_cases hi : n = i <;> simp [hi, h]

/-- The one table whose alias changes stays in its place. -/
theorem tables_withAlias {key : String} (aliasName : Option String) {table : TableRef} :
    q.findTable? key = some table →
      ∃ before after, q.tables = before ++ table :: after ∧
        (q.withAlias key aliasName).tables = before ++ { table with aliasName } :: after := by
  intro hfind
  rcases findTable?_split hfind with ⟨htable, before, after, hsplit, hbefore⟩
  refine ⟨before, after, hsplit, ?_⟩
  simp only [Query.withAlias]
  rw [hsplit]
  refine modify_findIdx ?_ (by simpa using htable)
  intro t ht
  simpa using hbefore t ht

/-- An alias that leaves the key of its table as it is leaves all keys as they are. -/
theorem tableKeys_withAlias {key : String} {aliasName : Option String} {table : TableRef} :
    q.findTable? key = some table → ({ table with aliasName } : TableRef).key = key →
      (q.withAlias key aliasName).tableKeys = q.tableKeys := by
  intro hfind hsame
  have htable := (findTable?_split hfind).1
  rcases tables_withAlias aliasName hfind with ⟨before, after, hsplit, hnew⟩
  simp [tableKeys, hnew, hsplit, hsame, htable]

/-- Every key but the old one is still there after a rename, and the new one is. -/
theorem mem_tableKeys_renamed {old new : String} {aliasName : Option String} {table : TableRef} :
    q.findTable? old = some table → ({ table with aliasName } : TableRef).key = new →
      new ∈ (q.renamed old new aliasName).tableKeys ∧
        ∀ k ∈ q.tableKeys, k ≠ old → k ∈ (q.renamed old new aliasName).tableKeys := by
  intro hfind hnew
  rcases findTable?_split hfind with ⟨htable, before, after, hsplit, _⟩
  constructor
  · refine List.mem_map.2 ⟨{ table with aliasName }, ?_, hnew⟩
    exact List.mem_map.2 ⟨table, by simp [hsplit], by simp [htable]⟩
  · intro k hk hne
    rcases List.mem_map.1 hk with ⟨t, ht, rfl⟩
    exact List.mem_map.2 ⟨t, List.mem_map.2 ⟨t, ht, by simp [hne]⟩, rfl⟩

theorem DistinctKeys.lastTable?_eq (h : q.DistinctKeys) {t : TableRef} (ht : t ∈ q.tables) :
    q.lastTable? t.key = some t := by
  cases hfind : q.lastTable? t.key with
  | none =>
      have hnone := List.find?_eq_none.1 hfind t (List.mem_reverse.2 ht)
      simp at hnone
  | some u =>
      have hmem : u ∈ q.tables := List.mem_reverse.1 (List.mem_of_find?_eq_some hfind)
      have hkey : u.key = t.key := by simpa using List.find?_some hfind
      rw [List.inj_on_of_nodup_map h hmem ht hkey]

/-- A permutation of the keys puts the very same tables into another order. -/
theorem DistinctKeys.tables_inOrder (h : q.DistinctKeys) {keys : List String} :
    keys.Perm q.tableKeys →
      (q.inOrder keys).tableKeys = keys ∧ (q.inOrder keys).tables.Perm q.tables := by
  intro hperm
  -- In their own order the keys find the tables in their own order.
  have hself : q.tableKeys.filterMap q.lastTable? = q.tables := by
    simp only [tableKeys, List.filterMap_map]
    rw [List.filterMap_congr (g := some)]
    · simp
    · intro t ht
      exact h.lastTable?_eq ht
  constructor
  · have hfound : ∀ k ∈ keys, (q.lastTable? k).map TableRef.key = some k := by
      intro k hk
      rcases List.mem_map.1 (hperm.mem_iff.1 hk) with ⟨t, ht, rfl⟩
      simp [h.lastTable?_eq ht]
    simp only [inOrder, tableKeys, List.map_filterMap]
    rw [List.filterMap_congr (g := some) hfound]
    simp
  · have hmapped := hperm.filterMap q.lastTable?
    rwa [hself] at hmapped

/-- An alias that is given by key is given to one table only. -/
theorem DistinctKeys.map_aliased (h : q.DistinctKeys) {aliasName : Option String}
    {table : TableRef} {before after : List TableRef}
    (hsplit : q.tables = before ++ table :: after) :
    (q.tables.map fun t => if t.key = table.key then { t with aliasName } else t) =
      before ++ { table with aliasName } :: after := by
  have hnodup : ((before ++ table :: after).map TableRef.key).Nodup := hsplit ▸ h
  rw [List.map_append, List.map_cons, List.nodup_middle, List.nodup_cons] at hnodup
  have hothers : ∀ ts : List TableRef, (∀ t ∈ ts, t ∈ before ++ after) →
      (ts.map fun t => if t.key = table.key then { t with aliasName } else t) = ts := by
    intro ts hts
    have hne : ∀ t ∈ ts, t.key ≠ table.key := by
      intro t ht heq
      have hmem := List.mem_map_of_mem (f := TableRef.key) (hts t ht)
      rw [List.map_append, heq] at hmem
      exact hnodup.1 hmem
    rw [List.map_congr_left fun t ht => if_neg (hne t ht), List.map_id']
  rw [hsplit, List.map_append, List.map_cons, if_pos rfl]
  rw [hothers before fun t ht => List.mem_append_left _ ht,
    hothers after fun t ht => List.mem_append_right _ ht]

/-- What every single selection preserves, the selection of all tables preserves. -/
theorem withEverySelection_of {P : Query → Prop} {s : Selection} :
    P q → (∀ r, ∀ key ∈ q.tableKeys, P r → P (r.withSelection key s)) →
      P (q.withEverySelection s) := by
  intro hq hstep
  -- The keys are those of the first query throughout; the fold itself runs through other queries.
  have hfold : ∀ keys ⊆ q.tableKeys, ∀ r, P r →
      P (keys.foldl (fun q key => q.withSelection key s) r) := by
    intro keys
    induction keys with
    | nil =>
        intro _ r hr
        exact hr
    | cons k rest ih =>
        intro hkeys r hr
        rcases List.cons_subset.1 hkeys with ⟨hk, hrest⟩
        exact ih hrest _ (hstep r k hk hr)
  exact hfold q.tableKeys (List.Subset.refl _) q hq

theorem tables_withEverySelection (q : Query) (s : Selection) :
    (q.withEverySelection s).tables = q.tables :=
  withEverySelection_of (P := fun r => r.tables = q.tables) rfl fun _ _ _ hr => hr

theorem tableKeys_withEverySelection (q : Query) (s : Selection) :
    (q.withEverySelection s).tableKeys = q.tableKeys := by
  rw [tableKeys, tables_withEverySelection, tableKeys]

theorem rename_injOn {old new : String} (hfree : new ∉ q.tableKeys) :
    ∀ a ∈ q.tableKeys, ∀ b ∈ q.tableKeys,
      (if a = old then new else a) = (if b = old then new else b) → a = b := by
  intro a ha b hb hab
  by_cases hao : a = old <;> by_cases hbo : b = old
  · rw [hao, hbo]
  · -- The new key would be one that is there already, and likewise in the next case.
    simp only [hao, hbo, if_true, if_false] at hab
    exact absurd (hab ▸ hb) hfree
  · simp only [hao, hbo, if_true, if_false] at hab
    exact absurd (hab ▸ ha) hfree
  · simpa [hao, hbo] using hab

namespace Keyed

theorem empty : ({} : Query).Keyed where
  named := by simp
  distinct := by simp [DistinctKeys, tableKeys]
  columnKeys := by simp [Selections.keys, tableKeys]
  joinEnds := by simp

theorem key_ne_empty (h : q.Keyed) : ∀ k ∈ q.tableKeys, k ≠ "" := by
  intro k hk
  rcases List.mem_map.1 hk with ⟨t, ht, rfl⟩
  exact TableRef.key_ne_empty (h.named t ht)

theorem keys_nodup (h : q.Keyed) : q.columns.keys.Nodup :=
  h.columnKeys.nodup_iff.2 h.distinct

theorem mem_keys (h : q.Keyed) {key : String} : key ∈ q.columns.keys ↔ key ∈ q.tableKeys :=
  h.columnKeys.mem_iff

/-! ## Tables -/

theorem withTable {t : TableRef} :
    q.Keyed → t.name ≠ "" → t.key ∉ q.tableKeys → (q.withTable t).Keyed := by
  intro h hname hkey
  have hkeys := q.tableKeys_withTable t
  have hnew : t.key ∉ q.columns.keys := fun hmem => hkey (h.mem_keys.1 hmem)
  constructor
  · intro u hu
    rcases List.mem_append.1 hu with hu | hu
    · exact h.named u hu
    · rw [List.mem_singleton.1 hu]
      exact hname
  · unfold DistinctKeys
    rw [hkeys]
    refine List.nodup_append.2 ⟨h.distinct, by simp, ?_⟩
    intro a ha b hb hab
    rw [List.mem_singleton.1 hb] at hab
    exact hkey (hab ▸ ha)
  · rw [hkeys]
    simp only [Query.withTable]
    rw [Selections.keys_set_of_notMem hnew]
    exact h.columnKeys.append_right [t.key]
  · intro j hj
    rw [hkeys]
    exact (h.joinEnds j hj).imp (List.mem_append_left _) (List.mem_append_left _)

theorem withoutTable (key : String) : q.Keyed → (q.withoutTable key).Keyed := by
  intro h
  have hkeys := q.tableKeys_withoutTable key
  constructor
  · intro t ht
    exact h.named t (List.mem_of_mem_filter ht)
  · unfold DistinctKeys
    rw [hkeys]
    exact List.Nodup.filter _ h.distinct
  · rw [hkeys]
    simp only [Query.withoutTable]
    rw [Selections.keys_erase]
    exact h.columnKeys.filter _
  · intro j hj
    rcases List.mem_filter.1 hj with ⟨hmem, hkept⟩
    have hends : j.leftTable ≠ key ∧ j.rightTable ≠ key := by
      simpa [Join.mentions] using hkept
    rw [hkeys]
    exact ⟨List.mem_filter.2 ⟨(h.joinEnds j hmem).1, by simpa using hends.1⟩,
      List.mem_filter.2 ⟨(h.joinEnds j hmem).2, by simpa using hends.2⟩⟩

/-- No other table has the key of a table that is found. -/
theorem eq_of_key (h : q.Keyed) {t table : TableRef} {key : String} :
    q.findTable? key = some table → t ∈ q.tables → t.key = key → t = table := by
  intro hfind ht hkey
  rcases findTable?_split hfind with ⟨htable, before, after, hsplit, _⟩
  refine List.inj_on_of_nodup_map h.distinct ht ?_ (hkey.trans htable.symm)
  simp [hsplit]

/-- A table is the one that is found by its key. -/
theorem findTable?_of_mem (h : q.Keyed) {table : TableRef} (ht : table ∈ q.tables) :
    q.findTable? table.key = some table := by
  have hthere : q.hasTable table.key = true := hasTable_iff.2 (List.mem_map_of_mem ht)
  rcases Option.isSome_iff_exists.1 hthere with ⟨found, hfind⟩
  rw [hfind, h.eq_of_key hfind ht rfl]

/-- A table that changes its key stays in its place. -/
theorem tables_renamed (h : q.Keyed) {old new : String} {aliasName : Option String}
    {table : TableRef} (hfind : q.findTable? old = some table) :
    ∃ before after, q.tables = before ++ table :: after ∧
      (q.renamed old new aliasName).tables = before ++ { table with aliasName } :: after := by
  rcases findTable?_split hfind with ⟨rfl, before, after, hsplit, _⟩
  exact ⟨before, after, hsplit, h.distinct.map_aliased hsplit⟩

/-- The tables are the same whether an alias is given to one place or to one key. -/
theorem tables_withAlias_eq (h : q.Keyed) {old : String} (new : String)
    (aliasName : Option String) {table : TableRef} (hfind : q.findTable? old = some table) :
    (q.withAlias old aliasName).tables = (q.renamed old new aliasName).tables := by
  have hkey := (findTable?_split hfind).1
  rcases tables_withAlias aliasName hfind with ⟨before, after, hsplit, hplace⟩
  rw [hplace, ← h.distinct.map_aliased hsplit, hkey]
  rfl

/-- The keys after a rename: the new one stands in the place of the old one. -/
theorem tableKeys_renamed (h : q.Keyed) {old new : String} {aliasName : Option String}
    {table : TableRef} :
    q.findTable? old = some table → ({ table with aliasName } : TableRef).key = new →
      (q.renamed old new aliasName).tableKeys =
        q.tableKeys.map fun k => if k = old then new else k := by
  intro hfind hnew
  simp only [Query.renamed, tableKeys, List.map_map]
  refine List.map_congr_left fun t ht => ?_
  by_cases hkey : t.key = old
  · have ht' := h.eq_of_key hfind ht hkey
    subst ht'
    simpa [hkey] using hnew
  · simp [hkey]

theorem renamed {old new : String} {aliasName : Option String} {table : TableRef} :
    q.Keyed → q.findTable? old = some table → new ∉ q.tableKeys →
      ({ table with aliasName } : TableRef).key = new → (q.renamed old new aliasName).Keyed := by
  intro h hfind hfree hnew
  have hkeys := h.tableKeys_renamed hfind hnew
  have hfree' : new ∉ q.columns.keys := fun hmem => hfree (h.mem_keys.1 hmem)
  have hend : ∀ k ∈ q.tableKeys,
      (if k = old then new else k) ∈ (q.renamed old new aliasName).tableKeys := by
    intro k hk
    rw [hkeys]
    exact List.mem_map.2 ⟨k, hk, rfl⟩
  constructor
  · intro t ht
    rcases List.mem_map.1 ht with ⟨u, hu, rfl⟩
    by_cases hkey : u.key = old <;> simpa [hkey] using h.named u hu
  · unfold DistinctKeys
    rw [hkeys]
    exact List.Nodup.map_on (rename_injOn hfree) h.distinct
  · rw [hkeys]
    simp only [Query.renamed]
    -- The dictionary is built anew; since the new key is free no entry overwrites another one.
    rw [Selections.keys_rekey h.keys_nodup hfree']
    exact h.columnKeys.map _
  · intro j hj
    rcases List.mem_map.1 hj with ⟨i, hi, rfl⟩
    exact ⟨hend _ (h.joinEnds i hi).1, hend _ (h.joinEnds i hi).2⟩

theorem withAlias {key : String} {aliasName : Option String} {table : TableRef} :
    q.Keyed → q.findTable? key = some table →
      ({ table with aliasName } : TableRef).key = key → (q.withAlias key aliasName).Keyed := by
  intro h hfind hsame
  rcases tables_withAlias aliasName hfind with ⟨before, after, hsplit, hnew⟩
  have hkeys := tableKeys_withAlias hfind hsame
  constructor
  · intro t ht
    rw [hnew, List.mem_append, List.mem_cons] at ht
    have hmem : ∀ u ∈ before ++ table :: after, u.name ≠ "" := hsplit ▸ h.named
    rcases ht with ht | rfl | ht
    · exact hmem t (by simp [ht])
    · exact hmem table (by simp)
    · exact hmem t (by simp [ht])
  · unfold DistinctKeys
    rw [hkeys]
    exact h.distinct
  · rw [hkeys]
    exact h.columnKeys
  · rw [hkeys]
    exact h.joinEnds

theorem inOrder {keys : List String} :
    q.Keyed → keys.Perm q.tableKeys → (q.inOrder keys).Keyed := by
  intro h hperm
  rcases h.distinct.tables_inOrder hperm with ⟨hkeys, htables⟩
  constructor
  · intro t ht
    exact h.named t (htables.mem_iff.1 ht)
  · unfold DistinctKeys
    rw [hkeys]
    exact hperm.nodup_iff.2 h.distinct
  · rw [hkeys]
    exact h.columnKeys.trans hperm.symm
  · intro j hj
    rw [hkeys]
    exact (h.joinEnds j hj).imp hperm.mem_iff.2 hperm.mem_iff.2

/-! ## Selections -/

theorem withSelection {key : String} (s : Selection) :
    q.Keyed → key ∈ q.tableKeys → (q.withSelection key s).Keyed := by
  intro h hkey
  have hkeys : (q.columns.set key s).keys = q.columns.keys :=
    Selections.keys_set_of_mem (h.mem_keys.2 hkey)
  exact ⟨h.named, h.distinct, hkeys ▸ h.columnKeys, h.joinEnds⟩

theorem withEverySelection (s : Selection) (h : q.Keyed) : (q.withEverySelection s).Keyed := by
  -- The tables stay as they are, so that every key that is still to come is there.
  have hboth : (q.withEverySelection s).Keyed ∧
      (q.withEverySelection s).tableKeys = q.tableKeys := by
    refine withEverySelection_of (P := fun r => r.Keyed ∧ r.tableKeys = q.tableKeys) ⟨h, rfl⟩ ?_
    rintro r key hkey ⟨hr, hkeys⟩
    exact ⟨hr.withSelection s (hkeys ▸ hkey), hkeys⟩
  exact hboth.1

/-! ## Other parts -/

/-- Joins may come and go as long as they end in tables of the query. -/
theorem withJoins (h : q.Keyed) {joins : List Join}
    (hends : ∀ j ∈ joins, j.leftTable ∈ q.tableKeys ∧ j.rightTable ∈ q.tableKeys) :
    ({ q with joins } : Query).Keyed :=
  ⟨h.named, h.distinct, h.columnKeys, hends⟩

/-- Conditions, order, groups and paging have no part in it. -/
theorem congr {r : Query} (h : q.Keyed) (htables : r.tables = q.tables)
    (hcolumns : r.columns = q.columns) (hjoins : r.joins = q.joins) : r.Keyed := by
  have hkeys : r.tableKeys = q.tableKeys := by rw [tableKeys, htables, tableKeys]
  exact ⟨htables ▸ h.named, by rw [DistinctKeys, hkeys]; exact h.distinct,
    by rw [hcolumns, hkeys]; exact h.columnKeys, by rw [hjoins, hkeys]; exact h.joinEnds⟩

end Keyed
end Query
end QueryDesigner

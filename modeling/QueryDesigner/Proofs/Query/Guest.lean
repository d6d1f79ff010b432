import QueryDesigner.Proofs.Query.References

/-!
# A query with a guest

A table that comes in last, and all that comes in to refer to it, stand after what was there before.

* `Extends` — a list with further items of one kind after it;
* `Query.WithGuest` — a query with one more table at its end, and with what has to do with it;
* `WithGuest.renamed`, `WithGuest.withSelection`, … — the edits that concern the guest leave the
  rest as it is;
* `WithGuest.withoutTable` — once the guest is gone, the query is what it was.
-/

namespace QueryDesigner

/-! ## Further items -/

/-- A list with further items after it, all of one kind. -/
def Extends {α : Type} (P : α → Prop) (xs ys : List α) : Prop :=
  ∃ extra, (∀ x ∈ extra, P x) ∧ ys = xs ++ extra

namespace Extends

variable {α : Type} {P Q : α → Prop} {xs ys : List α}

theorem refl (xs : List α) : Extends P xs xs := ⟨[], by simp, by simp⟩

theorem append {x : α} (hx : P x) : Extends P xs ys → Extends P xs (ys ++ [x]) := by
  rintro ⟨extra, hextra, rfl⟩
  refine ⟨extra ++ [x], ?_, by simp⟩
  intro y hy
  rcases List.mem_append.1 hy with hy | hy
  · exact hextra y hy
  · exact List.mem_singleton.1 hy ▸ hx

theorem map {f : α → α} (hxs : ∀ x ∈ xs, f x = x) (hf : ∀ x, P x → Q (f x)) :
    Extends P xs ys → Extends Q xs (ys.map f) := by
  rintro ⟨extra, hextra, rfl⟩
  refine ⟨extra.map f, ?_, ?_⟩
  · intro y hy
    rcases List.mem_map.1 hy with ⟨x, hx, rfl⟩
    exact hf x (hextra x hx)
  · rw [List.map_append, List.map_congr_left hxs, List.map_id']

theorem filter {p : α → Bool} (hxs : ∀ x ∈ xs, p x = true) (hp : ∀ x, P x → p x = false) :
    Extends P xs ys → ys.filter p = xs := by
  rintro ⟨extra, hextra, rfl⟩
  have hnone : extra.filter p = [] := by
    refine List.filter_eq_nil_iff.2 fun x hx => ?_
    simp [hp x (hextra x hx)]
  rw [List.filter_append, List.filter_eq_self.2 hxs, hnone, List.append_nil]

end Extends

/-! ## The guest -/

/-- The second query is the first one with a table of a new key at its end, and with joins and
references after the others that have to do with that key. -/
structure Query.WithGuest (q : Query) (key : String) (r : Query) : Prop where
  stranger : q.Forgets key
  tables : ∃ t : TableRef, t.key = key ∧ r.tables = q.tables ++ [t]
  columns : ∃ s, r.columns.entries = q.columns.entries ++ [(key, s)]
  joins : Extends (fun j => j.mentions key = true) q.joins r.joins
  conditions : Extends (fun c => Reference.refersTo c.column key = true) q.conditions r.conditions
  orderBy : Extends (fun o => Reference.refersTo o.column key = true) q.orderBy r.orderBy
  groupBy : Extends (fun g => Reference.refersTo g key = true) q.groupBy r.groupBy
  limit : r.limit = q.limit
  offset : r.offset = q.offset

namespace Query

variable {q r : Query} {key old new : String}

/-- A key that no table has and no reference starts with has no part in a keyed query. -/
theorem Keyed.forgets (h : q.Keyed) (hkey : key ∉ q.tableKeys)
    (hreferences : ∀ ref ∈ q.references, Reference.refersTo ref key = false) : q.Forgets key where
  tables := hkey
  selections := fun hmem => hkey (h.mem_keys.1 hmem)
  joins := by
    intro j hj
    have hends := h.joinEnds j hj
    exact ⟨fun heq => hkey (heq ▸ hends.1), fun heq => hkey (heq ▸ hends.2)⟩
  references := hreferences

namespace Forgets

variable (h : q.Forgets key)

include h

theorem table_key_ne {t : TableRef} (ht : t ∈ q.tables) : t.key ≠ key := by
  intro heq
  exact h.tables (heq ▸ List.mem_map_of_mem ht)

theorem mentions_eq_false {j : Join} (hj : j ∈ q.joins) : j.mentions key = false := by
  simpa [Join.mentions] using h.joins j hj

theorem condition_refersTo {c : Condition} (hc : c ∈ q.conditions) :
    Reference.refersTo c.column key = false :=
  h.references _ (mem_references.2 (.inl ⟨c, hc, rfl⟩))

theorem order_refersTo {o : Order} (ho : o ∈ q.orderBy) :
    Reference.refersTo o.column key = false :=
  h.references _ (mem_references.2 (.inr (.inl ⟨o, ho, rfl⟩)))

theorem group_refersTo {g : String} (hg : g ∈ q.groupBy) : Reference.refersTo g key = false :=
  h.references _ (mem_references.2 (.inr (.inr hg)))

end Forgets

namespace WithGuest

theorem withTable {t : TableRef} (h : q.Forgets t.key) : q.WithGuest t.key (q.withTable t) where
  stranger := h
  tables := ⟨t, rfl, rfl⟩
  columns := ⟨.every, Selections.put_eq_append h.selections⟩
  joins := .refl _
  conditions := .refl _
  orderBy := .refl _
  groupBy := .refl _
  limit := rfl
  offset := rfl

/-- The guest is found under its key. -/
theorem findTable? (h : q.WithGuest key r) :
    ∃ t : TableRef, r.findTable? key = some t ∧ t.key = key ∧ r.tables = q.tables ++ [t] := by
  rcases h.tables with ⟨t, hkey, htables⟩
  refine ⟨t, ?_, hkey, htables⟩
  have hothers : ∀ u ∈ q.tables, (u.key == key) = false := by
    intro u hu
    simpa using h.stranger.table_key_ne hu
  rw [Query.findTable?, htables, List.find?_append, List.find?_eq_none.2 (by simpa using hothers)]
  simp [hkey]

theorem tableKeys (h : q.WithGuest key r) : r.tableKeys = q.tableKeys ++ [key] := by
  rcases h.tables with ⟨t, hkey, htables⟩
  simp [Query.tableKeys, htables, hkey]

theorem withAlias {aliasName : Option String} {table : TableRef} (h : q.WithGuest key r) :
    r.findTable? key = some table → ({ table with aliasName } : TableRef).key = key →
      q.WithGuest key (r.withAlias key aliasName) := by
  intro hfind hsame
  rcases h.findTable? with ⟨t, hfound, hkey, htables⟩
  rw [hfind] at hfound
  obtain rfl : table = t := Option.some.inj hfound
  refine { h with tables := ⟨{ table with aliasName }, hsame, ?_⟩ }
  simp only [Query.withAlias, htables]
  refine modify_findIdx ?_ (by simpa using hkey)
  intro u hu
  simpa using h.stranger.table_key_ne hu

/-- What was there before does not have to do with the old key, so the rename passes it over. -/
theorem renamed {aliasName : Option String} {table : TableRef} (h : q.WithGuest old r)
    (hq : q.Keyed) (hnew : q.Forgets new) :
    r.findTable? old = some table → old ≠ new →
      ({ table with aliasName } : TableRef).key = new →
        q.WithGuest new (r.renamed old new aliasName) := by
  intro hfind hne hkey
  rcases h.findTable? with ⟨t, hfound, hold, htables⟩
  rw [hfind] at hfound
  obtain rfl : table = t := Option.some.inj hfound
  refine ⟨hnew, ⟨{ table with aliasName }, hkey, ?_⟩, ?_, ?_, ?_, ?_, ?_, h.limit, h.offset⟩
  -- The tables: the rename reaches the guest alone.
  · have hothers : ∀ u ∈ q.tables, (if u.key = old then { u with aliasName } else u) = u := by
      intro u hu
      simp [h.stranger.table_key_ne hu]
    simp only [Query.renamed, htables, List.map_append, List.map_cons, List.map_nil, hold, if_true]
    rw [List.map_congr_left hothers, List.map_id']
  -- The selections: the dictionary is built anew, and the guest keeps the last place in it.
  · rcases h.columns with ⟨s, hcolumns⟩
    have hkeys : r.columns.keys = q.columns.keys ++ [old] := by
      simp [Selections.keys, hcolumns]
    have hnodup : r.columns.keys.Nodup := by
      rw [hkeys, ← List.concat_eq_append]
      exact hq.keys_nodup.concat h.stranger.selections
    have hfree : new ∉ r.columns.keys := by
      simp [hkeys, hnew.selections, Ne.symm hne]
    have hothers : ∀ e ∈ q.columns.entries, (if e.1 = old then new else e.1, e.2) = e := by
      intro e he
      have hne' : e.1 ≠ old := fun heq => h.stranger.selections (heq ▸ List.mem_map_of_mem he)
      simp [hne']
    refine ⟨s, ?_⟩
    simp only [Query.renamed]
    rw [Selections.rekey_eq hnodup hfree, hcolumns, List.map_append,
      List.map_congr_left hothers, List.map_id']
    simp
  -- The joins and the references: only those after the others start with the old key.
  · refine h.joins.map ?_ ?_
    · intro j hj
      simp [Join.rekey, h.stranger.joins j hj]
    · intro j hj
      simp only [Join.mentions, Bool.or_eq_true, beq_iff_eq] at hj ⊢
      rcases hj with hj | hj <;> simp [Join.rekey, hj]
  · refine h.conditions.map ?_ fun c hc => Reference.refersTo_requalify hc
    intro c hc
    simp [Reference.requalify, h.stranger.condition_refersTo hc]
  · refine h.orderBy.map ?_ fun o ho => Reference.refersTo_requalify ho
    intro o ho
    simp [Reference.requalify, h.stranger.order_refersTo ho]
  · refine h.groupBy.map ?_ fun g hg => Reference.refersTo_requalify hg
    intro g hg
    simp [Reference.requalify, h.stranger.group_refersTo hg]

theorem withSelection (s : Selection) (h : q.WithGuest key r) :
    q.WithGuest key (r.withSelection key s) := by
  rcases h.columns with ⟨before, hcolumns⟩
  refine { h with columns := ⟨s, ?_⟩ }
  simp only [Query.withSelection, Selections.set, hcolumns]
  exact Selections.put_append h.stranger.selections

theorem withJoin {j : Join} (hj : j.mentions key = true) (h : q.WithGuest key r) :
    q.WithGuest key { r with joins := r.joins ++ [j] } :=
  { h with joins := h.joins.append hj }

theorem withCondition {c : Condition} (hc : Reference.refersTo c.column key = true)
    (h : q.WithGuest key r) : q.WithGuest key { r with conditions := r.conditions ++ [c] } :=
  { h with conditions := h.conditions.append hc }

theorem withOrder {o : Order} (ho : Reference.refersTo o.column key = true)
    (h : q.WithGuest key r) : q.WithGuest key { r with orderBy := r.orderBy ++ [o] } :=
  { h with orderBy := h.orderBy.append ho }

theorem withGroup {g : String} (hg : Reference.refersTo g key = true) (h : q.WithGuest key r) :
    q.WithGuest key { r with groupBy := r.groupBy ++ [g] } :=
  { h with groupBy := h.groupBy.append hg }

/-- Without the guest the query is what it was. -/
theorem withoutTable (h : q.WithGuest key r) : r.withoutTable key = q := by
  rcases h.tables with ⟨t, hkey, htables⟩
  rcases h.columns with ⟨s, hcolumns⟩
  have htables' : r.tables.filter (fun t => t.key != key) = q.tables := by
    refine Extends.filter (P := fun t => t.key = key) ?_ (by simp)
      ⟨[t], by simpa using hkey, htables⟩
    intro u hu
    simpa using h.stranger.table_key_ne hu
  have hcolumns' : r.columns.erase key = q.columns := by
    have hentries : r.columns.entries.filter (fun e => e.1 != key) = q.columns.entries := by
      refine Extends.filter (P := fun e => e.1 = key) ?_ (by simp) ⟨[(key, s)], by simp, hcolumns⟩
      intro e he
      have hne : e.1 ≠ key := fun heq => h.stranger.selections (heq ▸ List.mem_map_of_mem he)
      simpa using hne
    simp only [Selections.erase, hentries]
  have hjoins : r.joins.filter (fun j => !j.mentions key) = q.joins :=
    h.joins.filter (fun j hj => by simp [h.stranger.mentions_eq_false hj]) fun j hj => by simp [hj]
  have hconditions :
      r.conditions.filter (fun c => !Reference.refersTo c.column key) = q.conditions :=
    h.conditions.filter (fun c hc => by simp [h.stranger.condition_refersTo hc])
      fun c hc => by simp [hc]
  have horder : r.orderBy.filter (fun o => !Reference.refersTo o.column key) = q.orderBy :=
    h.orderBy.filter (fun o ho => by simp [h.stranger.order_refersTo ho]) fun o ho => by simp [ho]
  have hgroups : r.groupBy.filter (fun g => !Reference.refersTo g key) = q.groupBy :=
    h.groupBy.filter (fun g hg => by simp [h.stranger.group_refersTo hg]) fun g hg => by simp [hg]
  rw [Query.withoutTable, htables', hcolumns', hjoins, hconditions, horder, hgroups, h.limit,
    h.offset]

end WithGuest
end Query
end QueryDesigner

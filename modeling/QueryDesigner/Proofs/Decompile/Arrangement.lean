import QueryDesigner.Proofs.Decompile.ColumnOrder

/-!
# How the SELECT list arranges the tables

* `Arranged` — the first table stays first, and the others stand in the order of their places;
* `countedPlace`, `arranged_orderByAppearance` — the places that are counted, by which the tables
  are sorted;
* `InListOrder`, `inListOrder_iff` — when that is the order in which the list mentions them, with
  the tables that it does not mention last;
* `Reading.readItems_arranges` — what the SELECT list makes of the tables and of their selections.

A table without an item is counted at the number of tables, as if there were no more items than
tables.
-/

namespace QueryDesigner

/-- All keys are there, the first one first.  The others stand in the order of their places, and
those at one place in the order that they had. -/
structure Arranged (place : String → Nat) (keys order : List String) : Prop where
  perm : order.Perm keys
  head : order.head? = keys.head?
  sorted : order.tail.Pairwise fun a b =>
    place a < place b ∨ place a = place b ∧ [a, b].Sublist keys

/-- The place that is counted for a key: that of the first item that covers it, and the number of
keys if there is none. -/
def countedPlace (list : List (List SelectItem)) (keys : List String) (key : String) : Nat :=
  (list.findIdx? (SelectItem.mention key)).getD keys.length

/-- The first table, and then the others in the order in which a list mentions them.  Those that it
does not mention come last. -/
def InListOrder (list : List (List SelectItem)) (keys order : List String) : Prop :=
  Arranged (fun key => list.findIdx (SelectItem.mention key)) keys order

/-- A table that is mentioned is counted at a smaller place than one that is not, or at the same one
and stands before it anyway. -/
def CountedFirst (list : List (List SelectItem)) (keys : List String) : Prop :=
  ∀ mentioned ∈ keys.tail, ∀ missing ∈ keys.tail, ∀ n,
    list.findIdx? (SelectItem.mention mentioned) = some n →
      list.findIdx? (SelectItem.mention missing) = none →
        n < keys.length ∨ n = keys.length ∧ [mentioned, missing].Sublist keys

/-! ## Pairs in a list -/

section Pairs

variable {α : Type} {a b : α} {l : List α}

theorem pair_sublist_or (ha : a ∈ l) (hb : b ∈ l) (hne : a ≠ b) :
    [a, b].Sublist l ∨ [b, a].Sublist l := by
  induction l with
  | nil =>
      cases ha
  | cons c rest ih =>
      rcases List.mem_cons.1 ha with rfl | ha'
      · have hrest := (List.mem_cons.1 hb).resolve_left hne.symm
        exact .inl ((List.singleton_sublist.2 hrest).cons_cons a)
      · rcases List.mem_cons.1 hb with rfl | hb'
        · exact .inr ((List.singleton_sublist.2 ha').cons_cons b)
        · exact (ih ha' hb').imp (.cons c) (.cons c)

theorem not_pair_sublist (hl : l.Nodup) (h : [a, b].Sublist l) : ¬ [b, a].Sublist l := by
  induction l with
  | nil =>
      cases h
  | cons c rest ih =>
      rcases List.nodup_cons.1 hl with ⟨hnew, hrest⟩
      intro hback
      cases h with
      | cons _ h =>
          cases hback with
          | cons _ hback => exact ih hrest h hback
          | cons_cons _ _ => exact hnew (h.subset (by simp))
      | cons_cons _ h =>
          cases hback with
          | cons _ hback => exact hnew (hback.subset (by simp))
          | cons_cons _ _ => exact hnew (h.subset (by simp))

end Pairs

/-! ## The order of the tables -/

section Order

variable {place : String → Nat} {keys order : List String} {list : List (List SelectItem)}

theorem Arranged.tail_perm (h : Arranged place keys order) : order.tail.Perm keys.tail := by
  have hperm := h.perm
  have hhead := h.head
  rcases order with _ | ⟨first, rest⟩ <;> rcases keys with _ | ⟨first', rest'⟩
  · exact .nil
  · cases hhead
  · cases hhead
  · obtain rfl : first = first' := Option.some.inj hhead
    exact (List.perm_cons first).1 hperm

/-- Sorted by place, and of two keys at one place the earlier one comes first. -/
theorem pairwise_mergeSort_place {l : List String} (hl : l.Nodup) :
    (l.mergeSort fun a b => place a ≤ place b).Pairwise fun a b =>
      place a < place b ∨ place a = place b ∧ [a, b].Sublist l := by
  have hsort := List.mergeSort_perm l fun a b => place a ≤ place b
  have hnodup := hsort.nodup_iff.2 hl
  have hsorted := pairwise_mergeSort_le place l
  rw [List.pairwise_iff_forall_sublist] at hsorted ⊢
  intro a b hab
  rcases (hsorted hab).lt_or_eq with hlt | heq
  · exact .inl hlt
  · refine .inr ⟨heq, ?_⟩
    have ha : a ∈ l := hsort.mem_iff.1 (hab.subset (by simp))
    have hb : b ∈ l := hsort.mem_iff.1 (hab.subset (by simp))
    have hne : a ≠ b := by
      rintro rfl
      exact not_pair_sublist hnodup hab hab
    -- the sort is stable, so the other order would have been kept as well
    refine (pair_sublist_or ha hb hne).resolve_right fun hba => not_pair_sublist hnodup hab ?_
    exact List.pair_sublist_mergeSort (decide_place_trans place) (decide_place_total place)
      (decide_eq_true heq.ge) hba

theorem arranged_orderByAppearance (places : List (String × Nat)) (hkeys : keys.Nodup) :
    Arranged (fun key => (places.lookup key).getD keys.length) keys
      (orderByAppearance places keys) := by
  refine ⟨perm_orderByAppearance places keys, ?_, ?_⟩
  · cases keys <;> rfl
  · cases keys with
    | nil =>
        exact .nil
    | cons first rest =>
        refine (pairwise_mergeSort_place (List.nodup_cons.1 hkeys).2).imp ?_
        exact fun h => h.imp_right fun htie => ⟨htie.1, htie.2.cons first⟩

theorem arranged_ofItems (list : List (List SelectItem)) (hkeys : keys.Nodup) :
    Arranged (countedPlace list keys) keys
      (orderByAppearance (Coverage.ofItems list).places keys) := by
  have harranged := arranged_orderByAppearance (Coverage.ofItems list).places hkeys
  simp only [Coverage.lookup_ofItems] at harranged
  exact harranged

/-- A table that is mentioned is counted at the place of its first item.  Any other one has its
place behind all items, and is counted at the number of tables. -/
theorem findIdx_mention_cases (list : List (List SelectItem)) (keys : List String) (key : String) :
    (∃ n < list.length, list.findIdx? (SelectItem.mention key) = some n ∧
        list.findIdx (SelectItem.mention key) = n ∧ countedPlace list keys key = n) ∨
      list.findIdx? (SelectItem.mention key) = none ∧
        list.findIdx (SelectItem.mention key) = list.length ∧
          countedPlace list keys key = keys.length := by
  unfold countedPlace
  cases hplace : list.findIdx? (SelectItem.mention key) with
  | none =>
      exact .inr ⟨rfl, List.findIdx?_eq_none_iff_findIdx_eq.1 hplace, rfl⟩
  | some n =>
      rcases List.findIdx?_eq_some_iff_findIdx_eq.1 hplace with ⟨hn, hfirst⟩
      exact .inl ⟨n, hn, rfl, hfirst, rfl⟩

/-- The tables come into the order of the list just where none that is missing in it is counted
before one that it mentions. -/
theorem inListOrder_iff (hkeys : keys.Nodup) (h : Arranged (countedPlace list keys) keys order) :
    InListOrder list keys order ↔ CountedFirst list keys := by
  have hsorted := h.sorted
  rw [List.pairwise_iff_forall_sublist] at hsorted
  constructor
  · intro hlast mentioned hmentioned missing hmissing n hplace hnone
    have hpairs := hlast.sorted
    rw [List.pairwise_iff_forall_sublist] at hpairs
    rcases List.findIdx?_eq_some_iff_findIdx_eq.1 hplace with ⟨hn, hfirst⟩
    have hbehind := List.findIdx?_eq_none_iff_findIdx_eq.1 hnone
    have hne : mentioned ≠ missing := by
      rintro rfl
      rw [hplace] at hnone
      cases hnone
    have hcounted : countedPlace list keys mentioned = n ∧
        countedPlace list keys missing = keys.length := by
      simp [countedPlace, hplace, hnone]
    rcases pair_sublist_or (h.tail_perm.mem_iff.2 hmentioned) (h.tail_perm.mem_iff.2 hmissing)
      hne with hab | hba
    · have hcount := hsorted hab
      rwa [hcounted.1, hcounted.2] at hcount
    · -- the missing one cannot come first
      have hplaces := hpairs hba
      omega
  · intro hplaces
    refine ⟨h.perm, h.head, ?_⟩
    rw [List.pairwise_iff_forall_sublist]
    intro a b hab
    have ha : a ∈ keys.tail := h.tail_perm.mem_iff.1 (hab.subset (by simp))
    have hb : b ∈ keys.tail := h.tail_perm.mem_iff.1 (hab.subset (by simp))
    have hcount := hsorted hab
    rcases findIdx_mention_cases list keys a with
        ⟨m, hm, _, hafirst, hacount⟩ | ⟨hanone, halast, hacount⟩ <;>
      rcases findIdx_mention_cases list keys b with
        ⟨n, hn, hbplace, hbfirst, hbcount⟩ | ⟨hbnone, hblast, hbcount⟩ <;>
      rw [hacount, hbcount] at hcount
    · rwa [hafirst, hbfirst]
    · rw [hafirst, hblast]
      exact .inl hm
    · -- the missing one would be counted before the other
      rcases hplaces b hb a ha n hbplace hanone with hlt | ⟨heq, hba⟩
      · omega
      · exact absurd hba (not_pair_sublist hkeys (hcount.resolve_left (by omega)).2)
    · rw [halast, hblast]
      exact .inr ⟨rfl, (hcount.resolve_left (lt_irrefl _)).2⟩

/-- With no more items than tables every place that is mentioned is smaller. -/
theorem countedFirst_of_length_le (h : list.length ≤ keys.length) : CountedFirst list keys := by
  intro mentioned _ missing _ n hplace _
  rcases List.findIdx?_eq_some_iff_findIdx_eq.1 hplace with ⟨hn, -⟩
  exact .inl (hn.trans_le h)

end Order

/-! ## The SELECT list -/

/-- What is read of a table: every column where no item covers it or a star does, wherever the star
stands, and else the columns that are named. -/
theorem getD_covered (key : String) (items : List SelectItem) :
    (Coverage.covered key items).getD .every =
      if SelectItem.mention key items = false ∨ .all key ∈ items then .every
      else .only (dedup (items.filterMap (SelectItem.name? key))) := by
  unfold Coverage.covered Selection.ofItems
  cases SelectItem.mention key items <;> simp

namespace Reading

/-- Once the tables are there, the SELECT list is read.  Of a table it selects every column if no
item mentions the table or a star stands for it, and else the columns that are named, each once.
All tables stay, the first one first, and the others come into the order of the places that are
counted.  That is the order of the list just where no table that is missing in the list is counted
before one that is not. -/
theorem readItems_arranges (s : Sql.Select) (catalog : Option Catalog) (d : Draft) :
    (readTables s).run { canvas := .ofQuery {} catalog } = .ok true d →
      ∃ d', (readItems s).run d = .ok () d' ∧
        (∀ key, d'.canvas.query.selection key =
          if SelectItem.mention key (s.items.flatMap d.itemsOf) = false ∨
              .all key ∈ s.items.flatMap d.itemsOf then .every
          else .only (dedup ((s.items.flatMap d.itemsOf).filterMap (SelectItem.name? key)))) ∧
        d'.canvas.query.tables.Perm d.canvas.query.tables ∧
        Arranged (countedPlace (s.items.map d.itemsOf) d.canvas.query.tableKeys)
          d.canvas.query.tableKeys d'.canvas.query.tableKeys ∧
        (InListOrder (s.items.map d.itemsOf) d.canvas.query.tableKeys
            d'.canvas.query.tableKeys ↔
          CountedFirst (s.items.map d.itemsOf) d.canvas.query.tableKeys) := by
  intro htables
  have hmeets := meets_readTables s _ ⟨seeing_empty catalog, unselected_empty catalog⟩
  rw [htables] at hmeets
  have hd : Ready catalog d := hmeets.2 rfl
  have hkeys : d.canvas.query.tableKeys.Nodup := hd.sound.query.distinct
  rcases run_readItems s hd with ⟨d', hrun, hplaced, hperm, hselection, -⟩
  have harranged := arranged_ofItems (s.items.map d.itemsOf) hkeys
  rw [← hplaced] at harranged
  refine ⟨d', hrun, fun key => ?_, hperm, harranged, inListOrder_iff hkeys harranged⟩
  rw [hselection, getD_covered]

end Reading

theorem exists_of_listOf? {sql : String} {catalog : Option Catalog} {keys : List String}
    {list : List (List SelectItem)} (h : Sql.listOf? sql catalog = some (keys, list)) :
    ∃ s d, Sql.selectOf? sql = some s ∧
      (Reading.readTables s).run { canvas := .ofQuery {} catalog } = .ok true d ∧
        d.canvas.query.tableKeys = keys ∧ s.items.map d.itemsOf = list := by
  unfold Sql.listOf? at h
  rcases Option.bind_eq_some_iff.1 h with ⟨s, hs, hread⟩
  split at hread
  · rename_i d hrun
    obtain ⟨rfl, rfl⟩ := Prod.mk.inj (Option.some.inj hread)
    exact ⟨s, d, hs, hrun, rfl, rfl⟩
  · cases hread

/-- Three items of the first table come before the item of the third one.  So that one stays behind
the second table, which no item mentions. -/
theorem readItems_arranges_of_late_item :
    ∃ s d d',
      Sql.selectOf? "SELECT x, a.y, z, c.w FROM a JOIN b ON a.i = b.i JOIN c ON a.i = c.i" =
        some s ∧
      (Reading.readTables s).run { canvas := .ofQuery {} none } = .ok true d ∧
      (Reading.readItems s).run d = .ok () d' ∧
      d'.canvas.query.selection "a" = .only ["x", "y", "z"] ∧
      d'.canvas.query.selection "b" = .every ∧ d'.canvas.query.selection "c" = .only ["w"] ∧
      d.canvas.query.tableKeys = ["a", "b", "c"] ∧
      ¬ InListOrder (s.items.map d.itemsOf) ["a", "b", "c"] d'.canvas.query.tableKeys := by
  have hlist :
      Sql.listOf? "SELECT x, a.y, z, c.w FROM a JOIN b ON a.i = b.i JOIN c ON a.i = c.i" none =
        some (["a", "b", "c"], [[.column "a" "x"], [.column "a" "y"], [.column "a" "z"],
          [.column "c" "w"]]) := by
    decide +kernel
  rcases exists_of_listOf? hlist with ⟨s, d, hs, htables, hkeys, hitems⟩
  rcases Reading.readItems_arranges s none d htables with ⟨d', hrun, hselection, -, -, horder⟩
  rw [List.flatMap_def, hitems] at hselection
  rw [hitems, hkeys] at horder
  refine ⟨s, d, d', hs, htables, hrun, ?_, ?_, ?_, hkeys, ?_⟩
  · rw [hselection]
    decide +kernel
  · rw [hselection]
    decide +kernel
  · rw [hselection]
    decide +kernel
  · -- the third table is counted at the place at which the second one is
    rw [hitems, horder]
    intro hfirst
    rcases hfirst "c" (by simp) "b" (by simp) 3 (by decide) (by decide) with hlt | ⟨-, hsub⟩
    · exact absurd hlt (by decide)
    · exact absurd hsub (by decide)

end QueryDesigner

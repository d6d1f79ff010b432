import QueryDesigner.Proofs.Compile.Pruned
import QueryDesigner.Proofs.Decompile.Coverage

/-!
# SELECT lists table by table

A query holds its SELECT list table by table, whereas the items of a statement may come in any order.

* `SelectItem.Grouped` — items that stand table by table;
* `SelectItem.regrouped` — the items of a list, table by table in the order in which the list mentions
  the tables;
* `SelectItem.byAppearance_of_grouped` — where the items are grouped already, the list mentions the
  tables in the order in which they stand;
* `SelectItem.flatMap_ofItems_eq_iff` — the items that are read are those of the list just where they
  are grouped.

A list is given by the columns for which each of its items stands.
-/

namespace QueryDesigner

namespace SelectItem

/-- The items stand table by table: the first table first, and of each table, once, all columns or
different ones. -/
def Grouped (keys : List String) (items : List SelectItem) : Prop :=
  ∃ (order : List String) (select : String → Selection),
    order.Perm keys ∧ order.head? = keys.head? ∧ (∀ key, (select key).Distinct) ∧
      items = order.flatMap fun key => (select key).items key

/-- The keys in the order in which the items of a list mention them; the first one stays. -/
def byAppearance (list : List (List SelectItem)) : List String → List String
  | [] => []
  | first :: rest =>
    first :: rest.mergeSort fun a b => list.findIdx (mention a) ≤ list.findIdx (mention b)

/-- The items of a list, table by table. -/
def regrouped (keys : List String) (list : List (List SelectItem)) : List SelectItem :=
  (byAppearance list keys).flatMap fun key => (Selection.ofItems key list.flatten).items key

variable {key : String} {keys order : List String} {items : List SelectItem} {s : Selection}
  {list : List (List SelectItem)} {select : String → Selection}

/-! ## The items of one table -/

theorem key_of_mem_items {item : SelectItem} : item ∈ s.items key → item.key = key := by
  intro h
  unfold Selection.items at h
  split at h
  · rcases List.mem_map.1 h with ⟨name, _, rfl⟩
    rfl
  · rw [List.mem_singleton.1 h]
    rfl

theorem items_ne_nil (key : String) (s : Selection) : s.items key ≠ [] := by
  unfold Selection.items
  split <;> simp

/-- Only the items of a table say what is selected of it. -/
theorem ofItems_filter (key : String) (items : List SelectItem) :
    Selection.ofItems key (items.filter fun item => item.key == key) =
      Selection.ofItems key items := by
  have hall : SelectItem.all key ∈ items.filter (fun item => item.key == key) ↔
      SelectItem.all key ∈ items := by
    simp [SelectItem.key]
  have hnames : (items.filter fun item => item.key == key).filterMap (name? key) =
      items.filterMap (name? key) := by
    rw [List.filterMap_filter]
    refine List.filterMap_congr fun item _ => ?_
    cases item with
    | all k =>
        simp [name?]
    | column k name =>
        by_cases hk : k = key <;> simp [name?, SelectItem.key, hk]
  simp only [Selection.ofItems, hall, hnames]

/-- A selection is found again in its items, but for that of no column, which stands for all. -/
theorem ofItems_items (hs : s.Distinct) : Selection.ofItems key (s.items key) = s.shown := by
  match s with
  | .every =>
      simp [Selection.items, Selection.ofItems, Selection.shown]
  | .only [] =>
      simp [Selection.items, Selection.ofItems, Selection.shown]
  | .only (name :: names) =>
      have hnames : ((name :: names).map (column key)).filterMap (name? key) = name :: names := by
        rw [List.filterMap_map]
        refine (List.filterMap_congr fun n _ => ?_).trans List.filterMap_some
        simp [name?]
      have hall : SelectItem.all key ∉ (name :: names).map (column key) := by simp
      have hdedup : dedup (name :: names) = name :: names := dedup_eq_self hs
      simp only [Selection.items, Selection.ofItems, Selection.shown, hall, if_false, hnames, hdedup]

/-! ## Blocks -/

theorem filter_flatMap (hnodup : order.Nodup) (hkey : key ∈ order) :
    (order.flatMap fun k => (select k).items k).filter (fun item => item.key == key) =
      (select key).items key := by
  have hself : ∀ k, ((select k).items k).filter (fun item => item.key == k) =
      (select k).items k := by
    intro k
    refine List.filter_eq_self.2 fun item hitem => ?_
    simpa using key_of_mem_items hitem
  have hother : ∀ k, k ≠ key → ((select k).items k).filter (fun item => item.key == key) = [] := by
    intro k hk
    refine List.filter_eq_nil_iff.2 fun item hitem => ?_
    simpa [key_of_mem_items hitem] using hk
  induction order with
  | nil =>
      cases hkey
  | cons k rest ih =>
      rcases List.nodup_cons.1 hnodup with ⟨hnew, hrest⟩
      rw [List.flatMap_cons, List.filter_append]
      by_cases hk : k = key
      · subst hk
        have hnone : (rest.flatMap fun k' => (select k').items k').filter
            (fun item => item.key == k) = [] := by
          refine List.filter_eq_nil_iff.2 fun item hitem => ?_
          rcases List.mem_flatMap.1 hitem with ⟨k', hk', hitem⟩
          have hne : k' ≠ k := fun heq => hnew (heq ▸ hk')
          simpa [key_of_mem_items hitem] using hne
        rw [hself, hnone, List.append_nil]
      · have hin : key ∈ rest := (List.mem_cons.1 hkey).resolve_left (Ne.symm hk)
        rw [hother k hk, ih hrest hin, List.nil_append]

/-- What grouped items select of a table is what stands in its block. -/
theorem ofItems_flatMap (hnodup : order.Nodup) (hselect : (select key).Distinct)
    (hkey : key ∈ order) :
    Selection.ofItems key (order.flatMap fun k => (select k).items k) = (select key).shown := by
  rw [← ofItems_filter, filter_flatMap hnodup hkey, ofItems_items hselect]

/-- The first item of a table. -/
def firstPlace (key : String) (items : List SelectItem) : Nat :=
  items.findIdx fun item => item.key == key

/-- The blocks begin one after the other. -/
theorem pairwise_firstPlace (hnodup : order.Nodup) :
    order.Pairwise fun a b => firstPlace a (order.flatMap fun k => (select k).items k) <
      firstPlace b (order.flatMap fun k => (select k).items k) := by
  induction order with
  | nil =>
      exact .nil
  | cons k rest ih =>
      rcases List.nodup_cons.1 hnodup with ⟨hnew, hrest⟩
      have hfirst : firstPlace k ((k :: rest).flatMap fun k => (select k).items k) = 0 := by
        rcases List.exists_cons_of_ne_nil (items_ne_nil k (select k)) with ⟨item, items, hblock⟩
        have hitem : item.key = k := key_of_mem_items (s := select k) (by simp [hblock])
        simp [firstPlace, hblock, hitem, List.findIdx_cons]
      -- the other blocks stand behind that of the first key
      have hshift : ∀ b ∈ rest, firstPlace b ((k :: rest).flatMap fun k => (select k).items k) =
          firstPlace b (rest.flatMap fun k => (select k).items k) +
            ((select k).items k).length := by
        intro b hb
        have hnone : ((select k).items k).findIdx (fun item => item.key == b) =
            ((select k).items k).length := by
          refine List.findIdx_eq_length.2 fun item hitem => ?_
          have hne : k ≠ b := fun heq => hnew (heq ▸ hb)
          simpa [key_of_mem_items hitem] using hne
        rw [firstPlace, List.flatMap_cons, List.findIdx_append, hnone, if_neg (lt_irrefl _)]
        rfl
      refine List.pairwise_cons.2 ⟨fun b hb => ?_, ?_⟩
      · have hlength := List.length_pos_of_ne_nil (items_ne_nil k (select k))
        rw [hfirst, hshift b hb]
        omega
      · refine (ih hrest).imp_of_mem fun {a b} ha hb hab => ?_
        rw [hshift a ha, hshift b hb]
        omega

/-! ## The order of the tables -/

/-- Where the items mention the keys one after the other nothing is left to sort. -/
theorem byAppearance_eq (hperm : order.Perm keys) (hhead : order.head? = keys.head?)
    (hplaces : order.Pairwise fun a b => list.findIdx (mention a) < list.findIdx (mention b)) :
    byAppearance list keys = order := by
  cases keys with
  | nil =>
      exact hperm.eq_nil.symm
  | cons first rest =>
      rcases order with _ | ⟨first', rest'⟩
      · cases hhead
      · obtain rfl : first' = first := Option.some.inj hhead
        have hrest : rest'.Perm rest := (List.perm_cons first').1 hperm
        have hlt := (List.pairwise_cons.1 hplaces).2
        -- no two of the other keys have one place, so that there is only one way to sort them
        have hnodup : (rest'.map fun k => list.findIdx (mention k)).Nodup :=
          List.pairwise_map.2 (hlt.imp ne_of_lt)
        have hsorted := pairwise_mergeSort_le (fun key => list.findIdx (mention key)) rest
        have hsame := (List.mergeSort_perm rest fun a b =>
          list.findIdx (mention a) ≤ list.findIdx (mention b)).trans hrest.symm
        refine congrArg (first' :: ·)
          (List.Perm.eq_of_pairwise ?_ hsorted (hlt.imp le_of_lt) hsame)
        intro a b ha hb hab hba
        exact List.inj_on_of_nodup_map hnodup (hsame.mem_iff.1 ha) hb (le_antisymm hab hba)

/-- Where every item stands for one thing, the place of a table is that of its first item. -/
theorem findIdx_mention (hlist : ∀ part ∈ list, ∃ item, part = [item]) (key : String) :
    list.findIdx (mention key) = firstPlace key list.flatten := by
  induction list with
  | nil =>
      rfl
  | cons part rest ih =>
      rcases hlist part List.mem_cons_self with ⟨item, rfl⟩
      have hrest := ih fun part hpart => hlist part (List.mem_cons_of_mem _ hpart)
      simp [firstPlace, mention, List.findIdx_cons, hrest]

/-- Grouped items with a star for all tables are nothing but that star. -/
theorem eq_star_of_grouped (hperm : order.Perm keys)
    (hitems : list.flatten = order.flatMap fun k => (select k).items k)
    (hne : ∀ part ∈ list, part ≠ []) (hstar : keys.map .all ∈ list) :
    order = keys ∧ list = [keys.map .all] := by
  have hblock : ∀ k ∈ order, (select k).items k = [.all k] := by
    intro k hk
    have hin : SelectItem.all k ∈ list.flatten :=
      List.mem_flatten.2 ⟨_, hstar, List.mem_map_of_mem (hperm.mem_iff.1 hk)⟩
    rw [hitems] at hin
    rcases List.mem_flatMap.1 hin with ⟨k', hk', hin⟩
    obtain rfl : k = k' := key_of_mem_items hin
    unfold Selection.items at hin ⊢
    split at hin
    · simp at hin
    · rfl
  -- so the items are one star for each table
  have hflat : list.flatten = order.map .all := by
    rw [hitems, List.map_eq_flatMap]
    exact List.flatMap_congr hblock
  rcases List.append_of_mem hstar with ⟨before, after, rfl⟩
  -- the star for all tables has as many items by itself, which leaves none for other items
  have hlength := congrArg List.length hflat
  have hnone : before.flatten = [] ∧ after.flatten = [] := by
    simp only [List.flatten_append, List.flatten_cons, List.length_append, List.length_map,
      hperm.length_eq] at hlength
    constructor <;> refine List.eq_nil_of_length_eq_zero ?_ <;> omega
  have hbefore : before = [] := by
    refine List.eq_nil_iff_forall_not_mem.2 fun part hpart => ?_
    exact hne part (by simp [hpart]) (List.flatten_eq_nil_iff.1 hnone.1 part hpart)
  have hafter : after = [] := by
    refine List.eq_nil_iff_forall_not_mem.2 fun part hpart => ?_
    exact hne part (by simp [hpart]) (List.flatten_eq_nil_iff.1 hnone.2 part hpart)
  subst hbefore hafter
  refine ⟨List.map_injective_iff.2 (fun a b h => SelectItem.all.inj h) ?_, rfl⟩
  simpa using hflat.symm

theorem byAppearance_star (keys : List String) : byAppearance [keys.map .all] keys = keys := by
  cases keys with
  | nil =>
      rfl
  | cons first rest =>
      have hplace : ∀ k ∈ first :: rest,
          [(first :: rest).map SelectItem.all].findIdx (mention k) = 0 := by
        intro k hk
        have hmention : mention k ((first :: rest).map .all) = true :=
          List.any_eq_true.2 ⟨.all k, List.mem_map_of_mem hk, beq_self_eq_true k⟩
        rw [List.findIdx_cons, hmention]
        rfl
      refine congrArg (first :: ·) (List.mergeSort_of_pairwise ?_)
      refine List.pairwise_of_forall_mem_list fun a ha b hb => ?_
      rw [hplace a (List.mem_cons_of_mem _ ha), hplace b (List.mem_cons_of_mem _ hb)]
      rfl

/-- A list whose items are grouped mentions the tables in the order in which they stand. -/
theorem byAppearance_of_grouped (hkeys : keys.Nodup)
    (hlist : ∀ part ∈ list, part = keys.map .all ∨ ∃ item, part = [item])
    (hne : ∀ part ∈ list, part ≠ []) (hperm : order.Perm keys) (hhead : order.head? = keys.head?)
    (hitems : list.flatten = order.flatMap fun k => (select k).items k) :
    byAppearance list keys = order := by
  -- A star for all tables mentions them at one place, all other items mention one table each.
  by_cases hstar : keys.map .all ∈ list
  · rcases eq_star_of_grouped hperm hitems hne hstar with ⟨rfl, rfl⟩
    exact byAppearance_star order
  · have hsingle : ∀ part ∈ list, ∃ item, part = [item] := fun part hpart =>
      (hlist part hpart).resolve_left fun heq => hstar (heq ▸ hpart)
    refine byAppearance_eq hperm hhead ?_
    simp only [findIdx_mention hsingle, hitems]
    exact pairwise_firstPlace (hperm.nodup_iff.2 hkeys)

/-- Where every table is mentioned, the reader puts the tables into the order of their first items. -/
theorem orderByAppearance_ofItems (hmention : ∀ key ∈ keys, ∃ item ∈ list.flatten, item.key = key) :
    orderByAppearance (Coverage.ofItems list).places keys = byAppearance list keys := by
  have hplace : ∀ key ∈ keys, (Coverage.ofItems list).places.lookup key =
      some (list.findIdx (mention key)) := by
    intro key hkey
    rcases hmention key hkey with ⟨item, hitem, hkey'⟩
    rcases List.mem_flatten.1 hitem with ⟨part, hpart, hitem⟩
    have hpart' : mention key part = true :=
      List.any_eq_true.2 ⟨item, hitem, beq_iff_eq.2 hkey'⟩
    rw [Coverage.lookup_ofItems, List.findIdx?_eq_some_iff_findIdx_eq]
    exact ⟨List.findIdx_lt_length_of_exists ⟨part, hpart, hpart'⟩, rfl⟩
  cases keys with
  | nil =>
      rfl
  | cons first rest =>
      have hsort := List.map_mergeSort (f := id) (l := rest)
        (r := fun a b => ((Coverage.ofItems list).places.lookup a).getD (first :: rest).length ≤
          ((Coverage.ofItems list).places.lookup b).getD (first :: rest).length)
        (s := fun a b => list.findIdx (mention a) ≤ list.findIdx (mention b)) fun a ha b hb => by
          simp [hplace a (List.mem_cons_of_mem _ ha), hplace b (List.mem_cons_of_mem _ hb)]
      simpa [orderByAppearance, byAppearance] using hsort

/-! ## What is read -/

theorem mention_of_grouped (h : Grouped keys items) :
    ∀ key ∈ keys, ∃ item ∈ items, item.key = key := by
  rcases h with ⟨order, select, hperm, _, _, rfl⟩
  intro key hkey
  rcases List.exists_mem_of_ne_nil _ (items_ne_nil key (select key)) with ⟨item, hitem⟩
  exact ⟨item, List.mem_flatMap.2 ⟨key, hperm.mem_iff.2 hkey, hitem⟩, key_of_mem_items hitem⟩

/-- What is read of a list is the list itself just where its items are grouped. -/
theorem flatMap_ofItems_eq_iff (hkeys : keys.Nodup)
    (hlist : ∀ part ∈ list, part = keys.map .all ∨ ∃ item, part = [item])
    (hne : ∀ part ∈ list, part ≠ []) :
    ((orderByAppearance (Coverage.ofItems list).places keys).flatMap fun key =>
      (Selection.ofItems key list.flatten).items key) = list.flatten ↔ Grouped keys list.flatten := by
  constructor
  · intro h
    -- what is read is grouped, whatever the list
    refine ⟨_, fun key => Selection.ofItems key list.flatten, perm_orderByAppearance _ keys, ?_,
      fun key => Coverage.distinct_ofItems _, h.symm⟩
    cases keys <;> rfl
  · intro h
    rw [orderByAppearance_ofItems (mention_of_grouped h)]
    rcases h with ⟨order, select, hperm, hhead, hselect, hitems⟩
    rw [byAppearance_of_grouped hkeys hlist hne hperm hhead hitems, hitems]
    refine List.flatMap_congr fun key hkey => ?_
    rw [ofItems_flatMap (hperm.nodup_iff.2 hkeys) (hselect key) hkey, Selection.items_shown]

end SelectItem

end QueryDesigner

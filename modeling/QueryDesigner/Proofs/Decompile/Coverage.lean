import QueryDesigner.Decompile.Items
import QueryDesigner.Proofs.Compile.Scope

/-!
# What a SELECT list covers

The reader goes through the items of a SELECT list and keeps, for each table, the columns selected so
far and the place of its first item.  Here an item is given by the columns for which it stands.

* `Coverage.addFrom`, `Coverage.ofItems` — the items one after the other;
* `Selection.ofItems`, `Coverage.get?_ofItems` — what is selected of a table in the end: every
  column if an item stands for them all, wherever it is, else the columns that are named;
* `Coverage.lookup_ofItems` — the place of a table is that of the first item that stands for columns
  of it;
* `perm_orderByAppearance` — the order by places leaves out no table and repeats none.
-/

namespace QueryDesigner

namespace SelectItem

/-- The name of the column, if it is one of the table. -/
def name? (key : String) : SelectItem → Option String
  | all _ => none
  | column k name => if k = key then some name else none

/-- One of the items stands for columns of the table. -/
def mention (key : String) (items : List SelectItem) : Bool := items.any fun item => item.key == key

end SelectItem

/-- What items select of a table. -/
def Selection.ofItems (key : String) (items : List SelectItem) : Selection :=
  if .all key ∈ items then .every else .only (dedup (items.filterMap (SelectItem.name? key)))

namespace Coverage

/-- An item that is read at a place. -/
def add (place : Nat) (c : Coverage) : SelectItem → Coverage
  | .all key => c.addAll place key
  | .column key name => c.addColumn place key name

/-- Items that are read from a place on, each with all that it stands for. -/
def addFrom : Nat → Coverage → List (List SelectItem) → Coverage
  | _, c, [] => c
  | place, c, items :: rest => addFrom (place + 1) (items.foldl (add place) c) rest

/-- All items of a list. -/
def ofItems (items : List (List SelectItem)) : Coverage := addFrom 0 {} items

variable {key : String} {place : Nat} {c : Coverage}

/-! ## Selections -/

/-- The selection of a table after an item. -/
def selectionStep (key : String) (s : Option Selection) : SelectItem → Option Selection
  | .all k => if k = key then some .every else s
  | .column k name => if k = key then some (withColumn name s) else s

theorem get?_add (item : SelectItem) :
    (c.add place item).selections.get? key = selectionStep key (c.selections.get? key) item := by
  cases item with
  | all k =>
      by_cases hk : k = key
      · subst hk
        simp [add, addAll, selectionStep]
      · simp [add, addAll, selectionStep, hk, Selections.get?_set_of_ne _ _ (Ne.symm hk)]
  | column k name =>
      by_cases hk : k = key
      · subst hk
        simp [add, addColumn, selectionStep]
      · simp [add, addColumn, selectionStep, hk, Selections.get?_set_of_ne _ _ (Ne.symm hk)]

theorem get?_foldl_add (items : List SelectItem) :
    (items.foldl (add place) c).selections.get? key =
      items.foldl (selectionStep key) (c.selections.get? key) := by
  induction items generalizing c with
  | nil =>
      rfl
  | cons item rest ih =>
      rw [List.foldl_cons, ih, get?_add, List.foldl_cons]

theorem get?_addFrom (items : List (List SelectItem)) :
    (addFrom place c items).selections.get? key =
      items.flatten.foldl (selectionStep key) (c.selections.get? key) := by
  induction items generalizing place c with
  | nil =>
      rfl
  | cons first rest ih =>
      rw [addFrom, ih, get?_foldl_add, List.flatten_cons, List.foldl_append]

/-- Where no item stands for columns of the table, none is named and there is no star. -/
theorem ofItems_of_not_mention {items : List SelectItem} (h : SelectItem.mention key items = false) :
    Selection.ofItems key items = .only [] := by
  have hnone : ∀ item ∈ items, item.key ≠ key := by
    simpa [SelectItem.mention] using h
  have hall : SelectItem.all key ∉ items := fun hin => hnone _ hin rfl
  have hnames : items.filterMap (SelectItem.name? key) = [] := by
    refine List.filterMap_eq_nil_iff.2 fun item hitem => ?_
    cases item with
    | all k =>
        rfl
    | column k name =>
        exact if_neg (hnone _ hitem)
  rw [Selection.ofItems, if_neg hall, hnames]
  rfl

/-- One more column.  A star takes in all columns, whether they are named before it or after it. -/
theorem withColumn_ofItems (items : List SelectItem) (name : String) :
    withColumn name (some (Selection.ofItems key items)) =
      Selection.ofItems key (items ++ [.column key name]) := by
  have hstar : SelectItem.all key ∈ items ++ [.column key name] ↔ SelectItem.all key ∈ items := by
    simp
  have hnames : (items ++ [SelectItem.column key name]).filterMap (SelectItem.name? key) =
      items.filterMap (SelectItem.name? key) ++ [name] := by
    simp [SelectItem.name?]
  unfold Selection.ofItems
  rw [hnames, dedup_concat]
  by_cases hall : SelectItem.all key ∈ items
  · rw [if_pos hall, if_pos (hstar.2 hall)]
    rfl
  · rw [if_neg hall, if_neg fun h => hall (hstar.1 h)]
    simp only [withColumn, List.contains_iff_mem, mem_dedup]
    split_ifs <;> rfl

theorem ofItems_all (items : List SelectItem) :
    Selection.ofItems key (items ++ [.all key]) = .every := by
  simp [Selection.ofItems]

/-- An item of another table. -/
theorem ofItems_of_ne {item : SelectItem} (items : List SelectItem) (h : item.key ≠ key) :
    Selection.ofItems key (items ++ [item]) = Selection.ofItems key items := by
  have hstar : SelectItem.all key ∈ items ++ [item] ↔ SelectItem.all key ∈ items := by
    have hne : SelectItem.all key ≠ item := fun heq => h (heq ▸ rfl)
    simp [hne]
  have hname : SelectItem.name? key item = none := by
    cases item with
    | all k =>
        rfl
    | column k name =>
        exact if_neg h
  simp [Selection.ofItems, hstar, hname]

/-- What the items read so far select of a table, if one of them stands for columns of it. -/
def covered (key : String) (items : List SelectItem) : Option Selection :=
  if SelectItem.mention key items then some (Selection.ofItems key items) else none

theorem covered_concat (items : List SelectItem) (item : SelectItem) :
    covered key (items ++ [item]) = selectionStep key (covered key items) item := by
  have hmention : SelectItem.mention key (items ++ [item]) =
      (SelectItem.mention key items || item.key == key) := by
    simp [SelectItem.mention]
  by_cases hkey : item.key = key
  · have hthere : covered key (items ++ [item]) = some (Selection.ofItems key (items ++ [item])) := by
      rw [covered, hmention, if_pos (by simp [hkey])]
    rw [hthere]
    cases item with
    | all k =>
        obtain rfl : k = key := hkey
        simp [selectionStep, ofItems_all]
    | column k name =>
        obtain rfl : k = key := hkey
        have hbefore : withColumn name (covered k items) =
            withColumn name (some (Selection.ofItems k items)) := by
          cases hbefore : SelectItem.mention k items with
          | true =>
              simp [covered, hbefore]
          | false =>
              -- the first column of a table is added to none, as it would be to an empty list
              rw [ofItems_of_not_mention hbefore, covered, hbefore]
              rfl
        simp [selectionStep, hbefore, withColumn_ofItems]
  · have hsame : selectionStep key (covered key items) item = covered key items := by
      cases item <;> exact if_neg hkey
    rw [hsame]
    simp [covered, hmention, hkey, ofItems_of_ne]

theorem foldl_selectionStep (items : List SelectItem) :
    items.foldl (selectionStep key) none = covered key items := by
  induction items using List.reverseRecOn with
  | nil =>
      rfl
  | append_singleton items item ih =>
      rw [List.foldl_append, ih, List.foldl_cons, List.foldl_nil, covered_concat]

/-- What is selected of a table in the end. -/
theorem get?_ofItems (items : List (List SelectItem)) :
    (ofItems items).selections.get? key = covered key items.flatten := by
  rw [ofItems, get?_addFrom, ← foldl_selectionStep]
  rfl

theorem exists_of_covered {items : List SelectItem} {s : Selection} :
    covered key items = some s → ∃ item ∈ items, item.key = key := by
  intro h
  unfold covered at h
  split_ifs at h with hmention
  simpa [SelectItem.mention] using hmention

theorem distinct_ofItems (items : List SelectItem) : (Selection.ofItems key items).Distinct := by
  unfold Selection.ofItems
  split_ifs
  · trivial
  · exact dedup_nodup _

theorem distinct_covered {items : List SelectItem} {s : Selection} :
    covered key items = some s → s.Distinct := by
  intro h
  unfold covered at h
  split_ifs at h
  cases h
  exact distinct_ofItems items

theorem nodup_keys_addFrom {items : List (List SelectItem)} (h : c.selections.keys.Nodup) :
    (addFrom place c items).selections.keys.Nodup := by
  have hfold : ∀ (place : Nat) (items : List SelectItem) (c : Coverage), c.selections.keys.Nodup →
      (items.foldl (add place) c).selections.keys.Nodup := by
    intro place items
    induction items with
    | nil =>
        exact fun c hc => hc
    | cons item rest ih =>
        intro c hc
        refine ih _ ?_
        cases item <;> exact Selections.nodup_keys_set hc _ _
  induction items generalizing place c with
  | nil =>
      exact h
  | cons first rest ih =>
      exact ih (hfold place first c h)

theorem nodup_keys_ofItems (items : List (List SelectItem)) :
    (ofItems items).selections.keys.Nodup := nodup_keys_addFrom .nil

/-! ## Places -/

theorem lookup_note (k : String) :
    (c.note place k).places.lookup key =
      (c.places.lookup key).or (if k = key then some place else none) := by
  unfold note
  split_ifs with hthere hkey hkey
  · obtain rfl : k = key := hkey
    rcases Option.isSome_iff_exists.1 hthere with ⟨n, hn⟩
    simp [hn]
  · simp
  · subst hkey
    simp [List.lookup_append]
  · have hne : (key == k) = false := by simpa using Ne.symm hkey
    simp [List.lookup_append, List.lookup_cons, hne]

theorem lookup_foldl_add (items : List SelectItem) :
    (items.foldl (add place) c).places.lookup key =
      (c.places.lookup key).or (if SelectItem.mention key items then some place else none) := by
  induction items generalizing c with
  | nil =>
      simp [SelectItem.mention]
  | cons item rest ih =>
      have hitem : (c.add place item).places = (c.note place item.key).places := by
        cases item <;> rfl
      rw [List.foldl_cons, ih, hitem, lookup_note]
      by_cases hkey : item.key = key <;> cases c.places.lookup key <;>
        simp [SelectItem.mention, hkey]

theorem lookup_addFrom (items : List (List SelectItem)) :
    (addFrom place c items).places.lookup key =
      (c.places.lookup key).or
        ((items.findIdx? (SelectItem.mention key)).map (place + ·)) := by
  induction items generalizing place c with
  | nil =>
      simp [addFrom]
  | cons first rest ih =>
      rw [addFrom, ih, lookup_foldl_add, List.findIdx?_cons]
      cases c.places.lookup key with
      | some n =>
          simp
      | none =>
          cases SelectItem.mention key first with
          | true =>
              simp
          | false =>
              simp [Function.comp_def, Nat.add_assoc, Nat.add_comm 1]

/-- The place of a table is that of the first item that stands for columns of it. -/
theorem lookup_ofItems (items : List (List SelectItem)) :
    (ofItems items).places.lookup key = items.findIdx? (SelectItem.mention key) := by
  simp [ofItems, lookup_addFrom]

end Coverage

/-! ## The order of the tables -/

section ByPlace

variable (place : String → Nat)

theorem decide_place_trans (a b c : String) :
    decide (place a ≤ place b) = true → decide (place b ≤ place c) = true →
      decide (place a ≤ place c) = true := by
  intro hab hbc
  rw [decide_eq_true_eq] at hab hbc ⊢
  exact hab.trans hbc

theorem decide_place_total (a b : String) :
    (decide (place a ≤ place b) || decide (place b ≤ place a)) = true := by
  rw [Bool.or_eq_true, decide_eq_true_eq, decide_eq_true_eq]
  exact le_total _ _

theorem pairwise_mergeSort_le (l : List String) :
    (l.mergeSort fun a b => place a ≤ place b).Pairwise fun a b => place a ≤ place b :=
  (List.pairwise_mergeSort (decide_place_trans place) (decide_place_total place) l).imp
    of_decide_eq_true

end ByPlace

theorem perm_orderByAppearance (places : List (String × Nat)) (keys : List String) :
    (orderByAppearance places keys).Perm keys := by
  cases keys with
  | nil =>
      exact .nil
  | cons first rest =>
      exact (List.mergeSort_perm rest _).cons first

/-- Next to the first table there is nothing to sort in one other table. -/
theorem orderByAppearance_of_length_lt {places : List (String × Nat)} {keys : List String} :
    keys.length < 3 → orderByAppearance places keys = keys := by
  intro hlength
  rcases keys with _ | ⟨first, _ | ⟨second, _ | ⟨third, rest⟩⟩⟩
  · rfl
  · simp [orderByAppearance]
  · simp [orderByAppearance]
  · exact absurd hlength (by simp)

end QueryDesigner

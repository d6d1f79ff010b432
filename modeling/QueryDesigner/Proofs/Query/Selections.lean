import Mathlib
import QueryDesigner.Query.Selection

/-!
# Selections as a dictionary

What each operation on `Selections` does to the keys and to look-up.

* `Selections.keys_set_of_notMem`, `Selections.keys_set_of_mem` — a new key comes in at the end, a
  present one keeps its place;
* `Selections.get?_set`, `Selections.get?_set_of_ne`, `Selections.get?_erase_of_ne`,
  `Selections.get?_rekey_of_ne` — look-up after a change;
* `Selections.rekey_rekey` — one key for another, and the way back;
* `Selections.ofList_eq` — entries without a repeated key are a dictionary as they stand;
* `Selection.Distinct`, `Selections.Distinct` — no selection lists a column twice;
* `dedup_nodup`, `mem_dedup`, `dedup_eq_self`, `dedup_concat` — a list without later repetitions.
-/

namespace QueryDesigner

/-! ## Lists without repetitions -/

section Dedup

variable {α : Type} [BEq α] [LawfulBEq α]

theorem mem_dedupFrom {seen xs : List α} {x : α} :
    x ∈ dedupFrom seen xs ↔ x ∈ xs ∧ x ∉ seen := by
  induction xs generalizing seen with
  | nil =>
      simp [dedupFrom]
  | cons y ys ih =>
      by_cases hy : y ∈ seen
      · by_cases hxy : x = y
        · subst hxy
          simp [dedupFrom, hy, ih]
        · simp [dedupFrom, hy, ih, hxy]
      · by_cases hxy : x = y
        · subst hxy
          simp [dedupFrom, hy]
        · simp [dedupFrom, hy, ih, hxy]

theorem dedupFrom_nodup (seen xs : List α) : (dedupFrom seen xs).Nodup := by
  induction xs generalizing seen with
  | nil =>
      simp [dedupFrom]
  | cons y ys ih =>
      by_cases hy : y ∈ seen
      · simpa [dedupFrom, hy] using ih seen
      · have hnot : y ∉ dedupFrom (y :: seen) ys := by
          simp [mem_dedupFrom]
        simpa [dedupFrom, hy, hnot] using ih (y :: seen)

theorem mem_dedup {xs : List α} {x : α} : x ∈ dedup xs ↔ x ∈ xs := by
  simp [dedup, mem_dedupFrom]

theorem dedup_nodup (xs : List α) : (dedup xs).Nodup := dedupFrom_nodup [] xs

theorem dedupFrom_eq_self {seen xs : List α} :
    xs.Nodup → (∀ x ∈ xs, x ∉ seen) → dedupFrom seen xs = xs := by
  intro hxs hseen
  induction xs generalizing seen with
  | nil =>
      rfl
  | cons y ys ih =>
      rcases List.nodup_cons.1 hxs with ⟨hy, hys⟩
      have hrest : ∀ x ∈ ys, x ∉ y :: seen := by
        intro x hx
        have hne : x ≠ y := fun h => hy (h ▸ hx)
        simpa [hne] using hseen x (List.mem_cons_of_mem y hx)
      simp [dedupFrom, hseen y (by simp), ih hys hrest]

theorem dedup_eq_self {xs : List α} (h : xs.Nodup) : dedup xs = xs :=
  dedupFrom_eq_self h (by simp)

theorem dedupFrom_concat {seen xs : List α} {x : α} :
    dedupFrom seen (xs ++ [x]) =
      if x ∈ seen ∨ x ∈ xs then dedupFrom seen xs else dedupFrom seen xs ++ [x] := by
  induction xs generalizing seen with
  | nil =>
      by_cases hx : x ∈ seen <;> simp [dedupFrom, hx]
  | cons y ys ih =>
      by_cases hy : y ∈ seen
      · have hsame : x ∈ seen ∨ x ∈ y :: ys ↔ x ∈ seen ∨ x ∈ ys := by
          rw [List.mem_cons]
          refine ⟨?_, fun h => h.imp_right .inr⟩
          rintro (h | rfl | h)
          · exact .inl h
          · exact .inl hy
          · exact .inr h
        simp only [List.cons_append, dedupFrom, List.contains_iff_mem, hy, if_true, ih, hsame]
      · have hsame : x ∈ y :: seen ∨ x ∈ ys ↔ x ∈ seen ∨ x ∈ y :: ys := by
          simp only [List.mem_cons]
          tauto
        simp only [List.cons_append, dedupFrom, List.contains_iff_mem, hy, if_false, ih, hsame]
        split_ifs <;> rfl

theorem dedup_concat {xs : List α} {x : α} :
    dedup (xs ++ [x]) = if x ∈ xs then dedup xs else dedup xs ++ [x] := by
  simp [dedup, dedupFrom_concat]

end Dedup

/-! ## Single selections -/

/-- A list of columns names each of them once. -/
def Selection.Distinct : Selection → Prop
  | every => True
  | only columns => columns.Nodup

namespace Selections

variable {key k : String} {s : Selection} {entries : List (String × Selection)} {m : Selections}

/-! ## Keys -/

theorem map_fst_put_of_notMem :
    key ∉ entries.map Prod.fst →
      (put key s entries).map Prod.fst = entries.map Prod.fst ++ [key] := by
  intro h
  induction entries with
  | nil =>
      rfl
  | cons e rest ih =>
      rw [List.map_cons, List.mem_cons, not_or] at h
      simp [put, Ne.symm h.1, ih h.2]

theorem map_fst_put_of_mem :
    key ∈ entries.map Prod.fst → (put key s entries).map Prod.fst = entries.map Prod.fst := by
  intro h
  induction entries with
  | nil =>
      simp at h
  | cons e rest ih =>
      by_cases he : e.1 = key
      · simp [put, he]
      · have hrest : key ∈ rest.map Prod.fst := by
          simpa [Ne.symm he] using h
        simp [put, he, ih hrest]

theorem keys_set_of_notMem (h : key ∉ m.keys) : (m.set key s).keys = m.keys ++ [key] :=
  map_fst_put_of_notMem h

theorem keys_set_of_mem (h : key ∈ m.keys) : (m.set key s).keys = m.keys :=
  map_fst_put_of_mem h

theorem keys_erase (m : Selections) (key : String) :
    (m.erase key).keys = m.keys.filter fun k => k != key := by
  simp [keys, erase, List.filter_map, Function.comp_def]

/-! ## No key is repeated -/

theorem nodup_keys_set (hm : m.keys.Nodup) (key : String) (s : Selection) :
    (m.set key s).keys.Nodup := by
  by_cases hkey : key ∈ m.keys
  · rwa [keys_set_of_mem hkey]
  · rw [keys_set_of_notMem hkey, ← List.concat_eq_append]
    exact hm.concat hkey

theorem nodup_keys_erase (hm : m.keys.Nodup) (key : String) : (m.erase key).keys.Nodup := by
  rw [keys_erase]
  exact hm.filter _

theorem nodup_keys_ofList (entries : List (String × Selection)) : (ofList entries).keys.Nodup := by
  have hfold : ∀ m : Selections, m.keys.Nodup →
      (entries.foldl (fun m e => m.set e.1 e.2) m).keys.Nodup := by
    induction entries with
    | nil =>
        intro m hm
        exact hm
    | cons e rest ih =>
        intro m hm
        exact ih _ (nodup_keys_set hm e.1 e.2)
  exact hfold {} .nil

/-! ## Entries -/

theorem mem_put {e : String × Selection} :
    e ∈ put key s entries → e ∈ entries ∨ e = (key, s) := by
  intro h
  induction entries with
  | nil =>
      exact .inr (by simpa [put] using h)
  | cons f rest ih =>
      by_cases hf : f.1 = key
      · rw [put, if_pos hf, List.mem_cons] at h
        rcases h with h | h
        · exact .inr h
        · exact .inl (List.mem_cons_of_mem f h)
      · rw [put, if_neg hf, List.mem_cons] at h
        rcases h with rfl | h
        · exact .inl (by simp)
        · rcases ih h with h | h
          · exact .inl (List.mem_cons_of_mem f h)
          · exact .inr h

theorem put_eq_append (h : key ∉ entries.map Prod.fst) :
    put key s entries = entries ++ [(key, s)] := by
  induction entries with
  | nil =>
      rfl
  | cons e rest ih =>
      rw [List.map_cons, List.mem_cons, not_or] at h
      simp [put, Ne.symm h.1, ih h.2]

theorem put_append {t : Selection} (h : key ∉ entries.map Prod.fst) :
    put key s (entries ++ [(key, t)]) = entries ++ [(key, s)] := by
  induction entries with
  | nil =>
      simp [put]
  | cons e rest ih =>
      rw [List.map_cons, List.mem_cons, not_or] at h
      simp [put, Ne.symm h.1, ih h.2]

/-- Entries without a repeated key are a dictionary as they stand. -/
theorem foldl_set_eq :
    (m.keys ++ entries.map Prod.fst).Nodup →
      entries.foldl (fun m e => m.set e.1 e.2) m = ⟨m.entries ++ entries⟩ := by
  intro h
  induction entries generalizing m with
  | nil =>
      simp
  | cons e rest ih =>
      have hnew : e.1 ∉ m.keys := by
        rw [List.map_cons, List.nodup_append] at h
        intro hmem
        exact h.2.2 e.1 hmem e.1 (by simp) rfl
      have hset : m.set e.1 e.2 = ⟨m.entries ++ [e]⟩ := by
        simp only [set]
        rw [put_eq_append hnew]
      have hkeys : ((⟨m.entries ++ [e]⟩ : Selections).keys ++ rest.map Prod.fst).Nodup := by
        simpa [keys] using h
      simp [hset, ih hkeys]

theorem ofList_eq (h : (entries.map Prod.fst).Nodup) : ofList entries = ⟨entries⟩ := by
  have hfold : entries.foldl (fun m e => m.set e.1 e.2) ({} : Selections) = ⟨[] ++ entries⟩ :=
    foldl_set_eq (by simpa [keys] using h)
  simpa [ofList] using hfold

/-- One key for another, in place, where the new key is free. -/
theorem rekey_eq {old new : String} (hm : m.keys.Nodup) (hnew : new ∉ m.keys) :
    m.rekey old new = ⟨m.entries.map fun e => (if e.1 = old then new else e.1, e.2)⟩ := by
  refine ofList_eq ?_
  have hmap : (m.entries.map fun e => (if e.1 = old then new else e.1, e.2)).map Prod.fst =
      m.keys.map fun k => if k = old then new else k := by
    simp [keys, Function.comp_def]
  rw [hmap]
  refine hm.map_on ?_
  intro a ha b hb hab
  by_cases hao : a = old <;> by_cases hbo : b = old
  · rw [hao, hbo]
  · simp only [hao, hbo, if_true, if_false] at hab
    exact absurd (hab ▸ hb) hnew
  · simp only [hao, hbo, if_true, if_false] at hab
    exact absurd (hab ▸ ha) hnew
  · simpa [hao, hbo] using hab

theorem keys_rekey {old new : String} (hm : m.keys.Nodup) (hnew : new ∉ m.keys) :
    (m.rekey old new).keys = m.keys.map fun k => if k = old then new else k := by
  rw [rekey_eq hm hnew]
  simp [keys, Function.comp_def]

/-- One key for another and the way back, for any key but the new one. -/
theorem rekey_back {old new : String} (h : k ≠ new) :
    (if (if k = old then new else k) = new then old else if k = old then new else k) = k := by
  by_cases hk : k = old
  · rw [if_pos hk, if_pos rfl, hk]
  · rw [if_neg hk, if_neg h]

/-- A key that was free takes the place of another one, and gives it back. -/
theorem rekey_rekey {old new : String} (hm : m.keys.Nodup) (hnew : new ∉ m.keys) :
    (m.rekey old new).rekey new old = m := by
  have hkeys : (m.rekey old new).keys.Nodup := nodup_keys_ofList _
  have hold : old ∉ (m.rekey old new).keys := by
    rw [keys_rekey hm hnew]
    intro hmem
    rcases List.mem_map.1 hmem with ⟨k, hk, hkold⟩
    by_cases hsame : k = old
    · rw [if_pos hsame] at hkold
      exact hnew (hkold.trans hsame.symm ▸ hk)
    · rw [if_neg hsame] at hkold
      exact hsame hkold
  have hentry : ∀ e ∈ m.entries,
      (if (if e.1 = old then new else e.1) = new then old else if e.1 = old then new else e.1, e.2) =
        e := by
    intro e he
    have hne : e.1 ≠ new := fun heq => hnew (heq ▸ List.mem_map_of_mem he)
    rw [rekey_back hne]
  calc
    (m.rekey old new).rekey new old
        = ⟨(m.rekey old new).entries.map fun e => (if e.1 = new then old else e.1, e.2)⟩ :=
          rekey_eq hkeys hold
    _ = ⟨m.entries.map fun e => (if (if e.1 = old then new else e.1) = new then old
          else if e.1 = old then new else e.1, e.2)⟩ := by
          rw [rekey_eq hm hnew, List.map_map]
          rfl
    _ = m := by rw [List.map_congr_left hentry, List.map_id']

/-! ## Look-up -/

theorem lookup_put : (put key s entries).lookup key = some s := by
  induction entries with
  | nil =>
      simp [put]
  | cons e rest ih =>
      by_cases he : e.1 = key
      · simp [put, he]
      · rcases e with ⟨k, v⟩
        have hne : (key == k) = false := by simpa using Ne.symm he
        simp [put, show k ≠ key from he, List.lookup_cons, hne, ih]

theorem lookup_put_of_ne (h : k ≠ key) : (put key s entries).lookup k = entries.lookup k := by
  induction entries with
  | nil =>
      simp [put, h]
  | cons e rest ih =>
      rcases e with ⟨k', v⟩
      by_cases he : k' = key
      · have hne : (k == key) = false := by simpa using h
        simp [put, he, List.lookup_cons, hne]
      · by_cases hk : k = k'
        · simp [put, he, hk]
        · have hne : (k == k') = false := by simpa using hk
          simp [put, he, List.lookup_cons, hne, ih]

@[simp] theorem get?_set (m : Selections) (key : String) (s : Selection) :
    (m.set key s).get? key = some s := lookup_put

theorem get?_set_of_ne (m : Selections) (s : Selection) (h : k ≠ key) :
    (m.set key s).get? k = m.get? k := lookup_put_of_ne h

/-- A key is found as before where the entries of its kind stay. -/
theorem lookup_filter_of_pos {f : String → Bool} (h : f k = true) :
    (entries.filter fun e => f e.1).lookup k = entries.lookup k := by
  induction entries with
  | nil =>
      rfl
  | cons e rest ih =>
      by_cases hf : f e.1 = true
      · rw [List.filter_cons, if_pos hf, List.lookup_cons, List.lookup_cons, ih]
      · have hne : (k == e.1) = false := by
          simp only [beq_eq_false_iff_ne]
          rintro rfl
          exact hf h
        rw [List.filter_cons, if_neg hf, List.lookup_cons, hne, ih]

theorem get?_erase_of_ne (m : Selections) (h : k ≠ key) : (m.erase key).get? k = m.get? k :=
  lookup_filter_of_pos (f := (· != key)) (bne_iff_ne.2 h)

/-- The selections of other keys are found as before after one key for another. -/
theorem get?_rekey_of_ne {old new : String} (hm : m.keys.Nodup) (hnew : new ∉ m.keys)
    (hold : k ≠ old) (h : k ≠ new) : (m.rekey old new).get? k = m.get? k := by
  rw [rekey_eq hm hnew]
  rcases m with ⟨entries⟩
  clear hm hnew
  simp only [get?]
  induction entries with
  | nil =>
      rfl
  | cons e rest ih =>
      by_cases he : e.1 = old
      · have hne : (k == new) = false := by simpa using h
        have hne' : (k == e.1) = false := by simpa [he] using hold
        rw [List.map_cons, if_pos he, List.lookup_cons, List.lookup_cons, hne, hne', ih]
      · rw [List.map_cons, if_neg he, List.lookup_cons, List.lookup_cons, ih]

theorem mem_keys_of_get? : m.get? key = some s → (key, s) ∈ m.entries := by
  intro h
  rw [get?, List.lookup_eq_some_iff] at h
  rcases h with ⟨before, after, hsplit, _⟩
  simp [hsplit]

theorem lookup_of_mem :
    (entries.map Prod.fst).Nodup → (key, s) ∈ entries → entries.lookup key = some s := by
  intro h hmem
  induction entries with
  | nil =>
      cases hmem
  | cons e rest ih =>
      rcases List.nodup_cons.1 h with ⟨hnew, hrest⟩
      rcases List.mem_cons.1 hmem with rfl | hmem
      · simp
      · have hne : (key == e.1) = false := by
          simp only [beq_eq_false_iff_ne]
          rintro rfl
          exact hnew (List.mem_map.2 ⟨(e.1, s), hmem, rfl⟩)
        rw [List.lookup_cons, hne]
        exact ih hrest hmem

theorem get?_of_mem {e : String × Selection} (hm : m.keys.Nodup) (he : e ∈ m.entries) :
    m.get? e.1 = some e.2 := lookup_of_mem hm he

/-- The entries of a dictionary put into another one. -/
theorem get?_foldl_set {n : Selections} (hm : m.keys.Nodup) :
    (m.entries.foldl (fun n e => n.set e.1 e.2) n).get? key = (m.get? key).or (n.get? key) := by
  rcases m with ⟨entries⟩
  change (entries.map Prod.fst).Nodup at hm
  change _ = (entries.lookup key).or _
  induction entries generalizing n with
  | nil =>
      rfl
  | cons e rest ih =>
      rcases List.nodup_cons.1 hm with ⟨hnew, hrest⟩
      rw [List.foldl_cons, ih hrest, List.lookup_cons]
      by_cases hkey : key = e.1
      · subst hkey
        have hnone : rest.lookup e.1 = none := by
          refine List.lookup_eq_none_iff.2 fun f hf => bne_iff_ne.2 fun heq => hnew ?_
          exact heq ▸ List.mem_map_of_mem hf
        simp [hnone]
      · have hne : (key == e.1) = false := by simpa using hkey
        rw [hne, get?_set_of_ne _ _ hkey]

/-! ## No selection lists a column twice -/

/-- No selection lists a column twice. -/
def Distinct (m : Selections) : Prop := ∀ e ∈ m.entries, e.2.Distinct

theorem Distinct.set (hm : m.Distinct) (hs : s.Distinct) : (m.set key s).Distinct := by
  intro e he
  rcases mem_put he with h | rfl
  · exact hm e h
  · exact hs

theorem Distinct.erase (hm : m.Distinct) (key : String) : (m.erase key).Distinct := by
  intro e he
  exact hm e (List.mem_of_mem_filter he)

theorem Distinct.rekey {old new : String} (h : m.Distinct) (hm : m.keys.Nodup)
    (hnew : new ∉ m.keys) : (m.rekey old new).Distinct := by
  rw [rekey_eq hm hnew]
  intro e he
  rcases List.mem_map.1 he with ⟨f, hf, rfl⟩
  exact h f hf

theorem Distinct.get (h : m.Distinct) (key : String) : (m.get key).Distinct := by
  unfold Selections.get
  cases hkey : m.get? key with
  | none =>
      trivial
  | some s =>
      exact h _ (mem_keys_of_get? hkey)

end Selections

end QueryDesigner

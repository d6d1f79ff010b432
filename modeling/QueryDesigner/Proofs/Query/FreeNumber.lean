import Mathlib
import QueryDesigner.Canvas.Tables

/-!
# The number of a self-join alias

A table that comes in a second time is called by its name and a number.  The search for the number
looks at one more candidate than there are keys, so one of them is free.

* `Query.numbered_injective` — different numbers make different keys;
* `Query.exists_free_number` — one of the candidates is free;
* `Query.freeNumber_spec`, `Query.isLeast_freeNumber` — the search ends on the least free number;
* `Query.Retries`, `Query.wellFounded_retries`, `Query.retries_freeNumber` — a search that is given
  no bound comes to an end as well, and on the same number;
* `Query.selfJoinAlias_notMem` — the alias is no key of the query;
* `Query.nextNumber_lt` — one more table of the name raises its number.
-/

namespace QueryDesigner
namespace Query

theorem numbered_injective (name : String) : Function.Injective (numbered name) := by
  intro m n h
  have hchars : (numbered name m).toList = (numbered name n).toList := by rw [h]
  simp only [numbered, String.toList_append, List.append_cancel_left_eq] at hchars
  exact Nat.repr_injective (String.toList_injective hchars)

/-- There are more candidates than taken keys. -/
theorem exists_free_number (taken : List String) (name : String) (first : Nat) :
    ∃ n ∈ List.range' first (taken.length + 1), numbered name n ∉ taken := by
  by_contra h
  push Not at h
  have hnodup : ((List.range' first (taken.length + 1)).map (numbered name)).Nodup :=
    (List.nodup_range' 1).map (numbered_injective name)
  have hsubset : (List.range' first (taken.length + 1)).map (numbered name) ⊆ taken := by
    intro k hk
    rcases List.mem_map.1 hk with ⟨n, hn, rfl⟩
    exact h n hn
  have hlength := (hnodup.subperm hsubset).length_le
  simp at hlength

/-- The search ends on the least number from `first` on that makes no taken key. -/
theorem freeNumber_spec (taken : List String) (name : String) (first : Nat) :
    first ≤ freeNumber taken name first ∧
      numbered name (freeNumber taken name first) ∉ taken ∧
      ∀ n, first ≤ n → n < freeNumber taken name first → numbered name n ∈ taken := by
  rcases exists_free_number taken name first with ⟨n, hn, hfree⟩
  cases hfind : (List.range' first (taken.length + 1)).find? fun n =>
      !taken.contains (numbered name n) with
  | none =>
      have hall := List.find?_eq_none.1 hfind n hn
      simp [hfree] at hall
  | some i =>
      have hi : freeNumber taken name first = i := by
        rw [freeNumber, hfind]
        rfl
      rw [List.find?_range'_eq_some] at hfind
      rcases hfind with ⟨hip, him, hleast⟩
      rw [hi]
      refine ⟨(List.mem_range'_1.1 him).1, by simpa using hip, ?_⟩
      intro j hj hji
      simpa using hleast j hj hji

theorem isLeast_freeNumber (taken : List String) (name : String) (first : Nat) :
    IsLeast {n | first ≤ n ∧ numbered name n ∉ taken} (freeNumber taken name first) := by
  rcases freeNumber_spec taken name first with ⟨hfirst, hfree, hleast⟩
  refine ⟨⟨hfirst, hfree⟩, fun n hn => ?_⟩
  by_contra hlt
  exact hn.2 (hleast n hn.1 (not_le.1 hlt))

/-! ## The search round by round -/

/-- One round of a search that goes on until it finds a free number: a number that makes a taken key
is given up for the next one. -/
inductive Retries (taken : List String) (name : String) : Nat → Nat → Prop where
  | next {n : Nat} : numbered name n ∈ taken → Retries taken name n (n + 1)

section Rounds

variable {taken : List String} {name : String} {n : Nat}

/-- A free number is found where it is looked for. -/
theorem freeNumber_of_notMem (h : numbered name n ∉ taken) : freeNumber taken name n = n :=
  (isLeast_freeNumber taken name n).unique ⟨⟨le_rfl, h⟩, fun _ hm => hm.1⟩

/-- A round leaves the number that is looked for ahead. -/
theorem freeNumber_succ_of_mem (h : numbered name n ∈ taken) :
    freeNumber taken name (n + 1) = freeNumber taken name n := by
  -- `n` itself is taken, so a free number from `n` on comes after it
  have hsame : {m | n + 1 ≤ m ∧ numbered name m ∉ taken} =
      {m | n ≤ m ∧ numbered name m ∉ taken} := by
    ext m
    refine and_congr_left fun hfree => ⟨Nat.le_of_succ_le, fun hle => lt_of_le_of_ne hle ?_⟩
    rintro rfl
    exact hfree h
  have hleast := isLeast_freeNumber taken name (n + 1)
  rw [hsame] at hleast
  exact hleast.unique (isLeast_freeNumber taken name n)

theorem lt_freeNumber_of_mem (h : numbered name n ∈ taken) : n < freeNumber taken name n := by
  rw [← freeNumber_succ_of_mem h]
  exact (isLeast_freeNumber taken name (n + 1)).1.1

/-- No search goes on forever: every round brings it nearer to the free number ahead. -/
theorem wellFounded_retries (taken : List String) (name : String) :
    WellFounded fun n m => Retries taken name m n := by
  refine Subrelation.wf (fun {n m} h => ?_) (measure fun n => freeNumber taken name n - n).wf
  cases h with
  | next h =>
      have hsame := freeNumber_succ_of_mem h
      have hahead := lt_freeNumber_of_mem h
      change freeNumber taken name (m + 1) - (m + 1) < freeNumber taken name m - m
      omega

/-- The rounds lead to the number that the bounded search finds. -/
theorem retries_freeNumber (taken : List String) (name : String) (first : Nat) :
    Relation.ReflTransGen (Retries taken name) first (freeNumber taken name first) := by
  induction first using (wellFounded_retries taken name).induction with
  | h n ih =>
      by_cases h : numbered name n ∈ taken
      · rw [← freeNumber_succ_of_mem h]
        exact .head (.next h) (ih (n + 1) (.next h))
      · rw [freeNumber_of_notMem h]

end Rounds

/-! ## The alias of one more table -/

/-- The number in the alias of one more table of a name. -/
def nextNumber (q : Query) (name : String) : Nat :=
  freeNumber q.tableKeys name (q.tables.countP (fun t => t.name == name) + 1)

theorem selfJoinAlias_notMem (q : Query) (name : String) : q.selfJoinAlias name ∉ q.tableKeys :=
  (freeNumber_spec q.tableKeys name _).2.1

theorem numbered_ne_empty (name : String) (n : Nat) : numbered name n ≠ "" := by
  intro h
  have hchars : (numbered name n).toList = [] := by rw [h]; rfl
  simp [numbered] at hchars

/-- One more table of the name under the number that is due raises the number. -/
theorem nextNumber_lt {q q' : Query} {name : String} {table : TableRef} :
    q'.tables = q.tables ++ [table] → table.name = name →
      table.key = numbered name (q.nextNumber name) → q.nextNumber name < q'.nextNumber name := by
  intro htables hname hkey
  have hkeys : q'.tableKeys = q.tableKeys ++ [numbered name (q.nextNumber name)] := by
    simp [tableKeys, htables, hkey]
  have hcount : q'.tables.countP (fun t => t.name == name) =
      q.tables.countP (fun t => t.name == name) + 1 := by
    simp [htables, hname]
  obtain ⟨hbound, hfree⟩ : q.tables.countP (fun t => t.name == name) + 1 + 1 ≤ q'.nextNumber name ∧
      numbered name (q'.nextNumber name) ∉ q.tableKeys ++ [numbered name (q.nextNumber name)] := by
    rw [← hkeys, ← hcount]
    exact (isLeast_freeNumber q'.tableKeys name _).1
  rw [List.mem_append, List.mem_singleton, not_or] at hfree
  by_contra hlow
  -- below the number that is due every candidate was taken before, and that number is taken now
  rcases (not_lt.1 hlow).lt_or_eq with hlt | heq
  · exact hfree.1 ((freeNumber_spec q.tableKeys name _).2.2 _ (by omega) hlt)
  · exact hfree.2 (by rw [heq])

end Query
end QueryDesigner

import QueryDesigner.Proofs.Query.References

/-!
# References under a key

A reference that starts with a key and a full stop is a column of that key, and a rename puts
another key in front of the same column.

* `Reference.refersTo_iff_exists`, `Reference.requalify_qualified` — both facts;
* `Reference.Merges` — a rename makes two different references the same;
* `Reference.nodup_map_requalify_iff` — and only then it makes a repetition;
* `Reference.qualifier?_eq_some_iff` — the qualifier of a reference is the key before a plain
  column;
* `Reference.refersTo_iff_of_qualifier?` — a reference with one key as its qualifier starts with
  another key exactly if the first key does;
* `Reference.requalify_requalify` — a rename is undone by the rename back.
-/

namespace QueryDesigner
namespace Reference

variable {ref key old new column : String} {refs : List String}

theorem toList_qualified (key column : String) :
    (qualified key column).toList = lead key ++ column.toList := by
  simp [qualified, lead]

/-- What starts with a key and a full stop is a column of that key. -/
theorem refersTo_iff_exists : refersTo ref key = true ↔ ∃ column, ref = qualified key column := by
  rw [refersTo_iff]
  constructor
  · rintro ⟨rest, hrest⟩
    refine ⟨String.ofList rest, String.toList_injective ?_⟩
    rw [toList_qualified, String.toList_ofList, hrest]
  · rintro ⟨column, rfl⟩
    rw [toList_qualified]
    exact List.prefix_append _ _

@[simp] theorem refersTo_qualified (key column : String) :
    refersTo (qualified key column) key = true :=
  refersTo_iff_exists.2 ⟨column, rfl⟩

@[simp] theorem requalify_qualified (old new column : String) :
    requalify (qualified old column) old new = qualified new column := by
  have hdrop : (qualified old column).toList.drop old.toList.length = '.' :: column.toList := by
    simp [toList_qualified, lead]
  refine String.toList_injective ?_
  rw [requalify, if_pos (refersTo_qualified old column), hdrop]
  simp [toList_qualified, lead]

theorem qualified_injective (key : String) : Function.Injective (qualified key) := by
  intro a b h
  have hlists : lead key ++ a.toList = lead key ++ b.toList := by
    rw [← toList_qualified, ← toList_qualified, h]
  exact String.toList_injective (List.append_cancel_left hlists)

/-! ## Repetitions after a rename -/

/-- Under its new key a column is referred to already, by a reference that the rename passes over. -/
def Merges (old new : String) (refs : List String) : Prop :=
  ∃ column, qualified old column ∈ refs ∧ qualified new column ∈ refs ∧
    refersTo (qualified new column) old = false

/-- Two references that become the same were the same, or one of them was there before the rename
and the other one came to it. -/
theorem eq_or_merges {r s : String} (hr : r ∈ refs) (hs : s ∈ refs) :
    requalify r old new = requalify s old new → r = s ∨ Merges old new refs := by
  intro h
  by_cases hro : refersTo r old = true <;> by_cases hso : refersTo s old = true
  · -- Both move, so that they had the same column under the old key.
    rcases refersTo_iff_exists.1 hro with ⟨a, rfl⟩
    rcases refersTo_iff_exists.1 hso with ⟨b, rfl⟩
    rw [requalify_qualified, requalify_qualified] at h
    exact .inl (congrArg _ (qualified_injective new h))
  · rcases refersTo_iff_exists.1 hro with ⟨a, rfl⟩
    rw [requalify_qualified, requalify_of_not hso] at h
    exact .inr ⟨a, hr, h ▸ hs, by simpa [h] using hso⟩
  · rcases refersTo_iff_exists.1 hso with ⟨b, rfl⟩
    rw [requalify_qualified, requalify_of_not hro] at h
    exact .inr ⟨b, hs, h ▸ hr, by simpa [← h] using hro⟩
  · rw [requalify_of_not hro, requalify_of_not hso] at h
    exact .inl h

/-- A rename of references without repetitions makes one exactly if it merges two of them. -/
theorem nodup_map_requalify_iff (h : refs.Nodup) :
    (refs.map fun r => requalify r old new).Nodup ↔ ¬ Merges old new refs := by
  constructor
  · rintro hnodup ⟨column, hold, hnew, hstays⟩
    have hsame : requalify (qualified old column) old new =
        requalify (qualified new column) old new := by
      rw [requalify_qualified, requalify_of_not (by simp [hstays])]
    have heq := List.inj_on_of_nodup_map hnodup hold hnew hsame
    rw [← heq, refersTo_qualified] at hstays
    cases hstays
  · intro hnot
    refine h.map_on fun r hr s hs hrs => ?_
    exact (eq_or_merges hr hs hrs).resolve_right hnot

/-! ## Plain columns -/

theorem qualifierChars?_eq_none_iff {cs : List Char} : qualifierChars? cs = none ↔ '.' ∉ cs := by
  induction cs with
  | nil =>
      simp [qualifierChars?]
  | cons c rest ih =>
      cases hrest : qualifierChars? rest with
      | some before =>
          have hin : '.' ∈ rest := by simpa [hrest] using ih
          simp [qualifierChars?, hrest, hin]
      | none =>
          have hfree : '.' ∉ rest := ih.1 hrest
          simp [qualifierChars?, hrest, hfree, eq_comm]

theorem qualifierChars?_eq_some_iff {cs before : List Char} :
    qualifierChars? cs = some before ↔ ∃ after, '.' ∉ after ∧ cs = before ++ '.' :: after := by
  induction cs generalizing before with
  | nil =>
      simp [qualifierChars?]
  | cons c rest ih =>
      cases hrest : qualifierChars? rest with
      | some inner =>
          -- The last full stop of the rest is the last one of all.
          have hstop : '.' ∈ rest := by
            by_contra hfree
            rw [qualifierChars?_eq_none_iff.2 hfree] at hrest
            cases hrest
          rcases ih.1 hrest with ⟨after, hafter, hsplit⟩
          simp only [qualifierChars?, hrest, Option.some.injEq]
          constructor
          · rintro rfl
            exact ⟨after, hafter, by rw [hsplit, List.cons_append]⟩
          · rintro ⟨after', hafter', hsplit'⟩
            cases before with
            | nil =>
                obtain ⟨-, rfl⟩ := List.cons.inj hsplit'
                exact absurd hstop hafter'
            | cons d before =>
                obtain ⟨rfl, hrest'⟩ := List.cons.inj hsplit'
                have hinner : qualifierChars? rest = some before := ih.2 ⟨after', hafter', hrest'⟩
                rw [hrest] at hinner
                rw [Option.some.inj hinner]
      | none =>
          have hfree : '.' ∉ rest := qualifierChars?_eq_none_iff.1 hrest
          simp only [qualifierChars?, hrest]
          constructor
          · intro h
            split_ifs at h with hc
            obtain rfl := Option.some.inj h
            exact ⟨rest, hfree, by rw [hc, List.nil_append]⟩
          · rintro ⟨after, hafter, hsplit⟩
            cases before with
            | nil =>
                obtain ⟨rfl, -⟩ := List.cons.inj hsplit
                simp
            | cons d before =>
                obtain ⟨-, rfl⟩ := List.cons.inj hsplit
                exact absurd (by simp) hfree

/-- The qualifier of a reference is what stands before a full stop and a plain column, which has no
full stop itself. -/
theorem qualifier?_eq_some_iff :
    qualifier? ref = some key ↔ ∃ column, '.' ∉ column.toList ∧ ref = qualified key column := by
  rw [qualifier?, Option.map_eq_some_iff]
  constructor
  · rintro ⟨before, hbefore, rfl⟩
    rcases qualifierChars?_eq_some_iff.1 hbefore with ⟨after, hafter, hsplit⟩
    refine ⟨String.ofList after, by simpa using hafter, String.toList_injective ?_⟩
    rw [toList_qualified, hsplit]
    simp [lead]
  · rintro ⟨column, hcolumn, rfl⟩
    refine ⟨key.toList, qualifierChars?_eq_some_iff.2 ⟨column.toList, hcolumn, ?_⟩, by simp⟩
    rw [toList_qualified]
    simp [lead]

/-- A reference with one key as its qualifier starts with another key and a full stop exactly if the
first key does: the other key cannot end within the column. -/
theorem refersTo_iff_of_qualifier? {other : String} (href : qualifier? ref = some other)
    (hne : other ≠ key) : refersTo ref key = true ↔ refersTo other key = true := by
  rcases qualifier?_eq_some_iff.1 href with ⟨column, hcolumn, rfl⟩
  rw [refersTo_iff, refersTo_iff, toList_qualified]
  constructor
  · rintro ⟨rest, hrest⟩
    have hsplit : lead key ++ rest = other.toList ++ ('.' :: column.toList) := by
      simpa [lead] using hrest
    rcases List.append_eq_append_iff.1 hsplit with ⟨tail, hother, _⟩ | ⟨tail, hlead, htail⟩
    · exact ⟨tail, hother.symm⟩
    · cases tail with
      | nil =>
          exact ⟨[], by simpa using hlead⟩
      | cons d tail =>
          -- The key would end in the full stop before the column, or in one within the column.
          obtain ⟨rfl, hin⟩ : '.' = d ∧ column.toList = tail ++ rest := by simpa using htail
          rcases List.eq_nil_or_concat tail with rfl | ⟨front, last, rfl⟩
          · have hkey : key.toList = other.toList := by simpa [lead] using hlead
            exact absurd (String.toList_injective hkey).symm hne
          · have hlast : last = '.' := by
              have hends := congrArg List.getLast? hlead
              simpa [lead, List.getLast?_cons] using hends.symm
            exact absurd (by simp [hin, hlast]) hcolumn
  · rintro ⟨rest, hrest⟩
    exact ⟨rest ++ ('.' :: column.toList), by simp [← hrest, lead]⟩

/-! ## There and back -/

/-- A reference that does not start with the new key comes back from a rename and the way back. -/
theorem requalify_requalify (h : refersTo ref new = false) :
    requalify (requalify ref old new) new old = ref := by
  by_cases hold : refersTo ref old = true
  · rcases refersTo_iff_exists.1 hold with ⟨column, rfl⟩
    calc
      requalify (requalify (qualified old column) old new) new old
          = requalify (qualified new column) new old := by rw [requalify_qualified]
      _ = qualified old column := requalify_qualified new old column
  · -- The way back would rewrite it if it started with the new key.
    have hnew : ¬ refersTo ref new = true := by simp [h]
    calc
      requalify (requalify ref old new) new old
          = requalify ref new old := by rw [requalify_of_not hold]
      _ = ref := requalify_of_not hnew

end Reference
end QueryDesigner

import QueryDesigner.Proofs.Query.Keyed

/-!
# References of a query

Conditions, sort entries and groups refer to columns by texts.  A text that starts with a key and a
full stop refers to the table of that key, also where one key is the start of another.

* `Query.references` — all references of a query;
* `Query.Forgets` — nothing in a query has to do with a key;
* `Reference.Anchored` — a reference without a table, or to one of the given keys;
* `Reference.refersTo_requalify`, `Reference.requalify_of_not` — what a rename does to a reference;
* `Query.references_withoutTable`, `Query.references_renamed` — and to those of a query.
-/

namespace QueryDesigner

namespace Reference

variable {ref key old new : String} {keys keys' : List String}

/-! ## Single references -/

theorem refersTo_iff : refersTo ref key = true ↔ lead key <+: ref.toList :=
  List.isPrefixOf_iff_prefix

theorem requalify_of_not (h : ¬ refersTo ref old = true) : requalify ref old new = ref := by
  simp [requalify, h]

/-- A reference to the old key becomes one to the new key. -/
theorem refersTo_requalify (h : refersTo ref old = true) :
    refersTo (requalify ref old new) new = true := by
  rw [requalify, if_pos h, refersTo_iff]
  rcases refersTo_iff.1 h with ⟨rest, hrest⟩
  exact ⟨rest, by simp [lead, ← hrest]⟩

/-- A reference without a table, or to one of the given keys. -/
def Anchored (keys : List String) (ref : String) : Prop :=
  '.' ∉ ref.toList ∨ ∃ key ∈ keys, refersTo ref key = true

instance (keys : List String) (ref : String) : Decidable (Anchored keys ref) :=
  inferInstanceAs (Decidable ('.' ∉ ref.toList ∨ ∃ key ∈ keys, refersTo ref key = true))

theorem Anchored.mono (h : Anchored keys ref) (hkeys : keys ⊆ keys') : Anchored keys' ref :=
  h.imp id fun ⟨key, hkey, hrefers⟩ => ⟨key, hkeys hkey, hrefers⟩

/-- A reference survives the removal of a key that it does not start with. -/
theorem Anchored.of_not_refersTo (h : Anchored keys ref) (hnot : ¬ refersTo ref key = true)
    (hkeys : ∀ k ∈ keys, k ≠ key → k ∈ keys') : Anchored keys' ref := by
  rcases h with hfree | ⟨k, hk, hrefers⟩
  · exact .inl hfree
  · exact .inr ⟨k, hkeys k hk fun heq => hnot (heq ▸ hrefers), hrefers⟩

/-- A rename keeps references anchored: those that start with the old key start with the new one
then, whatever other keys they start with. -/
theorem Anchored.requalify (h : Anchored keys ref) (hnew : new ∈ keys')
    (hkeys : ∀ k ∈ keys, k ≠ old → k ∈ keys') : Anchored keys' (requalify ref old new) := by
  by_cases hold : refersTo ref old = true
  -- The key that anchored the reference before may be another one than the old key, and longer.
  · exact .inr ⟨new, hnew, refersTo_requalify hold⟩
  · rw [requalify_of_not hold]
    exact h.of_not_refersTo hold hkeys

end Reference

namespace Query

/-! ## The references of a query -/

/-- The references of the conditions, the sort entries and the groups. -/
def references (q : Query) : List String :=
  q.conditions.map Condition.column ++ q.orderBy.map Order.column ++ q.groupBy

theorem mem_references {q : Query} {r : String} :
    r ∈ q.references ↔
      (∃ c ∈ q.conditions, c.column = r) ∨ (∃ o ∈ q.orderBy, o.column = r) ∨ r ∈ q.groupBy := by
  simp [references]

theorem references_withoutTable (q : Query) (key : String) :
    (q.withoutTable key).references = q.references.filter fun r => !Reference.refersTo r key := by
  simp [references, withoutTable, List.filter_map, Function.comp_def]

theorem references_renamed (q : Query) (old new : String) (aliasName : Option String) :
    (q.renamed old new aliasName).references =
      q.references.map fun r => Reference.requalify r old new := by
  simp [references, renamed, Function.comp_def]

theorem references_withEverySelection (q : Query) (s : Selection) :
    (q.withEverySelection s).references = q.references :=
  withEverySelection_of (P := fun r => r.references = q.references) rfl fun _ _ _ hr => hr

/-! ## Keys that have no part in a query -/

/-- Nothing in the query has to do with a key. -/
structure Forgets (q : Query) (key : String) : Prop where
  tables : key ∉ q.tableKeys
  selections : key ∉ q.columns.keys
  joins : ∀ j ∈ q.joins, j.leftTable ≠ key ∧ j.rightTable ≠ key
  references : ∀ r ∈ q.references, Reference.refersTo r key = false

theorem forgets_withoutTable (q : Query) (key : String) : (q.withoutTable key).Forgets key where
  tables := by simp [tableKeys_withoutTable]
  selections := by simp [withoutTable, Selections.keys_erase]
  joins := by
    intro j hj
    simpa [Join.mentions] using (List.mem_filter.1 hj).2
  references := by
    intro r hr
    rw [references_withoutTable] at hr
    simpa using (List.mem_filter.1 hr).2

end Query

end QueryDesigner

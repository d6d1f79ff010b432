import QueryDesigner.Proofs.Canvas.Step
import QueryDesigner.Proofs.Suggestion.Candidate

/-!
# Suggestions follow a rename

* `Suggestion.pairs_map`, `Suggestion.candidates_retitled` — tables under other keys have the
  candidates that they had, under the other keys;
* `Suggestion.suggestJoins_retitled` — so do the suggestions, if the new key is not the key of
  another table;
* `Edit.of_run_setAlias_renames` — whether an alias changes the key of its table or not, the tables
  and the joins are those after a rename;
* `Canvas.suggestions_follow_rename` — after any run from an empty canvas, what is suggested after a
  rename is what was suggested before it, with the new key for the old one.

What is fresh is found by comparing ends, so that the rename must not merge two ends: a candidate
would then be taken for a join that it is not.  It does not, since joins end in tables of the query
and the new key is none of their keys.
-/

namespace QueryDesigner

/-- A key in place of itself. -/
theorem replace_key_self (key k : String) : (if k = key then key else k) = k :=
  ite_eq_right_iff.2 Eq.symm

theorem Join.rekey_self (key : String) : Join.rekey key key = id := by
  funext j
  simp only [rekey, replace_key_self, id_eq]

namespace Suggestion

/-! ## Tables under other keys -/

theorem pairs_map {α β : Type} (f : α → β) (xs : List α) :
    pairs (xs.map f) = (pairs xs).map (Prod.map f f) := by
  induction xs with
  | nil =>
      rfl
  | cons x rest ih =>
      simp [pairs, ih, Function.comp_def]

variable {old new : String} {f : TableRef → TableRef} {catalog : Catalog} {a b : KnownTable}
  {q : Query}

/-- A table keeps its name under another title, and its key is the new one in place of the old
one. -/
structure Retitles (f : TableRef → TableRef) (old new : String) (t : TableRef) : Prop where
  name : (f t).name = t.name
  key : (f t).key = if t.key = old then new else t.key

/-- A known table under another title, with the columns that it has. -/
def KnownTable.retitled (f : TableRef → TableRef) (a : KnownTable) : KnownTable :=
  { a with ref := f a.ref }

theorem known?_retitled (catalog : Catalog) {t : TableRef} (h : Retitles f old new t) :
    known? catalog (f t) = (known? catalog t).map (KnownTable.retitled f) := by
  simp only [known?, h.name, Option.map_map]
  rfl

theorem foreignKeyJoins_retitled (ha : Retitles f old new a.ref) (hb : Retitles f old new b.ref) :
    foreignKeyJoins (a.retitled f) (b.retitled f) =
      (foreignKeyJoins a b).map (Join.rekey old new) := by
  simp only [foreignKeyJoins, KnownTable.retitled, List.map_filterMap, Option.map_map,
    Function.comp_def, ha.key, hb.key]
  rfl

theorem namingJoins_retitled (ha : Retitles f old new a.ref) (hb : Retitles f old new b.ref) :
    namingJoins (a.retitled f) (b.retitled f) = (namingJoins a b).map (Join.rekey old new) := by
  unfold namingJoins KnownTable.retitled
  dsimp only
  split
  · split
    · simp [Join.rekey, ha.key, hb.key]
    · rfl
  · rfl

/-- Two tables under other titles have the candidates that they had, under the other keys. -/
theorem candidates_retitled (catalog : Catalog) {s t : TableRef} (hs : Retitles f old new s)
    (ht : Retitles f old new t) :
    candidates catalog (f s) (f t) = (candidates catalog s t).map (Join.rekey old new) := by
  unfold candidates
  rw [known?_retitled catalog hs, known?_retitled catalog ht]
  cases ha : known? catalog s with
  | none =>
      rfl
  | some a =>
      cases hb : known? catalog t with
      | none =>
          rfl
      | some b =>
          obtain rfl := (known?_eq_some_iff.1 ha).1
          obtain rfl := (known?_eq_some_iff.1 hb).1
          simp only [Option.map_some, List.map_append, foreignKeyJoins_retitled hs ht,
            foreignKeyJoins_retitled ht hs, namingJoins_retitled hs ht, namingJoins_retitled ht hs]

theorem candidatesOf_map (catalog : Catalog) {tables : List TableRef}
    (h : ∀ t ∈ tables, Retitles f old new t) :
    candidatesOf catalog (tables.map f) =
      (candidatesOf catalog tables).map (Join.rekey old new) := by
  have hpair : ∀ p ∈ pairs tables, candidates catalog (f p.1) (f p.2) =
      (candidates catalog p.1 p.2).map (Join.rekey old new) := by
    intro p hp
    have hmem := mem_of_mem_pairs hp
    exact candidates_retitled catalog (h p.1 hmem.1) (h p.2 hmem.2)
  calc
    candidatesOf catalog (tables.map f)
        = (pairs tables).flatMap fun p => candidates catalog (f p.1) (f p.2) := by
          rw [candidatesOf, pairs_map, List.flatMap_map]
          rfl
    _ = (pairs tables).flatMap fun p => (candidates catalog p.1 p.2).map (Join.rekey old new) :=
          List.flatMap_congr hpair
    _ = (candidatesOf catalog tables).map (Join.rekey old new) := by
          rw [candidatesOf, List.map_flatMap]

/-- If a change of keys merges no two of them, the suggestions follow it. -/
theorem suggestJoins_retitled (catalog : Catalog) {r : Query} (hq : q.Keyed)
    (htables : r.tables = q.tables.map f) (hjoins : r.joins = q.joins.map (Join.rekey old new))
    (hf : ∀ t ∈ q.tables, Retitles f old new t)
    (hinj : ∀ a ∈ q.tableKeys, ∀ b ∈ q.tableKeys,
      (if a = old then new else a) = (if b = old then new else b) → a = b) :
    suggestJoins catalog r = (suggestJoins catalog q).map (Join.rekey old new) := by
  rw [suggestJoins_eq, suggestJoins_eq, htables, hjoins, candidatesOf_map catalog hf]
  -- Known joins and candidates end in tables of the query, where the change is injective.
  exact fresh_map (P := fun j => j.leftTable ∈ q.tableKeys ∧ j.rightTable ∈ q.tableKeys)
    (fun i j hi hj => Join.ends_rekey_eq_iff hinj hi hj) hq.joinEnds
    fun j hj => sides_of_mem_candidatesOf hj

end Suggestion

namespace Edit

/-- Whether it changes the key of its table or not, an alias leaves the tables and the joins of a
rename. -/
theorem of_run_setAlias_renames {key : String} {request : Option String} {table : TableRef}
    {c c' : Canvas} (hq : c.query.Keyed) (hrun : (setAlias key request).run c = .ok table c') :
    ∃ t, c.query.findTable? key = some t ∧ table = { t with aliasName := requestedAlias request } ∧
      (table.key = key ∨ table.key ∉ c.query.tableKeys) ∧
        c'.query.tables = (c.query.renamed key table.key (requestedAlias request)).tables ∧
        c'.query.joins = (c.query.renamed key table.key (requestedAlias request)).joins := by
  rcases of_run_setAlias hrun with ⟨t, hfind, htable, ⟨hsame, rfl⟩ | ⟨_, hfree, rfl⟩⟩
  · refine ⟨t, hfind, htable, .inl hsame, hq.tables_withAlias_eq _ _ hfind, ?_⟩
    simp [Query.renamed, Query.withAlias, hsame, Join.rekey_self]
  · exact ⟨t, hfind, htable, .inr hfree, rfl, rfl⟩

end Edit

namespace Canvas

open Suggestion

/-- After any run from an empty canvas, a table gets another alias.  Whatever the catalog, what is
suggested then is what was suggested before, in the same order, with the new key of the table in
place of its old one. -/
theorem suggestions_follow_rename (initial : Option Catalog) (events : List Event)
    (catalog : Catalog) (key : String) (request : Option String) (table : TableRef) (c' : Canvas) :
    let c := ({ catalog := initial } : Canvas).afterAll events
    (Edit.setAlias key request).run c = .ok table c' →
      suggestJoins catalog c'.query =
        (suggestJoins catalog c.query).map (Join.rekey key table.key) := by
  intro c hrun
  have hkeyed : c.query.Keyed := keyed_afterAll events .empty
  rcases Edit.of_run_setAlias_renames hkeyed hrun with ⟨t, hfind, htable, hnew, htables, hjoins⟩
  refine suggestJoins_retitled catalog hkeyed htables hjoins (fun u hu => ?_) ?_
  · by_cases hkey : u.key = key
    · -- Only the table that is found has the key.
      obtain rfl := hkeyed.eq_of_key hfind hu hkey
      constructor <;> simp [hkey, htable]
    · constructor <;> simp [hkey]
  · rcases hnew with hsame | hfree
    · intro a _ b _ hab
      simpa only [hsame, replace_key_self] using hab
    · exact Query.rename_injOn hfree

/-- The manager of a person is a person.  The second table of the staff gets the alias `boss`, in
the join that is there and in the one that is suggested. -/
theorem suggestions_follow_rename_of_selfJoin :
    let catalog : Catalog :=
      { tables :=
          [{ name := "staff"
             columns :=
               [{ name := "id" }, { name := "manager", foreignKey := some ⟨"staff", "id"⟩ }]
             primaryKey := ["id"] }] }
    let events : List Event :=
      [.mutate (.addTable "staff" false), .mutate (.addTable "staff" true),
        .mutate (.addJoin ⟨.left, "staff", "manager", "staff_2", "id"⟩)]
    let c := ({} : Canvas).afterAll events
    suggestJoins catalog c.query = [⟨.inner, "staff_2", "manager", "staff", "id"⟩] ∧
      ∃ table c', (Edit.setAlias "staff_2" (some " boss ")).run c = .ok table c' ∧
        suggestJoins catalog c'.query = [⟨.inner, "boss", "manager", "staff", "id"⟩] := by
  intro catalog events c
  have hrun : ∃ c', (Edit.setAlias "staff_2" (some " boss ")).run c =
      .ok ⟨"staff", some "boss", 1⟩ c' := ⟨_, rfl⟩
  rcases hrun with ⟨c', hrun⟩
  have hbefore : suggestJoins catalog c.query =
      [⟨.inner, "staff_2", "manager", "staff", "id"⟩] := by
    decide +kernel
  refine ⟨hbefore, _, c', hrun, ?_⟩
  rw [suggestions_follow_rename none events catalog "staff_2" (some " boss ") _ c' hrun, hbefore]
  decide +kernel

end Canvas

end QueryDesigner

import QueryDesigner.Proofs.Canvas.Outcome
import QueryDesigner.Proofs.Query.Keyed
import QueryDesigner.Proofs.Suggestion.Fresh

/-!
# Which joins are suggested

* `Suggestion.Motivates` — two tables give rise to a join: by a foreign key from the one to the
  other, or by a column that is named after the table and its only key column;
* `Suggestion.mem_pairs_or_iff` — every two different items make a pair, one way round;
* `Suggestion.offers`, `Suggestion.mem_candidates_iff` — what one table offers to another, and the
  candidates for the two as their offers to each other;
* `Suggestion.mem_ends_candidatesOf_iff` — the candidates of a query by their ends;
* `Canvas.suggested_exactly_once` — every join that two tables give rise to is known or suggested,
  once, whatever the order of the tables.

The candidates are read off pairs of tables, each pair taken once, but both tables of a pair have
their turn as the first one.  So the order of the tables decides which one of several joins with the
same ends is suggested, and not whether there is one.
-/

namespace QueryDesigner

namespace Suggestion

/-- A spelling of the column that a name means: that of the table or, where the table has no such
column, the name itself. -/
inductive Spells (t : Catalog.Table) (name : String) : String → Prop where
  | listed {column : Catalog.Column} :
      column ∈ t.columns → Text.sameLetters column.name name = true → Spells t name column.name
  | unlisted :
      (∀ column ∈ t.columns, Text.sameLetters column.name name = false) → Spells t name name

/-- Two tables give rise to a join.  A foreign key of the first one refers to the second one, or the
second one has a column that is named after the first one and its only key column. -/
inductive Motivates (a b : KnownTable) : Join → Prop where
  | foreignKey {column : Catalog.Column} {key : Catalog.ForeignKey} {target : String} :
      column ∈ a.info.columns → column.foreignKey = some key →
        Text.sameLetters key.table b.info.name = true → Spells b.info key.column target →
          Motivates a b
            { leftTable := a.ref.key, leftColumn := column.name
              rightTable := b.ref.key, rightColumn := target }
  | naming {column : Catalog.Column} {key : String} :
      a.info.keyColumns = [key] → column ∈ b.info.columns →
        Text.sameLetters column.name (a.info.name ++ "_" ++ key) = true →
          Motivates a b
            { leftTable := b.ref.key, leftColumn := column.name
              rightTable := a.ref.key, rightColumn := key }

variable {catalog : Catalog} {a b : KnownTable} {j : Join}

/-! ## Columns by name -/

theorem lower_eq_of_sameLetters {s t : String} (h : Text.sameLetters s t = true) :
    Text.lower s = Text.lower t := by
  simpa [Text.sameLetters] using h

/-- However a column is spelled, its name is the same in lower case. -/
theorem Spells.lower_eq {t : Catalog.Table} {name spelling : String} (h : Spells t name spelling) :
    Text.lower spelling = Text.lower name := by
  cases h with
  | listed _ hsame =>
      exact lower_eq_of_sameLetters hsame
  | unlisted _ =>
      rfl

theorem mem_of_findColumn? {t : Catalog.Table} {name : String} {column : Catalog.Column}
    (h : t.findColumn? name = some column) :
    column ∈ t.columns ∧ Text.sameLetters column.name name = true :=
  ⟨List.mem_of_find?_eq_some h, by simpa using List.find?_some h⟩

/-- The spelling that a suggestion takes. -/
theorem spells_findColumn? (t : Catalog.Table) (name : String) :
    Spells t name (((t.findColumn? name).map Catalog.Column.name).getD name) := by
  cases hfind : t.findColumn? name with
  | none =>
      exact .unlisted fun column hcolumn => by simpa using List.find?_eq_none.1 hfind column hcolumn
  | some column =>
      exact .listed (mem_of_findColumn? hfind).1 (mem_of_findColumn? hfind).2

/-- Where a table has a column of some name, one is found, and it is spelled like it up to letter
case. -/
theorem exists_findColumn? {t : Catalog.Table} {column : Catalog.Column} {name : String}
    (hcolumn : column ∈ t.columns) (hsame : Text.sameLetters column.name name = true) :
    ∃ found, t.findColumn? name = some found ∧ Text.lower found.name = Text.lower column.name := by
  have hsome : (t.findColumn? name).isSome = true :=
    List.find?_isSome.2 ⟨column, hcolumn, hsame⟩
  rcases Option.isSome_iff_exists.1 hsome with ⟨found, hfind⟩
  have hfound := lower_eq_of_sameLetters (mem_of_findColumn? hfind).2
  exact ⟨found, hfind, hfound.trans (lower_eq_of_sameLetters hsame).symm⟩

/-! ## The offers of one table to another -/

/-- What one table offers to another: the joins of its foreign keys, and the join that is named
after it. -/
def offers (a b : KnownTable) : List Join := foreignKeyJoins a b ++ namingJoins a b

theorem mem_foreignKeyJoins_iff :
    j ∈ foreignKeyJoins a b ↔
      ∃ column ∈ a.info.columns, ∃ key, column.foreignKey = some key ∧
        Text.sameLetters key.table b.info.name = true ∧
          j = { leftTable := a.ref.key, leftColumn := column.name, rightTable := b.ref.key
                rightColumn :=
                  ((b.info.findColumn? key.column).map Catalog.Column.name).getD key.column } := by
  simp only [foreignKeyJoins, Catalog.Table.foreignKeysTo, List.mem_filterMap, List.mem_filter,
    Option.map_eq_some_iff, Option.any_eq_true]
  constructor
  · rintro ⟨column, ⟨hcolumn, key, hkey, htable⟩, key', hkey', rfl⟩
    obtain rfl : key = key' := Option.some.inj (hkey.symm.trans hkey')
    exact ⟨column, hcolumn, key, hkey, htable, rfl⟩
  · rintro ⟨column, hcolumn, key, hkey, htable, rfl⟩
    exact ⟨column, ⟨hcolumn, key, hkey, htable⟩, key, hkey, rfl⟩

theorem mem_namingJoins_iff :
    j ∈ namingJoins a b ↔
      ∃ key column, a.info.keyColumns = [key] ∧
        b.info.findColumn? (a.info.name ++ "_" ++ key) = some column ∧
          j = { leftTable := b.ref.key, leftColumn := column.name
                rightTable := a.ref.key, rightColumn := key } := by
  unfold namingJoins
  split
  · rename_i key hkey
    cases hfind : b.info.findColumn? (a.info.name ++ "_" ++ key) <;> simp [hkey, hfind]
  · rename_i hkeys
    simp only [List.not_mem_nil, false_iff]
    rintro ⟨key, _, hkey, _⟩
    exact hkeys key hkey

/-- Nothing is offered without a reason. -/
theorem motivates_of_mem_offers (h : j ∈ offers a b) : Motivates a b j := by
  rcases List.mem_append.1 h with h | h
  · rcases mem_foreignKeyJoins_iff.1 h with ⟨column, hcolumn, key, hkey, htable, rfl⟩
    exact .foreignKey hcolumn hkey htable (spells_findColumn? b.info key.column)
  · rcases mem_namingJoins_iff.1 h with ⟨key, column, hkey, hfind, rfl⟩
    exact .naming hkey (mem_of_findColumn? hfind).1 (mem_of_findColumn? hfind).2

/-- What there is a reason for is offered, perhaps in another spelling. -/
theorem exists_mem_offers (h : Motivates a b j) : ∃ i ∈ offers a b, i.ends = j.ends := by
  cases h with
  | @foreignKey column key target hcolumn hkey htable hspells =>
      refine ⟨_, List.mem_append_left _ (mem_foreignKeyJoins_iff.2
        ⟨column, hcolumn, key, hkey, htable, rfl⟩), ?_⟩
      have hspelled := (spells_findColumn? b.info key.column).lower_eq
      simp only [Join.ends, hspelled, hspells.lower_eq]
  | @naming column key hkey hcolumn hnamed =>
      rcases exists_findColumn? hcolumn hnamed with ⟨found, hfind, hlower⟩
      refine ⟨_, List.mem_append_right _ (mem_namingJoins_iff.2 ⟨key, found, hkey, hfind, rfl⟩), ?_⟩
      simp only [Join.ends, hlower]

/-- The ends of an offer are the two tables. -/
theorem tables_of_mem_offers (h : j ∈ offers a b) :
    (j.leftTable = a.ref.key ∧ j.rightTable = b.ref.key) ∨
      (j.leftTable = b.ref.key ∧ j.rightTable = a.ref.key) := by
  cases motivates_of_mem_offers h with
  | foreignKey _ _ _ _ =>
      exact .inl ⟨rfl, rfl⟩
  | naming _ _ _ =>
      exact .inr ⟨rfl, rfl⟩

/-! ## The candidates for two tables -/

theorem known?_eq_some_iff {t : TableRef} :
    known? catalog t = some a ↔ a.ref = t ∧ catalog.findTable? a.ref.name = some a.info := by
  rcases a with ⟨ref, info⟩
  simp only [known?, Option.map_eq_some_iff, KnownTable.mk.injEq]
  constructor
  · rintro ⟨found, hfound, rfl, rfl⟩
    exact ⟨rfl, hfound⟩
  · rintro ⟨rfl, hfound⟩
    exact ⟨info, hfound, rfl, rfl⟩

/-- The candidates for two tables are the offers that they make to each other. -/
theorem mem_candidates_iff {s t : TableRef} :
    j ∈ candidates catalog s t ↔
      ∃ a b, known? catalog s = some a ∧ known? catalog t = some b ∧
        (j ∈ offers a b ∨ j ∈ offers b a) := by
  unfold candidates offers
  cases hs : known? catalog s <;> cases ht : known? catalog t <;> simp
  tauto

/-! ## Pairs of tables -/

theorem mem_of_mem_pairs {α : Type} {xs : List α} {x y : α} (h : (x, y) ∈ pairs xs) :
    x ∈ xs ∧ y ∈ xs := by
  induction xs with
  | nil =>
      cases h
  | cons first rest ih =>
      rcases List.mem_append.1 h with h | h
      · rcases List.mem_map.1 h with ⟨z, hz, heq⟩
        cases heq
        exact ⟨List.mem_cons_self, List.mem_cons_of_mem _ hz⟩
      · exact (ih h).imp (List.mem_cons_of_mem _) (List.mem_cons_of_mem _)

/-- Every two different items make a pair, one way round or the other. -/
theorem mem_pairs_or_iff {α : Type} {xs : List α} (hxs : xs.Nodup) {x y : α} :
    (x, y) ∈ pairs xs ∨ (y, x) ∈ pairs xs ↔ x ∈ xs ∧ y ∈ xs ∧ x ≠ y := by
  induction xs with
  | nil =>
      simp [pairs]
  | cons first rest ih =>
      rcases List.nodup_cons.1 hxs with ⟨hfirst, hrest⟩
      have hpair : ∀ u v, (u, v) ∈ pairs (first :: rest) ↔
          (u = first ∧ v ∈ rest) ∨ (u, v) ∈ pairs rest := by
        intro u v
        simp [pairs, eq_comm, and_comm]
      have hlater := ih hrest
      rw [hpair, hpair]
      by_cases hx : x = first <;> by_cases hy : y = first
      · subst hx hy
        have hself : (y, y) ∉ pairs rest := fun h => hfirst (mem_of_mem_pairs h).1
        simp [hfirst, hself]
      · subst hx
        have hout : (x, y) ∉ pairs rest := fun h => hfirst (mem_of_mem_pairs h).1
        have hout' : (y, x) ∉ pairs rest := fun h => hfirst (mem_of_mem_pairs h).2
        simp [hy, hout, hout', Ne.symm hy]
      · subst hy
        have hout : (x, y) ∉ pairs rest := fun h => hfirst (mem_of_mem_pairs h).2
        have hout' : (y, x) ∉ pairs rest := fun h => hfirst (mem_of_mem_pairs h).1
        simp [hx, hout, hout']
      · simpa [hx, hy] using hlater

/-! ## The candidates of a query -/

/-- The candidates for every two of some tables. -/
def candidatesOf (catalog : Catalog) (tables : List TableRef) : List Join :=
  (pairs tables).flatMap fun p => candidates catalog p.1 p.2

theorem suggestJoins_eq (catalog : Catalog) (q : Query) :
    suggestJoins catalog q = fresh (q.joins.map Join.ends) (candidatesOf catalog q.tables) := rfl

theorem mem_candidatesOf_iff {tables : List TableRef} :
    j ∈ candidatesOf catalog tables ↔
      ∃ a b : KnownTable, (a.ref, b.ref) ∈ pairs tables ∧
        catalog.findTable? a.ref.name = some a.info ∧
        catalog.findTable? b.ref.name = some b.info ∧ (j ∈ offers a b ∨ j ∈ offers b a) := by
  simp only [candidatesOf, List.mem_flatMap, mem_candidates_iff, known?_eq_some_iff]
  constructor
  · rintro ⟨⟨_, _⟩, hpair, a, b, ⟨rfl, ha⟩, ⟨rfl, hb⟩, hoffer⟩
    exact ⟨a, b, hpair, ha, hb, hoffer⟩
  · rintro ⟨a, b, hpair, ha, hb, hoffer⟩
    exact ⟨_, hpair, a, b, ⟨rfl, ha⟩, ⟨rfl, hb⟩, hoffer⟩

/-- Candidates end in the tables that they are the candidates of. -/
theorem sides_of_mem_candidatesOf {tables : List TableRef} (h : j ∈ candidatesOf catalog tables) :
    j.leftTable ∈ tables.map TableRef.key ∧ j.rightTable ∈ tables.map TableRef.key := by
  rcases mem_candidatesOf_iff.1 h with ⟨a, b, hpair, _, _, hoffer⟩
  have hmem := mem_of_mem_pairs hpair
  have ha := List.mem_map_of_mem (f := TableRef.key) hmem.1
  have hb := List.mem_map_of_mem (f := TableRef.key) hmem.2
  rcases hoffer with hoffer | hoffer <;>
    rcases tables_of_mem_offers hoffer with ⟨hleft, hright⟩ | ⟨hleft, hright⟩ <;>
      simp only [hleft, hright, ha, hb, and_self]

/-- The candidates of tables without repetitions are, by their ends, what every two different ones
give rise to. -/
theorem mem_ends_candidatesOf_iff {tables : List TableRef} (htables : tables.Nodup)
    {ends : List JoinEnd} :
    ends ∈ (candidatesOf catalog tables).map Join.ends ↔
      ∃ a b : KnownTable, a.ref ∈ tables ∧ b.ref ∈ tables ∧ a.ref ≠ b.ref ∧
        catalog.findTable? a.ref.name = some a.info ∧
        catalog.findTable? b.ref.name = some b.info ∧ ∃ j, Motivates a b j ∧ j.ends = ends := by
  constructor
  · intro h
    rcases List.mem_map.1 h with ⟨j, hj, rfl⟩
    rcases mem_candidatesOf_iff.1 hj with ⟨a, b, hpair, ha, hb, hoffer | hoffer⟩
    · rcases (mem_pairs_or_iff htables).1 (.inl hpair) with ⟨hamem, hbmem, hne⟩
      exact ⟨a, b, hamem, hbmem, hne, ha, hb, j, motivates_of_mem_offers hoffer, rfl⟩
    · rcases (mem_pairs_or_iff htables).1 (.inr hpair) with ⟨hbmem, hamem, hne⟩
      exact ⟨b, a, hbmem, hamem, hne, hb, ha, j, motivates_of_mem_offers hoffer, rfl⟩
  · rintro ⟨a, b, hamem, hbmem, hne, ha, hb, j, hmotive, rfl⟩
    rcases exists_mem_offers hmotive with ⟨i, hi, hends⟩
    refine List.mem_map.2 ⟨i, mem_candidatesOf_iff.2 ?_, hends⟩
    -- The pair may stand in the list either way round.
    rcases (mem_pairs_or_iff htables).2 ⟨hamem, hbmem, hne⟩ with hpair | hpair
    · exact ⟨a, b, hpair, ha, hb, .inl hi⟩
    · exact ⟨b, a, hpair, hb, ha, .inr hi⟩

theorem nodup_ends_suggestJoins (catalog : Catalog) (q : Query) :
    ((suggestJoins catalog q).map Join.ends).Nodup := nodup_ends_fresh _ _

/-- A query suggests the ends that are no join of it and to which two different tables give rise. -/
theorem mem_ends_suggestJoins_iff {q : Query} (htables : q.tables.Nodup) {ends : List JoinEnd} :
    ends ∈ (suggestJoins catalog q).map Join.ends ↔
      ends ∉ q.joins.map Join.ends ∧
        ∃ a b : KnownTable, a.ref ∈ q.tables ∧ b.ref ∈ q.tables ∧ a.ref ≠ b.ref ∧
          catalog.findTable? a.ref.name = some a.info ∧
          catalog.findTable? b.ref.name = some b.info ∧ ∃ j, Motivates a b j ∧ j.ends = ends := by
  rw [suggestJoins_eq, mem_ends_fresh, mem_ends_candidatesOf_iff htables]

/-- Which ends are suggested does not hang on the order of the tables. -/
theorem perm_ends_suggestJoins {q r : Query} (htables : q.tables.Nodup)
    (hperm : r.tables.Perm q.tables) (hjoins : r.joins = q.joins) :
    ((suggestJoins catalog r).map Join.ends).Perm ((suggestJoins catalog q).map Join.ends) := by
  -- Neither list repeats ends, so that they differ in order at most if they have the same members.
  refine (List.perm_ext_iff_of_nodup (nodup_ends_suggestJoins catalog r)
    (nodup_ends_suggestJoins catalog q)).2 fun ends => ?_
  rw [mem_ends_suggestJoins_iff htables, mem_ends_suggestJoins_iff (hperm.nodup_iff.2 htables),
    hjoins]
  simp only [hperm.mem_iff]

end Suggestion

namespace Canvas

open Suggestion

/-- Let the tables of a query have different keys.  No two suggestions have the same ends, and none
has the ends of a join of the query.  All other ends are suggested to which two different tables
that the catalog knows give rise, and no other ones.  A permutation of the tables is accepted, and
the suggestions have the same ends after it. -/
theorem suggested_exactly_once (catalog : Catalog) (c : Canvas) :
    c.query.DistinctKeys →
      ((suggestJoins catalog c.query).map Join.ends).Nodup ∧
      (∀ ends, ends ∈ (suggestJoins catalog c.query).map Join.ends ↔
        ends ∉ c.query.joins.map Join.ends ∧
          ∃ a b : KnownTable, a.ref ∈ c.query.tables ∧ b.ref ∈ c.query.tables ∧ a.ref ≠ b.ref ∧
            catalog.findTable? a.ref.name = some a.info ∧
            catalog.findTable? b.ref.name = some b.info ∧ ∃ j, Motivates a b j ∧ j.ends = ends) ∧
      ∀ keys : List String, keys.Perm c.query.tableKeys →
        ∃ c', (Edit.reorderTables keys).run c = .ok () c' ∧
          ((suggestJoins catalog c'.query).map Join.ends).Perm
            ((suggestJoins catalog c.query).map Join.ends) := by
  intro hkeys
  have htables : c.query.tables.Nodup := .of_map TableRef.key hkeys
  refine ⟨nodup_ends_suggestJoins catalog c.query, fun ends => mem_ends_suggestJoins_iff htables,
    fun keys hperm => ?_⟩
  have hrun : (Edit.reorderTables keys).run c =
      .ok () { c with query := c.query.inOrder keys } := by
    rw [Edit.run_reorderTables, if_pos (List.isPerm_iff.2 hperm)]
  exact ⟨_, hrun, perm_ends_suggestJoins htables (hkeys.tables_inOrder hperm).2 rfl⟩

/-- The staff refer to each other and to their rooms, and a room refers to one of the staff.  The
foreign keys of the table that comes in twice lead from each of the two to the other.  One key is
spelled in another letter case, and one join is there already, the other way round. -/
theorem suggested_exactly_once_of_reciprocal_keys :
    let catalog : Catalog :=
      { tables :=
          [{ name := "staff"
             columns :=
               [{ name := "id", keyType := some "PRI" },
                { name := "Boss", foreignKey := some ⟨"STAFF", "ID"⟩ },
                { name := "room", foreignKey := some ⟨"rooms", "no"⟩ }] },
           { name := "rooms"
             columns :=
               [{ name := "no" }, { name := "staff_id", foreignKey := some ⟨"staff", "id"⟩ }] }] }
    let c : Canvas :=
      { query :=
          { tables := [⟨"staff", none, 0⟩, ⟨"staff", some "boss", 1⟩, ⟨"rooms", none, 2⟩]
            joins := [⟨.left, "rooms", "NO", "staff", "room"⟩] } }
    c.query.DistinctKeys ∧
      [("boss", "boss"), ("staff", "id")] ∈ (suggestJoins catalog c.query).map Join.ends ∧
      [("rooms", "no"), ("staff", "room")] ∉ (suggestJoins catalog c.query).map Join.ends ∧
      ∃ c', (Edit.reorderTables ["rooms", "boss", "staff"]).run c = .ok () c' ∧
        ((suggestJoins catalog c'.query).map Join.ends).Perm
          ((suggestJoins catalog c.query).map Join.ends) := by
  intro catalog c
  have hkeys : c.query.DistinctKeys := by
    unfold Query.DistinctKeys
    decide +kernel
  rcases suggested_exactly_once catalog c hkeys with ⟨_, hends, horder⟩
  let staff : Catalog.Table := catalog.tables[0]
  let a : KnownTable := ⟨⟨"staff", some "boss", 1⟩, staff⟩
  let b : KnownTable := ⟨⟨"staff", none, 0⟩, staff⟩
  -- The foreign key of the second entry of the staff, towards the first one.
  have hspells : Spells staff "ID" "id" :=
    @Spells.listed staff "ID" staff.columns[0] (by decide) (by decide +kernel)
  have hmotive : Motivates a b
      { leftTable := "boss", leftColumn := "Boss", rightTable := "staff", rightColumn := "id" } :=
    @Motivates.foreignKey a b staff.columns[1] ⟨"STAFF", "ID"⟩ "id" (by decide) rfl
      (by decide +kernel) hspells
  refine ⟨hkeys, (hends _).2 ⟨by decide +kernel, _, _, by decide, by decide, by decide,
    by decide +kernel, by decide +kernel, _, hmotive, by decide +kernel⟩, fun h => ?_, horder _ ?_⟩
  · exact ((hends _).1 h).1 (by decide +kernel)
  · exact List.isPerm_iff.1 (by decide +kernel)

end Canvas

end QueryDesigner

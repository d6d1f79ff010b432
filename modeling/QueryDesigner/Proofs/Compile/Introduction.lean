import QueryDesigner.Proofs.Compile.Scope

/-!
# The clause that brings a table in

Which clause introduces a table depends on all clauses before it: each of them may have brought in
one of the two ends of the join.

* `Join.Offers` — a join can bring in a table, given the keys that are there;
* `JoinClause.FirstOffer` — no earlier clause could have brought the table in;
* `Query.clauseOf?_of_split` — every clause is the one that its join has after the clauses before
  it;
* `Query.tables_introduced_once` — one clause for each join that can be written, and each table
  comes in with its first offer and with no other clause.
-/

namespace QueryDesigner

namespace Join

/-- A join can bring in its right table, and its left one once the right one is there. -/
def Offers (known : List String) (j : Join) (key : String) : Prop :=
  j.rightTable = key ∨ j.leftTable = key ∧ j.rightTable ∈ known

/-- The clause of a join that puts the given table or key after the word JOIN. -/
def textWith (j : Join) (target : String) : String :=
  j.type.text ++ " JOIN " ++ target ++ " ON " ++ j.predicate

end Join

namespace JoinClause

/-- The keys that are there after some clauses. -/
def keysAfter (known : List String) (clauses : List JoinClause) : List String :=
  known ++ clauses.filterMap key?

/-- The join of a clause can bring in a key, and that of no clause before it could. -/
def FirstOffer (known : List String) (before : List JoinClause) (clause : JoinClause)
    (key : String) : Prop :=
  clause.join.Offers (keysAfter known before) key ∧
    ∀ before' earlier after', before = before' ++ earlier :: after' →
      ¬ earlier.join.Offers (keysAfter known before') key

variable {known : List String}

theorem mem_keysAfter_cons {clause : JoinClause} {clauses : List JoinClause} {key : String} :
    key ∈ keysAfter known (clause :: clauses) ↔
      key ∈ keysAfter (clause.key?.toList ++ known) clauses := by
  cases hkey : clause.key? <;> simp [keysAfter, hkey, or_left_comm]

end JoinClause

theorem Join.offers_congr {known known' : List String} {j : Join} {key : String}
    (hknown : ∀ k, k ∈ known ↔ k ∈ known') : j.Offers known key ↔ j.Offers known' key := by
  rw [Offers, Offers, hknown]

namespace Query

open JoinClause (keysAfter)

variable {q : Query} {known : List String} {join : Join} {clause : JoinClause}

/-- A join is written if it is complete and both its ends are tables of the query. -/
def writes (q : Query) (j : Join) : Bool :=
  j.isComplete && q.hasTable j.leftTable && q.hasTable j.rightTable

/-! ## One clause -/

/-- A clause has two tables of the query as the ends of its join. -/
theorem clauseOf?_eq_some_iff :
    q.clauseOf? known join = some clause ↔ join.isComplete = true ∧
      ∃ left right, q.findTable? join.leftTable = some left ∧
        q.findTable? join.rightTable = some right ∧ joinClause known join left right = clause := by
  unfold clauseOf?
  split_ifs with hcomplete
  · cases q.findTable? join.leftTable <;> cases q.findTable? join.rightTable <;>
      simp [hcomplete]
  · simp [hcomplete]

theorem writes_eq_isSome_clauseOf? (known : List String) (join : Join) :
    q.writes join = (q.clauseOf? known join).isSome := by
  unfold clauseOf? writes hasTable
  cases join.isComplete <;> cases q.findTable? join.leftTable <;>
    cases q.findTable? join.rightTable <;> rfl

theorem join_of_clauseOf? (h : q.clauseOf? known join = some clause) : clause.join = join := by
  rcases clauseOf?_eq_some_iff.1 h with ⟨_, left, right, _, _, rfl⟩
  exact join_joinClause

/-- A clause brings in what was not there and what its join can bring in. -/
theorem key?_clauseOf?_iff (h : q.clauseOf? known join = some clause) {key : String} :
    clause.key? = some key ↔ key ∉ known ∧ join.Offers known key := by
  rcases clauseOf?_eq_some_iff.1 h with ⟨_, left, right, hleft, hright, rfl⟩
  rw [key?_joinClause, (findTable?_split hleft).1, (findTable?_split hright).1, Join.Offers]
  by_cases hr : join.rightTable ∈ known
  · by_cases hl : join.leftTable ∈ known
    · simp only [hr, hl, not_true_eq_false, if_false, reduceCtorEq, false_iff]
      rintro ⟨hnew, rfl | ⟨rfl, _⟩⟩
      · exact hnew hr
      · exact hnew hl
    · simp only [hr, hl, not_true_eq_false, not_false_eq_true, if_false, if_true,
        Option.some.injEq]
      constructor
      · rintro rfl
        exact ⟨hl, .inr ⟨rfl, trivial⟩⟩
      · rintro ⟨hnew, rfl | ⟨rfl, _⟩⟩
        · exact absurd hr hnew
        · rfl
  · simp only [hr, not_false_eq_true, if_true, Option.some.injEq, and_false, or_false]
    constructor
    · rintro rfl
      exact ⟨hr, rfl⟩
    · exact And.right

/-- What a clause brings in is a table, which it writes with its name and alias. -/
theorem text_of_introduces (h : q.clauseOf? known join = some clause) {key : String}
    (hkey : clause.key? = some key) :
    ∃ table ∈ q.tables, table.key = key ∧ clause.text = join.textWith table.source := by
  rcases clauseOf?_eq_some_iff.1 h with ⟨_, left, right, hleft, hright, rfl⟩
  have hfound : ∀ k t, q.findTable? k = some t → t ∈ q.tables :=
    fun k t ht => List.mem_of_find?_eq_some ht
  unfold joinClause at hkey ⊢
  split_ifs at hkey ⊢ with hr hl
  · cases hkey
    exact ⟨right, hfound _ _ hright, rfl, rfl⟩
  · cases hkey
    exact ⟨left, hfound _ _ hleft, rfl, rfl⟩
  · cases hkey

/-- A clause that brings in nothing finds both its ends there, and names the right one. -/
theorem text_of_refines (h : q.clauseOf? known join = some clause) (hnone : clause.key? = none) :
    (∀ key ∈ join.sides, key ∈ known) ∧ clause.text = join.textWith join.rightTable := by
  rcases clauseOf?_eq_some_iff.1 h with ⟨_, left, right, hleft, hright, rfl⟩
  have hleftKey := (findTable?_split hleft).1
  have hrightKey := (findTable?_split hright).1
  unfold joinClause at hnone ⊢
  split_ifs at hnone ⊢ with hr hl
  · cases hnone
  · cases hnone
  · simp only [Bool.not_eq_true', Bool.not_eq_false, List.contains_iff_mem] at hr hl
    rw [hleftKey] at hl
    rw [hrightKey] at hr
    refine ⟨?_, by rw [hrightKey]; rfl⟩
    simp [Join.sides, hl, hr]

/-! ## All clauses -/

/-- There is one clause for each join that can be written, in the order of the joins. -/
theorem map_join_joinClausesFrom (known : List String) (joins : List Join) :
    (q.joinClausesFrom known joins).map JoinClause.join = joins.filter q.writes := by
  induction joins generalizing known with
  | nil =>
      rfl
  | cons join rest ih =>
      rw [joinClausesFrom, List.filter_cons, writes_eq_isSome_clauseOf? known]
      cases hclause : q.clauseOf? known join with
      | none =>
          exact ih known
      | some clause =>
          simp [ih, join_of_clauseOf? hclause]

/-- Every clause is the one that its join has after the clauses before it. -/
theorem clauseOf?_of_split {joins : List Join} :
    ∀ before clause after, q.joinClausesFrom known joins = before ++ clause :: after →
      ∃ known', (∀ key, key ∈ known' ↔ key ∈ keysAfter known before) ∧
        q.clauseOf? known' clause.join = some clause := by
  induction joins generalizing known with
  | nil =>
      simp [joinClausesFrom]
  | cons join rest ih =>
      rw [joinClausesFrom]
      cases hclause : q.clauseOf? known join with
      | none =>
          exact ih
      | some first =>
          refine forall_split_cons.2 ⟨⟨known, by simp [keysAfter], ?_⟩, ?_⟩
          · rwa [join_of_clauseOf? hclause]
          · intro before clause after hsplit
            rcases ih before clause after hsplit with ⟨known', hknown, hlater⟩
            exact ⟨known', fun key => (hknown key).trans JoinClause.mem_keysAfter_cons.symm, hlater⟩

/-- A clause brings in what was not there before it and what its join can bring in. -/
theorem key?_iff_of_split {joins : List Join} {before after : List JoinClause}
    (hsplit : q.joinClausesFrom known joins = before ++ clause :: after) {key : String} :
    clause.key? = some key ↔
      key ∉ keysAfter known before ∧ clause.join.Offers (keysAfter known before) key := by
  rcases clauseOf?_of_split before clause after hsplit with ⟨known', hknown, hclause⟩
  rw [key?_clauseOf?_iff hclause, hknown, Join.offers_congr hknown]

/-- A key has come in just if one of the clauses could bring it in. -/
theorem mem_keysAfter_iff_of_split {joins : List Join} {clauses after : List JoinClause}
    (hsplit : q.joinClausesFrom known joins = clauses ++ after) {key : String}
    (hnew : key ∉ known) :
    key ∈ keysAfter known clauses ↔
      ∃ before clause after', clauses = before ++ clause :: after' ∧
        clause.join.Offers (keysAfter known before) key := by
  have hcomes : ∀ before clause after', clauses = before ++ clause :: after' →
      (clause.key? = some key ↔ key ∉ keysAfter known before ∧
        clause.join.Offers (keysAfter known before) key) := by
    rintro before clause after' rfl
    exact key?_iff_of_split (by rw [hsplit, List.append_assoc, List.cons_append])
  constructor
  · intro hkey
    rcases List.mem_append.1 hkey with hkey | hkey
    · exact absurd hkey hnew
    · rcases List.mem_filterMap.1 hkey with ⟨clause, hclause, hin⟩
      rcases List.append_of_mem hclause with ⟨before, after', rfl⟩
      exact ⟨before, clause, after', rfl, ((hcomes _ _ _ rfl).1 hin).2⟩
  · rintro ⟨before, clause, after', rfl, hoffer⟩
    -- the key is there already, or else it comes in with the clause that offers it
    by_cases hthere : key ∈ keysAfter known before
    · simp only [keysAfter, List.filterMap_append, List.mem_append] at hthere ⊢
      exact hthere.imp_right .inl
    · have hkey := (hcomes _ _ _ rfl).2 ⟨hthere, hoffer⟩
      exact List.mem_append_right _ (List.mem_filterMap.2 ⟨clause, by simp, hkey⟩)

/-- A key comes in with the first clause that can bring it in. -/
theorem key?_iff_firstOffer {joins : List Join} {before after : List JoinClause}
    (hsplit : q.joinClausesFrom known joins = before ++ clause :: after) {key : String}
    (hnew : key ∉ known) :
    clause.key? = some key ↔ JoinClause.FirstOffer known before clause key := by
  rw [key?_iff_of_split hsplit, mem_keysAfter_iff_of_split hsplit hnew, and_comm]
  simp only [JoinClause.FirstOffer, not_exists, not_and]

/-! ## Whole queries -/

/-- In a query with tables and a key for each of them there is one clause for each complete join of
two of the tables, in the order of the joins.  No key comes in twice, be it with FROM or with a
clause.  A clause brings in a key other than the first one just if it is the first that can: if its
join has the key on its right, or on its left once the right one is there.  Then it writes the table
with its name and alias.  A clause that brings in nothing finds both its ends there and names the
right key alone. -/
theorem tables_introduced_once (q : Query) :
    q.tables ≠ [] → q.DistinctKeys →
      q.joinClauses.map JoinClause.join = q.joins.filter q.writes ∧ q.introducedKeys.Nodup ∧
        ∀ before clause after, q.joinClauses = before ++ clause :: after →
          (∀ key, clause.key? = some key ↔
            key ∉ q.fromKey ∧ JoinClause.FirstOffer q.fromKey before clause key) ∧
          (∀ key, clause.key? = some key → key ∈ q.tableKeys ∧
            ∀ table ∈ q.tables, table.key = key →
              clause.text = clause.join.textWith table.source) ∧
          (clause.key? = none → (∀ key ∈ clause.join.sides, key ∈ keysAfter q.fromKey before) ∧
            clause.text = clause.join.textWith clause.join.rightTable) := by
  intro hne hkeys
  have hclauses := joinClauses_eq hne
  refine ⟨?_, nodup_introducedKeys hne, fun before clause after hsplit => ?_⟩
  · rw [hclauses, map_join_joinClausesFrom]
  · rw [hclauses] at hsplit
    rcases clauseOf?_of_split before clause after hsplit with ⟨known, hknown, hclause⟩
    refine ⟨fun key => ?_, fun key hkey => ?_, fun hnone => ?_⟩
    · constructor
      · intro hkey
        have hnew : key ∉ q.fromKey := fun hfrom =>
          ((key?_iff_of_split hsplit).1 hkey).1 (List.mem_append_left _ hfrom)
        exact ⟨hnew, (key?_iff_firstOffer hsplit hnew).1 hkey⟩
      · rintro ⟨hnew, hfirst⟩
        exact (key?_iff_firstOffer hsplit hnew).2 hfirst
    · rcases text_of_introduces hclause hkey with ⟨table, htable, rfl, htext⟩
      refine ⟨List.mem_map_of_mem htable, fun table' htable' hsame => ?_⟩
      -- only one table of the query has the key
      rw [List.inj_on_of_nodup_map hkeys htable' htable hsame]
      exact htext
    · rcases text_of_refines hclause hnone with ⟨hsides, htext⟩
      exact ⟨fun key hkey => (hknown key).1 (hsides key hkey), htext⟩

/-- The first join ties two tables of which neither is there, the second one adds a predicate, and
the fourth one brings in the table on its left.  One join lacks a column, and one leads nowhere. -/
theorem tables_introduced_once_of_scattered_joins :
    let q : Query :=
      { tables := [⟨"customers", none, 0⟩, ⟨"orders", some "o", 1⟩, ⟨"items", none, 2⟩]
        joins :=
          [⟨.inner, "items", "order", "o", "id"⟩, ⟨.left, "customers", "id", "o", "customer"⟩,
            { leftTable := "customers", rightTable := "items" },
            ⟨.inner, "items", "first", "o", "id"⟩, ⟨.inner, "items", "id", "tags", "item"⟩] }
    let before : List JoinClause :=
      [.introduces ⟨.inner, "items", "order", "o", "id"⟩ ⟨"orders", some "o", 1⟩,
        .refines ⟨.left, "customers", "id", "o", "customer"⟩ "o"]
    let third : JoinClause :=
      .introduces ⟨.inner, "items", "first", "o", "id"⟩ ⟨"items", none, 2⟩
    q.tables ≠ [] ∧ q.DistinctKeys ∧ q.joinClauses = before ++ [third] ∧
      q.joinClauses.map JoinClause.join = q.joins.filter q.writes ∧ q.introducedKeys.Nodup ∧
        JoinClause.FirstOffer q.fromKey before third "items" ∧
          third.text = "INNER JOIN items ON items.first = o.id" := by
  intro q before third
  have hne : q.tables ≠ [] := List.cons_ne_nil _ _
  have hkeys : q.DistinctKeys := by
    unfold DistinctKeys
    decide +kernel
  have hclauses : q.joinClauses = before ++ [third] := by decide +kernel
  rcases tables_introduced_once q hne hkeys with ⟨hjoins, hnodup, hsplit⟩
  rcases hsplit before third [] hclauses with ⟨hfirst, htext, _⟩
  refine ⟨hne, hkeys, hclauses, hjoins, hnodup, ((hfirst "items").1 rfl).2, ?_⟩
  rw [(htext "items" rfl).2 ⟨"items", none, 2⟩ (by decide) rfl]
  decide +kernel

end Query

end QueryDesigner

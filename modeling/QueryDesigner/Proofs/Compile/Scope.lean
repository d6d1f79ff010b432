import Mathlib
import QueryDesigner.Compile.Statement
import QueryDesigner.Proofs.Canvas.Step

/-!
# Joins and the tables in scope

A JOIN clause brings in at most one table.  Whether its predicate may mention a table therefore
depends on the clauses before it.

* `JoinClause.InScope` — every key in the predicates of some clauses has come in, with the clause
  itself at the latest;
* `Join.Chained` — every join reaches back to a table that is there already;
* `Query.inScope_iff_chained` — the one is the same as the other;
* `Query.in_scope_of_chained` — every table of a chained and connected query comes in exactly once.
-/

namespace QueryDesigner

/-! ## Keys in clauses -/

/-- The two keys that the predicate of a join mentions. -/
def Join.sides (j : Join) : List String := [j.leftTable, j.rightTable]

/-- The key of the table that an item of the SELECT list is taken from. -/
def SelectItem.key : SelectItem → String
  | all key => key
  | column key _ => key

/-- After `known` keys have come in, every key in the predicate of a clause is one of them, or it
comes in with an earlier clause or with the clause itself. -/
def JoinClause.InScope (known : List String) (clauses : List JoinClause) : Prop :=
  ∀ before clause after, clauses = before ++ clause :: after → ∀ key ∈ clause.join.sides,
    key ∈ known ∨ (∃ earlier ∈ before, earlier.key? = some key) ∨ clause.key? = some key

/-- Starting from `known` keys, every join has an end that is one of them or an end of an earlier
join.  A join of a table with itself needs none. -/
def Join.Chained (known : List String) (joins : List Join) : Prop :=
  ∀ before join after, joins = before ++ join :: after → join.leftTable = join.rightTable ∨
    ∃ key ∈ join.sides, key ∈ known ∨ ∃ earlier ∈ before, key ∈ earlier.sides

namespace Query

/-- The joins of which both columns have been chosen. -/
def completeJoins (q : Query) : List Join := q.joins.filter Join.isComplete

/-- The table keys, of which two are adjacent if a complete join ties them. -/
def joinGraph (q : Query) : SimpleGraph {key // key ∈ q.tableKeys} :=
  SimpleGraph.fromRel fun a b => ∃ j ∈ q.completeJoins, j.leftTable = a ∧ j.rightTable = b

/-- The key of the table after FROM. -/
def fromKey (q : Query) : List String := q.tableKeys.take 1

/-- The keys that come in, first with FROM and then with the JOIN clauses. -/
def introducedKeys (q : Query) : List String :=
  q.fromKey ++ q.joinClauses.filterMap JoinClause.key?

end Query

/-! ## Lists taken apart at an item -/

/-- What holds at every item of a list, given the items before it. -/
theorem forall_split_cons {α : Type} {x : α} {xs : List α} {P : List α → α → Prop} :
    (∀ before y after, x :: xs = before ++ y :: after → P before y) ↔
      P [] x ∧ ∀ before y after, xs = before ++ y :: after → P (x :: before) y := by
  constructor
  · intro h
    refine ⟨h [] x xs rfl, fun before y after hsplit => ?_⟩
    exact h (x :: before) y after (by rw [hsplit]; rfl)
  · rintro ⟨hfirst, hrest⟩ before y after hsplit
    cases before with
    | nil =>
        have hy : x = y := (List.cons.inj hsplit).1
        exact hy ▸ hfirst
    | cons z before =>
        have hz : x = z := (List.cons.inj hsplit).1
        have htail : xs = before ++ y :: after := (List.cons.inj hsplit).2
        exact hz ▸ hrest before y after htail

namespace JoinClause

variable {known : List String}

theorem inScope_nil : InScope known [] := by simp [InScope]

theorem inScope_cons {clause : JoinClause} {rest : List JoinClause} :
    InScope known (clause :: rest) ↔
      (∀ key ∈ clause.join.sides, key ∈ known ∨ clause.key? = some key) ∧
        InScope (clause.key?.toList ++ known) rest := by
  unfold InScope
  rw [forall_split_cons]
  refine and_congr (by simp) ?_
  simp only [List.mem_append, Option.mem_toList, List.mem_cons, exists_eq_or_imp, or_assoc,
    or_left_comm]

/-- In the end, every key in a predicate has come in. -/
theorem InScope.mem {clauses : List JoinClause} (h : InScope known clauses) {clause : JoinClause}
    (hclause : clause ∈ clauses) {key : String} (hkey : key ∈ clause.join.sides) :
    key ∈ known ++ clauses.filterMap JoinClause.key? := by
  rcases List.append_of_mem hclause with ⟨before, after, hsplit⟩
  rcases h before clause after hsplit key hkey with hknown | ⟨earlier, hearlier, hin⟩ | hin
  · exact List.mem_append_left _ hknown
  · have hmem : earlier ∈ clauses := by simp [hsplit, hearlier]
    exact List.mem_append_right _ (List.mem_filterMap.2 ⟨earlier, hmem, hin⟩)
  · exact List.mem_append_right _ (List.mem_filterMap.2 ⟨clause, hclause, hin⟩)

end JoinClause

namespace Join

variable {known known' : List String}

theorem chained_nil : Chained known [] := by simp [Chained]

theorem chained_cons {join : Join} {rest : List Join} :
    Chained known (join :: rest) ↔
      (join.leftTable = join.rightTable ∨ ∃ key ∈ join.sides, key ∈ known) ∧
        Chained (join.sides ++ known) rest := by
  unfold Chained
  rw [forall_split_cons]
  refine and_congr (by simp) ?_
  simp only [List.mem_append, List.mem_cons, exists_eq_or_imp, or_assoc, or_left_comm]

theorem chained_congr {joins : List Join} (hknown : ∀ key, key ∈ known ↔ key ∈ known') :
    Chained known joins ↔ Chained known' joins := by
  simp only [Chained, hknown]

end Join

/-! ## The clause of a join -/

section Clause

variable {known : List String} {join : Join} {left right : TableRef}

theorem join_joinClause : (joinClause known join left right).join = join := by
  unfold joinClause
  split_ifs <;> rfl

/-- What comes in is the right table, or the left one where the right one is there. -/
theorem key?_joinClause :
    (joinClause known join left right).key? =
      if right.key ∉ known then some right.key
      else if left.key ∉ known then some left.key
      else none := by
  by_cases hright : right.key ∈ known
  · by_cases hleft : left.key ∈ known <;> simp [joinClause, JoinClause.key?, hright, hleft]
  · simp [joinClause, JoinClause.key?, hright]

variable (hleft : left.key = join.leftTable) (hright : right.key = join.rightTable)

include hleft hright

/-- One of the two ends can come in with the clause.  So one of them has to be there before, unless
they are the same. -/
theorem sides_joinClause_iff :
    (∀ key ∈ join.sides, key ∈ known ∨ (joinClause known join left right).key? = some key) ↔
      (join.leftTable = join.rightTable ∨ ∃ key ∈ join.sides, key ∈ known) := by
  simp only [key?_joinClause, Join.sides, hleft, hright, List.mem_cons, List.not_mem_nil, or_false,
    forall_eq_or_imp, forall_eq, exists_eq_or_imp, exists_eq_left]
  by_cases hr : join.rightTable ∈ known
  · by_cases hl : join.leftTable ∈ known <;> simp [hr, hl]
  · by_cases hl : join.leftTable ∈ known
    · simp [hr, hl]
    · simp [hr, hl, eq_comm]

/-- After a clause in scope both ends are there, and nothing else has come in. -/
theorem mem_known_joinClause
    (hscope : ∀ key ∈ join.sides, key ∈ known ∨ (joinClause known join left right).key? = some key)
    (key : String) :
    key ∈ (joinClause known join left right).key?.toList ++ known ↔ key ∈ join.sides ++ known := by
  have hin : ∀ k, (joinClause known join left right).key? = some k → k ∈ join.sides := by
    intro k hk
    rw [key?_joinClause, hleft, hright] at hk
    split_ifs at hk <;> simp [Join.sides, ← Option.some.inj hk]
  simp only [List.mem_append, Option.mem_toList]
  constructor
  · exact Or.imp_left (hin key)
  · rintro (hend | hknown)
    · exact (hscope key hend).symm
    · exact .inr hknown

end Clause

namespace Query

variable {q : Query}

/-- A key of the query is the key of a table that is found by it. -/
theorem exists_findTable? {key : String} (h : key ∈ q.tableKeys) :
    ∃ table, q.findTable? key = some table ∧ table.key = key := by
  rcases Option.isSome_iff_exists.1 (hasTable_iff.2 h) with ⟨table, hfind⟩
  exact ⟨table, hfind, (findTable?_split hfind).1⟩

/-- A complete join between tables of the query has a clause, whatever has come in before. -/
theorem clauseOf?_eq {join : Join} (hcomplete : join.isComplete = true)
    (hends : join.leftTable ∈ q.tableKeys ∧ join.rightTable ∈ q.tableKeys) :
    ∃ left right, left.key = join.leftTable ∧ right.key = join.rightTable ∧
      ∀ known, q.clauseOf? known join = some (joinClause known join left right) := by
  rcases exists_findTable? hends.1 with ⟨left, hleft, hleftKey⟩
  rcases exists_findTable? hends.2 with ⟨right, hright, hrightKey⟩
  refine ⟨left, right, hleftKey, hrightKey, fun known => ?_⟩
  simp [clauseOf?, hcomplete, hleft, hright]

/-! ## All clauses

The induction is on the joins, with the introduced keys growing on the way.  Both notions look at
them only as a set, so that it does not matter that the clauses add one key where the joins add
two. -/

theorem inScope_joinClausesFrom {joins : List Join}
    (hends : ∀ j ∈ joins, j.leftTable ∈ q.tableKeys ∧ j.rightTable ∈ q.tableKeys)
    (known : List String) :
    JoinClause.InScope known (q.joinClausesFrom known joins) ↔
      Join.Chained known (joins.filter Join.isComplete) := by
  induction joins generalizing known with
  | nil =>
      exact iff_of_true JoinClause.inScope_nil Join.chained_nil
  | cons join rest ih =>
      have hrest : ∀ j ∈ rest, j.leftTable ∈ q.tableKeys ∧ j.rightTable ∈ q.tableKeys :=
        fun j hj => hends j (List.mem_cons_of_mem join hj)
      cases hcomplete : join.isComplete with
      | false =>
          have hclause : q.clauseOf? known join = none := by simp [clauseOf?, hcomplete]
          simpa [joinClausesFrom, hclause, hcomplete] using ih hrest known
      | true =>
          rcases clauseOf?_eq hcomplete (hends join List.mem_cons_self) with
            ⟨left, right, hleft, hright, hclause⟩
          simp only [joinClausesFrom, hclause, List.filter_cons, hcomplete, if_true]
          rw [JoinClause.inScope_cons, Join.chained_cons, join_joinClause, ih hrest]
          constructor
          · rintro ⟨hscope, hlater⟩
            have hsame := mem_known_joinClause hleft hright hscope
            exact ⟨(sides_joinClause_iff hleft hright).1 hscope, (Join.chained_congr hsame).1 hlater⟩
          · rintro ⟨hchained, hlater⟩
            have hscope := (sides_joinClause_iff hleft hright).2 hchained
            have hsame := mem_known_joinClause hleft hright hscope
            exact ⟨hscope, (Join.chained_congr hsame).2 hlater⟩

/-- Every complete join has its clause. -/
theorem exists_mem_joinClausesFrom {joins : List Join}
    (hends : ∀ j ∈ joins, j.leftTable ∈ q.tableKeys ∧ j.rightTable ∈ q.tableKeys)
    (known : List String) :
    ∀ join ∈ joins, join.isComplete = true →
      ∃ clause ∈ q.joinClausesFrom known joins, clause.join = join := by
  induction joins generalizing known with
  | nil =>
      simp
  | cons first rest ih =>
      intro join hjoin hcomplete
      have hlater := fun known => ih (fun j hj => hends j (List.mem_cons_of_mem first hj)) known
      rcases List.mem_cons.1 hjoin with rfl | hrest
      · rcases clauseOf?_eq hcomplete (hends join List.mem_cons_self) with
          ⟨left, right, _, _, hclause⟩
        rw [joinClausesFrom, hclause]
        exact ⟨_, List.mem_cons_self, join_joinClause⟩
      · rw [joinClausesFrom]
        split
        · rcases hlater _ join hrest hcomplete with ⟨clause, hclause, hof⟩
          exact ⟨clause, List.mem_cons_of_mem _ hclause, hof⟩
        · exact hlater _ join hrest hcomplete

/-- What a clause brings in was not there before. -/
theorem key?_clauseOf?_notMem {known : List String} {join : Join} {clause : JoinClause}
    (hclause : q.clauseOf? known join = some clause) :
    ∀ key ∈ clause.key?, key ∉ known := by
  unfold clauseOf? at hclause
  split_ifs at hclause
  split at hclause
  · cases hclause
    intro key hkey
    rw [key?_joinClause] at hkey
    split_ifs at hkey with hright hleft <;> cases hkey <;> assumption
  · cases hclause

/-- However the joins stand to each other, no key comes in twice. -/
theorem nodup_introduced {known : List String} (hknown : known.Nodup) (joins : List Join) :
    (known ++ (q.joinClausesFrom known joins).filterMap JoinClause.key?).Nodup := by
  induction joins generalizing known with
  | nil =>
      simpa [joinClausesFrom] using hknown
  | cons join rest ih =>
      rw [joinClausesFrom]
      cases hclause : q.clauseOf? known join with
      | none =>
          exact ih hknown
      | some clause =>
          cases hkey : clause.key? with
          | none =>
              simpa [hkey] using ih hknown
          | some key =>
              have hnew : key ∉ known := key?_clauseOf?_notMem hclause key hkey
              have hlater := ih (List.nodup_cons.2 ⟨hnew, hknown⟩)
              simp only [Option.toList_some, List.cons_append, List.nil_append,
                List.filterMap_cons, hkey]
              exact List.perm_middle.nodup_iff.2 hlater

/-! ## Whole queries -/

/-- The clauses of a query start from the key of its first table. -/
theorem joinClauses_eq (hne : q.tables ≠ []) :
    q.joinClauses = q.joinClausesFrom q.fromKey q.joins := by
  cases htables : q.tables with
  | nil =>
      exact absurd htables hne
  | cons first rest =>
      simp [joinClauses, fromKey, tableKeys, htables]

/-- In a query in which joins end in tables, the predicates are in scope exactly if every complete
join reaches back to a table that is there already. -/
theorem inScope_iff_chained (hq : q.Keyed) (hne : q.tables ≠ []) :
    JoinClause.InScope q.fromKey q.joinClauses ↔ Join.Chained q.fromKey q.completeJoins := by
  rw [joinClauses_eq hne]
  exact inScope_joinClausesFrom hq.joinEnds _

theorem nodup_introducedKeys (hne : q.tables ≠ []) : q.introducedKeys.Nodup := by
  have hfrom : q.fromKey.Nodup := by
    cases htables : q.tables with
    | nil =>
        exact absurd htables hne
    | cons first rest =>
        simp [fromKey, tableKeys, htables]
  rw [introducedKeys, joinClauses_eq hne]
  exact nodup_introduced hfrom _

theorem mem_tableKeys_of_selectItems {item : SelectItem} (h : item ∈ q.selectItems) :
    item.key ∈ q.tableKeys := by
  rcases List.mem_flatMap.1 h with ⟨t, ht, hitem⟩
  have hkey : item.key = t.key := by
    unfold Selection.items at hitem
    split at hitem
    · rcases List.mem_map.1 hitem with ⟨_, _, rfl⟩
      rfl
    · rw [List.mem_singleton.1 hitem]
      rfl
  exact hkey ▸ List.mem_map_of_mem ht

/-- In a connected query a table is the first one, or it is an end of a complete join. -/
theorem mem_fromKey_or_end (hconnected : q.joinGraph.Connected) {key : String}
    (hkey : key ∈ q.tableKeys) : key ∈ q.fromKey ∨ ∃ j ∈ q.completeJoins, key ∈ j.sides := by
  by_cases hfirst : key ∈ q.fromKey
  · exact .inl hfirst
  · -- The first table is another one, so that the way to it starts with an edge.
    cases htables : q.tableKeys with
    | nil =>
        simp [htables] at hkey
    | cons first rest =>
        have hmem : first ∈ q.tableKeys := by simp [htables]
        have hne : (⟨key, hkey⟩ : {key // key ∈ q.tableKeys}) ≠ ⟨first, hmem⟩ := by
          intro heq
          have hfirstKey : key = first := congrArg Subtype.val heq
          exact hfirst (by simp [fromKey, htables, hfirstKey])
        rcases hconnected.preconnected ⟨key, hkey⟩ ⟨first, hmem⟩ with ⟨walk⟩
        cases walk with
        | nil =>
            exact absurd rfl hne
        | cons hadj _ =>
            rcases hadj.2 with ⟨j, hj, hleft, _⟩ | ⟨j, hj, _, hright⟩
            · exact .inr ⟨j, hj, by simp [Join.sides, hleft]⟩
            · exact .inr ⟨j, hj, by simp [Join.sides, hright]⟩

/-- If the predicates are in scope, the tables of a connected query have all come in. -/
theorem mem_introducedKeys (hq : q.Keyed) (hconnected : q.joinGraph.Connected)
    (hscope : JoinClause.InScope q.fromKey q.joinClauses) {key : String}
    (hkey : key ∈ q.tableKeys) : key ∈ q.introducedKeys := by
  have hne : q.tables ≠ [] := by
    rintro hnil
    simp [tableKeys, hnil] at hkey
  rcases mem_fromKey_or_end hconnected hkey with hfrom | ⟨j, hj, hend⟩
  · exact List.mem_append_left _ hfrom
  · rcases List.mem_filter.1 hj with ⟨hjoin, hcomplete⟩
    rcases exists_mem_joinClausesFrom hq.joinEnds q.fromKey j hjoin hcomplete with
      ⟨clause, hclause, rfl⟩
    rw [← joinClauses_eq hne] at hclause
    exact hscope.mem hclause hend

/-- A query is connected if one table is tied to each of the others. -/
theorem connected_of_hub (hub : String) (hhub : hub ∈ q.tableKeys)
    (hspokes : ∀ key ∈ q.tableKeys, key = hub ∨
      ∃ j ∈ q.completeJoins, j.sides = [key, hub] ∨ j.sides = [hub, key]) :
    q.joinGraph.Connected := by
  refine (SimpleGraph.connected_iff_exists_forall_reachable _).2 ⟨⟨hub, hhub⟩, ?_⟩
  rintro ⟨key, hkey⟩
  by_cases hsame : hub = key
  · subst hsame
    exact .refl _
  · rcases hspokes key hkey with heq | ⟨j, hj, hends⟩
    · exact absurd heq.symm hsame
    · refine SimpleGraph.Adj.reachable ⟨fun heq => hsame (congrArg Subtype.val heq), ?_⟩
      rcases hends with hends | hends <;> simp only [Join.sides, List.cons.injEq] at hends
      · exact .inr ⟨j, hj, hends.1, hends.2.1⟩
      · exact .inl ⟨j, hj, hends.1, hends.2.1⟩

end Query

/-! ## Queries that are built by edits -/

namespace Query

/-- After any run from an empty canvas: if the complete joins connect the tables and every one of
them reaches back to a table that is there already, then every key in a predicate is in scope, and
every table of the SELECT list comes in exactly once, with FROM or with a JOIN clause. -/
theorem in_scope_of_chained (catalog : Option Catalog) (events : List Event) :
    let q := (({ catalog } : Canvas).afterAll events).query
    q.joinGraph.Connected → Join.Chained q.fromKey q.completeJoins →
      JoinClause.InScope q.fromKey q.joinClauses ∧
        ∀ item ∈ q.selectItems, q.introducedKeys.count item.key = 1 := by
  intro q hconnected hchained
  have hkeyed : q.Keyed := Canvas.keyed_afterAll events .empty
  have hne : q.tables ≠ [] := by
    rcases hconnected.nonempty with ⟨key, hkey⟩
    rintro hnil
    simp [tableKeys, hnil] at hkey
  have hscope : JoinClause.InScope q.fromKey q.joinClauses :=
    (inScope_iff_chained hkeyed hne).2 hchained
  refine ⟨hscope, fun item hitem => ?_⟩
  have hin : item.key ∈ q.introducedKeys :=
    mem_introducedKeys hkeyed hconnected hscope (mem_tableKeys_of_selectItems hitem)
  exact List.count_eq_one_of_mem (nodup_introducedKeys hne) hin

/-- The first complete join ties a table to itself, the second one names the table that is there on
its right, and the third one brings in nothing. -/
theorem in_scope_of_mirrored_join :
    let q := (({} : Canvas).afterAll
      ([.addTable "customers" false, .addTable "orders" false, .addTable "items" false,
        .addJoin ⟨.inner, "items", "parent", "items", "id"⟩,
        .addJoin { leftTable := "orders", rightTable := "items" },
        .addJoin ⟨.left, "orders", "customer", "customers", "id"⟩,
        .addJoin ⟨.inner, "items", "order", "orders", "id"⟩].map .mutate)).query
    q.joinGraph.Connected ∧ Join.Chained q.fromKey q.completeJoins ∧
      q.introducedKeys = ["customers", "items", "orders"] ∧
        JoinClause.InScope q.fromKey q.joinClauses ∧
          ∀ item ∈ q.selectItems, q.introducedKeys.count item.key = 1 := by
  intro q
  have hconnected : q.joinGraph.Connected :=
    connected_of_hub "orders" (by decide +kernel) (by decide +kernel)
  have hjoins : q.completeJoins =
      [⟨.inner, "items", "parent", "items", "id"⟩, ⟨.left, "orders", "customer", "customers", "id"⟩,
        ⟨.inner, "items", "order", "orders", "id"⟩] := by
    decide +kernel
  have hchained : Join.Chained ["customers"] q.completeJoins := by
    rw [hjoins]
    simp [Join.chained_cons, Join.chained_nil, Join.sides]
  exact ⟨hconnected, hchained, by decide +kernel, in_scope_of_chained none _ hconnected hchained⟩

/-- The first join ties two tables of which neither is there, and brings in only the right one.  The
left one never comes in, although the joins connect all tables. -/
theorem out_of_scope_of_detached_join :
    let q := (({} : Canvas).afterAll
      ([.addTable "a" false, .addTable "b" false, .addTable "c" false,
        .addJoin ⟨.inner, "b", "x", "c", "x"⟩,
        .addJoin ⟨.inner, "a", "x", "c", "x"⟩].map .mutate)).query
    q.joinGraph.Connected ∧ ¬ JoinClause.InScope q.fromKey q.joinClauses ∧
      .all "b" ∈ q.selectItems ∧ q.introducedKeys.count "b" = 0 := by
  intro q
  have hconnected : q.joinGraph.Connected :=
    connected_of_hub "c" (by decide +kernel) (by decide +kernel)
  have hkeyed : q.Keyed := Canvas.keyed_afterAll _ .empty
  refine ⟨hconnected, fun hscope => ?_, by decide +kernel, by decide +kernel⟩
  have hchained := (inScope_iff_chained hkeyed (by decide +kernel)).1 hscope
  have hjoins : q.completeJoins = [⟨.inner, "b", "x", "c", "x"⟩, ⟨.inner, "a", "x", "c", "x"⟩] := by
    decide +kernel
  have hfrom : q.fromKey = ["a"] := by decide +kernel
  rw [hjoins, hfrom, Join.chained_cons] at hchained
  simp [Join.sides] at hchained

end Query

end QueryDesigner

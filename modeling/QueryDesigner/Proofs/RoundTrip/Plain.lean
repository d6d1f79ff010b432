import Mathlib
import QueryDesigner.Proofs.Compile.Introduction
import QueryDesigner.Proofs.Compile.Pruned
import QueryDesigner.Proofs.Compile.Statement
import QueryDesigner.Proofs.Decompile.Grouping
import QueryDesigner.Proofs.Query.Qualified
import QueryDesigner.Proofs.Query.Selections

/-!
# Plain queries

* `Query.Names` — the columns that the statement of a query names together with their tables;
* `Query.IsPlain` — a query whose names are ordinary ones, which the catalog spells alike, whose
  tables are told apart and joined one after the other, and whose values are constants;
* `Query.IsPlain.exists_writes` — it is written as a plain SELECT statement.
-/

namespace QueryDesigner

/-- Choosing something for each item of a list. -/
theorem exists_forall₂ {α β : Type} {P : β → Prop} {R : β → α → Prop} {xs : List α}
    (h : ∀ x ∈ xs, ∃ y, P y ∧ R y x) :
    ∃ ys : List β, (∀ y ∈ ys, P y) ∧ List.Forall₂ R ys xs := by
  induction xs with
  | nil => exact ⟨[], by simp, .nil⟩
  | cons x xs ih =>
      obtain ⟨⟨y, hP, hR⟩, hxs⟩ := List.forall_mem_cons.1 h
      obtain ⟨ys, hPs, hRs⟩ := ih hxs
      exact ⟨y :: ys, List.forall_mem_cons.2 ⟨hP, hPs⟩, .cons hR hRs⟩

theorem exists_map_eq {α β : Type} {P : β → Prop} {f : β → α} {xs : List α}
    (h : ∀ x ∈ xs, ∃ y, P y ∧ f y = x) :
    ∃ ys : List β, (∀ y ∈ ys, P y) ∧ ys.map f = xs := by
  obtain ⟨ys, hP, hR⟩ := exists_forall₂ h
  refine ⟨ys, hP, ?_⟩
  rwa [← List.forall₂_eq_eq_eq, List.forall₂_map_left_iff]

/-- Of items that are told apart none is among those before it. -/
theorem notMem_map_of_split {α β : Type} {f : α → β} {xs before after : List α} {x : α}
    (h : (xs.map f).Nodup) (hsplit : xs = before ++ x :: after) : f x ∉ before.map f := by
  rw [hsplit, List.map_append, List.map_cons, List.nodup_middle, List.nodup_cons] at h
  exact fun hmem => h.1 (List.mem_append_left _ hmem)

/-- The references of the conditions, groups and sort entries that are written. -/
def Query.writtenReferences (q : Query) : List String :=
  q.predicates.map Condition.column ++ (q.groups ++ q.sorts.map Order.column)

/-- The statement of the query names the column together with its table. -/
inductive Query.Names (q : Query) (key column : String) : Prop where
  | selected {columns : List String} : q.selection key = .only columns → column ∈ columns →
      q.Names key column
  | left {j : Join} : j ∈ q.completeJoins → j.leftTable = key → j.leftColumn = column →
      q.Names key column
  | right {j : Join} : j ∈ q.completeJoins → j.rightTable = key → j.rightColumn = column →
      q.Names key column
  | reference : Reference.qualified key column ∈ q.writtenReferences → q.Names key column

/-- The columns that the statement names together with the table of a key. -/
def Query.namedColumns (q : Query) (key : String) : List String :=
  (match q.selection key with
    | .every => []
    | .only columns => columns) ++
  (q.completeJoins.filter fun j => j.leftTable == key).map Join.leftColumn ++
  (q.completeJoins.filter fun j => j.rightTable == key).map Join.rightColumn ++
  (q.writtenReferences.filter fun ref => Reference.refersTo ref key).map fun ref =>
    String.ofList (ref.toList.drop (Reference.lead key).length)

theorem Query.mem_namedColumns {q : Query} {key column : String} (h : q.Names key column) :
    column ∈ q.namedColumns key := by
  simp only [namedColumns, List.mem_append, List.mem_map, List.mem_filter, beq_iff_eq]
  cases h with
  | selected hselection hcolumn =>
      rw [hselection]
      exact .inl (.inl (.inl hcolumn))
  | @left j hj hkey hcolumn => exact .inl (.inl (.inr ⟨j, ⟨hj, hkey⟩, hcolumn⟩))
  | @right j hj hkey hcolumn => exact .inl (.inr ⟨j, ⟨hj, hkey⟩, hcolumn⟩)
  | reference href =>
      refine .inr ⟨_, ⟨href, Reference.refersTo_qualified key column⟩, ?_⟩
      rw [Reference.toList_qualified, List.drop_left, String.ofList_toList]

/-- The catalog has no table of that name, or spells it just so. -/
def SpellsTable (catalog : Option Catalog) (name : String) : Prop :=
  ∀ found, (catalog.bind fun c => c.findTable? name) = some found → found.name = name

instance (catalog : Option Catalog) (name : String) : Decidable (SpellsTable catalog name) :=
  inferInstanceAs (Decidable (∀ found ∈ catalog.bind fun c => c.findTable? name, found.name = name))

/-- The catalog has no column of that name in the table, or spells it just so. -/
def SpellsColumn (catalog : Option Catalog) (table column : String) : Prop :=
  ∀ found, (catalog.bind fun c => c.resolveColumn? table column) = some found → found = column

instance (catalog : Option Catalog) (table column : String) :
    Decidable (SpellsColumn catalog table column) :=
  inferInstanceAs (Decidable (∀ found ∈ catalog.bind fun c => c.resolveColumn? table column,
    found = column))

/-- A query of which nothing gets lost in its statement. -/
structure Query.IsPlain (catalog : Option Catalog) (q : Query) : Prop where
  filled : q.tables ≠ []
  /-- Tables have ordinary names, and so have aliases, which differ from the names of their tables. -/
  names : ∀ t ∈ q.tables, Sql.IsName t.name
  aliases : ∀ t ∈ q.tables, ∀ a, t.aliasName = some a → Sql.IsName a ∧ a ≠ t.name
  /-- Keys differ in more than letter case. -/
  distinct : (q.tableKeys.map Text.lower).Nodup
  /-- After the first table, one without an alias shares its name with no other table. -/
  aliased : ∀ t ∈ q.tables.tail, t.aliasName = none → ∀ u ∈ q.tables, u.name = t.name → u = t
  spelled : ∀ t ∈ q.tables, SpellsTable catalog t.name
  columns : ∀ t ∈ q.tables, ∀ column, q.Names t.key column →
    Sql.IsName column ∧ SpellsColumn catalog t.name column
  selections : ∀ key ∈ q.tableKeys, (q.selection key).Distinct
  /-- References are columns, alone or after the key of a table. -/
  references : ∀ ref ∈ q.writtenReferences,
    Sql.IsName ref ∨ ∃ key ∈ q.tableKeys, ∃ column, ref = Reference.qualified key column
  groups : q.groups.Nodup
  sorts : (q.sorts.map Order.column).Nodup
  joinEnds : ∀ j ∈ q.joins, j.leftTable ∈ q.tableKeys ∧ j.rightTable ∈ q.tableKeys
  /-- Each complete join reaches back to the first table or to one of an earlier complete join. -/
  chained : Join.Chained q.fromKey q.completeJoins
  joined : ∀ key ∈ q.tableKeys, key ∈ q.fromKey ∨ ∃ j ∈ q.completeJoins, key ∈ j.sides
  ands : ∀ c ∈ q.predicates.tail, c.connector = .and
  /-- The values of conditions are constants, as their operators want them. -/
  values : ∀ c ∈ q.predicates, ∃ check : Sql.Check, check.operator = c.operator ∧ check.Means c.value

/-- The column is one alone, or one of a table of the query that the statement names so. -/
def Query.Refers (q : Query) : Sql.Ref → Prop
  | .bare column => Sql.IsName column
  | .qualified key column => key ∈ q.tableKeys ∧ q.Names key column

theorem Query.names_of_mem_selectItems {q : Query} {key name : String}
    (h : SelectItem.column key name ∈ q.selectItems) : q.Names key name := by
  obtain ⟨t, -, hitem⟩ := List.mem_flatMap.1 h
  obtain rfl : key = t.key := SelectItem.key_of_mem_items hitem
  cases hselection : q.selection t.key with
  | every => simp [hselection, Selection.items] at hitem
  | only columns =>
      refine .selected hselection ?_
      cases columns with
      | nil => simp [hselection, Selection.items] at hitem
      | cons column columns => simpa [hselection, Selection.items] using hitem

/-- What a clause names after `JOIN`: a table of the query, or the right end of the join. -/
theorem Query.named_of_mem_joinClauses {q : Query} {clause : JoinClause}
    (h : clause ∈ q.joinClauses) :
    (∃ table ∈ q.tables, clause = .introduces clause.join table) ∨
      clause = .refines clause.join clause.join.rightTable := by
  have hne : q.tables ≠ [] := by
    intro hnil
    simp [joinClauses, hnil] at h
  obtain ⟨before, after, hsplit⟩ := List.append_of_mem h
  rw [joinClauses_eq hne] at hsplit
  obtain ⟨known, -, hclause⟩ := clauseOf?_of_split before clause after hsplit
  obtain ⟨-, left, right, hleft, hright, hjoin⟩ := clauseOf?_eq_some_iff.1 hclause
  have hmem : ∀ k t, q.findTable? k = some t → t ∈ q.tables :=
    fun k t ht => List.mem_of_find?_eq_some ht
  unfold joinClause at hjoin
  split_ifs at hjoin
  · exact .inl ⟨right, hmem _ _ hright, hjoin.symm⟩
  · exact .inl ⟨left, hmem _ _ hleft, hjoin.symm⟩
  · rw [(findTable?_split hright).1] at hjoin
    exact .inr hjoin.symm

namespace Query.IsPlain

variable {catalog : Option Catalog} {q : Query} (hq : q.IsPlain catalog)
include hq

/-! ## Names -/

theorem isName_key {t : TableRef} (ht : t ∈ q.tables) : Sql.IsName t.key := by
  rcases t.key_eq with hkey | ⟨a, -, halias, hkey⟩
  · rw [hkey]
    exact hq.names t ht
  · rw [hkey]
    exact (hq.aliases t ht a halias).1

theorem isName_of_mem {key : String} (hkey : key ∈ q.tableKeys) : Sql.IsName key := by
  obtain ⟨t, ht, rfl⟩ := List.mem_map.1 hkey
  exact hq.isName_key ht

theorem isName_column {key column : String} (hkey : key ∈ q.tableKeys) (h : q.Names key column) :
    Sql.IsName column := by
  obtain ⟨t, ht, rfl⟩ := List.mem_map.1 hkey
  exact (hq.columns t ht column h).1

theorem distinctKeys : q.DistinctKeys := hq.distinct.of_map _

/-- Keys are told apart even without regard to letter case. -/
theorem eq_of_lower {key other : String} (hkey : key ∈ q.tableKeys) (hother : other ∈ q.tableKeys)
    (h : Text.lower key = Text.lower other) : key = other :=
  List.inj_on_of_nodup_map hq.distinct hkey hother h

/-- An alias is never empty, so that it counts. -/
theorem bind_aliasName {t : TableRef} (ht : t ∈ q.tables) :
    t.aliasName.bind aliasOf = t.aliasName := by
  cases halias : t.aliasName with
  | none => rfl
  | some a => exact if_neg (hq.aliases t ht a halias).1.ne_empty

theorem isNamed_table {t : TableRef} (ht : t ∈ q.tables) : t.written.IsNamed where
  name := hq.names t ht
  aliasName a ha := by
    refine (hq.aliases t ht a ?_).1
    rw [← hq.bind_aliasName ht]
    exact ha

/-! ## Joins -/

theorem inScope : JoinClause.InScope q.fromKey q.joinClauses := by
  rw [joinClauses_eq hq.filled]
  exact (inScope_joinClausesFrom hq.joinEnds _).2 hq.chained

theorem mem_introducedKeys {key : String} (hkey : key ∈ q.tableKeys) : key ∈ q.introducedKeys := by
  rcases hq.joined key hkey with hfrom | ⟨j, hj, hend⟩
  · exact List.mem_append_left _ hfrom
  · obtain ⟨hjoin, hcomplete⟩ := List.mem_filter.1 hj
    obtain ⟨clause, hclause, rfl⟩ :=
      exists_mem_joinClausesFrom hq.joinEnds q.fromKey j hjoin hcomplete
    rw [← joinClauses_eq hq.filled] at hclause
    exact hq.inScope.mem hclause hend

theorem writes_eq_isComplete {j : Join} (hj : j ∈ q.joins) : q.writes j = j.isComplete := by
  obtain ⟨hleft, hright⟩ := hq.joinEnds j hj
  rw [writes, hasTable_iff.2 hleft, hasTable_iff.2 hright, Bool.and_true, Bool.and_true]

theorem map_join_joinClauses : q.joinClauses.map JoinClause.join = q.completeJoins := by
  rw [joinClauses_eq hq.filled, map_join_joinClausesFrom]
  exact List.filter_congr fun j hj => hq.writes_eq_isComplete hj

theorem isNamed_ends {j : Join} (hj : j ∈ q.completeJoins) :
    j.refs.1.IsNamed ∧ j.refs.2.IsNamed := by
  obtain ⟨hleft, hright⟩ := hq.joinEnds j (List.mem_filter.1 hj).1
  exact ⟨⟨hq.isName_of_mem hleft, hq.isName_column hleft (.left hj rfl rfl)⟩,
    hq.isName_of_mem hright, hq.isName_column hright (.right hj rfl rfl)⟩

theorem isNamed_clause {clause : JoinClause} (h : clause ∈ q.joinClauses) :
    clause.written.IsNamed := by
  have hjoin : clause.join ∈ q.completeJoins := by
    rw [← hq.map_join_joinClauses]
    exact List.mem_map_of_mem h
  obtain ⟨hleft, hright⟩ := hq.isNamed_ends hjoin
  rcases named_of_mem_joinClauses h with ⟨table, htable, heq⟩ | heq
  · rw [heq]
    exact ⟨hq.isNamed_table htable, hleft, hright⟩
  · rw [heq]
    exact ⟨⟨hright.1, fun _ hnone => by cases hnone⟩, hleft, hright⟩

/-! ## The statement -/

theorem isNamed_item {i : SelectItem} (h : i ∈ q.selectItems) : i.written.IsNamed := by
  have hkey := mem_tableKeys_of_selectItems h
  cases i with
  | all key => exact hq.isName_of_mem hkey
  | column key name =>
      exact ⟨hq.isName_of_mem hkey, hq.isName_column hkey (names_of_mem_selectItems h)⟩

theorem isNamed_of_refers {r : Sql.Ref} (hr : q.Refers r) : r.IsNamed := by
  cases r with
  | bare column => exact hr
  | qualified key column => exact ⟨hq.isName_of_mem hr.1, hq.isName_column hr.1 hr.2⟩

theorem exists_ref {ref : String} (h : ref ∈ q.writtenReferences) :
    ∃ r : Sql.Ref, q.Refers r ∧ r.text = ref := by
  rcases hq.references ref h with hname | ⟨key, hkey, column, rfl⟩
  · exact ⟨.bare ref, hname, rfl⟩
  · exact ⟨.qualified key column, ⟨hkey, .reference h⟩, rfl⟩

theorem exists_test {c : Condition} (hc : c ∈ q.predicates) :
    ∃ t : Sql.Test, (q.Refers t.left ∧ t.IsWritten) ∧ t.Writes c := by
  obtain ⟨check, hoperator, hvalue⟩ := hq.values c hc
  obtain ⟨r, hr, htext⟩ :=
    hq.exists_ref (List.mem_append_left _ (List.mem_map_of_mem hc))
  exact ⟨⟨r, check⟩, ⟨hr, hq.isNamed_of_refers hr, Sql.Check.isFilled_of_means hvalue⟩,
    ⟨htext, hoperator, hvalue⟩⟩

theorem exists_sort {o : Order} (ho : o ∈ q.sorts) :
    ∃ e : Sql.SortEntry, q.Refers e.column ∧ e.order = o := by
  obtain ⟨r, hr, htext⟩ :=
    hq.exists_ref (List.mem_append_right _ (List.mem_append_right _ (List.mem_map_of_mem ho)))
  obtain ⟨column, direction⟩ := o
  dsimp only at htext
  subst htext
  cases direction with
  | ascending => exact ⟨⟨r, false⟩, hr, rfl⟩
  | descending => exact ⟨⟨r, true⟩, hr, rfl⟩

theorem selectItems_ne_nil : q.selectItems ≠ [] := by
  obtain ⟨first, rest, htables⟩ := List.exists_cons_of_ne_nil hq.filled
  rw [selectItems, htables, List.flatMap_cons]
  exact List.append_ne_nil_of_left_ne_nil (SelectItem.items_ne_nil _ _) _

/-- A plain query is written as a plain SELECT statement. -/
theorem exists_writes :
    ∃ p : Sql.PlainSelect, p.Writes q ∧ p.IsWritten ∧ (∀ t ∈ p.tests, q.Refers t.left) ∧
      (∀ r ∈ p.groups, q.Refers r) ∧ ∀ e ∈ p.orders, q.Refers e.column := by
  obtain ⟨tests, htests, hwrites⟩ := exists_forall₂ fun c hc => hq.exists_test hc
  obtain ⟨groups, hgroups, hgroup⟩ := exists_map_eq fun g hg =>
    hq.exists_ref (List.mem_append_right (q.predicates.map Condition.column)
      (List.mem_append_left (q.sorts.map Order.column) hg))
  obtain ⟨orders, horders, horder⟩ := exists_map_eq fun o ho => hq.exists_sort ho
  obtain ⟨first, rest, htables⟩ := List.exists_cons_of_ne_nil hq.filled
  have hfirst : first ∈ q.tables := by
    rw [htables]
    exact List.mem_cons_self
  refine ⟨⟨q.selectItems.map SelectItem.written, first.written,
    q.joinClauses.map JoinClause.written, tests, groups, orders,
    q.limit.map fun limit => ⟨.ofNat limit, q.offset.map .ofNat⟩⟩, ?_, ?_,
    fun t ht => (htests t ht).1, hgroups, horders⟩
  · exact ⟨rfl, ⟨first, by rw [htables]; rfl, rfl⟩, rfl, hwrites, hq.ands, hgroup, horder, rfl⟩
  · exact
      { filled := fun hnil => hq.selectItems_ne_nil (List.map_eq_nil_iff.1 hnil)
        items := List.forall_mem_map.2 fun i hi => hq.isNamed_item hi
        source := hq.isNamed_table hfirst
        joins := List.forall_mem_map.2 fun j hj => hq.isNamed_clause hj
        tests := fun t ht => (htests t ht).2
        groups := fun r hr => hq.isNamed_of_refers (hgroups r hr)
        orders := fun e he => hq.isNamed_of_refers (horders e he) }

end Query.IsPlain

end QueryDesigner

import QueryDesigner.Proofs.Compile.Introduction
import QueryDesigner.Proofs.Query.Undated

/-!
# Queries without what is not written

Some parts of a query never reach its statement: a join that lacks a column or leads to no table, an
entry without a column, an offset without a limit, the columns of a table that is not there.

* `Selection.shown`, `Selections.pruned`, `ledByAnd`, `Query.pruned` — the query without them;
* `Selections.get_pruned`, `Selections.get_pruned_of_notMem` — the selections of its tables, as they
  are shown, and none of others;
* `Query.joinClausesFrom_filter_writes` — joins that are not written bring in nothing;
* `Query.compile_congr` — what a statement is made of;
* `Canvas.compile_pruned` — the statement is the same.
-/

namespace QueryDesigner

/-- A choice of no column, which shows every column, as the choice of every column. -/
def Selection.shown : Selection → Selection
  | only [] => every
  | s => s

/-- The selections of some keys, as they are shown. -/
def Selections.pruned (keys : List String) (m : Selections) : Selections :=
  ⟨(m.entries.filter fun e => keys.contains e.1).map fun e => (e.1, e.2.shown)⟩

/-- The conditions with `AND` as the connector of the first one. -/
def ledByAnd : List Condition → List Condition
  | [] => []
  | c :: rest => { c with connector := .and } :: rest

/-- The query without its ordinals, and without what is not written of it. -/
def Query.pruned (q : Query) : Query where
  tables := q.tables.map TableRef.undated
  columns := q.columns.pruned q.tableKeys
  joins := q.joins.filter q.writes
  conditions := ledByAnd (q.conditions.filter fun c => c.column != "")
  orderBy := q.orderBy.filter fun o => o.column != ""
  groupBy := q.groupBy.filter fun g => g != ""
  limit := q.limit
  offset := if q.limit.isNone then none else q.offset

/-- The canvas with its query pruned, and without a catalog. -/
def Canvas.pruned (c : Canvas) : Canvas := { c with query := c.query.pruned, catalog := none }

/-! ## Selections -/

@[simp] theorem Selection.items_shown (key : String) (s : Selection) :
    s.shown.items key = s.items key := by
  cases s with
  | every =>
      rfl
  | only columns =>
      cases columns <;> rfl

namespace Selections

variable {keys : List String} {key : String}

theorem lookup_map_shown (key : String) (entries : List (String × Selection)) :
    (entries.map fun e => (e.1, e.2.shown)).lookup key =
      (entries.lookup key).map Selection.shown := by
  induction entries with
  | nil =>
      rfl
  | cons e rest ih =>
      rw [List.map_cons, List.lookup_cons, List.lookup_cons, ih]
      cases key == e.1 <;> rfl

theorem get_pruned (m : Selections) (h : key ∈ keys) :
    (m.pruned keys).get key = (m.get key).shown := by
  have hfound : (m.pruned keys).get? key = (m.get? key).map Selection.shown :=
    calc
      (m.pruned keys).get? key
          = ((m.entries.filter fun e => keys.contains e.1).lookup key).map Selection.shown :=
            lookup_map_shown ..
      _ = (m.get? key).map Selection.shown :=
            congrArg _ (lookup_filter_of_pos (List.contains_iff_mem.2 h))
  rw [get, get, hfound]
  cases m.get? key <;> rfl

theorem get_pruned_of_notMem (m : Selections) (h : key ∉ keys) :
    (m.pruned keys).get key = .every := by
  have hnone : (m.entries.filter fun e => keys.contains e.1).lookup key = none := by
    refine List.lookup_eq_none_iff.2 fun e he => ?_
    have hmem : e.1 ∈ keys := List.contains_iff_mem.1 (List.mem_filter.1 he).2
    have hne : key ≠ e.1 := fun heq => h (heq ▸ hmem)
    simpa using hne
  have hfound : (m.pruned keys).get? key = none := by
    rw [get?, pruned, lookup_map_shown, hnone, Option.map_none]
  rw [get, hfound, Option.getD_none]

end Selections

/-! ## Conditions -/

/-- The connector of the first condition is not written. -/
@[simp] theorem predicateWords_ledByAnd (cs : List Condition) :
    predicateWords (ledByAnd cs) = predicateWords cs := by
  cases cs <;> rfl

theorem filter_ledByAnd {cs : List Condition} (h : ∀ c ∈ cs, (c.column != "") = true) :
    (ledByAnd cs).filter (fun c => c.column != "") = ledByAnd cs := by
  cases cs with
  | nil =>
      rfl
  | cons c rest =>
      exact List.filter_eq_self.2 (List.forall_mem_cons.2 (List.forall_mem_cons.1 h))

namespace Query

/-! ## Joins -/

section Joins

variable {q r : Query} {known : List String}

theorem joinClausesFrom_congr (h : r.tables = q.tables) (joins : List Join) :
    r.joinClausesFrom known joins = q.joinClausesFrom known joins := by
  have hclause : ∀ introduced join, r.clauseOf? introduced join = q.clauseOf? introduced join := by
    intro introduced join
    simp only [clauseOf?, findTable?, h]
  induction joins generalizing known with
  | nil =>
      rfl
  | cons join rest ih =>
      simp only [joinClausesFrom, hclause, ih]

theorem joinClauses_congr (htables : r.tables = q.tables) (hjoins : r.joins = q.joins) :
    r.joinClauses = q.joinClauses := by
  simp only [joinClauses, htables, hjoins, joinClausesFrom_congr htables]

/-- A join that is not written brings in no table, so that the clauses after it are the same
without it. -/
theorem joinClausesFrom_filter_writes (joins : List Join) :
    q.joinClausesFrom known (joins.filter q.writes) = q.joinClausesFrom known joins := by
  induction joins generalizing known with
  | nil =>
      rfl
  | cons join rest ih =>
      rw [List.filter_cons, writes_eq_isSome_clauseOf? known]
      cases hclause : q.clauseOf? known join with
      | none =>
          -- The keys that are there stay the same, and with them the clauses after this join.
          simp [joinClausesFrom, hclause, ih]
      | some clause =>
          simp [joinClausesFrom, hclause, ih]

end Joins

/-! ## The statement -/

/-- What a statement is made of. -/
theorem compile_congr {q r : Query} (htables : r.tables = q.tables)
    (hitems : r.selectItems = q.selectItems) (hjoins : r.joinClauses = q.joinClauses)
    (hwords : predicateWords r.predicates = predicateWords q.predicates)
    (hgroups : r.groups = q.groups) (hsorts : r.sorts = q.sorts)
    (hpage : r.pageText? = q.pageText?) : r.compile = q.compile := by
  have hlines : r.lines = q.lines := by
    funext first
    simp only [lines, hitems, hjoins, hwords, hgroups, hsorts, hpage]
  simp only [compile, htables, hlines]

theorem selectItems_pruned (q : Query) : q.pruned.selectItems = q.undated.selectItems := by
  refine List.flatMap_congr fun t ht => ?_
  have hkey : t.key ∈ q.tableKeys := q.tableKeys_undated ▸ List.mem_map_of_mem ht
  calc
    (q.pruned.selection t.key).items t.key
        = (q.selection t.key).shown.items t.key :=
          congrArg (Selection.items t.key) (q.columns.get_pruned hkey)
    _ = (q.undated.selection t.key).items t.key := Selection.items_shown _ _

theorem joinClauses_pruned (q : Query) : q.pruned.joinClauses = q.undated.joinClauses := by
  have htables : q.pruned.tables = q.undated.tables := rfl
  have hwrites : q.undated.writes = q.writes := by
    funext join
    simp only [writes, hasTable_undated]
  have hclauses (known : List String) : q.pruned.joinClausesFrom known q.pruned.joins =
      q.undated.joinClausesFrom known q.undated.joins :=
    calc
      q.pruned.joinClausesFrom known (q.joins.filter q.writes)
          = q.undated.joinClausesFrom known (q.joins.filter q.undated.writes) := by
            rw [hwrites]
            exact joinClausesFrom_congr htables _
      _ = q.undated.joinClausesFrom known q.joins := joinClausesFrom_filter_writes _
  simp only [joinClauses, hclauses, htables]

theorem predicateWords_pruned (q : Query) :
    predicateWords q.pruned.predicates = predicateWords q.predicates := by
  have hled : q.pruned.predicates = ledByAnd q.predicates :=
    filter_ledByAnd fun _ hc => (List.mem_filter.1 hc).2
  rw [hled, predicateWords_ledByAnd]

theorem groups_pruned (q : Query) : q.pruned.groups = q.groups := by
  simp [groups, pruned]

theorem sorts_pruned (q : Query) : q.pruned.sorts = q.sorts := by
  simp [sorts, pruned]

theorem pageText?_pruned (q : Query) : q.pruned.pageText? = q.pageText? := by
  unfold pageText? pruned
  cases q.limit <;> rfl

end Query

/-- Joins that lack a column or lead to no table, conditions, sort entries and groups without a
column, an offset without a limit and the columns of tables that are not there have no influence on
the statement.  Neither has the connector of the first condition, nor whether no column or every
column of a table is selected, nor have the ordinals and the catalog. -/
theorem Canvas.compile_pruned (c : Canvas) : c.pruned.query.compile = c.query.compile :=
  let q := c.query
  calc
    q.pruned.compile
        = q.undated.compile :=
          Query.compile_congr rfl q.selectItems_pruned q.joinClauses_pruned q.predicateWords_pruned
            q.groups_pruned q.sorts_pruned q.pageText?_pruned
    _ = q.compile := q.compile_undated

/-- A join that lacks its columns, a condition that lacks its column and an offset alone. -/
example :
    let q : Query :=
      { tables := [⟨"orders", some "o", 3⟩, ⟨"items", none, 4⟩]
        joins := [{ leftTable := "o", rightTable := "items" }, ⟨.left, "o", "id", "items", "order"⟩]
        conditions := [{ value := "7" }, { column := "o.id", value := "1", connector := .or }]
        offset := some 5 }
    q.pruned =
        { tables := [⟨"orders", some "o", 0⟩, ⟨"items", none, 0⟩]
          joins := [⟨.left, "o", "id", "items", "order"⟩]
          conditions := [{ column := "o.id", value := "1" }] } ∧
      q.pruned.compile =
        "SELECT o.*, items.*\nFROM orders AS o\n" ++
          "LEFT JOIN items ON o.id = items.order\nWHERE o.id = 1;" := by
  decide +kernel

end QueryDesigner

import QueryDesigner.Compile.Statement
import QueryDesigner.Proofs.Query.Keyed

/-!
# Queries without their ordinals

The ordinal of a table tells when it came in.  Nothing that is done to a query and nothing that is
made of it looks at ordinals.

* `TableRef.undated`, `Query.undated` — a table and a query with the ordinals set to zero;
* `Query.findTable?_undated`, `Query.selfJoinAlias_undated`, … — look-up does not see them;
* `Query.undated_withTable`, `Query.undated_renamed`, … — what the edits make of a query without
  ordinals is what they make of the query, without ordinals;
* `Query.compile_undated` — the statement is the same.
-/

namespace QueryDesigner

def TableRef.undated (t : TableRef) : TableRef := { t with ordinal := 0 }

/-- The query with all ordinals set to zero. -/
def Query.undated (q : Query) : Query := { q with tables := q.tables.map TableRef.undated }

@[simp] theorem TableRef.key_undated (t : TableRef) : t.undated.key = t.key := rfl

@[simp] theorem TableRef.name_undated (t : TableRef) : t.undated.name = t.name := rfl

namespace Query

/-! ## Look-up -/

@[simp] theorem tableKeys_undated (q : Query) : q.undated.tableKeys = q.tableKeys := by
  simp [tableKeys, undated]

@[simp] theorem selection_undated (q : Query) (key : String) :
    q.undated.selection key = q.selection key := rfl

@[simp] theorem findTable?_undated (q : Query) (key : String) :
    q.undated.findTable? key = (q.findTable? key).map TableRef.undated := by
  simp [findTable?, undated, Function.comp_def]

@[simp] theorem hasTable_undated (q : Query) (key : String) :
    q.undated.hasTable key = q.hasTable key := by
  simp [hasTable]

@[simp] theorem findOrder?_undated (q : Query) (column : String) :
    q.undated.findOrder? column = q.findOrder? column := rfl

@[simp] theorem lastTable?_undated (q : Query) (key : String) :
    q.undated.lastTable? key = (q.lastTable? key).map TableRef.undated := by
  simp [lastTable?, undated, ← List.map_reverse, Function.comp_def]

@[simp] theorem usesName_undated (q : Query) (name : String) :
    q.undated.usesName name = q.usesName name := by
  simp [usesName, undated, tableKeys, Function.comp_def]

@[simp] theorem selfJoinAlias_undated (q : Query) (name : String) :
    q.undated.selfJoinAlias name = q.selfJoinAlias name := by
  simp [selfJoinAlias, undated, tableKeys, Function.comp_def]

/-! ## Edits -/

@[simp] theorem undated_undated (q : Query) : q.undated.undated = q.undated := by
  simp [undated, TableRef.undated]

theorem undated_withTable (q : Query) (t : TableRef) :
    (q.withTable t).undated = q.undated.withTable t.undated := by
  simp [withTable, undated]

theorem undated_withoutTable (q : Query) (key : String) :
    (q.withoutTable key).undated = q.undated.withoutTable key := by
  simp [withoutTable, undated, List.filter_map, Function.comp_def]

theorem undated_renamed (q : Query) (old new : String) (aliasName : Option String) :
    (q.renamed old new aliasName).undated = q.undated.renamed old new aliasName := by
  simp only [renamed, undated, List.map_map]
  congr 1
  refine List.map_congr_left fun t _ => ?_
  by_cases hkey : t.key = old
  · simp only [Function.comp_apply, TableRef.key_undated, hkey, if_true]
    rfl
  · simp only [Function.comp_apply, TableRef.key_undated, hkey, if_false]

theorem undated_withAlias (q : Query) (key : String) (aliasName : Option String) :
    (q.withAlias key aliasName).undated = q.undated.withAlias key aliasName := by
  have htables := @map_modify _ _ ({ · with aliasName }) TableRef.undated ({ · with aliasName })
    q.tables (q.tables.findIdx fun t => t.key == key) fun _ => rfl
  simp only [withAlias, undated]
  -- The place of the table is found by its key, in either query.
  rw [htables, List.findIdx_map]
  rfl

theorem undated_inOrder (q : Query) (keys : List String) :
    (q.inOrder keys).undated = q.undated.inOrder keys := by
  have hfound : ∀ key ∈ keys, (q.lastTable? key).map TableRef.undated = q.undated.lastTable? key :=
    fun key _ => (q.lastTable?_undated key).symm
  simp only [inOrder, undated, List.map_filterMap]
  rw [List.filterMap_congr hfound]
  rfl

theorem undated_withEverySelection (q : Query) (s : Selection) :
    (q.withEverySelection s).undated = q.undated.withEverySelection s := by
  rw [withEverySelection, withEverySelection, tableKeys_undated]
  exact (List.foldl_hom undated fun _ _ => rfl).symm

end Query

/-! ## The statement -/

@[simp] theorem TableRef.source_undated (t : TableRef) : t.undated.source = t.source := rfl

/-- The clause with the ordinal of the table that it brings in set to zero. -/
def JoinClause.undated : JoinClause → JoinClause
  | introduces join table => introduces join table.undated
  | refines join key => refines join key

theorem JoinClause.text_undated (clause : JoinClause) : clause.undated.text = clause.text := by
  cases clause <;> rfl

theorem JoinClause.key?_undated (clause : JoinClause) : clause.undated.key? = clause.key? := by
  cases clause <;> rfl

theorem joinClause_undated (introduced : List String) (join : Join) (left right : TableRef) :
    joinClause introduced join left.undated right.undated =
      (joinClause introduced join left right).undated := by
  by_cases hright : right.key ∈ introduced <;> by_cases hleft : left.key ∈ introduced <;>
    simp [joinClause, hright, hleft, JoinClause.undated]

namespace Query

theorem clauseOf?_undated (q : Query) (introduced : List String) (join : Join) :
    q.undated.clauseOf? introduced join =
      (q.clauseOf? introduced join).map JoinClause.undated := by
  simp only [clauseOf?, findTable?_undated]
  split_ifs
  · cases q.findTable? join.leftTable <;> cases q.findTable? join.rightTable <;>
      simp [joinClause_undated]
  · rfl

theorem joinClausesFrom_undated (q : Query) (introduced : List String) (joins : List Join) :
    q.undated.joinClausesFrom introduced joins =
      (q.joinClausesFrom introduced joins).map JoinClause.undated := by
  induction joins generalizing introduced with
  | nil =>
      rfl
  | cons join rest ih =>
      simp only [joinClausesFrom, clauseOf?_undated]
      cases q.clauseOf? introduced join with
      | none =>
          exact ih introduced
      | some clause =>
          simp [ih, JoinClause.key?_undated]

theorem joinClauses_undated (q : Query) :
    q.undated.joinClauses = q.joinClauses.map JoinClause.undated := by
  simp only [joinClauses, undated]
  cases htables : q.tables with
  | nil =>
      rfl
  | cons first rest =>
      have hclauses := q.joinClausesFrom_undated [first.key] q.joins
      simpa [undated, htables] using hclauses

theorem selectItems_undated (q : Query) : q.undated.selectItems = q.selectItems := by
  simp [selectItems, undated, List.flatMap_map, selection]

theorem lines_undated (q : Query) (first : TableRef) :
    q.undated.lines first.undated = q.lines first := by
  have hjoins : q.undated.joinClauses.map JoinClause.text = q.joinClauses.map JoinClause.text := by
    simp [joinClauses_undated, Function.comp_def, JoinClause.text_undated]
  simp only [lines, selectItems_undated, TableRef.source_undated, hjoins]
  rfl

/-- The statement of a query does not depend on its ordinals. -/
theorem compile_undated (q : Query) : q.undated.compile = q.compile := by
  cases htables : q.tables with
  | nil =>
      simp [compile, undated, htables]
  | cons first rest =>
      have hlines := q.lines_undated first
      simp only [undated, htables, List.map_cons] at hlines
      simp [compile, undated, htables, hlines]

end Query
end QueryDesigner

import QueryDesigner.Proofs.Decompile.WellFormed

/-!
# What becomes of the joins of a statement

* `Reading.run_addTable_of_nameless`, `Reading.run_addTable_of_named` — a table comes in if it has a
  name;
* `Reading.run_registerTable_ok` — a table that comes in changes no join;
* `Reading.account_addEquality` — an equality of columns adds a join, or something is reported;
* `Reading.account_readJoin` — and so does a JOIN.
-/

namespace QueryDesigner

/-- How an edit fails that is asked for a table without a name. -/
def Failure.nameless : Failure := .rejected (.badChange .nameMissing)

namespace Reading

theorem run_warnEach (f : Sql.Expr → Warning) (es : List Sql.Expr) (d : Draft) :
    EStateM.run
        (forIn es PUnit.unit fun e _ => (do warn (f e); pure (.yield PUnit.unit) : Reading _)) d =
      .ok () { d with warnings := d.warnings ++ es.map f } := by
  induction es generalizing d with
  | nil =>
      simp
  | cons e rest ih =>
      have hrest := ih { d with warnings := d.warnings ++ [f e] }
      rw [List.forIn_cons, bind_assoc, EStateM.run_bind, run_warn]
      simpa using hrest

/-- Where no equality is found, every predicate is reported. -/
theorem run_joinEquality? (predicates : List Sql.Expr) (d : Draft) :
    ∃ equality reported, (joinEquality? predicates).run d =
        .ok equality { d with warnings := d.warnings ++ reported } ∧
      (equality = none → reported.length = predicates.length) := by
  induction predicates generalizing d with
  | nil =>
      exact ⟨none, [], by simp [joinEquality?], by simp⟩
  | cons predicate rest ih =>
      unfold joinEquality?
      cases hequality : predicate.columnEquality? with
      | some sides =>
          rcases sides with ⟨left, right⟩
          refine ⟨some (predicate, left, right),
            rest.map fun other => .joinPredicate other.shown, ?_, by simp⟩
          dsimp only
          rw [EStateM.run_bind, run_warnEach]
          rfl
      | none =>
          rcases ih { d with warnings := d.warnings ++ [.joinPredicate predicate.shown] } with
            ⟨equality, reported, hrun, hreported⟩
          refine ⟨equality, .joinPredicate predicate.shown :: reported, ?_, ?_⟩
          · dsimp only
            rw [EStateM.run_bind, run_warn]
            simpa using hrun
          · intro hnone
            simp [hreported hnone]

/-- A join is added or turned down; then the draft stays as it is. -/
theorem run_attempt?_addJoin {join : Join} {result : Except Rejection Join} {d d' : Draft} :
    (attempt? (Edit.addJoin join)).run d = .ok result d' →
      (result = .ok join ∧ AccountOf Query.joins d d' ⟨some join, []⟩) ∨
        ∃ rejection, result = .error rejection ∧ d' = d := by
  intro hrun
  rw [run_attempt?, Edit.run_addJoin] at hrun
  cases hends : (Edit.requireEnds join).run d.canvas with
  | ok _ _ =>
      rw [hends] at hrun
      cases hrun
      exact .inl ⟨rfl, rfl, by simp⟩
  | error failure _ =>
      rw [hends] at hrun
      cases failure with
      | rejected rejection =>
          cases hrun
          exact .inr ⟨rejection, rfl, rfl⟩
      | _ =>
          cases hrun

/-- An equality of columns becomes a join, or it is reported why it does not. -/
theorem account_addEquality {type : JoinType} {predicate : Sql.Expr} {left right : String × String}
    {d d' : Draft} :
    (addEquality type predicate left right).run d = .ok () d' →
      ∃ account, AccountOf Query.joins d d' account ∧
        (account.made = none → account.reported ≠ []) := by
  intro hrun
  unfold addEquality at hrun
  -- Looking up the two tables and the two columns changes nothing and never fails.
  rw [EStateM.run_bind, run_keyOf?] at hrun
  dsimp only at hrun
  rw [EStateM.run_bind, run_keyOf?] at hrun
  dsimp only at hrun
  split at hrun
  · rename_i leftKey rightKey _ _
    rcases run_resolveColumn leftKey left.2 d with ⟨leftColumn, hleft⟩
    rcases run_resolveColumn rightKey right.2 d with ⟨rightColumn, hright⟩
    rw [EStateM.run_bind, hleft] at hrun
    dsimp only at hrun
    rw [EStateM.run_bind, hright] at hrun
    dsimp only at hrun
    rcases run_bind_eq_ok.1 hrun with ⟨result, d₁, hjoin, hend⟩
    rcases run_attempt?_addJoin hjoin with ⟨rfl, haccount⟩ | ⟨rejection, rfl, rfl⟩
    · cases hend
      exact ⟨_, haccount, by simp⟩
    · cases hend
      exact ⟨_, accountOf_warn _ _ _, by simp⟩
  · -- One side of the equality names no table of the statement.
    cases hrun
    exact ⟨_, accountOf_warn _ _ _, by simp⟩

theorem run_addTable_of_nameless {name : String} (isAliased : Bool) (d : Draft) :
    Text.trim name = "" → (addTable name isAliased).run d = .error .nameless d := by
  intro hname
  unfold addTable
  rw [EStateM.run_bind, run_attempt?, Edit.run_addTable, if_pos hname]
  rfl

/-- The first attempt may be turned down because the name is taken; the second one is not.  Either
way the table has a new key. -/
theorem run_addTable_of_named {name : String} (isAliased : Bool) (d : Draft) :
    Text.trim name ≠ "" →
      ∃ table d' reported, (addTable name isAliased).run d = .ok table d' ∧
        d'.canvas = d.canvas.withTable table ∧ d'.keys = d.keys ∧
          d'.warnings = d.warnings ++ reported ∧ table.key ∉ d.canvas.query.tableKeys := by
  intro hname
  have hnew := d.canvas.incoming_key_notMem (d.canvas.nameFor name)
  unfold addTable
  rw [EStateM.run_bind, run_attempt?, Edit.run_addTable, if_neg hname]
  cases hused : d.canvas.query.usesName (d.canvas.nameFor name) with
  | false =>
      exact ⟨_, _, [], rfl, rfl, rfl, by simp, hnew⟩
  | true =>
      simp only [Bool.not_false, Bool.and_self, if_true]
      rw [EStateM.run_bind, run_edit, Edit.run_addTable, if_neg hname]
      simp only [hused, Bool.not_true, Bool.and_false, Bool.false_eq_true, if_false]
      cases isAliased with
      | true =>
          exact ⟨_, _, [], rfl, rfl, rfl, by simp, hnew⟩
      | false =>
          exact ⟨_, _, [_], rfl, rfl, rfl, rfl, hnew⟩

theorem run_addTable_ok {name : String} {isAliased : Bool} {table : TableRef} {d d' : Draft} :
    (addTable name isAliased).run d = .ok table d' →
      d'.canvas = d.canvas.withTable table ∧ table.key ∉ d.canvas.query.tableKeys ∧
        ∃ reported, d'.warnings = d.warnings ++ reported := by
  intro hrun
  by_cases hname : Text.trim name = ""
  · rw [run_addTable_of_nameless isAliased d hname] at hrun
    cases hrun
  · rcases run_addTable_of_named isAliased d hname with
      ⟨added, d₁, reported, hadd, hcanvas, _, hwarnings, hnew⟩
    rw [hadd] at hrun
    cases hrun
    exact ⟨hcanvas, hnew, reported, hwarnings⟩

/-- An alias changes no join as long as none mentions the table. -/
theorem joins_setAlias {key : String} {aliasName : Option String} {c : Canvas} :
    (∀ j ∈ c.query.joins, j.leftTable ≠ key ∧ j.rightTable ≠ key) →
      (finalState ((Edit.setAlias key aliasName).run c)).query.joins = c.query.joins := by
  intro hfree
  have hrekey : ∀ new, c.query.joins.map (Join.rekey key new) = c.query.joins := by
    intro new
    refine (List.map_congr_left fun j hj => ?_).trans (List.map_id' _)
    simp [Join.rekey, hfree j hj]
  rw [Edit.run_setAlias]
  cases c.query.findTable? key with
  | none =>
      rfl
  | some table =>
      dsimp only
      split_ifs
      · rfl
      · rfl
      · exact hrekey _

theorem run_giveAlias_ok {table table' : TableRef} {aliasName : String} {d d' : Draft} :
    (∀ j ∈ d.canvas.query.joins, j.leftTable ≠ table.key ∧ j.rightTable ≠ table.key) →
      (giveAlias table aliasName).run d = .ok table' d' →
        ∃ reported, AccountOf Query.joins d d' ⟨none, reported⟩ := by
  intro hfree hrun
  unfold giveAlias at hrun
  split_ifs at hrun
  · cases hrun
    exact ⟨[], by simp, by simp⟩
  · rcases run_bind_eq_ok.1 hrun with ⟨result, d₁, hrename, hend⟩
    obtain rfl := eq_of_run_attempt? hrename
    have hjoins : (finalState ((Edit.setAlias table.key (some aliasName)).run
        d.canvas)).query.joins = d.canvas.query.joins :=
      joins_setAlias hfree
    cases result with
    | ok table =>
        cases hend
        exact ⟨[], by simpa using hjoins, by simp⟩
    | error rejection =>
        cases rejection with
        | aliasCollision _ =>
            cases hend
            exact ⟨[_], by simpa using hjoins, rfl⟩
        | _ =>
            cases hend

/-- A name that is seen already keeps its table. -/
theorem run_bindName (name key : String) (d : Draft) :
    ∃ keys, (bindName name key).run d = .ok () { d with keys } ∧
      (∀ e ∈ keys, e ∈ d.keys ∨ e.2 = key) ∧
        ∀ other, (keys.lookup other).isSome = true ↔
          other = Text.lower name ∨ (d.keys.lookup other).isSome = true := by
  by_cases hthere : (d.keys.lookup (Text.lower name)).isSome = true
  · refine ⟨d.keys, by simp [bindName, hthere], fun e he => .inl he, fun other => ?_⟩
    exact ⟨.inr, fun h => h.elim (fun heq => heq ▸ hthere) id⟩
  · refine ⟨d.keys ++ [(Text.lower name, key)], by simp [bindName, hthere], fun e he => ?_,
      fun other => ?_⟩
    · rcases List.mem_append.1 he with he | he
      · exact .inl he
      · exact .inr (by rw [List.mem_singleton.1 he])
    · by_cases hname : other = Text.lower name
      · simp [hname, List.lookup_append]
      · have hne : (other == Text.lower name) = false := by simpa using hname
        simp [hname, List.lookup_append, List.lookup_cons, hne]

/-- A table that comes in leaves the joins alone: its key is new, so that none of them mentions it
when it gets its alias. -/
theorem run_registerTable_ok {table : NamedTable} {key : String} {d d' : Draft} :
    Sound d → (registerTable table).run d = .ok key d' →
      ∃ reported, AccountOf Query.joins d d' ⟨none, reported⟩ := by
  intro hd hrun
  unfold registerTable at hrun
  rw [EStateM.run_bind, run_resolveTable] at hrun
  rcases run_bind_eq_ok.1 hrun with ⟨added, d₁, hadd, hrest⟩
  rcases run_addTable_ok hadd with ⟨hcanvas, hkey, reported, hwarnings⟩
  -- Joins end in tables that were there before, and none of these has the key of the new table.
  have hfree : ∀ j ∈ d₁.canvas.query.joins, j.leftTable ≠ added.key ∧ j.rightTable ≠ added.key := by
    intro j hj
    rw [hcanvas] at hj
    have hends := hd.query.joinEnds j hj
    exact ⟨fun heq => hkey (heq ▸ hends.1), fun heq => hkey (heq ▸ hends.2)⟩
  have hadded : ∃ reported, AccountOf Query.joins d d₁ ⟨none, reported⟩ := by
    have hjoins : d₁.canvas.query.joins = d.canvas.query.joins := by
      rw [hcanvas]
      rfl
    refine ⟨(if table.hasQualifier then [.qualifier table.shown] else []) ++ reported, ?_, ?_⟩
    · simpa using hjoins
    · rw [hwarnings, withResolved, List.append_assoc]
  rcases hadded with ⟨first, hadded⟩
  dsimp only at hrest
  cases haliasName : table.aliasName with
  | none =>
      rw [haliasName] at hrest
      rcases run_bindName table.visibleName added.key d₁ with ⟨keys, hbind, _⟩
      rw [pure_bind, EStateM.run_bind, hbind] at hrest
      cases hrest
      exact ⟨first, hadded.made, hadded.reported⟩
  | some aliasName =>
      rw [haliasName] at hrest
      rcases run_bind_eq_ok.1 hrest with ⟨named, d₂, halias, hend⟩
      rcases run_giveAlias_ok hfree halias with ⟨later, hnamed⟩
      rcases run_bindName table.visibleName named.key d₂ with ⟨keys, hbind, _⟩
      rw [EStateM.run_bind, hbind] at hend
      cases hend
      have haccount := hadded.after hnamed
      exact ⟨_, haccount.made, haccount.reported⟩

theorem run_joinedKey_ok {table : NamedTable} {key : String} {d d' : Draft} :
    Sound d → (joinedKey table).run d = .ok key d' →
      ∃ reported, AccountOf Query.joins d d' ⟨none, reported⟩ := by
  intro hd hrun
  unfold joinedKey at hrun
  rcases run_seenKey? table d with ⟨seen, hseen⟩
  rw [EStateM.run_bind, hseen] at hrun
  cases seen with
  | some key =>
      cases hrun
      exact ⟨[], by simp, by simp⟩
  | none =>
      exact run_registerTable_ok hd hrun

/-- A join adds one join to the query, or none, and then something is reported. -/
theorem account_readJoin {j : Sql.Join} {d d' : Draft} :
    Sound d → (readJoin j).run d = .ok () d' →
      ∃ account, AccountOf Query.joins d d' account ∧
        (account.made = none → account.reported ≠ []) := by
  intro hd hrun
  unfold readJoin at hrun
  dsimp only at hrun
  -- No table, no predicate, and then a table with a predicate.
  split at hrun
  · cases hrun
    exact ⟨_, accountOf_warn _ _ _, by simp⟩
  · cases hrun
    exact ⟨_, accountOf_warn _ _ _, by simp⟩
  · rename_i table on _ _
    rcases run_bind_eq_ok.1 hrun with ⟨key, d₁, hkey, hrest⟩
    rcases run_joinedKey_ok hd hkey with ⟨before, hjoined⟩
    split at hrest
    · cases hrest
      exact ⟨_, hjoined.after (accountOf_warn _ _ _), by simp⟩
    · rcases run_joinEquality? on.conjuncts d₁ with ⟨equality, reported, hequality, hnone⟩
      rw [EStateM.run_bind, hequality] at hrest
      have hreported : AccountOf Query.joins d₁
          { d₁ with warnings := d₁.warnings ++ reported } ⟨none, reported⟩ := ⟨by simp, rfl⟩
      cases equality with
      | none =>
          -- No predicate is an equality of columns; there is at least one, and each was reported.
          cases hrest
          refine ⟨_, hjoined.after hreported, fun _ => ?_⟩
          have hlength := hnone rfl
          have hpredicates := List.length_pos_of_ne_nil on.conjuncts_ne_nil
          have hsome : reported ≠ [] := List.ne_nil_of_length_pos (by omega)
          exact List.append_ne_nil_of_right_ne_nil _ hsome
      | some sides =>
          rcases sides with ⟨predicate, left, right⟩
          rcases account_addEquality hrest with ⟨account, haccount, hfair⟩
          refine ⟨_, hjoined.after (hreported.after haccount), fun hmade => ?_⟩
          exact List.append_ne_nil_of_right_ne_nil _
            (List.append_ne_nil_of_right_ne_nil _ (hfair hmade))

end Reading

end QueryDesigner

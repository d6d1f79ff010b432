import QueryDesigner.Proofs.Decompile.Items
import QueryDesigner.Proofs.Decompile.Lossless
import QueryDesigner.Proofs.Text.Digit

/-!
# Where a text cannot be read

* `Reading.succeeds_readConditions`, `Reading.succeeds_readRest` — the clauses after the SELECT list
  are read whatever they hold and whatever was read before them;
* `Reading.meets_readSelect` — a statement is read unless a table that comes in has no name;
* `decompile_eq_error_iff` — and so is a text, which has a result in all other cases.
-/

namespace QueryDesigner

namespace Reading

variable {α β : Type} {catalog : Option Catalog}

/-! ## The clauses after the SELECT list -/

theorem succeeds_warn (w : Warning) : Succeeds (warn w) := .modify _

theorem Remarks.succeeds {x : Reading α} (hx : Remarks x) : Succeeds x := by
  intro d
  rcases hx d with ⟨a, reported, hrun, _⟩
  exact ⟨a, _, hrun⟩

/-- An edit that no canvas turns down. -/
theorem succeeds_edit {e : Edit α} (he : Succeeds e) : Succeeds (edit e) := by
  intro d
  rcases he d.canvas with ⟨a, canvas, hrun⟩
  rw [run_edit, hrun]
  exact ⟨a, _, rfl⟩

theorem succeeds_readConditions (condition : Sql.Expr) : Succeeds (readConditions condition) := by
  refine (Succeeds.forM (fun predicate d => ?_) _).bind fun _ => .pure _
  rcases account_readPredicate predicate d with ⟨account, hrun, _⟩
  exact ⟨(), _, hrun⟩

theorem succeeds_readGroups (grouping : Sql.Grouping) : Succeeds (readGroups grouping) := by
  refine (Succeeds.forM (fun e => ?_) _).bind fun _ => .pure _
  unfold readGroup
  split
  · refine (Remarks.columnRef _ _ _ _).succeeds.bind fun ref => succeeds_edit fun c => ?_
    exact ⟨(), _, Edit.run_addGroup ref c⟩
  · exact succeeds_warn _

/-- A direction that is read is one of the two that there are. -/
theorem succeeds_addOrder (column : String) (direction : Direction) :
    Succeeds (Edit.addOrder column direction) := by
  intro c
  rw [Edit.addOrder, Edit.run_addOrderWith]
  cases c.query.findOrder? column with
  | none =>
      exact ⟨_, _, rfl⟩
  | some order =>
      exact ⟨_, _, rfl⟩

theorem succeeds_readOrder (items : List Sql.OrderItem) : Succeeds (readOrder items) := by
  refine (Succeeds.forM (fun item => ?_) _).bind fun _ => .pure _
  unfold readOrderItem
  split
  · refine (Remarks.columnRef _ _ _ _).succeeds.bind fun ref => ?_
    exact (succeeds_edit (succeeds_addOrder ref _)).discard
  · exact succeeds_warn _

/-- A number of the language has no sign, so that it is no negative count. -/
theorem zero_le_of_wholeNumber? {e : Sql.Expr} {n : Int} : wholeNumber? e = some n → 0 ≤ n := by
  intro h
  unfold wholeNumber? at h
  split at h
  · rename_i digits _
    exact Text.zero_le_of_readInteger? digits.startsWithDigit h
  · cases h

theorem succeeds_readCount (paging : Paging) (e : Sql.Expr) : Succeeds (readCount paging e) := by
  unfold readCount
  split
  · rename_i n hn
    refine succeeds_edit fun c => ?_
    have hcount : ¬ n < 0 := not_lt.2 (zero_le_of_wholeNumber? hn)
    rw [Edit.run_setPaging, Edit.countOf, if_neg hcount]
    exact ⟨(), _, rfl⟩
  · exact succeeds_warn _

theorem succeeds_readPaging (tail : Sql.Tail) : Succeeds (readPaging tail) := by
  rw [readPaging_eq]
  refine (Succeeds.optionForM (fun limit => ?_) _).bind fun _ => ?_
  · split
    · exact succeeds_readCount _ _
    · exact succeeds_warn _
  · exact .optionForM (fun offset => succeeds_readCount _ _) _

theorem succeeds_readRest (s : Sql.Select) : Succeeds (readRest s) := by
  refine (Succeeds.optionForM succeeds_readGroups _).bind fun _ => ?_
  refine (Succeeds.optionForM (fun _ => succeeds_warn _) _).bind fun _ => ?_
  exact (succeeds_readOrder _).bind fun _ => succeeds_readPaging _

/-! ## Whole statements -/

/-- Once the tables are read nothing can fail any more. -/
theorem run_readClauses (s : Sql.Select) {d : Draft} (hd : Ready catalog d) :
    ∃ d', (readClauses s).run d = .ok () d' := by
  rcases run_readItems s hd with ⟨d₁, hitems, _⟩
  -- only the SELECT list asks something of the canvas
  have hrest : Succeeds (do forM s.tail.condition readConditions; readRest s : Reading Unit) :=
    (Succeeds.optionForM succeeds_readConditions _).bind fun _ => succeeds_readRest s
  rcases hrest d₁ with ⟨_, d', hrun⟩
  refine ⟨d', ?_⟩
  rw [readClauses_eq, EStateM.run_bind, hitems]
  exact hrun

theorem meets_readSelect (s : Sql.Select) :
    Meets (fun d => Seeing catalog [] d ∧ Unselected d) (readSelect s)
      (fun _ _ => ¬ NamedTable.SomeNameless catalog s.newTables)
      (fun failure => failure = .nameless ∧ NamedTable.SomeNameless catalog s.newTables) := by
  refine (meets_readTables s).bind fun hasTables => ?_
  rintro d ⟨hnamed, hd⟩
  cases hasTables with
  | true =>
      rcases run_readClauses s (hd rfl) with ⟨d', hrun⟩
      have hrun' : (if true = true then readClauses s else pure ()).run d = .ok () d' := hrun
      rw [hrun']
      exact hnamed
  | false =>
      exact hnamed

end Reading

/-- A text without a SELECT statement is not read, which is reported. -/
theorem exists_decompile_of_none {sql : String} (catalog : Option Catalog) :
    Sql.selectOf? sql = none →
      ∃ result, decompile sql catalog = .ok result ∧ result.warnings ≠ [] := by
  intro h
  unfold Sql.selectOf? at h
  unfold decompile
  cases hkind : Sql.StatementKind.ofText sql with
  | select =>
      rw [hkind] at h
      cases hstatements : Sql.statements? sql with
      | none =>
          exact ⟨_, rfl, List.cons_ne_nil _ _⟩
      | some statements =>
          rw [hstatements] at h
          rcases statements with _ | ⟨_ | statement, rest⟩
          · exact ⟨_, rfl, List.cons_ne_nil _ _⟩
          · exact ⟨_, rfl, List.cons_ne_nil _ _⟩
          · dsimp only at h ⊢
            unfold decompileNodes Reading.readNodes
            rw [h]
            exact ⟨_, rfl, List.cons_ne_nil _ _⟩
  | _ =>
      exact ⟨_, rfl, List.cons_ne_nil _ _⟩

/-- A text with a SELECT statement fails where reading the statement fails. -/
theorem decompile_eq_error_iff_run {sql : String} {catalog : Option Catalog} {s : Sql.Select}
    {failure : Failure} (hs : Sql.selectOf? sql = some s) :
    decompile sql catalog = .error failure ↔
      ∃ d, (Reading.readSelect s).run { canvas := .ofQuery {} catalog } = .error failure d := by
  have hread := @decompile_eq sql catalog s hs
  cases hrun : (Reading.readSelect s).run { canvas := .ofQuery {} catalog } with
  | ok _ d =>
      rw [hrun] at hread
      cases hresult : decompile sql catalog with
      | ok result =>
          simp
      | error raised =>
          rw [hresult] at hread
          cases hread
  | error raised d =>
      rw [hrun] at hread
      cases hresult : decompile sql catalog with
      | ok result =>
          rw [hresult] at hread
          cases hread
      | error raised' =>
          rw [hresult] at hread
          cases hread
          simp

theorem Reading.unselected_empty (catalog : Option Catalog) :
    Reading.Unselected { canvas := .ofQuery {} catalog } := by
  intro e he
  cases he

/-- A text, whatever it says, has a result, but for one thing: where a table that comes into the
query has no name, as a call after FROM has none, the canvas turns the table down, and that is not
caught. -/
theorem decompile_eq_error_iff (sql : String) (catalog : Option Catalog) (failure : Failure) :
    decompile sql catalog = .error failure ↔
      failure = .nameless ∧ ∃ s, Sql.selectOf? sql = some s ∧
        ∃ table ∈ s.newTables, table.IsNameless catalog := by
  cases hs : Sql.selectOf? sql with
  | none =>
      rcases exists_decompile_of_none catalog hs with ⟨result, hresult, _⟩
      simp [hresult]
  | some s =>
      have hmeets := Reading.meets_readSelect s _
        ⟨Reading.seeing_empty catalog, Reading.unselected_empty catalog⟩
      rw [decompile_eq_error_iff_run hs]
      constructor
      · rintro ⟨d, hrun⟩
        rw [hrun] at hmeets
        exact ⟨hmeets.1, s, rfl, hmeets.2⟩
      · rintro ⟨rfl, s', hs', hsome⟩
        obtain rfl := Option.some.inj hs'
        cases hrun : (Reading.readSelect s).run { canvas := .ofQuery {} catalog } with
        | ok _ d =>
            -- a statement that is read has no table without a name
            rw [hrun] at hmeets
            exact absurd hsome hmeets
        | error failure d =>
            rw [hrun] at hmeets
            exact ⟨d, by rw [hmeets.1]⟩

example : decompile "SELECT * FROM f(1)" none = .error .nameless := by
  decide +kernel

example : decompile "SELECT * FROM t JOIN ` ` ON t.a = t.b" none = .error .nameless := by
  decide +kernel

end QueryDesigner

import QueryDesigner.Proofs.Decompile.Joins

/-!
# No join and no predicate is lost silently

* `Reading.Untouched`, `Reading.Keeps` — what the steps that read neither joins nor conditions leave
  alone;
* `Sql.selectOf?`, `decompile_eq` — the SELECT statement of a text, which decides what comes out;
* `Sql.Select.Leaves` — the predicates of a WHERE clause;
* `nothing_lost_silently` — the joins and the predicates of a statement are all accounted for, and
  only the predicates of a WHERE clause matter, not how they are put together.
-/

namespace QueryDesigner

namespace Reading

/-! ## What the other steps leave alone -/

/-- No condition was made, and no predicate was reported as dropped. -/
structure Untouched (d : Draft) : Prop where
  conditions : d.canvas.query.conditions = []
  warnings : ∀ w ∈ d.warnings, w.dropsPredicate = false

/-- The joins and the conditions are those of an earlier draft, and what was reported since then is
not that a predicate is dropped. -/
structure Keeps (d₀ d : Draft) : Prop where
  joins : d.canvas.query.joins = d₀.canvas.query.joins
  conditions : d.canvas.query.conditions = d₀.canvas.query.conditions
  warnings : ∃ later, d.warnings = d₀.warnings ++ later ∧ ∀ w ∈ later, w.dropsPredicate = false

theorem tableStable_untouched : TableStable Untouched where
  warn w hw d hd := by
    refine ⟨hd.conditions, fun v hv => ?_⟩
    rcases List.mem_append.1 hv with hv | hv
    · exact hd.warnings v hv
    · exact List.mem_singleton.1 hv ▸ hw
  addTable name forced d hd := by
    refine ⟨?_, hd.warnings⟩
    rw [Edit.run_addTable]
    split_ifs <;> exact hd.conditions
  setAlias key aliasName d hd := by
    refine ⟨?_, hd.warnings⟩
    rw [Edit.run_setAlias]
    cases d.canvas.query.findTable? key with
    | none =>
        exact hd.conditions
    | some table =>
        dsimp only
        split_ifs
        · exact hd.conditions
        · exact hd.conditions
        · simp [finalState, Query.renamed, hd.conditions]
  addJoin join d hd := by
    refine ⟨?_, hd.warnings⟩
    rw [Edit.run_addJoin]
    split <;> exact hd.conditions
  names _ _ _ hd := ⟨hd.conditions, hd.warnings⟩

theorem clauseStable_keeps (d₀ : Draft) : ClauseStable (Keeps d₀) where
  warn w hw d hd := by
    rcases hd.warnings with ⟨later, hlater, hquiet⟩
    refine ⟨hd.joins, hd.conditions, later ++ [w], ?_, fun v hv => ?_⟩
    · simp [warn, finalState, hlater]
    · rcases List.mem_append.1 hv with hv | hv
      · exact hquiet v hv
      · exact List.mem_singleton.1 hv ▸ hw
  setColumns key columns d hd := by
    rw [Edit.run_setColumns]
    split <;> exact ⟨hd.joins, hd.conditions, hd.warnings⟩
  reorderTables keys d hd := by
    rw [Edit.run_reorderTables]
    split_ifs <;> exact ⟨hd.joins, hd.conditions, hd.warnings⟩
  addGroup column d hd := by
    rw [Edit.run_addGroup]
    dsimp only
    split_ifs <;> exact ⟨hd.joins, hd.conditions, hd.warnings⟩
  addOrder column direction d hd := by
    rw [Edit.addOrder, Edit.run_addOrderWith]
    split <;> exact ⟨hd.joins, hd.conditions, hd.warnings⟩
  setPaging paging count d hd := by
    rw [Edit.run_setPaging]
    split
    · cases paging <;> exact ⟨hd.joins, hd.conditions, hd.warnings⟩
    · exact ⟨hd.joins, hd.conditions, hd.warnings⟩

theorem Keeps.refl (d : Draft) : Keeps d d := ⟨rfl, rfl, [], by simp, by simp⟩

end Reading

/-! ## Whole statements -/

/-- The SELECT statement that is read of a text, if there is one. -/
def Sql.selectOf? (sql : String) : Option Sql.Select :=
  match Sql.StatementKind.ofText sql, Sql.statements? sql with
  | .select, some (some statement :: _) => Sql.mainSelect? (statement.nodes 0)
  | _, _ => none

/-- The leaves of the tree of ANDs of a WHERE clause.  Without the clause there are none. -/
def Sql.Select.Leaves (s : Sql.Select) (leaves : List Sql.Expr) : Prop :=
  match s.tail.condition with
  | none => leaves = []
  | some condition => condition.AndLeaves leaves

/-- The statement with another WHERE clause. -/
def Sql.Select.withCondition (s : Sql.Select) (condition : Sql.Expr) : Sql.Select :=
  { s with tail := { s.tail with condition := some condition } }

/-- The canvas and the warnings that come out of a text are those of its SELECT statement. -/
theorem decompile_eq {sql : String} {catalog : Option Catalog} {s : Sql.Select} :
    Sql.selectOf? sql = some s →
      (decompile sql catalog).map (fun result => (result.canvas, result.warnings)) =
        match (Reading.readSelect s).run { canvas := .ofQuery {} catalog } with
        | .ok _ d => .ok (d.canvas, d.warnings)
        | .error failure _ => .error failure := by
  intro h
  unfold Sql.selectOf? at h
  unfold decompile
  cases hkind : Sql.StatementKind.ofText sql with
  | select =>
      rw [hkind] at h
      cases hstatements : Sql.statements? sql with
      | none =>
          rw [hstatements] at h
          cases h
      | some statements =>
          rw [hstatements] at h
          rcases statements with _ | ⟨_ | statement, rest⟩
          · cases h
          · cases h
          · dsimp only at h ⊢
            unfold decompileNodes Reading.readNodes
            rw [h]
            dsimp only
            cases (Reading.readSelect s).run { canvas := .ofQuery {} catalog } <;> rfl
  | _ =>
      rw [hkind] at h
      cases h

/-- The parts of a successful reading, one after the other. -/
theorem parts_of_readSelect {s : Sql.Select} {source : Sql.TableSource} {table : NamedTable}
    {d d' : Draft} :
    s.source = some source → source.named? = some table →
      (Reading.readSelect s).run d = .ok () d' →
        ∃ key d₀ d₁ d₂ d₃, (Reading.registerTable table).run d = .ok key d₀ ∧
          EStateM.run (forIn s.tail.joins PUnit.unit fun j _ => do
            Reading.readJoin j; pure (.yield PUnit.unit)) d₀ = .ok PUnit.unit d₁ ∧
          (Reading.readItems s).run d₁ = .ok () d₂ ∧
          EStateM.run (forM s.tail.condition Reading.readConditions) d₂ = .ok () d₃ ∧
          (Reading.readRest s).run d₃ = .ok () d' := by
  intro hsource htable hrun
  unfold Reading.readSelect Reading.readTables at hrun
  rw [hsource] at hrun
  dsimp only at hrun
  rw [htable] at hrun
  dsimp only at hrun
  -- The source is a table, so that the clauses after FROM are read as well.
  rcases run_bind_eq_ok.1 hrun with ⟨hasTables, d₁, htables, hclauses⟩
  rcases run_bind_eq_ok.1 htables with ⟨key, d₀, hregister, hjoins⟩
  rcases run_bind_eq_ok.1 hjoins with ⟨_, _, hloop, hend⟩
  cases hend
  rw [if_pos rfl, Reading.readClauses_eq] at hclauses
  rcases run_bind_eq_ok.1 hclauses with ⟨_, d₂, hitems, hrest⟩
  rcases run_bind_eq_ok.1 hrest with ⟨_, d₃, hconditions, hlast⟩
  exact ⟨key, d₀, d₁, d₂, d₃, hregister, hloop, hitems, hconditions, hlast⟩

/-- The account of a join: one join of the query, or none, and then something is reported. -/
def Reading.FairJoin (_ : Sql.Join) (account : Account Join) : Prop :=
  account.made = none → account.reported ≠ []

theorem Sql.Select.Leaves.unique {s : Sql.Select} {leaves others : List Sql.Expr} :
    s.Leaves leaves → s.Leaves others → others = leaves := by
  intro h h'
  unfold Sql.Select.Leaves at h h'
  cases hcondition : s.tail.condition with
  | none =>
      rw [hcondition] at h h'
      rw [h, h']
  | some condition =>
      rw [hcondition] at h h'
      rw [Sql.Expr.andLeaves_iff.1 h, Sql.Expr.andLeaves_iff.1 h']

/-- A WHERE clause that is read accounts for each of its leaves, and changes no join. -/
theorem account_condition {s : Sql.Select} {d d' : Draft} :
    EStateM.run (forM s.tail.condition Reading.readConditions) d = .ok () d' →
      ∃ leaves accounts, s.Leaves leaves ∧
        Reading.Accounts Reading.readPredicate Query.conditions Reading.FairPredicate d leaves
          accounts d' ∧
        d'.canvas.query.joins = d.canvas.query.joins := by
  intro hrun
  unfold Sql.Select.Leaves
  cases hcondition : s.tail.condition with
  | none =>
      rw [hcondition] at hrun
      cases hrun
      exact ⟨[], [], rfl, .nil, rfl⟩
  | some condition =>
      rw [hcondition] at hrun
      change (Reading.readConditions condition).run d = .ok () d' at hrun
      have hjoins : d'.canvas.query.joins = d.canvas.query.joins :=
        (Reading.preserves_joins_readConditions d.canvas.query.joins condition).of_run rfl hrun
      rcases run_bind_eq_ok.1 hrun with ⟨_, _, hloop, hend⟩
      cases hend
      -- Unlike a join, a predicate is accounted for in any draft.
      have hread : ∀ {part : Sql.Expr} {d d' : Draft}, True →
          (Reading.readPredicate part).run d = .ok () d' →
            ∃ account, Reading.AccountOf Query.conditions d d' account ∧
              Reading.FairPredicate part account := by
        intro part d d' _ hpart
        rcases Reading.account_readPredicate part d with ⟨account, hrun, hfair⟩
        rw [hpart] at hrun
        cases hrun
        exact ⟨account, ⟨rfl, rfl⟩, hfair⟩
      rcases Reading.Accounts.of_run (P := fun _ => True) (fun _ _ _ => trivial) hread trivial hloop
        with ⟨accounts, haccounts⟩
      exact ⟨_, accounts, condition.andLeaves_conjuncts, haccounts, hjoins⟩

/-- Two WHERE clauses with the same leaves are read alike. -/
theorem readConditions_congr {condition condition' : Sql.Expr} {leaves : List Sql.Expr} :
    condition.AndLeaves leaves → condition'.AndLeaves leaves →
      Reading.readConditions condition = Reading.readConditions condition' := by
  intro h h'
  unfold Reading.readConditions
  rw [← Sql.Expr.andLeaves_iff.1 h, ← Sql.Expr.andLeaves_iff.1 h']

theorem readSelect_withCondition {s : Sql.Select} {condition condition' : Sql.Expr}
    {leaves : List Sql.Expr} :
    condition.AndLeaves leaves → condition'.AndLeaves leaves →
      Reading.readSelect (s.withCondition condition) =
        Reading.readSelect (s.withCondition condition') := by
  intro h h'
  have hcondition : forM (s.withCondition condition).tail.condition Reading.readConditions =
      forM (s.withCondition condition').tail.condition Reading.readConditions :=
    readConditions_congr h h'
  have hitems : Reading.readItems (s.withCondition condition) =
      Reading.readItems (s.withCondition condition') := rfl
  have hrest : Reading.readRest (s.withCondition condition) =
      Reading.readRest (s.withCondition condition') := rfl
  have hclauses : Reading.readClauses (s.withCondition condition) =
      Reading.readClauses (s.withCondition condition') := by
    rw [Reading.readClauses_eq, Reading.readClauses_eq, hcondition, hitems, hrest]
  have htables : Reading.readTables (s.withCondition condition) =
      Reading.readTables (s.withCondition condition') := rfl
  unfold Reading.readSelect
  rw [hclauses, htables]

/-- The statement `SELECT * FROM t` with a WHERE clause. -/
def Sql.Select.onT (condition : Sql.Expr) : Sql.Select :=
  .withCondition (.plain [.star []] (some (.table [⟨"t", false⟩] none [] [] none [] none [])))
    condition

/-- The WHERE clause of a statement, if that is `SELECT * FROM t` apart from it. -/
def Sql.Select.conditionOnT? : Sql.Select → Option Sql.Expr
  | ⟨[], [], false, [], [], [.star []], some (.table [⟨"t", false⟩] none [] [] none [] none []),
      ⟨[], [], some condition, none, none, none, [], [], none, [], none, none, [], none,
        ⟨[], [], [], [], []⟩⟩⟩ => some condition
  | _ => none

theorem Sql.Select.eq_of_conditionOnT? {s : Sql.Select} {condition : Sql.Expr} :
    s.conditionOnT? = some condition → s = onT condition := by
  intro h
  unfold conditionOnT? at h
  split at h
  · cases h
    rfl
  · cases h

/-- The name and the value in `(name = value AND TRUE) AND NULL`. -/
def Sql.Expr.tiedLeft? : Sql.Expr → Option (Ident × Literal)
  | .binary .and (.paren (.binary .and (.binary .eq (.column [] name) (.literal value))
      (.boolean true))) .null => some (name, value)
  | _ => none

theorem Sql.Expr.eq_of_tiedLeft? {e : Sql.Expr} {name : Ident} {value : Literal} :
    e.tiedLeft? = some (name, value) →
      e = .binary .and (.paren (.binary .and (.binary .eq (.column [] name) (.literal value))
        (.boolean true))) .null := by
  intro h
  unfold tiedLeft? at h
  split at h
  · cases h
    rfl
  · cases h

/-- The name and the value in `name = value AND (TRUE AND NULL)`. -/
def Sql.Expr.tiedRight? : Sql.Expr → Option (Ident × Literal)
  | .binary .and (.binary .eq (.column [] name) (.literal value))
      (.paren (.binary .and (.boolean true) .null)) => some (name, value)
  | _ => none

theorem Sql.Expr.eq_of_tiedRight? {e : Sql.Expr} {name : Ident} {value : Literal} :
    e.tiedRight? = some (name, value) →
      e = .binary .and (.binary .eq (.column [] name) (.literal value))
        (.paren (.binary .and (.boolean true) .null)) := by
  intro h
  unfold tiedRight? at h
  split at h
  · cases h
    rfl
  · cases h

/-- Of a SELECT statement that selects from a table, each JOIN adds one join to the query, in the
order of the JOINs, or else something is reported while it is read.  And each leaf of the tree of
ANDs in its WHERE clause adds one condition, from left to right, or else one warning says that it is
dropped.  Only the leaves matter: WHERE clauses in which the same predicates are tied by AND in the
same order are read alike, and so are statements that differ in nothing else. -/
theorem nothing_lost_silently :
    (∀ (sql : String) (catalog : Option Catalog) (s : Sql.Select) (source : Sql.TableSource)
      (table : NamedTable) (result : Decompiled),
      Sql.selectOf? sql = some s → s.source = some source → source.named? = some table →
        decompile sql catalog = .ok result →
          ∃ (key : String) (d₀ d₁ d₂ d₃ : Draft) (joins : List (Account Join))
            (leaves : List Sql.Expr) (conditions : List (Account Condition)),
            (Reading.registerTable table).run { canvas := .ofQuery {} catalog } = .ok key d₀ ∧
            Reading.Accounts Reading.readJoin Query.joins Reading.FairJoin d₀ s.tail.joins joins
              d₁ ∧
            (Reading.readItems s).run d₁ = .ok () d₂ ∧
            s.Leaves leaves ∧ (∀ others, s.Leaves others → others = leaves) ∧
            Reading.Accounts Reading.readPredicate Query.conditions Reading.FairPredicate d₂ leaves
              conditions d₃ ∧
            result.canvas.query.joins = joins.filterMap Account.made ∧
            result.canvas.query.conditions = conditions.filterMap Account.made ∧
            ∃ before between after, result.warnings =
                before ++ joins.flatMap Account.reported ++ between ++
                  conditions.flatMap Account.reported ++ after ∧
              ∀ w ∈ before ++ joins.flatMap Account.reported ++ between ++ after,
                w.dropsPredicate = false) ∧
    ∀ (condition condition' : Sql.Expr) (leaves : List Sql.Expr),
      condition.AndLeaves leaves → condition'.AndLeaves leaves →
        (∀ d, (Reading.readConditions condition).run d =
          (Reading.readConditions condition').run d) ∧
        ∀ (sql sql' : String) (catalog : Option Catalog) (s : Sql.Select),
          Sql.selectOf? sql = some (s.withCondition condition) →
            Sql.selectOf? sql' = some (s.withCondition condition') →
              (decompile sql catalog).map (fun result => (result.canvas, result.warnings)) =
                (decompile sql' catalog).map fun result => (result.canvas, result.warnings) := by
  constructor
  · intro sql catalog s source table result hselect hsource htable hresult
    have hread : (decompile sql catalog).map (fun result => (result.canvas, result.warnings)) =
        match (Reading.readSelect s).run { canvas := .ofQuery {} catalog } with
        | .ok _ d => .ok (d.canvas, d.warnings)
        | .error failure _ => .error failure :=
      decompile_eq hselect
    rw [hresult] at hread
    cases hrun : (Reading.readSelect s).run { canvas := .ofQuery {} catalog } with
    | error failure d =>
        rw [hrun] at hread
        cases hread
    | ok _ d =>
        rw [hrun] at hread
        have hcanvas : result.canvas = d.canvas := congrArg Prod.fst (Except.ok.inj hread)
        have hwarnings : result.warnings = d.warnings := congrArg Prod.snd (Except.ok.inj hread)
        rcases parts_of_readSelect hsource htable hrun with
          ⟨key, d₀, d₁, d₂, d₃, hregister, hjoins, hitems, hconditions, hrest⟩
        -- The joins are accounted for from a canvas that is well-formed.
        have hempty : Reading.Sound { canvas := .ofQuery {} catalog } :=
          Canvas.WellFormed.empty catalog
        have hsound : Reading.Sound d₀ :=
          (Reading.preserves_registerTable Reading.tableStable_sound table).of_run hempty hregister
        have hstart : Reading.Untouched { canvas := .ofQuery {} catalog } := ⟨rfl, by simp⟩
        have huntouched : Reading.Untouched d₁ :=
          (Preserves.forM (Reading.preserves_readJoin Reading.tableStable_untouched) _).of_run
            ((Reading.preserves_registerTable Reading.tableStable_untouched table).of_run hstart
              hregister) hjoins
        rcases Reading.run_registerTable_ok hempty hregister with ⟨before, hbefore⟩
        rcases Reading.Accounts.of_run (Reading.preserves_readJoin Reading.tableStable_sound)
          Reading.account_readJoin hsound hjoins with
          ⟨joins, hjoinAccounts⟩
        rcases account_condition hconditions with
          ⟨leaves, conditions, hleaves, hconditionAccounts, hkept⟩
        -- What is read between the joins and the conditions, and after them, adds neither.
        have hmiddle := (Reading.preserves_readItems (Reading.clauseStable_keeps d₁) s).of_run
          (.refl d₁) hitems
        have hlast := (Reading.preserves_readRest (Reading.clauseStable_keeps d₃) s).of_run
          (.refl d₃) hrest
        rcases hmiddle.warnings with ⟨between, hbetween, hbetweenQuiet⟩
        rcases hlast.warnings with ⟨after, hafter, hafterQuiet⟩
        refine ⟨key, d₀, d₁, d₂, d₃, joins, leaves, conditions, hregister, hjoinAccounts, hitems,
          hleaves, fun others => hleaves.unique, hconditionAccounts, ?_, ?_, before, between, after,
          ?_, ?_⟩
        · rw [hcanvas, hlast.joins, hkept, hmiddle.joins, hjoinAccounts.view_eq, hbefore.made]
          rfl
        · rw [hcanvas, hlast.conditions, hconditionAccounts.view_eq, hmiddle.conditions,
            huntouched.conditions]
          rfl
        · rw [hwarnings, hafter, hconditionAccounts.warnings_eq, hbetween,
            hjoinAccounts.warnings_eq, hbefore.reported]
          rfl
        · have hfirst : d₁.warnings = before ++ joins.flatMap Account.reported := by
            rw [hjoinAccounts.warnings_eq, hbefore.reported]
            rfl
          intro w hw
          rcases List.mem_append.1 hw with hw | hw
          · rcases List.mem_append.1 hw with hw | hw
            · exact huntouched.warnings w (hfirst ▸ hw)
            · exact hbetweenQuiet w hw
          · exact hafterQuiet w hw
  · intro condition condition' leaves h h'
    refine ⟨fun d => by rw [readConditions_congr h h'], ?_⟩
    intro sql sql' catalog s hsql hsql'
    rw [decompile_eq hsql, decompile_eq hsql', readSelect_withCondition h h']

/-- Of two JOINs the second cannot be read, and of two predicates the second is a choice.  And the
same three predicates, tied by AND in two ways, come out the same. -/
theorem nothing_lost_silently_of_regrouped :
    (∃ (s : Sql.Select) (result : Decompiled) (d₀ d₁ d₂ d₃ : Draft) (joins : List (Account Join))
      (leaves : List Sql.Expr) (conditions : List (Account Condition)),
      decompile "SELECT a.x FROM a JOIN b ON a.x = b.x JOIN c WHERE y = 1 AND (y = 2 OR z)" none =
          .ok result ∧
        s.tail.joins.length = 2 ∧ s.Leaves leaves ∧ leaves.length = 2 ∧
        Reading.Accounts Reading.readJoin Query.joins Reading.FairJoin d₀ s.tail.joins joins d₁ ∧
        Reading.Accounts Reading.readPredicate Query.conditions Reading.FairPredicate d₂ leaves
          conditions d₃ ∧
        result.canvas.query.joins = joins.filterMap Account.made ∧
        result.canvas.query.joins.length = 1 ∧
        result.canvas.query.conditions = conditions.filterMap Account.made ∧
        result.canvas.query.conditions.length = 1) ∧
      (decompile "SELECT * FROM t WHERE (x = 1 AND TRUE) AND NULL" none).map
          (fun result => (result.canvas, result.warnings)) =
        (decompile "SELECT * FROM t WHERE x = 1 AND (TRUE AND NULL)" none).map
          fun result => (result.canvas, result.warnings) := by
  constructor
  · have hselect : (Sql.selectOf?
        "SELECT a.x FROM a JOIN b ON a.x = b.x JOIN c WHERE y = 1 AND (y = 2 OR z)").any (fun s =>
          s.tail.joins.length == 2 && s.tail.condition.any (·.conjuncts.length == 2) &&
            (s.source.bind Sql.TableSource.named?).isSome) = true := by
      decide +kernel
    have hread : (decompile
        "SELECT a.x FROM a JOIN b ON a.x = b.x JOIN c WHERE y = 1 AND (y = 2 OR z)"
          none).toOption.map (fun result =>
            (result.canvas.query.joins.length, result.canvas.query.conditions.length)) =
        some (1, 1) := by
      decide +kernel
    simp only [Option.any_eq_true, Bool.and_eq_true, beq_iff_eq, Option.isSome_iff_exists,
      Option.bind_eq_some_iff] at hselect
    rcases hselect with
      ⟨s, hs, ⟨htwo, condition, hcondition, hlength⟩, table, source, hsource, htable⟩
    have hresult : ∃ result, decompile
        "SELECT a.x FROM a JOIN b ON a.x = b.x JOIN c WHERE y = 1 AND (y = 2 OR z)" none =
          .ok result ∧ result.canvas.query.joins.length = 1 ∧
            result.canvas.query.conditions.length = 1 := by
      cases hresult : decompile
          "SELECT a.x FROM a JOIN b ON a.x = b.x JOIN c WHERE y = 1 AND (y = 2 OR z)" none with
      | error failure =>
          rw [hresult] at hread
          cases hread
      | ok result =>
          rw [hresult] at hread
          exact ⟨result, rfl, Prod.mk.inj (Option.some.inj hread)⟩
    rcases hresult with ⟨result, hresult, hjoins, hconditions⟩
    rcases nothing_lost_silently.1 _ none s source table result hs hsource htable hresult with
      ⟨_, d₀, d₁, d₂, d₃, joins, leaves, conditions, _, hjoinAccounts, _, hleaves, hunique,
        hconditionAccounts, hmadeJoins, hmadeConditions, _⟩
    have hfound : condition.conjuncts = leaves := hunique _ (by
      rw [Sql.Select.Leaves, hcondition]
      exact condition.andLeaves_conjuncts)
    exact ⟨s, result, d₀, d₁, d₂, d₃, joins, leaves, conditions, hresult, htwo, hleaves,
      hfound ▸ hlength, hjoinAccounts, hconditionAccounts, hmadeJoins, hjoins, hmadeConditions,
      hconditions⟩
  · have hleft : ((Sql.selectOf? "SELECT * FROM t WHERE (x = 1 AND TRUE) AND NULL").bind
        Sql.Select.conditionOnT?).bind Sql.Expr.tiedLeft? =
          some (⟨"x", false⟩, .number "1") := by
      decide +kernel
    have hright : ((Sql.selectOf? "SELECT * FROM t WHERE x = 1 AND (TRUE AND NULL)").bind
        Sql.Select.conditionOnT?).bind Sql.Expr.tiedRight? =
          some (⟨"x", false⟩, .number "1") := by
      decide +kernel
    rw [Option.bind_assoc] at hleft hright
    simp only [Option.bind_eq_some_iff] at hleft hright
    rcases hleft with ⟨s, hs, condition, hcondition, htied⟩
    rcases hright with ⟨s', hs', condition', hcondition', htied'⟩
    obtain rfl := Sql.Select.eq_of_conditionOnT? hcondition
    obtain rfl := Sql.Select.eq_of_conditionOnT? hcondition'
    obtain rfl := Sql.Expr.eq_of_tiedLeft? htied
    obtain rfl := Sql.Expr.eq_of_tiedRight? htied'
    let xIsOne : Sql.Expr := .binary .eq (.column [] ⟨"x", false⟩) (.literal (.number "1"))
    have hleaves : Sql.Expr.AndLeaves (.binary .and (.paren (.binary .and xIsOne (.boolean true)))
        .null) [xIsOne, .boolean true, .null] :=
      Sql.Expr.andLeaves_iff.2 rfl
    have hleaves' : Sql.Expr.AndLeaves (.binary .and xIsOne (.paren (.binary .and (.boolean true)
        .null))) [xIsOne, .boolean true, .null] :=
      Sql.Expr.andLeaves_iff.2 rfl
    exact (nothing_lost_silently.2 _ _ _ hleaves hleaves').2 _ _ none _ hs hs'

end QueryDesigner

import QueryDesigner.Proofs.Decompile.Joins

/-!
# Reading the tables of a statement

* `NamedTable.IsNameless` — a table whose name is blank;
* `Sql.Select.newTables` — the tables of a statement that come into the query;
* `Reading.Seeing` — a well-formed canvas, and the names of the statement stand for tables of it;
* `Reading.meets_registerTable`, `Reading.meets_readJoin`, `Reading.meets_readTables` — reading the
  tables keeps it so, and fails just where a table that comes in has no name;
* `Reading.Ready` — what the other clauses start from.
-/

namespace QueryDesigner

/-- The name of the table, spelled as in the catalog, is blank.  A call has no name at all. -/
def NamedTable.IsNameless (catalog : Option Catalog) (table : NamedTable) : Prop :=
  Text.trim (({ catalog } : Canvas).canonicalName table.name) = ""

/-- The table has no alias, and its name is one that the statement sees already. -/
def NamedTable.isSeen (seen : List String) (table : NamedTable) : Bool :=
  table.aliasName.isNone && table.name != "" && seen.contains (Text.lower table.name)

/-- The tables that come in one after the other, given the names that the statement sees: a table
that is seen does not come in again. -/
def NamedTable.unseen (seen : List String) : List NamedTable → List NamedTable
  | [] => []
  | table :: rest =>
    if table.isSeen seen then unseen seen rest
    else table :: unseen (Text.lower table.visibleName :: seen) rest

/-- One of the tables has no name. -/
def NamedTable.SomeNameless (catalog : Option Catalog) (tables : List NamedTable) : Prop :=
  ∃ table ∈ tables, table.IsNameless catalog

/-- The table that a join names.  Without a predicate the join is not read. -/
def Sql.Join.table? (j : Sql.Join) : Option NamedTable := if j.on.isSome then j.source.named? else none

/-- The tables of a statement that come into the query. -/
def Sql.Select.newTables (s : Sql.Select) : List NamedTable :=
  match s.source.bind Sql.TableSource.named? with
  | none => []
  | some table => NamedTable.unseen [] (table :: s.tail.joins.filterMap Sql.Join.table?)

namespace Reading

/-- The canvas is well-formed and has the given catalog, and the names by which the statement goes
stand for tables of the canvas. -/
structure Bound (catalog : Option Catalog) (d : Draft) : Prop where
  sound : Sound d
  catalog : d.canvas.catalog = catalog
  names : ∀ e ∈ d.keys, e.2 ∈ d.canvas.query.tableKeys

/-- Moreover the statement sees just the given names. -/
structure Seeing (catalog : Option Catalog) (seen : List String) (d : Draft) : Prop
    extends Bound catalog d where
  seen : ∀ name, (d.keys.lookup name).isSome = true ↔ name ∈ seen

variable {catalog : Option Catalog} {seen : List String}

theorem seeing_empty (catalog : Option Catalog) :
    Seeing catalog [] { canvas := .ofQuery {} catalog } :=
  ⟨⟨.empty catalog, rfl, by simp⟩, by simp⟩

theorem canonicalName_eq {d : Draft} (hd : d.canvas.catalog = catalog) (name : String) :
    d.canvas.canonicalName name = ({ catalog } : Canvas).canonicalName name := by
  simp only [Canvas.canonicalName, hd]

/-! ## One table -/

/-- A table of the canvas keeps its key or gets another one, and the other keys stay. -/
theorem run_giveAlias {table : TableRef} {d : Draft} (aliasName : String)
    (hkey : table.key ∈ d.canvas.query.tableKeys) :
    ∃ table' d', (giveAlias table aliasName).run d = .ok table' d' ∧ d'.keys = d.keys ∧
      d'.canvas.catalog = d.canvas.catalog ∧ table'.key ∈ d'.canvas.query.tableKeys ∧
        ∀ k ∈ d.canvas.query.tableKeys, k ≠ table.key → k ∈ d'.canvas.query.tableKeys := by
  unfold giveAlias
  split_ifs with hsame
  · exact ⟨table, d, rfl, rfl, rfl, hkey, fun k hk _ => hk⟩
  · rcases Option.isSome_iff_exists.1 (Query.hasTable_iff.2 hkey) with ⟨t, hfind⟩
    have halias := TableRef.key_requestedAlias t (some aliasName)
    rw [EStateM.run_bind, run_attempt?, Edit.run_setAlias, hfind]
    dsimp only
    generalize Edit.requestedAlias (some aliasName) = requested at halias ⊢
    split_ifs with hkept hused
    · have hkeys := Query.tableKeys_withAlias hfind (halias.trans hkept)
      refine ⟨_, _, rfl, rfl, rfl, ?_, fun k hk _ => ?_⟩
      · rw [hkeys, halias, hkept]
        exact hkey
      · rw [hkeys]
        exact hk
    · exact ⟨table, _, rfl, rfl, rfl, hkey, fun k hk _ => hk⟩
    · rcases Query.mem_tableKeys_renamed hfind halias with ⟨hnew, hothers⟩
      refine ⟨_, _, rfl, rfl, rfl, ?_, hothers⟩
      rw [halias]
      exact hnew

/-- The table under its alias, if it has one. -/
def named (aliasName : Option String) (table : TableRef) : Reading TableRef :=
  match aliasName with
  | some aliasName => giveAlias table aliasName
  | none => pure table

theorem registerTable_eq (table : NamedTable) :
    registerTable table = (do
      let name ← resolveTable table
      let added ← addTable name table.aliasName.isSome
      let added ← named table.aliasName added
      bindName table.visibleName added.key
      return added.key) := by
  unfold registerTable named
  cases table.aliasName <;> rfl

theorem run_registerTable_of_nameless {table : NamedTable} {d : Draft}
    (hcatalog : d.canvas.catalog = catalog) (hname : table.IsNameless catalog) :
    (registerTable table).run d = .error .nameless (withResolved d table) := by
  have hblank : Text.trim (d.canvas.canonicalName table.name) = "" := by
    rw [canonicalName_eq hcatalog]
    exact hname
  unfold registerTable
  rw [EStateM.run_bind, run_resolveTable]
  dsimp only
  rw [EStateM.run_bind, run_addTable_of_nameless _ _ hblank]

/-- A table comes in unless it has no name.  Its key is new, so that the names of the statement stand
for the tables that they stood for. -/
theorem meets_registerTable (table : NamedTable) :
    Meets (Seeing catalog seen) (registerTable table)
      (fun key d => (Seeing catalog (Text.lower table.visibleName :: seen) d ∧
        ¬ table.IsNameless catalog) ∧ key ∈ d.canvas.query.tableKeys)
      (fun failure => failure = .nameless ∧ table.IsNameless catalog) := by
  intro d hd
  by_cases hname : table.IsNameless catalog
  · rw [run_registerTable_of_nameless hd.catalog hname]
    exact ⟨rfl, hname⟩
  · have hnamed : Text.trim (d.canvas.canonicalName table.name) ≠ "" := by
      rw [canonicalName_eq hd.catalog]
      exact hname
    rcases run_addTable_of_named table.aliasName.isSome (withResolved d table) hnamed with
      ⟨added, d₁, _, hadd, hcanvas, hkeys, _, hnew⟩
    -- first the table comes in, behind those that are there
    have hthere : added.key ∈ d₁.canvas.query.tableKeys := by
      rw [hcanvas, Canvas.withTable, Query.tableKeys_withTable]
      exact List.mem_append_right _ List.mem_cons_self
    have hkept : ∀ k ∈ d.canvas.query.tableKeys, k ∈ d₁.canvas.query.tableKeys := by
      intro k hk
      rw [hcanvas, Canvas.withTable, Query.tableKeys_withTable]
      exact List.mem_append_left _ hk
    -- then it may get its alias as a key, and the others keep theirs
    have halias : ∃ table' d₂, (named table.aliasName added).run d₁ = .ok table' d₂ ∧
        d₂.keys = d₁.keys ∧ d₂.canvas.catalog = d₁.canvas.catalog ∧
          table'.key ∈ d₂.canvas.query.tableKeys ∧
            ∀ k ∈ d₁.canvas.query.tableKeys, k ≠ added.key → k ∈ d₂.canvas.query.tableKeys := by
      unfold named
      cases table.aliasName with
      | some aliasName =>
          exact run_giveAlias aliasName hthere
      | none =>
          exact ⟨added, d₁, rfl, rfl, rfl, hthere, fun k hk _ => hk⟩
    rcases halias with ⟨table', d₂, halias, hsame, hcatalog, hkey, hothers⟩
    rcases run_bindName table.visibleName table'.key d₂ with ⟨keys, hbind, hnames, hseen⟩
    have hrun : (registerTable table).run d = .ok table'.key { d₂ with keys } := by
      rw [registerTable_eq, EStateM.run_bind, run_resolveTable]
      dsimp only
      rw [EStateM.run_bind, hadd]
      dsimp only
      rw [EStateM.run_bind, halias]
      dsimp only
      rw [EStateM.run_bind, hbind]
      rfl
    have hsound := preserves_registerTable tableStable_sound table d hd.sound
    rw [hrun] at hsound ⊢
    refine ⟨⟨⟨⟨hsound, ?_, fun e he => ?_⟩, fun name => ?_⟩, hname⟩, hkey⟩
    · rw [hcatalog, hcanvas]
      exact hd.catalog
    · rcases hnames e he with he | he
      · -- the key of the new table is none of those that names stood for before
        rw [hsame, hkeys] at he
        have hold := hd.names e he
        exact hothers e.2 (hkept e.2 hold) fun heq => hnew (heq ▸ hold)
      · rw [he]
        exact hkey
    · rw [hseen, hsame, hkeys, List.mem_cons]
      exact or_congr_right (hd.seen name)

/-! ## Joined tables -/

theorem run_seenKey?_isSome (table : NamedTable) {d : Draft} (hd : Seeing catalog seen d) :
    ∃ key, (seenKey? table).run d = .ok key d ∧ key.isSome = table.isSeen seen := by
  unfold seenKey? NamedTable.isSeen
  cases table.aliasName with
  | some aliasName =>
      exact ⟨none, rfl, rfl⟩
  | none =>
      refine ⟨_, run_keyOf? table.name d, ?_⟩
      by_cases hname : table.name = ""
      · simp [hname]
      · have hseen := hd.seen (Text.lower table.name)
        rw [Bool.eq_iff_iff]
        simpa [hname] using hseen

/-- The names that the statement sees after a joined table. -/
def namesAfter (seen : List String) (table : NamedTable) : List String :=
  if table.isSeen seen then seen else Text.lower table.visibleName :: seen

theorem meets_joinedKey (table : NamedTable) :
    Meets (Seeing catalog seen) (joinedKey table)
      (fun _ d => Seeing catalog (namesAfter seen table) d ∧
        (table.isSeen seen = false → ¬ table.IsNameless catalog))
      (fun failure => failure = .nameless ∧ table.isSeen seen = false ∧
        table.IsNameless catalog) := by
  intro d hd
  rcases run_seenKey?_isSome table hd with ⟨key, hrun, hseen⟩
  unfold joinedKey namesAfter
  rw [EStateM.run_bind, hrun, ← hseen]
  cases key with
  | some key =>
      exact ⟨hd, by simp⟩
  | none =>
      refine (meets_registerTable table).mono (fun _ h => h) ?_ ?_ d hd
      · exact fun _ _ h => ⟨h.1.1, fun _ => h.1.2⟩
      · exact fun _ h => ⟨h.1, rfl, h.2⟩

theorem Bound.withWarnings {d : Draft} (hd : Bound catalog d) (warnings : List Warning) :
    Bound catalog { d with warnings } :=
  ⟨hd.sound, hd.catalog, hd.names⟩

theorem Seeing.withWarnings {d : Draft} (hd : Seeing catalog seen d) (warnings : List Warning) :
    Seeing catalog seen { d with warnings } :=
  ⟨hd.toBound.withWarnings warnings, hd.seen⟩

theorem meets_warn {E : Failure → Prop} (w : Warning) :
    Meets (Seeing catalog seen) (warn w) (fun _ => Seeing catalog seen) E :=
  fun _ hd => hd.withWarnings _

theorem meets_attempt?_addJoin {E : Failure → Prop} (join : Join) :
    Meets (Seeing catalog seen) (attempt? (Edit.addJoin join)) (fun _ => Seeing catalog seen) E := by
  intro d hd
  have hsound := preserves_attempt? (tableStable_sound.addJoin join) d hd.sound
  rw [run_attempt?, Edit.run_addJoin, Edit.run_requireEnds] at hsound ⊢
  cases hleft : d.canvas.query.findTable? join.leftTable <;>
    cases hright : d.canvas.query.findTable? join.rightTable <;>
      rw [hleft, hright] at hsound <;> exact ⟨⟨hsound, hd.catalog, hd.names⟩, hd.seen⟩

/-- A join that is turned down is reported, and reading goes on. -/
theorem meets_addEquality {E : Failure → Prop} (type : JoinType) (predicate : Sql.Expr)
    (left right : String × String) :
    Meets (Seeing catalog seen) (addEquality type predicate left right)
      (fun _ => Seeing catalog seen) E := by
  have hkey : ∀ name, Meets (Seeing catalog seen) (keyOf? name) (fun _ => Seeing catalog seen) E :=
    fun name => .of_reads fun d => ⟨_, run_keyOf? name d⟩
  have hcolumn : ∀ key column, Meets (Seeing catalog seen) (resolveColumn key column)
      (fun _ => Seeing catalog seen) E :=
    fun key column => .of_reads fun d => run_resolveColumn key column d
  refine (hkey left.1).bind fun leftKey => (hkey right.1).bind fun rightKey => ?_
  split
  · refine (hcolumn _ _).bind fun leftColumn => (hcolumn _ _).bind fun rightColumn => ?_
    refine (meets_attempt?_addJoin _).bind fun result => ?_
    split
    · exact .pure fun _ hd => hd
    · exact meets_warn _
  · exact meets_warn _

/-- The equality of a join, after its table has come in. -/
theorem meets_equality {E : Failure → Prop} (type : JoinType) (on : Sql.Expr) :
    Meets (Seeing catalog seen) (do
      match ← joinEquality? on.conjuncts with
      | none => pure ()
      | some (predicate, left, right) => addEquality type predicate left right)
      (fun _ => Seeing catalog seen) E := by
  intro d hd
  rcases run_joinEquality? on.conjuncts d with ⟨equality, reported, hrun, _⟩
  rw [EStateM.run_bind, hrun]
  cases equality with
  | none =>
      exact hd.withWarnings _
  | some sides =>
      exact meets_addEquality _ _ _ _ _ (hd.withWarnings _)

/-- A join brings in its table, if it has one that is not seen yet; a table without a name is the only
one that is turned down. -/
theorem meets_readJoin (j : Sql.Join) :
    Meets (Seeing catalog seen) (readJoin j)
      (fun _ d => Seeing catalog (j.table?.elim seen (namesAfter seen)) d ∧
        ∀ table, j.table? = some table → table.isSeen seen = false → ¬ table.IsNameless catalog)
      (fun failure => failure = .nameless ∧ ∃ table, j.table? = some table ∧
        table.isSeen seen = false ∧ table.IsNameless catalog) := by
  unfold readJoin Sql.Join.table?
  dsimp only
  split
  · rename_i hsource
    refine (meets_warn _).mono (fun _ h => h) (fun _ d hd => ?_) fun _ h => h
    simpa [hsource] using hd
  · rename_i hon
    refine (meets_warn _).mono (fun _ h => h) (fun _ d hd => ?_) fun _ h => h
    simpa [hon] using hd
  · rename_i table on hsource hon
    simp only [hon, hsource, Option.isSome_some, if_true, Option.elim_some, Option.some.injEq,
      forall_eq', exists_eq_left']
    refine (meets_joinedKey table).bind fun key => ?_
    split
    · exact (meets_warn _).frame _
    · exact (meets_equality _ on).frame _

/-! ## All tables -/

theorem every_ofList {entries : List (String × Selection)} (h : ∀ e ∈ entries, e.2 = .every) :
    ∀ e ∈ (Selections.ofList entries).entries, e.2 = .every := by
  have hfold : ∀ m : Selections, (∀ e ∈ m.entries, e.2 = .every) →
      ∀ e ∈ (entries.foldl (fun m e => m.set e.1 e.2) m).entries, e.2 = .every := by
    induction entries with
    | nil =>
        exact fun m hm => hm
    | cons entry rest ih =>
        intro m hm
        refine ih (fun e he => h e (List.mem_cons_of_mem entry he)) _ fun e he => ?_
        rcases Selections.mem_put he with he | rfl
        · exact hm e he
        · exact h entry List.mem_cons_self
  exact hfold {} (by simp)

/-- Every selection is still that of every column. -/
def Unselected (d : Draft) : Prop := ∀ e ∈ d.canvas.query.columns.entries, e.2 = .every

theorem tableStable_unselected : TableStable Unselected where
  warn _ _ := .modify fun _ hd => hd
  addTable name forced d hd := by
    rw [Edit.run_addTable]
    split_ifs
    · exact hd
    · exact hd
    · intro e he
      rcases Selections.mem_put he with he | rfl
      · exact hd e he
      · rfl
  setAlias key aliasName d hd := by
    rw [Edit.run_setAlias]
    cases d.canvas.query.findTable? key with
    | none =>
        exact hd
    | some table =>
        dsimp only
        split_ifs
        · exact hd
        · exact hd
        · refine every_ofList fun e he => ?_
          rcases List.mem_map.1 he with ⟨entry, hentry, rfl⟩
          exact hd entry hentry
  addJoin join d hd := by
    rw [Edit.run_addJoin]
    split <;> exact hd
  names _ _ _ hd := hd

/-- The canvas has a table. -/
def HasTable (d : Draft) : Prop := d.canvas.query.tables ≠ []

theorem tableStable_hasTable : TableStable HasTable where
  warn _ _ := .modify fun _ hd => hd
  addTable name forced d hd := by
    rw [Edit.run_addTable]
    split_ifs
    · exact hd
    · exact hd
    · exact List.append_ne_nil_of_left_ne_nil hd _
  setAlias key aliasName d hd := by
    rw [Edit.run_setAlias]
    cases d.canvas.query.findTable? key with
    | none =>
        exact hd
    | some table =>
        have hlength : 0 < d.canvas.query.tables.length := List.length_pos_of_ne_nil hd
        dsimp only
        split_ifs <;> refine List.ne_nil_of_length_pos ?_ <;>
          simpa [finalState, Query.withAlias, Query.renamed] using hlength
  addJoin join d hd := by
    rw [Edit.run_addJoin]
    split <;> exact hd
  names _ _ _ hd := hd

/-- What the other clauses start from. -/
structure Ready (catalog : Option Catalog) (d : Draft) : Prop extends Bound catalog d where
  hasTable : HasTable d
  unselected : Unselected d

/-- The tables of joins: that of the first one comes in unless it is seen. -/
theorem someNameless_cons (j : Sql.Join) (rest : List Sql.Join) :
    NamedTable.SomeNameless catalog
        (NamedTable.unseen seen ((j :: rest).filterMap Sql.Join.table?)) ↔
      (∃ table, j.table? = some table ∧ table.isSeen seen = false ∧ table.IsNameless catalog) ∨
        NamedTable.SomeNameless catalog (NamedTable.unseen (j.table?.elim seen (namesAfter seen))
          (rest.filterMap Sql.Join.table?)) := by
  unfold NamedTable.SomeNameless
  cases htable : j.table? with
  | none =>
      simp [htable]
  | some table =>
      cases hseen : table.isSeen seen <;> simp [htable, NamedTable.unseen, namesAfter, hseen]

/-- The joins bring in their tables, up to one that has no name. -/
theorem meets_readJoins (joins : List Sql.Join) :
    Meets (Seeing catalog seen)
      (forIn joins PUnit.unit fun j _ => do readJoin j; pure (.yield PUnit.unit))
      (fun _ d => Bound catalog d ∧ ¬ NamedTable.SomeNameless catalog
        (NamedTable.unseen seen (joins.filterMap Sql.Join.table?)))
      (fun failure => failure = .nameless ∧ NamedTable.SomeNameless catalog
        (NamedTable.unseen seen (joins.filterMap Sql.Join.table?))) := by
  induction joins generalizing seen with
  | nil =>
      exact .pure fun _ hd => ⟨hd.toBound, by simp [NamedTable.unseen, NamedTable.SomeNameless]⟩
  | cons j rest ih =>
      have hfirst : Meets (Seeing catalog seen) (readJoin j)
          (fun _ d => Seeing catalog (j.table?.elim seen (namesAfter seen)) d ∧
            ∀ table, j.table? = some table → table.isSeen seen = false →
              ¬ table.IsNameless catalog)
          (fun failure => failure = .nameless ∧ NamedTable.SomeNameless catalog
            (NamedTable.unseen seen ((j :: rest).filterMap Sql.Join.table?))) :=
        (meets_readJoin j).mono (fun _ h => h) (fun _ _ h => h) fun _ h =>
          ⟨h.1, (someNameless_cons j rest).2 (.inl h.2)⟩
      rw [List.forIn_cons, bind_assoc]
      refine hfirst.bind fun _ => ?_
      simp only [pure_bind]
      refine (ih.frame _).mono (fun _ h => h) ?_ ?_
      · rintro _ d ⟨⟨hd, hrest⟩, hnamed⟩
        refine ⟨hd, fun hsome => ?_⟩
        rcases (someNameless_cons j rest).1 hsome with ⟨table, htable, hseen, hname⟩ | hsome
        · exact hnamed table htable hseen hname
        · exact hrest hsome
      · exact fun _ h => ⟨h.1, (someNameless_cons j rest).2 (.inr h.2)⟩

theorem someNameless_unseen_nil (table : NamedTable) (rest : List NamedTable) :
    NamedTable.SomeNameless catalog (NamedTable.unseen [] (table :: rest)) ↔
      table.IsNameless catalog ∨ NamedTable.SomeNameless catalog
        (NamedTable.unseen [Text.lower table.visibleName] rest) := by
  simp [NamedTable.unseen, NamedTable.isSeen, NamedTable.SomeNameless]

/-- The first table and those of the joins come in, or else one of them has no name. -/
theorem meets_allTables (table : NamedTable) (joins : List Sql.Join) :
    Meets (Seeing catalog []) (do
        let _ ← registerTable table
        for j in joins do readJoin j
        return true)
      (fun _ d => ¬ NamedTable.SomeNameless catalog
          (NamedTable.unseen [] (table :: joins.filterMap Sql.Join.table?)) ∧
        Bound catalog d ∧ HasTable d)
      (fun failure => failure = .nameless ∧ NamedTable.SomeNameless catalog
        (NamedTable.unseen [] (table :: joins.filterMap Sql.Join.table?))) := by
  simp only [someNameless_unseen_nil]
  have hfirst : Meets (Seeing catalog []) (registerTable table)
      (fun _ d => Seeing catalog [Text.lower table.visibleName] d ∧
        HasTable d ∧ ¬ table.IsNameless catalog)
      (fun failure => failure = .nameless ∧ (table.IsNameless catalog ∨
        NamedTable.SomeNameless catalog (NamedTable.unseen [Text.lower table.visibleName]
          (joins.filterMap Sql.Join.table?)))) := by
    refine (meets_registerTable table).mono (fun _ h => h) (fun key d hd => ?_)
      fun _ h => ⟨h.1, .inl h.2⟩
    refine ⟨hd.1.1, fun hnil => ?_, hd.1.2⟩
    have hkey := hd.2
    rw [Query.tableKeys, hnil] at hkey
    cases hkey
  have hkeeps : Preserves (fun d => HasTable d ∧ ¬ table.IsNameless catalog)
      (forIn joins PUnit.unit fun j _ => do readJoin j; pure (.yield PUnit.unit)) :=
    .forM (fun j d hd => ⟨preserves_readJoin tableStable_hasTable j d hd.1, hd.2⟩) _
  refine hfirst.bind fun _ => ?_
  refine (((meets_readJoins joins).and hkeeps).mono (fun _ h => h) (fun _ _ h => h)
    fun _ h => ⟨h.1, .inr h.2⟩).bind fun _ => ?_
  exact .pure fun d hd => ⟨fun hsome => hsome.elim hd.2.2 hd.1.2, hd.1.1, hd.2.1⟩

/-- The tables are read unless one that comes in has no name. -/
theorem meets_readTables (s : Sql.Select) :
    Meets (fun d => Seeing catalog [] d ∧ Unselected d) (readTables s)
      (fun hasTables d => ¬ NamedTable.SomeNameless catalog s.newTables ∧
        (hasTables = true → Ready catalog d))
      (fun failure => failure = .nameless ∧ NamedTable.SomeNameless catalog s.newTables) := by
  have hbound : Meets (Seeing catalog []) (readTables s)
      (fun hasTables d => ¬ NamedTable.SomeNameless catalog s.newTables ∧
        (hasTables = true → Bound catalog d ∧ HasTable d))
      (fun failure => failure = .nameless ∧ NamedTable.SomeNameless catalog s.newTables) := by
    have hnothing : ∀ w, s.source.bind Sql.TableSource.named? = none →
        Meets (Seeing catalog []) (do warn w; return false)
          (fun hasTables d => ¬ NamedTable.SomeNameless catalog s.newTables ∧
            (hasTables = true → Bound catalog d ∧ HasTable d))
          (fun failure => failure = .nameless ∧
            NamedTable.SomeNameless catalog s.newTables) := by
      intro w hnone
      refine (meets_warn w).bind fun _ => .pure fun _ _ => ⟨?_, by simp⟩
      simp [Sql.Select.newTables, hnone, NamedTable.SomeNameless]
    unfold readTables
    split
    · rename_i hsource
      exact hnothing _ (by simp [hsource])
    · rename_i source hsource
      split
      · rename_i hnamed
        exact hnothing _ (by simp [hsource, hnamed])
      · rename_i table hnamed
        have hnew : s.newTables =
            NamedTable.unseen [] (table :: s.tail.joins.filterMap Sql.Join.table?) := by
          simp [Sql.Select.newTables, hsource, hnamed]
        rw [hnew]
        exact (meets_allTables table s.tail.joins).mono (fun _ h => h)
          (fun _ _ h => ⟨h.1, fun _ => h.2⟩) fun _ h => h
  refine (hbound.and (preserves_readTables tableStable_unselected s)).mono (fun _ h => h) ?_
    fun _ h => h
  rintro hasTables d ⟨⟨hnamed, hd⟩, hunselected⟩
  exact ⟨hnamed, fun htrue => ⟨(hd htrue).1, (hd htrue).2, hunselected⟩⟩

end Reading

end QueryDesigner

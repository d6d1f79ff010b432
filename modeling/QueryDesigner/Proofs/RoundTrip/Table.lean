import QueryDesigner.Proofs.Decompile.Items
import QueryDesigner.Proofs.Query.Undated
import QueryDesigner.Proofs.RoundTrip.Plain

/-!
# The tables of a plain query are read back

* `Query.Draws` — a query that has the given tables and joins, and nothing else but selections;
* `Reading.Drawn` — a draft that has come so far without a warning, and in which the statement sees
  every table by its key;
* `TableRef.IsFresh` — a table that may come in after the given ones;
* `Reading.run_registerTable_of_fresh` — it comes in as it is.
-/

namespace QueryDesigner

/-! ## Queries -/

/-- The query has the tables, up to their ordinals, and the joins.  What it selects is left open. -/
def Query.Draws (q : Query) (tables : List TableRef) (joins : List Join) : Prop :=
  q.undated = { tables := tables.map TableRef.undated, columns := q.columns, joins }

namespace Query.Draws

variable {q : Query} {tables : List TableRef} {joins : List Join} {t : TableRef}

theorem map_undated (h : q.Draws tables joins) :
    q.tables.map TableRef.undated = tables.map TableRef.undated := congrArg Query.tables h

theorem joins_eq (h : q.Draws tables joins) : q.joins = joins :=
  show q.undated.joins = joins by rw [h]

theorem tableKeys_eq (h : q.Draws tables joins) : q.tableKeys = tables.map TableRef.key := by
  rw [← q.tableKeys_undated, h]
  simp [tableKeys]

theorem usesName_eq_false (h : q.Draws tables joins) {name : String}
    (hkey : name ∉ tables.map TableRef.key) (hname : ∀ t ∈ tables, t.name ≠ name) :
    q.usesName name = false := by
  rw [← q.usesName_undated, h]
  simpa [usesName, tableKeys] using ⟨by simpa using hkey, hname⟩

/-- Every table of the one is a table of the other, up to its ordinal. -/
theorem exists_findTable? (h : q.Draws tables joins) (hq : q.Keyed) (ht : t ∈ tables) :
    ∃ found, q.findTable? t.key = some found ∧ found.name = t.name := by
  have hmem : t.undated ∈ q.tables.map TableRef.undated := by
    rw [h.map_undated]
    exact List.mem_map_of_mem ht
  obtain ⟨found, hfound, heq⟩ := List.mem_map.1 hmem
  have hkey : found.undated.key = t.undated.key := by rw [heq]
  have hname : found.undated.name = t.undated.name := by rw [heq]
  have hfind := hq.findTable?_of_mem hfound
  rw [← found.key_undated, hkey] at hfind
  exact ⟨found, hfind, hname⟩

theorem withTable (h : q.Draws tables joins) (t : TableRef) :
    (q.withTable t).Draws (tables ++ [t]) joins := by
  rw [Draws, undated_withTable, h]
  simp [Query.withTable]

theorem congr (h : q.Draws (tables ++ [t]) joins) {u : TableRef} (hu : u.undated = t.undated) :
    q.Draws (tables ++ [u]) joins := by
  rw [Draws, h]
  simp [hu]

/-- The last table gets an alias.  No join ends in it yet. -/
theorem renamed (h : q.Draws (tables ++ [t]) joins) (hq : q.Keyed)
    (hfree : ∀ j ∈ joins, j.leftTable ≠ t.key ∧ j.rightTable ≠ t.key) (a : String) :
    (q.renamed t.key a (some a)).Draws (tables ++ [{ t with aliasName := some a }]) joins := by
  have hdistinct : q.undated.DistinctKeys := by
    rw [DistinctKeys, tableKeys_undated]
    exact hq.distinct
  have hsplit : q.undated.tables = tables.map TableRef.undated ++ t.undated :: [] := by
    rw [h]
    simp
  have hjoins : joins.map (Join.rekey t.key a) = joins := by
    refine (List.map_congr_left fun j hj => ?_).trans (List.map_id' _)
    simp [Join.rekey, hfree j hj]
  have hrenamed : (q.undated.renamed t.key a (some a)).tables =
      (tables ++ [{ t with aliasName := some a }]).map TableRef.undated := by
    refine (hdistinct.map_aliased hsplit).trans ?_
    simp [TableRef.undated]
  rw [Draws, undated_renamed]
  rw [← hrenamed]
  simp only [Query.renamed]
  rw [h]
  simp [hjoins]

theorem withJoin (h : q.Draws tables joins) (join : Join) :
    ({ q with joins := q.joins ++ [join] } : Query).Draws tables (joins ++ [join]) := by
  have hjoins := h.joins_eq
  have hq : ({ q with joins := q.joins ++ [join] } : Query).undated =
      { q.undated with joins := q.joins ++ [join] } := rfl
  rw [Draws, hq, h, hjoins]

end Query.Draws

/-! ## Drafts -/

/-- The table as it is taken from a statement. -/
def Sql.SourceTable.named (t : Sql.SourceTable) : NamedTable :=
  ⟨t.name, t.aliasName, false, t.source.sql .verbatim⟩

theorem Sql.SourceTable.named?_source {t : Sql.SourceTable} (ht : t.IsNamed) :
    t.source.named? = some t.named := by
  obtain ⟨name, aliasName⟩ := t
  cases aliasName with
  | none => rfl
  | some a =>
      have hne : aliasOf a = some a := if_neg (ht.aliasName a rfl).ne_empty
      have haliased : (Sql.SourceTable.mk name (some a)).source.named? =
          some ⟨name, aliasOf a, false, (Sql.SourceTable.mk name (some a)).source.sql .verbatim⟩ := rfl
      rw [haliased, hne]
      rfl

/-- The statement may name the column after the key: the key stands for itself, and the catalog does
not spell the column otherwise. -/
structure Draft.Resolves (d : Draft) (key column : String) : Prop where
  stands : d.keyOf? key = some key
  spelled : d.spelling key column = column

/-- The table may come in after the others: its key is none of theirs, and its name neither, unless
it has an alias. -/
structure TableRef.IsFresh (catalog : Option Catalog) (tables : List TableRef) (t : TableRef) :
    Prop where
  name : Sql.IsName t.name
  aliasName : ∀ a, t.aliasName = some a → Sql.IsName a ∧ a ≠ t.name
  spelled : SpellsTable catalog t.name
  key : ∀ u ∈ tables, Text.lower u.key ≠ Text.lower t.key
  free : t.aliasName = none → ∀ u ∈ tables, u.name ≠ t.name

namespace TableRef.IsFresh

variable {catalog : Option Catalog} {tables : List TableRef} {t : TableRef}

theorem bind_aliasName (ht : t.IsFresh catalog tables) : t.aliasName.bind aliasOf = t.aliasName := by
  cases halias : t.aliasName with
  | none => rfl
  | some a => exact if_neg (ht.aliasName a halias).1.ne_empty

end TableRef.IsFresh

namespace Reading

/-- The tables and joins have been read, and nothing was reported.  Every table is seen by its key. -/
structure Drawn (catalog : Option Catalog) (tables : List TableRef) (joins : List Join) (d : Draft) :
    Prop where
  sound : Sound d
  unselected : Unselected d
  catalog : d.canvas.catalog = catalog
  query : d.canvas.query.Draws tables joins
  keys : d.keys = tables.map fun t => (Text.lower t.key, t.key)
  distinct : (tables.map fun t => Text.lower t.key).Nodup
  warnings : d.warnings = []

/-- The canvas has the tables, and the statement sees each of them by its key. -/
structure Knows (catalog : Option Catalog) (tables : List TableRef) (d : Draft) : Prop where
  catalog : d.canvas.catalog = catalog
  named : ∀ t ∈ tables, t.key ≠ ""
  seen : ∀ t ∈ tables, d.keys.lookup (Text.lower t.key) = some t.key
  found : ∀ t ∈ tables, ∃ found, d.canvas.query.findTable? t.key = some found ∧ found.name = t.name

variable {catalog : Option Catalog} {tables : List TableRef} {joins : List Join} {d : Draft}
  {t : TableRef}

theorem Knows.mono (hd : Knows catalog tables d) {tables' : List TableRef} (h : tables' ⊆ tables) :
    Knows catalog tables' d :=
  ⟨hd.catalog, fun t ht => hd.named t (h ht), fun t ht => hd.seen t (h ht),
    fun t ht => hd.found t (h ht)⟩

theorem Knows.resolves (hd : Knows catalog tables d) (ht : t ∈ tables) {column : String}
    (hcolumn : column ≠ "") (hspelled : SpellsColumn catalog t.name column) :
    d.Resolves t.key column where
  stands := by rw [Draft.keyOf?, if_neg (hd.named t ht), hd.seen t ht]
  spelled := by
    obtain ⟨found, hfind, hname⟩ := hd.found t ht
    have hspelling : d.spelling t.key column =
        (((catalog.bind fun c => c.resolveColumn? t.name column)).bind aliasOf).getD column := by
      rw [← hname, ← hd.catalog]
      unfold Draft.spelling
      rw [hfind]
      rfl
    rw [hspelling]
    cases hresolved : catalog.bind fun c => c.resolveColumn? t.name column with
    | none => rfl
    | some found =>
        rw [hspelled found hresolved, Option.bind_some, aliasOf, if_neg hcolumn, Option.getD_some]

theorem drawn_empty (catalog : Option Catalog) :
    Drawn catalog [] [] { canvas := .ofQuery {} catalog } where
  sound := (seeing_empty catalog).sound
  unselected := by simp [Unselected, Canvas.ofQuery]
  catalog := rfl
  query := rfl
  keys := rfl
  distinct := .nil
  warnings := rfl

namespace Drawn

theorem keyed (hd : Drawn catalog tables joins d) : d.canvas.query.Keyed := hd.sound.query.keyed

theorem lookup_eq_none (hd : Drawn catalog tables joins d) {name : String}
    (h : ∀ u ∈ tables, Text.lower u.key ≠ name) : d.keys.lookup name = none := by
  rw [hd.keys, List.lookup_eq_none_iff, List.forall_mem_map]
  exact fun u hu => bne_iff_ne.2 (h u hu).symm

/-- A key stands for itself. -/
theorem lookup_eq_some (hd : Drawn catalog tables joins d) (ht : t ∈ tables) :
    d.keys.lookup (Text.lower t.key) = some t.key := by
  obtain ⟨before, after, rfl⟩ := List.append_of_mem ht
  have hbefore : ∀ u ∈ before, Text.lower t.key ≠ Text.lower u.key := fun u hu heq =>
    notMem_map_of_split hd.distinct rfl (List.mem_map.2 ⟨u, hu, heq.symm⟩)
  rw [hd.keys, List.map_append, List.map_cons, List.lookup_eq_some_iff]
  refine ⟨_, _, rfl, ?_⟩
  simpa using hbefore

theorem knows (hd : Drawn catalog tables joins d) : Knows catalog tables d where
  catalog := hd.catalog
  named t ht := by
    refine hd.keyed.key_ne_empty t.key ?_
    rw [hd.query.tableKeys_eq]
    exact List.mem_map_of_mem ht
  seen _ ht := hd.lookup_eq_some ht
  found _ ht := hd.query.exists_findTable? hd.keyed ht

theorem canonicalName_eq (hd : Drawn catalog tables joins d) {name : String}
    (hspelled : SpellsTable catalog name) : d.canvas.canonicalName name = name := by
  unfold Canvas.canonicalName
  rw [hd.catalog]
  cases hfind : catalog.bind fun c => c.findTable? name with
  | none => rfl
  | some found => exact hspelled found hfind

/-- Looking up the name of a table reports nothing. -/
theorem run_resolveTable_named (hd : Drawn catalog tables joins d) (t : Sql.SourceTable)
    (hspelled : SpellsTable catalog t.name) :
    ∃ unresolved, (resolveTable t.named).run d = .ok t.name { d with unresolved } := by
  have hsame : withResolved d t.named =
      { d with unresolved := (withResolved d t.named).unresolved } := by
    simp [withResolved, Sql.SourceTable.named]
  refine ⟨(withResolved d t.named).unresolved, ?_⟩
  rw [run_resolveTable, ← hsame]
  exact congrArg (EStateM.Result.ok · _) (hd.canonicalName_eq hspelled)

end Drawn

/-- A table whose name is free, or that has an alias to come. -/
theorem run_addTable_quietly {name : String} {isAliased : Bool} {d : Draft} (hname : Sql.IsName name)
    (hspelled : d.canvas.canonicalName name = name)
    (hfree : isAliased = false → d.canvas.query.usesName name = false) :
    (addTable name isAliased).run d = .ok (d.canvas.incoming name)
      { d with canvas := d.canvas.withTable (d.canvas.incoming name) } := by
  have htrim : Text.trim name = name := Text.trim_eq_self (Sql.flush_of_isPlain hname.plain)
  have hfor : d.canvas.nameFor name = name := by rw [Canvas.nameFor, htrim, hspelled]
  have hne : Text.trim name ≠ "" := by
    rw [htrim]
    exact hname.ne_empty
  unfold addTable
  rw [EStateM.run_bind, run_attempt?, Edit.run_addTable, if_neg hne, hfor]
  cases hused : d.canvas.query.usesName name with
  | false => rfl
  | true =>
      simp only [Bool.not_false, Bool.and_self, if_true]
      rw [EStateM.run_bind, run_edit, Edit.run_addTable, if_neg hne, hfor, hused]
      cases isAliased with
      | true => rfl
      | false => rw [hfree rfl] at hused; cases hused

/-- The alias is the key of no other table, so that the last table gets it. -/
theorem run_giveAlias_quietly {a : String} (ha : Sql.IsName a) (hapart : a ≠ t.name)
    (hkeyed : d.canvas.query.Keyed) (ht : t ∈ d.canvas.query.tables)
    (hquery : d.canvas.query.Draws (tables ++ [t]) joins)
    (hfree : ∀ j ∈ joins, j.leftTable ≠ t.key ∧ j.rightTable ≠ t.key)
    (hnew : a ∉ tables.map TableRef.key) :
    ∃ q : Query, (giveAlias t a).run d = .ok { t with aliasName := some a } (withQuery d q) ∧
      q.Draws (tables ++ [{ t with aliasName := some a }]) joins := by
  have hrequested : Edit.requestedAlias (some a) = some a := by
    have htrim := Text.trim_eq_self (Sql.flush_of_isPlain ha.plain)
    have hsome : aliasOf a = some a := if_neg ha.ne_empty
    simp [Edit.requestedAlias, htrim, hsome]
  unfold giveAlias
  split_ifs with hsame
  · -- the alias that the table has got already
    have halias : { t with aliasName := some a } = t := by
      rcases t.key_eq with hkey | ⟨b, -, haliasName, hkey⟩
      · exact absurd (hsame.trans hkey) hapart
      · rw [hsame, hkey, ← haliasName]
    refine ⟨d.canvas.query, ?_, by rwa [halias]⟩
    rw [halias]
    rfl
  · have hunused : d.canvas.query.tableKeys.contains a = false := by
      rw [hquery.tableKeys_eq]
      simpa using ⟨by simpa using hnew, hsame⟩
    refine ⟨d.canvas.query.renamed t.key a (some a), ?_, hquery.renamed hkeyed hfree a⟩
    rw [EStateM.run_bind, run_attempt?, Edit.run_setAlias, hkeyed.findTable?_of_mem ht]
    simp only [hrequested, Option.getD_some, hsame, if_false, hunused, Bool.false_eq_true]
    rfl

/-- The table that comes in first takes whatever key is free; with the alias it is the right one. -/
theorem run_named_quietly (ht : t.IsFresh catalog tables) (hkeyed : d.canvas.query.Keyed)
    (hfresh : d.canvas.query.usesName t.name = false ∨ t.aliasName.isSome = true)
    (hd : d.canvas.query.Draws tables joins) :
    ∃ table q, (named t.aliasName (d.canvas.incoming t.name)).run
        { d with canvas := d.canvas.withTable (d.canvas.incoming t.name) } =
          .ok table (withQuery { d with canvas := d.canvas.withTable (d.canvas.incoming t.name) } q) ∧
      q.Draws (tables ++ [t]) joins ∧ table.key = t.key := by
  have hnew := d.canvas.incoming_key_notMem t.name
  set inc := d.canvas.incoming t.name with hinc
  have hdraws : (d.canvas.withTable inc).query.Draws (tables ++ [inc]) joins := hd.withTable inc
  cases halias : t.aliasName with
  | none =>
      have hunused := hfresh.resolve_right (by simp [halias])
      have hsame : inc.undated = t.undated := by
        simp [hinc, Canvas.incoming, hunused, TableRef.undated, halias]
      refine ⟨inc, _, rfl, hdraws.congr hsame.symm, ?_⟩
      rw [← inc.key_undated, hsame, t.key_undated]
  | some a =>
      obtain ⟨ha, hapart⟩ := ht.aliasName a halias
      have hkey : t.key = a := by
        have hbind := ht.bind_aliasName
        rw [TableRef.key, hbind, halias, Option.getD_some]
      have hlater : (d.canvas.withTable inc).query.Keyed := hkeyed.withTable ht.name.ne_empty hnew
      have hfree : ∀ j ∈ joins, j.leftTable ≠ inc.key ∧ j.rightTable ≠ inc.key := by
        intro j hj
        rw [← hd.joins_eq] at hj
        obtain ⟨hleft, hright⟩ := hkeyed.joinEnds j hj
        exact ⟨fun heq => hnew (heq ▸ hleft), fun heq => hnew (heq ▸ hright)⟩
      have hunused : a ∉ tables.map TableRef.key := by
        intro hmem
        obtain ⟨u, hu, huk⟩ := List.mem_map.1 hmem
        exact ht.key u hu (by rw [huk, hkey])
      obtain ⟨q, hrun, hq⟩ := run_giveAlias_quietly (t := inc)
        (d := { d with canvas := d.canvas.withTable inc }) ha hapart hlater
        (List.mem_append_right _ List.mem_cons_self) hdraws hfree hunused
      have hsame : ({ inc with aliasName := some a } : TableRef).undated = t.undated := by
        simp [hinc, Canvas.incoming, TableRef.undated, halias]
      refine ⟨_, q, hrun, hq.congr hsame.symm, ?_⟩
      rw [← TableRef.key_undated, hsame, t.key_undated]

/-- A table comes in under its key, with its alias if it has one. -/
theorem run_registerTable_of_fresh (hd : Drawn catalog tables joins d)
    (ht : t.IsFresh catalog tables) :
    ∃ d', (registerTable t.written.named).run d = .ok t.key d' ∧
      Drawn catalog (tables ++ [t]) joins d' := by
  have hnames : t.written.named.aliasName = t.aliasName := ht.bind_aliasName
  have hvisible : t.written.named.visibleName = t.key := rfl
  have hname : t.written.name = t.name := rfl
  obtain ⟨unresolved, hresolve⟩ := hd.run_resolveTable_named t.written ht.spelled
  have hunused : t.aliasName.isSome = false → d.canvas.query.usesName t.name = false := by
    intro hnone
    rw [Option.isSome_eq_false_iff, Option.isNone_iff_eq_none] at hnone
    have hkey : t.key = t.name := by simp [TableRef.key, hnone]
    refine hd.query.usesName_eq_false (fun hmem => ?_) (ht.free hnone)
    obtain ⟨u, hu, huk⟩ := List.mem_map.1 hmem
    exact ht.key u hu (by rw [huk, hkey])
  have hadd := run_addTable_quietly (d := { d with unresolved }) ht.name
    (hd.canonicalName_eq ht.spelled) hunused
  obtain ⟨table, q, hnamed, hq, hkey⟩ := run_named_quietly (d := { d with unresolved }) ht hd.keyed
    (by cases h : t.aliasName.isSome <;> simp_all) hd.query
  have hnone := hd.lookup_eq_none ht.key
  have hrun : (registerTable t.written.named).run d = .ok t.key
      { withQuery
          { d with unresolved, canvas := d.canvas.withTable (d.canvas.incoming t.name) } q with
        keys := d.keys ++ [(Text.lower t.key, t.key)] } := by
    rw [registerTable_eq, EStateM.run_bind, hresolve]
    dsimp only
    rw [hname, hnames, EStateM.run_bind, hadd]
    dsimp only
    rw [EStateM.run_bind, hnamed]
    dsimp only
    rw [EStateM.run_bind, hkey]
    simp [bindName, hvisible, hnone, withQuery]
  refine ⟨_, hrun, ?_⟩
  exact
    { sound := (preserves_registerTable tableStable_sound _).of_run hd.sound hrun
      unselected := (preserves_registerTable tableStable_unselected _).of_run hd.unselected hrun
      catalog := hd.catalog
      query := hq
      keys := by rw [hd.keys, List.map_append]; rfl
      distinct := by
        rw [List.map_append, List.map_singleton, List.nodup_append]
        refine ⟨hd.distinct, List.nodup_singleton _, List.forall_mem_map.2 fun u hu => ?_⟩
        simpa using ht.key u hu
      warnings := hd.warnings }

end Reading

end QueryDesigner

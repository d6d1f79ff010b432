import QueryDesigner.Proofs.RoundTrip.Table

/-!
# The joins of a plain query are read back

* `JoinClause.Fits` — a clause that may come after the given tables;
* `Reading.run_readJoin_of_fits`, `Reading.run_readJoins` — it brings in its table and its join, and so
  do clauses of which each fits after those before it;
* `Query.IsPlain.fits_of_split` — the clauses of a plain query fit;
* `Query.IsPlain.run_readTables` — and so its tables and joins are read back.
-/

namespace QueryDesigner

/-- The table that the clause brings in. -/
def JoinClause.table? : JoinClause → Option TableRef
  | introduces _ table => some table
  | refines _ _ => none

theorem JoinClause.key?_eq (clause : JoinClause) : clause.key? = clause.table?.map TableRef.key := by
  cases clause <;> rfl

theorem JoinType.type?_words (type : JoinType) : type.written.words.type? = some type := by
  cases type <;> rfl

/-- One of the tables has the key, and the catalog does not spell its column otherwise. -/
def SpellsIn (catalog : Option Catalog) (tables : List TableRef) (key column : String) : Prop :=
  ∃ t ∈ tables, t.key = key ∧ column ≠ "" ∧ SpellsColumn catalog t.name column

/-- The clause may come after the tables. -/
structure JoinClause.Fits (catalog : Option Catalog) (tables : List TableRef) (clause : JoinClause) :
    Prop where
  /-- What it brings in is fresh.  If it brings in nothing, it names the right end of its join. -/
  table : (∃ t, clause = .introduces clause.join t ∧ t.IsFresh catalog tables) ∨
    clause = .refines clause.join clause.join.rightTable
  left : SpellsIn catalog (tables ++ clause.table?.toList) clause.join.leftTable
    clause.join.leftColumn
  right : SpellsIn catalog (tables ++ clause.table?.toList) clause.join.rightTable
    clause.join.rightColumn

namespace Reading

variable {catalog : Option Catalog} {tables : List TableRef} {joins : List Join} {d : Draft}
  {t : TableRef} {key column : String}

theorem Knows.resolves_of_spellsIn (hd : Knows catalog tables d)
    (h : SpellsIn catalog tables key column) : d.Resolves key column := by
  obtain ⟨t, ht, rfl, hcolumn, hspelled⟩ := h
  exact hd.resolves ht hcolumn hspelled

theorem Knows.isSome_findTable? (hd : Knows catalog tables d)
    (h : SpellsIn catalog tables key column) :
    ∃ found, d.canvas.query.findTable? key = some found := by
  obtain ⟨t, ht, rfl, -, -⟩ := h
  obtain ⟨found, hfind, -⟩ := hd.found t ht
  exact ⟨found, hfind⟩

/-! ## One clause -/

theorem run_joinedKey_of_fresh (hd : Drawn catalog tables joins d) (ht : t.IsFresh catalog tables) :
    ∃ d', (joinedKey t.written.named).run d = .ok t.key d' ∧
      Drawn catalog (tables ++ [t]) joins d' := by
  have hunseen : (seenKey? t.written.named).run d = .ok none d := by
    unfold seenKey?
    rw [show t.written.named.aliasName = t.aliasName from ht.bind_aliasName]
    cases halias : t.aliasName with
    | some a => rfl
    | none =>
        have hkey : t.key = t.name := by simp [TableRef.key, halias]
        have hnone := hd.lookup_eq_none ht.key
        rw [hkey] at hnone
        refine (run_keyOf? t.name d).trans ?_
        rw [if_neg ht.name.ne_empty, hnone]
  unfold joinedKey
  rw [EStateM.run_bind, hunseen]
  exact run_registerTable_of_fresh hd ht

/-- A key that is there already. -/
theorem run_joinedKey_of_mem (hd : Knows catalog tables d) (ht : t ∈ tables) :
    (joinedKey (Sql.SourceTable.named ⟨t.key, none⟩)).run d = .ok t.key d := by
  have hseen : (seenKey? (Sql.SourceTable.named ⟨t.key, none⟩)).run d = .ok (some t.key) d := by
    refine (run_keyOf? t.key d).trans ?_
    rw [if_neg (hd.named t ht), hd.seen t ht]
  unfold joinedKey
  rw [EStateM.run_bind, hseen]
  rfl

theorem run_addEquality_of_resolves (hd : Drawn catalog tables joins d) (join : Join)
    (predicate : Sql.Expr) (hleft : SpellsIn catalog tables join.leftTable join.leftColumn)
    (hright : SpellsIn catalog tables join.rightTable join.rightColumn) :
    ∃ d', (addEquality join.type predicate (join.leftTable, join.leftColumn)
        (join.rightTable, join.rightColumn)).run d = .ok () d' ∧
      Drawn catalog tables (joins ++ [join]) d' := by
  have hleft' := hd.knows.resolves_of_spellsIn hleft
  have hright' := hd.knows.resolves_of_spellsIn hright
  obtain ⟨leftTable, hleftTable⟩ := hd.knows.isSome_findTable? hleft
  obtain ⟨rightTable, hrightTable⟩ := hd.knows.isSome_findTable? hright
  have hcolumn : ∀ {k c : String}, d.Resolves k c → (resolveColumn k c).run d = .ok c d :=
    fun h => congrArg (EStateM.Result.ok · d) h.spelled
  have hkey : ∀ {k c : String}, d.Resolves k c → (keyOf? k).run d = .ok (some k) d :=
    fun h => (run_keyOf? _ d).trans (congrArg (EStateM.Result.ok · d) h.stands)
  have hrun : (addEquality join.type predicate (join.leftTable, join.leftColumn)
      (join.rightTable, join.rightColumn)).run d = .ok () (withQuery d
        { d.canvas.query with joins := d.canvas.query.joins ++ [join] }) := by
    unfold addEquality
    rw [EStateM.run_bind, hkey hleft']
    dsimp only
    rw [EStateM.run_bind, hkey hright']
    dsimp only
    rw [EStateM.run_bind, hcolumn hleft']
    dsimp only
    rw [EStateM.run_bind, hcolumn hright']
    dsimp only
    rw [EStateM.run_bind, run_attempt?, Edit.run_addJoin, Edit.run_requireEnds]
    simp only [hleftTable, hrightTable]
    rfl
  refine ⟨_, hrun, ?_⟩
  exact
    { sound := (preserves_addEquality tableStable_sound _ _ _ _).of_run hd.sound hrun
      unselected := hd.unselected
      catalog := hd.catalog
      query := hd.query.withJoin join
      keys := hd.keys
      distinct := hd.distinct
      warnings := hd.warnings }

/-- What comes after the table of a join. -/
theorem run_readJoin_of_joinedKey {clause : JoinClause} {d' : Draft}
    (hnamed : clause.written.IsNamed)
    (htable : (joinedKey clause.written.table.named).run d = .ok key d')
    (hd : Drawn catalog tables joins d')
    (hleft : SpellsIn catalog tables clause.join.leftTable clause.join.leftColumn)
    (hright : SpellsIn catalog tables clause.join.rightTable clause.join.rightColumn) :
    ∃ d'', (readJoin clause.written.join).run d = .ok () d'' ∧
      Drawn catalog tables (joins ++ [clause.join]) d'' := by
  have hsource : clause.written.join.source.named? = some clause.written.table.named :=
    Sql.SourceTable.named?_source hnamed.table
  have hon : clause.written.join.on = some clause.written.on := rfl
  have htype : clause.written.join.words.type? = some clause.join.type := by
    cases clause with
    | introduces join table => exact join.type.type?_words
    | refines join table => exact join.type.type?_words
  have hequality : (joinEquality? clause.written.on.conjuncts).run d' =
      .ok (some (clause.written.on, (clause.join.leftTable, clause.join.leftColumn),
        (clause.join.rightTable, clause.join.rightColumn))) d' := by
    cases clause <;> rfl
  obtain ⟨d'', hrun, hd''⟩ := run_addEquality_of_resolves hd clause.join clause.written.on hleft hright
  refine ⟨d'', ?_, hd''⟩
  unfold readJoin
  dsimp only
  rw [hsource, hon]
  dsimp only
  rw [EStateM.run_bind, htable]
  dsimp only
  rw [htype]
  dsimp only
  rw [EStateM.run_bind, hequality]
  exact hrun

theorem run_readJoin_of_fits (hd : Drawn catalog tables joins d) {clause : JoinClause}
    (hnamed : clause.written.IsNamed) (h : clause.Fits catalog tables) :
    ∃ d', (readJoin clause.written.join).run d = .ok () d' ∧
      Drawn catalog (tables ++ clause.table?.toList) (joins ++ [clause.join]) d' := by
  rcases h.table with ⟨t, hclause, ht⟩ | hclause
  · obtain ⟨d', htable, hd'⟩ := run_joinedKey_of_fresh hd ht
    have htables : clause.table?.toList = [t] := by rw [hclause]; rfl
    have hwritten : clause.written.table = t.written := by rw [hclause]; rfl
    rw [htables]
    exact run_readJoin_of_joinedKey hnamed (hwritten ▸ htable) hd' (htables ▸ h.left)
      (htables ▸ h.right)
  · have htables : tables ++ clause.table?.toList = tables := by
      rw [hclause]
      exact List.append_nil tables
    have hwritten : clause.written.table = ⟨clause.join.rightTable, none⟩ := by rw [hclause]; rfl
    have hright := h.right
    rw [htables] at hright
    obtain ⟨t, ht, hkey, -, -⟩ := hright
    rw [htables]
    have hthere : (joinedKey clause.written.table.named).run d = .ok t.key d := by
      rw [hwritten, ← hkey]
      exact run_joinedKey_of_mem hd.knows ht
    exact run_readJoin_of_joinedKey hnamed hthere hd (htables ▸ h.left) (htables ▸ h.right)

/-! ## All clauses -/

/-- Each clause fits after the tables of those before it. -/
theorem run_readJoins {clauses : List JoinClause} (hd : Drawn catalog tables joins d)
    (hnamed : ∀ clause ∈ clauses, clause.written.IsNamed)
    (hfits : ∀ before clause after, clauses = before ++ clause :: after →
      clause.Fits catalog (tables ++ before.filterMap JoinClause.table?)) :
    ∃ d', EStateM.run (forIn (clauses.map fun clause => clause.written.join) PUnit.unit
        fun j _ => (do readJoin j; pure (.yield PUnit.unit) : Reading _)) d = .ok PUnit.unit d' ∧
      Drawn catalog (tables ++ clauses.filterMap JoinClause.table?)
        (joins ++ clauses.map JoinClause.join) d' := by
  induction clauses generalizing d tables joins with
  | nil => exact ⟨d, rfl, by simpa using hd⟩
  | cons clause rest ih =>
      have hcons : ∀ cs : List JoinClause, tables ++ (clause :: cs).filterMap JoinClause.table? =
          tables ++ clause.table?.toList ++ cs.filterMap JoinClause.table? := by
        intro cs
        cases htable : clause.table? <;> simp [htable]
      obtain ⟨hclause, hrest⟩ := forall_split_cons.1 hfits
      rw [List.filterMap_nil, List.append_nil] at hclause
      have hhead := hnamed clause List.mem_cons_self
      obtain ⟨d₁, hrun, hd₁⟩ := run_readJoin_of_fits hd hhead hclause
      obtain ⟨d₂, hruns, hd₂⟩ := ih hd₁ (fun c hc => hnamed c (List.mem_cons_of_mem clause hc))
        fun before c after hsplit => hcons before ▸ hrest before c after hsplit
      refine ⟨d₂, ?_, ?_⟩
      · rw [List.map_cons, List.forIn_cons, bind_assoc, EStateM.run_bind, hrun]
        exact hruns
      · rw [hcons rest, List.map_cons, List.append_cons joins]
        exact hd₂

end Reading

/-! ## Plain queries -/

theorem JoinClause.filterMap_key? (clauses : List JoinClause) :
    clauses.filterMap key? = (clauses.filterMap table?).map TableRef.key := by
  rw [List.map_filterMap, List.filterMap_congr fun clause _ => clause.key?_eq]

/-- The tables that the first table and some clauses bring in. -/
def TableRef.andIntroduced (first : TableRef) (clauses : List JoinClause) : List TableRef :=
  first :: clauses.filterMap JoinClause.table?

theorem TableRef.andIntroduced_append (first : TableRef) (before after : List JoinClause) :
    first.andIntroduced (before ++ after) =
      first.andIntroduced before ++ after.filterMap JoinClause.table? := by
  rw [andIntroduced, List.filterMap_append, andIntroduced, List.cons_append]

theorem Query.fromKey_eq {q : Query} {first : TableRef} {rest : List TableRef}
    (htables : q.tables = first :: rest) : q.fromKey = [first.key] := by
  rw [fromKey, tableKeys, htables]
  rfl

theorem Query.mem_tables_of_introduced {q : Query} {first : TableRef} {rest : List TableRef}
    (htables : q.tables = first :: rest) {t : TableRef}
    (ht : t ∈ first.andIntroduced q.joinClauses) : t ∈ q.tables := by
  rcases List.mem_cons.1 ht with rfl | ht
  · rw [htables]
    exact List.mem_cons_self
  · obtain ⟨clause, hclause, htable⟩ := List.mem_filterMap.1 ht
    rcases named_of_mem_joinClauses hclause with ⟨table, hmem, heq⟩ | heq
    · rw [heq] at htable
      exact Option.some.inj htable ▸ hmem
    · rw [heq] at htable
      cases htable

namespace Query.IsPlain

open JoinClause

variable {catalog : Option Catalog} {q : Query} (hq : q.IsPlain catalog) {first : TableRef}
  {rest : List TableRef} (htables : q.tables = first :: rest) {before after : List JoinClause}
  {clause : JoinClause} (hsplit : q.joinClauses = before ++ clause :: after)
include hq htables

/-- No two of them have the same key. -/
theorem nodup_introduced : ((first.andIntroduced q.joinClauses).map TableRef.key).Nodup := by
  have hnodup := nodup_introducedKeys hq.filled
  rwa [introducedKeys, fromKey_eq htables, filterMap_key?] at hnodup

/-- Every table of the query comes in, and none comes in twice. -/
theorem perm_introduced : (first.andIntroduced q.joinClauses).Perm q.tables := by
  have hnodup := hq.nodup_introduced htables
  refine (List.perm_ext_iff_of_nodup (hnodup.of_map _) (hq.distinctKeys.of_map _)).2 fun t =>
    ⟨mem_tables_of_introduced htables, fun ht => ?_⟩
  have hkey := hq.mem_introducedKeys (List.mem_map_of_mem ht)
  rw [introducedKeys, fromKey_eq htables, filterMap_key?] at hkey
  obtain ⟨u, hu, hsame⟩ := List.mem_map.1 (show t.key ∈
    (first.andIntroduced q.joinClauses).map TableRef.key from hkey)
  rwa [← List.inj_on_of_nodup_map hq.distinctKeys (mem_tables_of_introduced htables hu) ht hsame]

include hsplit

/-- What a clause brings in has not come in before. -/
theorem key_ne_of_split {t u : TableRef} (ht : clause.table? = some t)
    (hu : u ∈ first.andIntroduced before) : u.key ≠ t.key := by
  have hnodup := hq.nodup_introduced htables
  have hcomes : first.andIntroduced q.joinClauses =
      first.andIntroduced before ++ t :: after.filterMap table? := by
    rw [TableRef.andIntroduced, hsplit, List.filterMap_append, List.filterMap_cons_some ht]
    rfl
  intro heq
  exact notMem_map_of_split hnodup hcomes (List.mem_map.2 ⟨u, hu, heq⟩)

theorem isFresh_of_split {t : TableRef} (ht : clause.table? = some t) :
    t.IsFresh catalog (first.andIntroduced before) := by
  have hmem : ∀ u ∈ first.andIntroduced before ++ (clause :: after).filterMap table?,
      u ∈ q.tables := by
    intro u hu
    rw [← TableRef.andIntroduced_append, ← hsplit] at hu
    exact mem_tables_of_introduced htables hu
  have htable : t ∈ q.tables := hmem t (List.mem_append_right _
    (List.mem_filterMap.2 ⟨clause, List.mem_cons_self, ht⟩))
  have hnew : ∀ u ∈ first.andIntroduced before, u.key ≠ t.key :=
    fun u hu => hq.key_ne_of_split htables hsplit ht hu
  have hlater : t ∈ q.tables.tail := by
    rw [htables] at htable ⊢
    exact (List.mem_cons.1 htable).resolve_left fun heq =>
      hnew first List.mem_cons_self (by rw [heq])
  exact
    { name := hq.names t htable
      aliasName := hq.aliases t htable
      spelled := hq.spelled t htable
      key := fun u hu heq => hnew u hu
        (hq.eq_of_lower (List.mem_map_of_mem (hmem u (List.mem_append_left _ hu)))
          (List.mem_map_of_mem htable) heq)
      free := fun hnone u hu hname => hnew u hu (congrArg TableRef.key
        (hq.aliased t hlater hnone u (hmem u (List.mem_append_left _ hu)) hname)) }

theorem spellsIn_of_split {key column : String} (hkey : key ∈ clause.join.sides)
    (hnames : q.Names key column) :
    SpellsIn catalog (first.andIntroduced before ++ clause.table?.toList) key column := by
  have hscope := hq.inScope before clause after hsplit key hkey
  have hthere : ∃ t ∈ first.andIntroduced before ++ clause.table?.toList, t.key = key := by
    rcases hscope with hknown | ⟨earlier, hearlier, hin⟩ | hin
    · rw [fromKey_eq htables, List.mem_singleton] at hknown
      exact ⟨first, List.mem_append_left _ List.mem_cons_self, hknown.symm⟩
    · rw [key?_eq, Option.map_eq_some_iff] at hin
      obtain ⟨t, ht, hkey⟩ := hin
      refine ⟨t, List.mem_append_left _ (List.mem_cons_of_mem first ?_), hkey⟩
      exact List.mem_filterMap.2 ⟨earlier, hearlier, ht⟩
    · rw [key?_eq, Option.map_eq_some_iff] at hin
      obtain ⟨t, ht, hkey⟩ := hin
      exact ⟨t, List.mem_append_right _ (Option.mem_toList.2 ht), hkey⟩
  obtain ⟨t, ht, rfl⟩ := hthere
  have hmem : t ∈ q.tables := by
    refine mem_tables_of_introduced htables ?_
    rw [hsplit, List.append_cons, TableRef.andIntroduced_append, TableRef.andIntroduced_append]
    refine List.mem_append_left _ ?_
    cases htable : clause.table? <;> simpa [htable] using ht
  obtain ⟨hname, hspelled⟩ := hq.columns t hmem column hnames
  exact ⟨t, ht, rfl, hname.ne_empty, hspelled⟩

/-- Every clause fits after those before it. -/
theorem fits_of_split : clause.Fits catalog (first.andIntroduced before) := by
  have hclause : clause ∈ q.joinClauses := by
    rw [hsplit]
    exact List.mem_append_right _ List.mem_cons_self
  have hjoin : clause.join ∈ q.completeJoins := by
    rw [← hq.map_join_joinClauses]
    exact List.mem_map_of_mem hclause
  exact
    { table := (named_of_mem_joinClauses hclause).imp_left fun ⟨t, _, heq⟩ =>
        ⟨t, heq, hq.isFresh_of_split htables hsplit (by rw [heq]; rfl)⟩
      left := hq.spellsIn_of_split htables hsplit (by simp [Join.sides]) (.left hjoin rfl rfl)
      right := hq.spellsIn_of_split htables hsplit (by simp [Join.sides]) (.right hjoin rfl rfl) }

omit hsplit in
/-- The tables and joins of the query are read back from its statement. -/
theorem run_readTables {p : Sql.PlainSelect} (hp : p.Writes q) :
    ∃ d, (Reading.readTables p.select).run { canvas := .ofQuery {} catalog } = .ok true d ∧
      Reading.Drawn catalog (first.andIntroduced q.joinClauses) q.completeJoins d := by
  have hfirst : first ∈ q.tables := by
    rw [htables]
    exact List.mem_cons_self
  have hfresh : first.IsFresh catalog [] :=
    ⟨hq.names first hfirst, hq.aliases first hfirst, hq.spelled first hfirst, by simp, by simp⟩
  have hsource : p.source = first.written := by
    obtain ⟨table, htable, hwritten⟩ := hp.source
    rw [htables] at htable
    rw [hwritten, ← Option.some.inj htable]
  obtain ⟨d₁, hrun, hd₁⟩ := Reading.run_registerTable_of_fresh (Reading.drawn_empty catalog) hfresh
  obtain ⟨d₂, hruns, hd₂⟩ := Reading.run_readJoins hd₁ (fun c hc => hq.isNamed_clause hc)
    fun before c after hsplit => hq.fits_of_split htables hsplit
  refine ⟨d₂, ?_, hq.map_join_joinClauses ▸ hd₂⟩
  have hnamed : p.source.source.named? = some first.written.named := by
    rw [hsource]
    exact Sql.SourceTable.named?_source (hq.isNamed_table hfirst)
  have hjoins : p.tail.joins = q.joinClauses.map fun clause => clause.written.join := by
    rw [p.joins_tail, hp.joins, List.map_map]
    rfl
  unfold Reading.readTables Sql.PlainSelect.select
  dsimp only
  rw [hnamed]
  dsimp only
  rw [EStateM.run_bind, hrun]
  dsimp only
  rw [hjoins, EStateM.run_bind, hruns]
  rfl

end Query.IsPlain

end QueryDesigner

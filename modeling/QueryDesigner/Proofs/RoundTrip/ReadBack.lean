import QueryDesigner.Proofs.Parser.Script
import QueryDesigner.Proofs.RoundTrip.Items
import QueryDesigner.Proofs.RoundTrip.Rest
import QueryDesigner.RoundTrip

/-!
# Plain queries are read back from their statements

* `Query.settled` — a query without what is not written, and with its values as they are read;
* `Query.IsPlain.run_readSelect` — the statement of a plain query is read without a warning;
* `plain_query_read_back` — and the query comes out of it, settled, with the same statement.
-/

namespace QueryDesigner

/-- The query without what is not written of it, and with the values of its conditions as they are
read from the statement. -/
def Query.settled (q : Query) : Query :=
  { q.pruned with conditions := q.predicates.map Condition.settled }

/-- The draft holds the settled query, and nothing was reported. -/
structure Reading.ReadBack (catalog : Option Catalog) (q : Query) (d : Draft) : Prop where
  catalog : d.canvas.catalog = catalog
  query : d.canvas.query.undated = { q.settled with columns := d.canvas.query.columns }
  selection : ∀ key, d.canvas.query.selection key = q.settled.selection key
  warnings : d.warnings = []

theorem Sql.Test.means_of_writes {tests : List Sql.Test} {cs : List Condition}
    (h : List.Forall₂ Sql.Test.Writes tests cs) : ∀ t ∈ tests, ∃ v, t.check.Means v := by
  induction h with
  | nil => simp
  | cons hfirst _ ih => exact List.forall_mem_cons.2 ⟨⟨_, hfirst.value⟩, ih⟩

theorem Sql.Test.map_condition_of_writes {tests : List Sql.Test} {cs : List Condition}
    (h : List.Forall₂ Sql.Test.Writes tests cs) :
    tests.map Sql.Test.condition = cs.map Condition.settled := by
  induction h with
  | nil => rfl
  | cons hfirst _ ih =>
      rw [List.map_cons, List.map_cons, ih, Condition.settled_eq hfirst.operator hfirst.value,
        ← hfirst.column]
      rfl

namespace Query.IsPlain

variable {catalog : Option Catalog} {q : Query} (hq : q.IsPlain catalog)
include hq

theorem readsRef {d : Draft} (hd : Reading.Knows catalog q.tables d) {r : Sql.Ref}
    (hr : q.Refers r) : d.ReadsRef r := by
  cases r with
  | bare column => trivial
  | qualified key column => exact hq.resolves hd hr.1 hr.2

theorem joins_settled : q.settled.joins = q.completeJoins :=
  List.filter_congr fun _ hj => hq.writes_eq_isComplete hj

/-- The clauses after the SELECT list are read as they are written. -/
theorem run_readClauses {p : Sql.PlainSelect} (hp : p.Writes q)
    (htests : ∀ t ∈ p.tests, q.Refers t.left) (hgroups : ∀ r ∈ p.groups, q.Refers r)
    (horders : ∀ e ∈ p.orders, q.Refers e.column) {d : Draft} (hd : Reading.Selected catalog q d) :
    ∃ d', (do
        forM p.select.tail.condition Reading.readConditions
        Reading.readRest p.select : Reading Unit).run d = .ok () d' ∧ Reading.ReadBack catalog q d' := by
  have hnoConditions : d.canvas.query.conditions = [] := congrArg Query.conditions hd.query
  have hnoGroups : d.canvas.query.groupBy = [] := congrArg Query.groupBy hd.query
  have hnoOrder : d.canvas.query.orderBy = [] := congrArg Query.orderBy hd.query
  have hnoLimit : d.canvas.query.limit = none := congrArg Query.limit hd.query
  have hnoOffset : d.canvas.query.offset = none := congrArg Query.offset hd.query
  -- the clauses one after the other
  have hconditions := Reading.run_conditionOf_of_reads
    (fun t ht => hq.readsRef hd.toKnows (htests t ht)) (Sql.Test.means_of_writes hp.tests)
  set d₁ := Reading.withConditions d (p.tests.map Sql.Test.condition) with hd₁
  have hreads₁ : ∀ r, q.Refers r → d₁.ReadsRef r :=
    fun r hr => (hq.readsRef hd.toKnows hr).withQuery rfl
  have hgroup := Reading.run_readGroups_of_reads (d := d₁) hnoGroups
    (fun r hr => hreads₁ r (hgroups r hr)) (hp.groups ▸ hq.groups)
  rw [hp.groups] at hgroup
  set d₂ := Reading.withQuery d₁ { d₁.canvas.query with groupBy := q.groups } with hd₂
  have hreads₂ : ∀ r, q.Refers r → d₂.ReadsRef r := fun r hr => (hreads₁ r hr).withQuery rfl
  have horder := Reading.run_readOrder_of_reads (d := d₂) hnoOrder
    (fun e he => hreads₂ e.column (horders e he)) (hp.orders ▸ hq.sorts)
  rw [hp.orders] at horder
  set d₃ := Reading.withQuery d₂ { d₂.canvas.query with orderBy := q.sorts } with hd₃
  have hpage := Reading.run_readPaging_of_page (d := d₃) hp.page hnoLimit hnoOffset
  set d₄ := Reading.withQuery d₃ { d₃.canvas.query with
    limit := q.limit, offset := if q.limit.isNone then none else q.offset } with hd₄
  refine ⟨d₄, ?_, ?_⟩
  · have hcondition : p.select.tail.condition = Sql.conditionOf p.tests := p.condition_tail
    have hgrouping : p.select.tail.grouping = Sql.groupingOf p.groups := p.grouping_tail
    have hhaving : p.select.tail.having = none := p.having_tail
    have hentries : p.select.tail.order = p.orders.map Sql.SortEntry.item := p.order_tail
    rw [EStateM.run_bind, hcondition, hconditions]
    dsimp only
    rw [Reading.readRest, EStateM.run_bind, hgrouping, hgroup]
    dsimp only
    rw [EStateM.run_bind, hhaving]
    have hnone : EStateM.run (forM (none : Option Sql.Expr) fun having =>
        Reading.warn (.having having.shown)) d₂ = .ok () d₂ := rfl
    rw [hnone]
    dsimp only
    rw [EStateM.run_bind, hentries, horder]
    exact hpage
  · have hundated : d₄.canvas.query.undated = { d.canvas.query.undated with
        conditions := d.canvas.query.conditions ++ p.tests.map Sql.Test.condition
        groupBy := q.groups
        orderBy := q.sorts
        limit := q.limit
        offset := if q.limit.isNone then none else q.offset } := rfl
    refine ⟨hd.catalog, ?_, hd.selection, hd.warnings⟩
    rw [hundated, hd.query, hnoConditions, List.nil_append,
      Sql.Test.map_condition_of_writes hp.tests, ← hq.joins_settled]
    rfl

/-- The statement of a plain query is read into a draft that holds the settled query. -/
theorem run_readSelect {p : Sql.PlainSelect} (hp : p.Writes q)
    (htests : ∀ t ∈ p.tests, q.Refers t.left) (hgroups : ∀ r ∈ p.groups, q.Refers r)
    (horders : ∀ e ∈ p.orders, q.Refers e.column) :
    ∃ d, (Reading.readSelect p.select).run { canvas := .ofQuery {} catalog } = .ok () d ∧
      Reading.ReadBack catalog q d := by
  obtain ⟨first, rest, htables⟩ := List.exists_cons_of_ne_nil hq.filled
  obtain ⟨d₁, htablesRead, hdrawn⟩ := hq.run_readTables htables hp
  obtain ⟨d₂, hitemsRead, hselected⟩ := hq.run_readItems htables hp hdrawn
  obtain ⟨d₃, hclausesRead, hback⟩ := hq.run_readClauses hp htests hgroups horders hselected
  refine ⟨d₃, ?_, hback⟩
  rw [Reading.readSelect, EStateM.run_bind, htablesRead]
  dsimp only
  rw [if_pos rfl, Reading.readClauses_eq, EStateM.run_bind, hitemsRead]
  exact hclausesRead

end Query.IsPlain

/-! ## The statement of what was read -/

/-- Settled conditions are written as the conditions were. -/
theorem predicateWords_map_settled {cs : List Condition} (h : ∀ c ∈ cs.tail, c.connector = .and) :
    predicateWords (cs.map Condition.settled) = predicateWords cs := by
  cases cs with
  | nil => rfl
  | cons c rest =>
      rw [List.map_cons, predicateWords, predicateWords, List.flatMap_map, c.text_settled]
      refine congrArg _ (List.flatMap_congr fun d hd => ?_)
      rw [d.text_settled, h d hd]
      rfl

namespace Query

theorem predicates_settled (q : Query) : q.settled.predicates = q.predicates.map Condition.settled := by
  refine List.filter_eq_self.2 (List.forall_mem_map.2 fun c hc => ?_)
  exact (List.mem_filter.1 hc).2

theorem compile_settled {q : Query} (h : ∀ c ∈ q.predicates.tail, c.connector = .and) :
    q.settled.compile = q.compile := by
  have hwords : predicateWords q.settled.predicates = predicateWords q.pruned.predicates := by
    rw [predicates_settled, predicateWords_map_settled h, predicateWords_pruned]
  calc
    q.settled.compile = q.pruned.compile :=
      compile_congr rfl rfl (joinClauses_congr rfl rfl) hwords rfl rfl rfl
    _ = q.compile := Canvas.compile_pruned { query := q }

end Query

/-- What was read is written as the query was. -/
theorem Reading.ReadBack.compile_eq {catalog : Option Catalog} {q : Query} {d : Draft}
    (h : Reading.ReadBack catalog q d) (hands : ∀ c ∈ q.predicates.tail, c.connector = .and) :
    d.canvas.query.compile = q.compile := by
  have hitems : ({ q.settled with columns := d.canvas.query.columns } : Query).selectItems =
      q.settled.selectItems :=
    List.flatMap_congr fun t _ => congrArg (Selection.items t.key) (h.selection t.key)
  calc
    d.canvas.query.compile = d.canvas.query.undated.compile := d.canvas.query.compile_undated.symm
    _ = ({ q.settled with columns := d.canvas.query.columns } : Query).compile := by rw [h.query]
    _ = q.settled.compile :=
      Query.compile_congr rfl hitems (Query.joinClauses_congr rfl rfl) rfl rfl rfl rfl
    _ = q.compile := Query.compile_settled hands

/-! ## Round trips -/

/-- A plain query is read back from its statement without a warning: with its tables in their order,
their selections, its joins, conditions, groups and sort entries, and its paging, all of them settled.
What was read has the same statement, and so the round trip finds no difference. -/
theorem Canvas.plain_query_read_back (c : Canvas) (hc : c.query.IsPlain c.catalog) :
    ∃ r : Decompiled, decompile c.query.compile c.catalog = .ok r ∧ r.kind = .select ∧
      r.warnings = [] ∧ r.unsupported = [] ∧ r.canvas.catalog = c.catalog ∧
      r.canvas.query.undated = { c.query.settled with columns := r.canvas.query.columns } ∧
      (∀ key, r.canvas.query.selection key = c.query.settled.selection key) ∧
      r.canvas.query.compile = c.query.compile ∧
      c.roundTrip = .ok
        { isEquivalent := true, original := c.query.compile, regenerated := c.query.compile } := by
  obtain ⟨p, hp, hwritten, htests, hgroups, horders⟩ := hc.exists_writes
  obtain ⟨d, hrun, hback⟩ := hc.run_readSelect hp htests hgroups horders
  have hdecompile := Sql.decompile_of_spells hwritten (Sql.spells_compile hwritten hp) hrun
  have hcompile := hback.compile_eq hc.ands
  refine ⟨_, hdecompile, rfl, hback.warnings, rfl, hback.catalog, hback.query, hback.selection,
    hcompile, ?_⟩
  rw [roundTrip, hdecompile, Except.map, hcompile, RoundTrip.ofTexts, if_pos rfl]

/-- A table joined with itself, a join that brings in the table on its left, and values of all kinds.
The joins bring the tables in in another order than the query has them. -/
theorem Canvas.plain_query_read_back_of_self_join :
    let c : Canvas :=
      { query :=
          { tables := [⟨"staff", some "e", 0⟩, ⟨"offices", none, 4⟩, ⟨"staff", some "m", 2⟩]
            columns := ⟨[("offices", .only ["city"]), ("e", .only ["id", "name"]), ("gone", .every)]⟩
            joins := [⟨.left, "e", "boss", "m", "id"⟩, { leftTable := "m", rightTable := "e" },
              ⟨.inner, "offices", "id", "m", "office"⟩]
            conditions := [⟨"e.pay", .ge, " 1000 ", .or⟩, ⟨"", .eq, "7", .or⟩,
              ⟨"m.name", .notLike, "O'%", .and⟩, ⟨"grade", .isIn, "1, 'b'", .and⟩,
              ⟨"m.age", .between, "30, 40", .and⟩, ⟨"offices.city", .isNotNull, "gone", .and⟩]
            orderBy := [⟨"name", .descending⟩, ⟨"e.id", .ascending⟩]
            groupBy := ["e.id", "grade"]
            limit := some 10
            offset := some 5 }
        catalog := some { tables := [{ name := "offices", columns := [{ name := "city" }] }] } }
    c.query.IsPlain c.catalog ∧
      ∃ r : Decompiled, decompile c.query.compile c.catalog = .ok r ∧ r.kind = .select ∧
        r.warnings = [] ∧ r.unsupported = [] ∧ r.canvas.catalog = c.catalog ∧
        r.canvas.query.undated = { c.query.settled with columns := r.canvas.query.columns } ∧
        (∀ key, r.canvas.query.selection key = c.query.settled.selection key) ∧
        r.canvas.query.compile = c.query.compile ∧
        c.roundTrip = .ok
          { isEquivalent := true, original := c.query.compile,
            regenerated := c.query.compile } := by
  intro c
  have hnamed : ∀ t ∈ c.query.tables, ∀ column ∈ c.query.namedColumns t.key,
      Sql.IsName column ∧ SpellsColumn c.catalog t.name column := by
    decide +kernel
  have hrefs : ∀ ref ∈ c.query.writtenReferences, Sql.IsName ref ∨
      ∃ key ∈ c.query.tableKeys, Reference.refersTo ref key = true := by
    decide +kernel
  have haliases : ∀ t ∈ c.query.tables, ∀ a ∈ t.aliasName, Sql.IsName a ∧ a ≠ t.name := by
    decide +kernel
  have hfrom : c.query.fromKey = ["e"] := rfl
  have hjoins : c.query.completeJoins =
      [⟨.left, "e", "boss", "m", "id"⟩, ⟨.inner, "offices", "id", "m", "office"⟩] := by
    decide +kernel
  have hpredicates : c.query.predicates = [⟨"e.pay", .ge, " 1000 ", .or⟩,
      ⟨"m.name", .notLike, "O'%", .and⟩, ⟨"grade", .isIn, "1, 'b'", .and⟩,
      ⟨"m.age", .between, "30, 40", .and⟩, ⟨"offices.city", .isNotNull, "gone", .and⟩] := by
    decide +kernel
  have hpay : (Sql.Constant.number false (.ofNat 1000)).Means " 1000 " :=
    ⟨by decide +kernel, by decide +kernel⟩
  have hgrades : (Sql.Check.among false [.number false (.ofNat 1), .text "b"]).Means "1, 'b'" := by
    refine ⟨List.cons_ne_nil _ _, ?_, by decide +kernel⟩
    simp [Sql.Constant.IsWhole, Sql.Numeral.isWhole_ofNat]
  have hages : Sql.IsRange "30, 40" (.number false (.ofNat 30)) (.number false (.ofNat 40)) := by
    have hlow : (Sql.Constant.number false (.ofNat 30)).Means "30" :=
      ⟨by decide +kernel, by decide +kernel⟩
    have hhigh : (Sql.Constant.number false (.ofNat 40)).Means "40" :=
      ⟨by decide +kernel, by decide +kernel⟩
    have hapart : Separable "30" "40" := by
      refine (formatRange_bare_iff (by decide) (by decide)).1 ?_
      decide +kernel
    exact .separated rfl rfl hlow hhigh (by decide) (by decide) hapart
  have hc : c.query.IsPlain c.catalog :=
    { filled := List.cons_ne_nil _ _
      names := by decide +kernel
      aliases := haliases
      distinct := by decide +kernel
      aliased := by decide +kernel
      spelled := by decide +kernel
      columns := fun t ht column h => hnamed t ht column (Query.mem_namedColumns h)
      selections := fun key _ =>
        Selections.Distinct.get (by simp [Selections.Distinct, Selection.Distinct, c]) key
      references := fun ref href => (hrefs ref href).imp_right fun ⟨key, hkey, hlead⟩ =>
        ⟨key, hkey, Reference.refersTo_iff_exists.1 hlead⟩
      groups := by decide +kernel
      sorts := by decide +kernel
      joinEnds := by decide +kernel
      chained := by
        rw [hjoins]
        simp [Join.chained_cons, Join.chained_nil, Join.sides, hfrom]
      joined := by decide +kernel
      ands := by decide +kernel
      values := by
        rw [hpredicates]
        simp only [List.forall_mem_cons]
        exact ⟨⟨.compare .ge (.number false (.ofNat 1000)), rfl, hpay⟩,
          ⟨.like true (.text "O'%"), rfl, rfl, by decide +kernel, by decide +kernel⟩,
          ⟨.among false [.number false (.ofNat 1), .text "b"], rfl, hgrades⟩,
          ⟨.between false (.number false (.ofNat 30)) (.number false (.ofNat 40)), rfl, hages⟩,
          ⟨.isNull true, rfl, trivial⟩, by simp⟩ }
  exact ⟨hc, plain_query_read_back c hc⟩

end QueryDesigner

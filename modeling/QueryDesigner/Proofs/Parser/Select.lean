import Mathlib
import QueryDesigner.Proofs.Parser.Clause

/-!
# Reading plain SELECT statements

* `Item`, `PlainSelect` — a SELECT statement of columns from joined tables, clause by clause;
* `PlainSelect.lexemes`, `PlainSelect.select` — its tokens and its syntax tree;
* `statementOf?_row` — the tokens are read as the tree.
-/

namespace QueryDesigner
namespace Sql

open QueryDesigner.Sql.Parser

variable {g : Grammar} {ts us vs rest : List Token} {a b c d : Nat}

/-! ## Statements -/

/-- An entry of a SELECT list: all columns of a table, or one of them. -/
inductive Item where
  | all (key : String)
  | column (key name : String)
  deriving DecidableEq, Repr

namespace Item

def key : Item → String
  | all key => key
  | column key _ => key

/-- The token after the point. -/
def last : Item → Lexeme
  | all _ => .of .sign "*"
  | column _ name => .of .word name

/-- The tokens of an entry. -/
def lexemes (i : Item) : List Lexeme := [.of .word i.key, .of .sign ".", i.last]

def expr : Item → Expr
  | all key => .columns [⟨key, false⟩] []
  | column key name => .column [⟨key, false⟩] ⟨name, false⟩

/-- Its words are names. -/
def IsNamed : Item → Prop
  | all key => IsName key
  | column key name => IsName key ∧ IsName name

theorem IsNamed.key {i : Item} (hi : i.IsNamed) : IsName i.key := by
  cases i with
  | all key => exact hi
  | column key name => exact hi.1

end Item

/-- A SELECT statement of columns from tables that are joined on equalities. -/
structure PlainSelect where
  items : List Item
  source : SourceTable
  joins : List TableJoin
  tests : List Test
  groups : List Ref
  orders : List SortEntry
  page : Option Page
  deriving DecidableEq, Repr

namespace PlainSelect

/-- The tokens of the clauses after the joins. -/
def clauseRow (p : PlainSelect) : List Lexeme :=
  whereRow p.tests ++ (listRow "GROUP BY" (p.groups.map Ref.lexemes) ++
    (listRow "ORDER BY" (p.orders.map SortEntry.lexemes) ++ p.page.elim [] Page.lexemes))

/-- The tokens of a statement. -/
def lexemes (p : PlainSelect) : List Lexeme :=
  .of .word "SELECT" :: (separated (p.items.map Item.lexemes) ++
    .of .word "FROM" :: (p.source.lexemes ++ (p.joins.flatMap TableJoin.lexemes ++ p.clauseRow)))

/-- What follows the FROM clause. -/
def tail (p : PlainSelect) : Tail :=
  let tail : Tail :=
    { Tail.empty with
      joins := p.joins.map TableJoin.join
      condition := conditionOf p.tests
      grouping := groupingOf p.groups
      order := p.orders.map SortEntry.item }
  p.page.elim tail fun page => page.addTo tail

section Tail

variable (p : PlainSelect)

theorem joins_tail : p.tail.joins = p.joins.map TableJoin.join := by
  unfold tail
  cases p.page <;> rfl

theorem condition_tail : p.tail.condition = conditionOf p.tests := by
  unfold tail
  cases p.page <;> rfl

theorem grouping_tail : p.tail.grouping = groupingOf p.groups := by
  unfold tail
  cases p.page <;> rfl

theorem having_tail : p.tail.having = none := by
  unfold tail
  cases p.page <;> rfl

theorem order_tail : p.tail.order = p.orders.map SortEntry.item := by
  unfold tail
  cases p.page <;> rfl

theorem limit_tail : p.tail.limit =
    p.page.map fun page => ⟨some (.literal (.numeral page.limit)), "", none, []⟩ := by
  unfold tail
  cases p.page <;> rfl

theorem offset_tail : p.tail.offset =
    p.page.bind fun page => page.offset.map fun n => ⟨.literal (.numeral n), []⟩ := by
  unfold tail
  cases p.page <;> rfl

end Tail

def select (p : PlainSelect) : Select :=
  ⟨[], [], false, [], [], p.items.map Item.expr, some p.source.source, p.tail⟩

/-- Its words are names, and it has an entry. -/
structure IsWritten (p : PlainSelect) : Prop where
  filled : p.items ≠ []
  items : ∀ i ∈ p.items, i.IsNamed
  source : p.source.IsNamed
  joins : ∀ j ∈ p.joins, j.IsNamed
  tests : ∀ t ∈ p.tests, t.IsWritten
  groups : ∀ r ∈ p.groups, r.IsNamed
  orders : ∀ s ∈ p.orders, s.column.IsNamed

end PlainSelect

/-! ## The clauses after the joins -/

theorem opens_page {page : Option Page} (hrow : Row us (page.elim [] Page.lexemes)) :
    Opens clauseOpeners us := by
  cases page with
  | none =>
      cases hrow
      exact .nil _
  | some page => cases hrow with | cons _ a b hrow => exact .cons (by decide) a b [] _

theorem opens_listRow {word : String} {items : List (List Lexeme)}
    (hword : .of .phrase word ∈ clauseOpeners) (hrow : Row us (listRow word items))
    (hvs : Opens clauseOpeners vs) : Opens clauseOpeners (us ++ vs) := by
  cases items with
  | nil =>
      cases hrow
      exact hvs
  | cons item items => cases hrow with | cons _ a b hrow => exact .cons hword a b [] _

theorem readsClauses_finds {p : PlainSelect} (hp : p.IsWritten) (hrow : Row us p.clauseRow) :
    Opens joinsClosers us ∧
      ReadsClauses g.above.above.above us { Tail.empty with joins := p.joins.map TableJoin.join }
        p.tail := by
  obtain ⟨ws, vs, rfl, hwhere, hrow⟩ := Row.of_append hrow
  obtain ⟨gs, vs, rfl, hgroup, hrow⟩ := Row.of_append hrow
  obtain ⟨os, ps, rfl, horder, hpage⟩ := Row.of_append hrow
  have hpaged : Opens clauseOpeners ps := opens_page hpage
  have hordered : Opens clauseOpeners (os ++ ps) := opens_listRow (by decide) horder hpaged
  have hgrouped : Opens clauseOpeners (gs ++ (os ++ ps)) := opens_listRow (by decide) hgroup hordered
  constructor
  · cases htests : p.tests with
    | nil =>
        rw [htests] at hwhere
        cases hwhere
        exact hgrouped.mono (by decide)
    | cons first others =>
        rw [htests] at hwhere
        cases hwhere with
        | cons _ a b hwhere => exact .cons (by decide) a b [] _
  · exact readsClauses_where hp.tests hwhere rfl rfl hgrouped
      (readsClauses_group hp.groups hgroup rfl rfl hordered
        (readsClauses_order hp.orders horder rfl rfl hpaged
          (readsClauses_page rfl rfl hpage)))

/-! ## The SELECT list -/

/-- The tokens that end an entry of a SELECT list. -/
def itemClosers : List Lexeme := [.of .sign ",", .of .word "FROM"]

theorem endsItem_of_opens (h : Opens itemClosers ts) : EndsItem ts where
  marks := h.next_notMem (by decide) (by decide)
  name := by
    have hall : ∀ l ∈ itemClosers, ∀ start stop comments,
        isNameToken [] ⟨l, start, stop, comments⟩ = false ∧ l.kind ≠ .text := by
      simp only [itemClosers, List.forall_mem_cons, List.not_mem_nil, false_implies, implies_true,
        and_true]
      refine ⟨?_, ?_⟩ <;> intro start stop comments <;>
        exact ⟨by simp only [isNameToken, Token.keyword_mk]; decide, by decide⟩
    exact fun t ht => hall _ (h t ht) t.start t.stop t.comments

theorem expressionItem_finds_item {i : Item} (hi : i.IsNamed) (hrow : Row us i.lexemes)
    (hends : Opens itemClosers ts) : Finds g.expressionItem (us ++ ts) i.expr ts := by
  have hclosers : Opens closers ts := hends.mono (by decide)
  have hoperand : EndsOperand ts := endsOperand_of_opens (hclosers.mono (List.subset_cons_self _ _))
  have hunary : Finds g.unaryExpr (us ++ ts) i.expr ts := by
    cases i with
    | all key =>
        exact unaryExpr_finds_star hi hrow (hends.next_notMem (by decide) (by decide)) hoperand
    | column key name =>
        have hcolumn : (Ref.qualified key name).IsNamed := hi
        exact unaryExpr_finds_ref hcolumn hrow hoperand
  exact expressionItem_of_assignmentExpr (assignmentExpr_of_unaryExpr hunary hclosers)
    (endsItem_of_opens hends)

/-- The first two tokens of a SELECT list. -/
theorem next_items {items : List Item} (hfilled : items ≠ []) (hall : ∀ i ∈ items, i.IsNamed)
    (hrow : Row us (separated (items.map Item.lexemes))) (ts : List Token) :
    (∀ words : List String, words.all (fun v => keywords.contains v || !isPlain v) = true →
      next (us ++ ts) ∉ words) ∧ next (us ++ ts).tail = "." ∧
        ∀ t ∈ (us ++ ts).head?, t.kind = .word := by
  obtain ⟨i, items, rfl⟩ := List.exists_cons_of_ne_nil hfilled
  have hi := hall i List.mem_cons_self
  have hstart : ∃ rest, separated ((i :: items).map Item.lexemes) =
      .of .word i.key :: .of .sign "." :: rest := by
    cases items with
    | nil => exact ⟨_, rfl⟩
    | cons j items => exact ⟨_, rfl⟩
  obtain ⟨rest, hstart⟩ := hstart
  rw [hstart] at hrow
  cases hrow with
  | cons _ a b hrow =>
      cases hrow with
      | cons _ c d hrow =>
          refine ⟨fun words hwords => next_cons_notMem (hi.key.upper_notMem hwords) a b _,
            next_cons _ c d [] _, fun t ht => ?_⟩
          obtain rfl := Option.some.inj ht
          rfl

/-! ## SELECT -/

theorem plannerHints_none (h : ∀ t ∈ ts.head?, t.kind = .word) :
    g.plannerHints ts = some ([], ts) := by
  have hmiss : Misses (takeKind? .hint) ts := takeIf?_misses fun t ht => by rw [h t ht]; rfl
  rw [Grammar.plannerHints, run_bind_of hmiss]
  rfl

/-- A word before a point is a name. -/
theorem distinct_false (h : next ts.tail = ".") : Grammar.distinct ts = some (false, ts) := by
  rw [Grammar.distinct, run_bind_of (run_get _), run_bind_of (run_keywordAhead _), h]
  simp only [ne_eq, not_true_eq_false, and_false, if_false]
  rfl

theorem advice_none (h : next ts ∉ Grammar.adviceWords) :
    repeated (takeIf? fun t => Grammar.adviceWords.contains t.keyword) ts = some ([], ts) :=
  repeated_misses (show Misses (acceptOne? Grammar.adviceWords) ts from acceptOne?_misses h)

theorem exprList_finds_items {items : List Item} (hfilled : items ≠ [])
    (hall : ∀ i ∈ items, i.IsNamed) (hrow : Row us (separated (items.map Item.lexemes)))
    (a b : Nat) (ts : List Token) :
    exprList g.above.expression (us ++ ⟨.of .word "FROM", a, b, []⟩ :: ts) =
      some (items.map Item.expr, ⟨.of .word "FROM", a, b, []⟩ :: ts) := by
  have hopens : Opens itemClosers (⟨.of .word "FROM", a, b, []⟩ :: ts) := .cons (by decide) a b [] ts
  exact exprList_of_findsList (findsList_of_row
    (fun i hi us ts hrow hends => expressionItem_finds_item (hall i hi) hrow hends) (by decide)
    hfilled hrow hopens (by rw [next_cons]; decide))

theorem from?_misses (h : next ts ≠ "FROM") : Misses g.from? ts := by
  rw [Misses, Grammar.from?, run_bind_of (accept?_misses h)]
  rfl

theorem from?_finds {t : SourceTable} (ht : t.IsNamed) (hrow : Row us t.lexemes)
    (hends : Opens tableClosers ts) :
    Finds g.above.above.from? (⟨.of .word "FROM", a, b, []⟩ :: (us ++ ts)) (t.source, []) ts := by
  have htable : require g.above.above.source (us ++ ts) = some (t.source, ts) :=
    require_finds (sourceItem_finds_table ht hrow hends)
  rw [Finds, Grammar.from?,
    run_bind_of (accept?_finds "FROM" (l := .of .word "FROM") (by decide) a b _)]
  simp only
  rw [run_bind_of htable]
  rfl

theorem lateralViews_none (h : next ts ≠ "LATERAL") : repeated g.lateralView? ts = some ([], ts) := by
  refine repeated_misses ?_
  rw [Misses, Grammar.lateralView?, run_bind_of (acceptAll_false h)]
  rfl

theorem modifiers_finds {p : PlainSelect} (hp : p.IsWritten)
    (hjoins : Row us (p.joins.flatMap TableJoin.lexemes)) (hclauses : Row vs p.clauseRow) :
    g.above.above.above.modifiers { Tail.empty with comments := {} } (us ++ vs) =
      some (p.tail, []) := by
  obtain ⟨hopens, hreads⟩ := readsClauses_finds (g := g) hp hclauses
  rw [Grammar.modifiers, run_bind_of (joinList_finds hp.joins hjoins hopens),
    run_bind_of (lateralViews_none (hopens.next_ne (by decide) (by decide)))]
  exact hreads.clauses

/-- A plain SELECT statement is read as such. -/
theorem selectAfter?_finds {p : PlainSelect} (hp : p.IsWritten) (hrow : Row us p.lexemes) :
    Finds (g.above.above.above.selectAfter? none) us (.select p.select) [] := by
  cases hrow with
  | cons _ a b hrow =>
      obtain ⟨is, fs, rfl, hitems, hrow⟩ := Row.of_append hrow
      cases hrow with
      | @cons fs _ _ c d hrow =>
          obtain ⟨ss, rest, rfl, hsource, hrow⟩ := Row.of_append hrow
          obtain ⟨js, cs, rfl, hjoins, hclauses⟩ := Row.of_append hrow
          obtain ⟨hopens, -⟩ := readsClauses_finds (g := g) hp hclauses
          obtain ⟨hfirst, hpoint, hkind⟩ := next_items hp.filled hp.items hitems
            (⟨.of .word "FROM", c, d, []⟩ :: (ss ++ (js ++ cs)))
          have hfrom := from?_finds (g := g.above) (a := c) (b := d) hp.source hsource
            ((opens_joins hjoins hopens).mono (by decide))
          have hinto : Misses g.above.above.above.into?
              (⟨.of .word "FROM", c, d, []⟩ :: (ss ++ (js ++ cs))) := by
            rw [Misses, Grammar.into?, run_bind_of (accepts_false (by rw [next_cons]; decide))]
            rfl
          rw [Finds, Grammar.selectAfter?,
            run_bind_of (accept?_finds "SELECT" (l := .of .word "SELECT") (by decide) a b _)]
          simp only
          rw [run_bind_of (plannerHints_none hkind), run_bind_of (distinct_false hpoint)]
          simp only [Bool.false_eq_true, if_false]
          rw [run_bind_of (run_pure _ _), run_bind_of (advice_none (hfirst _ (by decide +kernel))),
            run_bind_of (exprList_finds_items hp.filled hp.items hitems c d _), run_bind_of hinto]
          simp only [Option.isSome_none, Bool.false_eq_true, if_false]
          rw [run_bind_of hfrom]
          simp only [Option.map_some, Option.getD_some]
          rw [run_bind_of (modifiers_finds hp hjoins hclauses)]
          rfl

/-! ## Queries -/

theorem keyword_select {p : PlainSelect} (hrow : Row us p.lexemes) : next us = "SELECT" := by
  cases hrow with
  | cons _ a b hrow =>
      rw [next_cons]
      decide

theorem setOperations_select (s : Select) :
    g.setOperations (.select s) [] = some (.select s, []) := rfl

theorem queryItem_finds {p : PlainSelect} (hp : p.IsWritten) (hrow : Row us p.lexemes) :
    Finds g.above.above.above.queryItem us (.select p.select) [] := by
  have hkeyword : next us = "SELECT" := keyword_select hrow
  have hwith : Misses g.above.above.above.withQuery? us := by
    rw [Misses, Grammar.withQuery?, run_bind_of (accepts_false (by rw [hkeyword]; decide))]
    rfl
  have hselect : Finds g.above.above.above.selectQuery? us (.select p.select) [] := by
    rw [Finds, Grammar.selectQuery?, run_bind_of (from?_misses (by rw [hkeyword]; decide)),
      run_bind_of (selectAfter?_finds hp hrow)]
    rfl
  have hsimple : Finds g.above.above.above.simpleQuery? us (.select p.select) [] := by
    rw [Finds, Grammar.simpleQuery?, run_bind_of hwith]
    simp only
    rw [run_bind_of hselect]
    rfl
  rw [Finds, Grammar.queryItem, run_bind_of (run_keyword us), hkeyword]
  simp only [show (["DESCRIBE", "EXPLAIN"].contains "SELECT") = false by decide,
    Bool.false_eq_true, if_false]
  rw [run_bind_of hsimple]
  simp only
  rw [run_bind_of (setOperations_select _)]
  rfl

/-- Nothing follows the statement. -/
theorem continuedQuery_select (s : Select) :
    g.continuedQuery (.select s) [] = some (.select s, []) := by
  obtain ⟨comments, hints, isDistinct, keys, modifiers, items, source, tail⟩ := s
  have hmodifiers : g.modifiers tail [] = some (tail, []) := by
    have hjoins : g.joinList [] = some ([], []) := rfl
    have hviews : repeated g.lateralView? [] = some ([], []) := rfl
    have hclauses : ∀ tail : Tail, g.clauses tail [] = some (tail, []) := fun _ => rfl
    rw [Grammar.modifiers, run_bind_of hjoins, run_bind_of hviews, hclauses]
    cases tail
    simp only [List.append_nil]
  rw [Grammar.continuedQuery, run_bind_of (setOperations_select _), Grammar.modified,
    run_bind_of hmodifiers]
  rfl

/-! ## What no expression starts with -/

theorem chain_misses {operator : Parser (Option (Grammar.Combination × List String))}
    {operand : Parser (Option Expr)} (h : Misses operand ts) (hoperator : Misses operator ts) :
    Misses (Grammar.chain operator operand) ts := by
  rw [Misses, Grammar.chain, run_bind_of h]
  simp only
  rw [run_bind_of (wouldFind_false hoperator)]
  rfl

section NoExpression

variable {t : Token} (hkind : t.kind = .word) (hkeyword : t.keyword = "SELECT")
include hkind hkeyword

theorem columnExpr_misses (hus : next us ≠ "(") : Misses g.columnExpr (t :: us) := by
  have hnext : next (t :: us) = "SELECT" := hkeyword
  have hnone : ∀ u ∈ (t :: us).head?, constantOf? u = none := by
    intro u hu
    obtain rfl := Option.some.inj hu
    exact constantOf?_eq_none (by rw [hkind]; decide) (by rw [hkeyword]; decide)
  have hname : Misses Grammar.columnName? (t :: us) := by
    have htake : Misses (nameToken? []) (t :: us) := by
      refine takeIf?_misses fun u hu => ?_
      obtain rfl := Option.some.inj hu
      rw [isNameToken, hkind, hkeyword]
      decide
    rw [Misses, Grammar.columnName?, run_bind_of htake]
    rfl
  have hword : Misses g.keywordExpr? (t :: us) := by
    rw [Misses, Grammar.keywordExpr?, run_bind_of (run_keyword _), hnext]
    rfl
  have hfield : Misses g.field? (t :: us) := by
    refine foldr_orElse?_misses ?_
    simp only [List.forall_mem_cons, List.not_mem_nil, false_implies, implies_true, and_true]
    exact ⟨primary?_misses hnone (by rw [hnext]; decide +kernel),
      hword, nullaryCall?_misses (by rw [hnext]; decide), call?_misses hus,
      bracedCall?_misses (by rw [hnext]; decide), userVariable?_misses (by rw [hnext]; decide), hname⟩
  have hmoment : Misses Grammar.bracedMoment? (t :: us) := by
    cases us with
    | nil => rfl
    | cons u us =>
        have hbrace : t.is "\x7b" = false := by rw [Token.is, hkeyword]; decide
        rw [Misses, Grammar.bracedMoment?, run_bind_of (run_get _)]
        simp only [hbrace, Bool.false_eq_true, if_false]
        rfl
  have harray : Misses g.array? (t :: us) := by
    rw [Misses, Grammar.array?, run_bind_of (accepts_false (by rw [hnext]; decide))]
    simp only [Bool.false_eq_true, if_false]
    rw [run_bind_of (accepts_false (by rw [hnext]; decide))]
    rfl
  have hall : orElse? g.field? (orElse? Grammar.bracedMoment? g.array?) (t :: us) =
      some (none, t :: us) := by
    rw [orElse?_misses hfield, orElse?_misses hmoment]
    exact harray
  rw [Misses, Grammar.columnExpr, run_bind_of hall]
  rfl

theorem unaryExpr_misses (hus : next us ≠ "(") : Misses g.unaryExpr (t :: us) := by
  have hnext : next (t :: us) = "SELECT" := hkeyword
  have htype : Misses typeName? (t :: us) := typeName?_misses (by rw [hkeyword]; decide +kernel)
  have hatom : Misses g.atom? (t :: us) := by
    have hbefore : orElse? g.interval? typedConstant? (t :: us) = some (none, t :: us) := by
      rw [orElse?_misses (interval?_misses (by rw [hnext]; decide))]
      exact typedConstant?_of_typeName? htype
    rw [Misses, Grammar.atom?, run_bind_of hbefore]
    simp only
    rw [orElse?_misses (bytes?_misses (by rw [hnext]; decide))]
    exact columnExpr_misses hkind hkeyword hus
  rw [Misses, Grammar.unaryExpr, run_bind_of (acceptOne?_misses (by rw [hnext]; decide))]
  simp only
  rw [run_bind_of hatom]
  rfl

/-- A query is no expression. -/
theorem expressionItem_misses (hus : next us ≠ "(") :
    Misses g.expressionItem (t :: us) := by
  have hnext : next (t :: us) = "SELECT" := hkeyword
  have hoperator : ∀ table : List (String × Grammar.Combination), "SELECT" ∉ table.map Prod.fst →
      Misses (Grammar.operator? table) (t :: us) := fun table htable =>
    operator?_misses (by rwa [hnext])
  have hbits : Misses Grammar.bitOperator? (t :: us) :=
    bitOperator?_misses ⟨by rw [hnext]; decide, .inl (by rw [hnext]; decide)⟩
  have hfactor : Misses g.factorExpr (t :: us) := by
    rw [Misses, Grammar.factorExpr, run_bind_of (unaryExpr_misses hkind hkeyword hus)]
    simp only
    rw [run_bind_of (wouldFind_false (hoperator Grammar.factorOperators (by decide)))]
    rfl
  have hbitwise : Misses g.bitwiseExpr (t :: us) :=
    chain_misses (chain_misses hfactor (hoperator _ (by decide))) hbits
  have hrange : Misses g.rangeExpr (t :: us) := by
    rw [Misses, Grammar.rangeExpr, run_bind_of hbitwise]
    rfl
  have hequality : Misses g.equalityExpr (t :: us) :=
    chain_misses (chain_misses hrange (hoperator _ (by decide))) (hoperator _ (by decide))
  have hdisjunction : Misses g.disjunctionExpr (t :: us) :=
    chain_misses (chain_misses hequality (hoperator _ (by decide))) (hoperator _ (by decide))
  have hassignment : Misses g.assignmentExpr (t :: us) := by
    rw [Misses, Grammar.assignmentExpr, run_bind_of hdisjunction]
    rfl
  rw [Misses, Grammar.expressionItem, run_bind_of hassignment]
  rfl

end NoExpression

/-! ## Statements -/

theorem statement?_finds {p : PlainSelect} (hp : p.IsWritten) (hrow : Row us p.lexemes) :
    Finds g.above.above.above.above.statement? us (.query (.select p.select)) [] := by
  have hkeyword : next us = "SELECT" := keyword_select hrow
  have hexpression : Misses g.above.above.above.above.expression us := by
    cases hrow with
    | cons _ a b hrow =>
        obtain ⟨is, fs, rfl, hitems, -⟩ := Row.of_append hrow
        obtain ⟨hfirst, -, -⟩ := next_items hp.filled hp.items hitems fs
        have hparen : next (is ++ fs) ≠ "(" := ne_of_notMem (hfirst ["("] (by decide)) (by decide)
        exact expressionItem_misses rfl ((Token.keyword_mk _ a b []).trans (by decide)) hparen
  have hquery : Finds g.above.above.above.above.query us (.select p.select) [] :=
    queryItem_finds hp hrow
  have hcontinued : g.above.above.above.above.continued (.select p.select) [] =
      some (.select p.select, []) := continuedQuery_select p.select
  have hstatement : Finds g.above.above.above.above.queryStatement? us
      (.query (.select p.select)) [] := by
    rw [Finds, Grammar.queryStatement?, run_bind_of hexpression]
    simp only
    rw [run_bind_of hquery]
    simp only
    rw [run_bind_of hcontinued]
    rfl
  rw [Finds, Grammar.statement?, run_bind_of (run_keyword us), hkeyword]
  exact hstatement

/-- The tokens of a plain SELECT statement are read as its tree. -/
theorem statementOf?_row {p : PlainSelect} (hp : p.IsWritten) (hrow : Row us p.lexemes) :
    statementOf? us = some (some (.query (.select p.select))) := by
  have hdepth : ∃ depth, depthFor us = depth + 4 := by
    cases hrow with
    | cons _ a b hrow =>
        rename_i ts
        exact ⟨2 * ts.length, by simp only [depthFor, List.length_cons]; omega⟩
  obtain ⟨depth, hdepth⟩ := hdepth
  have hfinds := statement?_finds (g := Grammar.level depth) hp hrow
  cases us with
  | nil => cases hrow
  | cons t us =>
      have hlevel : Grammar.level (depthFor (t :: us)) =
          (Grammar.level depth).above.above.above.above := by
        rw [hdepth]
        rfl
      simp only [statementOf?, hlevel]
      rw [hfinds]

end Sql
end QueryDesigner

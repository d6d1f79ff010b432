import Mathlib
import QueryDesigner.Proofs.Parser.Source

/-!
# Reading clauses

* `SortEntry`, `Page` — an entry of an order, and the numbers of rows, as they stand in a
  statement;
* `ReadsClauses` — how the tail of a query changes along the clauses that are left;
* `readsClauses_page`, `readsClauses_order`, `readsClauses_group`, `readsClauses_condition` — one
  lemma for each clause, from the last one to the first.
-/

namespace QueryDesigner
namespace Sql

open QueryDesigner.Sql.Parser
open QueryDesigner.Sql.Grammar (clauseWords)

variable {g : Grammar} {ts us vs rest : List Token} {tail tail' : Tail} {a b c d : Nat}

/-! ## Clauses, one after the other -/

/-- From here on the clauses change the tail of a query in this way, and nothing is left. -/
def ReadsClauses (g : Grammar) (us : List Token) (tail tail' : Tail) : Prop :=
  ∀ steps, us.length ≤ steps → g.clausesFrom steps tail us = some (tail', [])

theorem readsClauses_nil (tail : Tail) : ReadsClauses g [] tail tail := by
  intro steps _
  cases steps with
  | zero => rfl
  | succ n => rfl

theorem ReadsClauses.cons {next : Tail} (h : Finds (g.clause? tail) us next vs)
    (hlt : vs.length < us.length) (hvs : ReadsClauses g vs next tail') :
    ReadsClauses g us tail tail' := by
  intro steps hsteps
  cases steps with
  | zero => omega
  | succ n =>
      simp only [Grammar.clausesFrom]
      rw [run_bind_of h]
      exact hvs n (by omega)

theorem ReadsClauses.clauses (h : ReadsClauses g us tail tail') :
    g.clauses tail us = some (tail', []) := by
  rw [Grammar.clauses, run_bind_of (run_get us)]
  exact h _ le_rfl

/-- A clause that is a list of items; without items it is not there. -/
def listRow (word : String) : List (List Lexeme) → List Lexeme
  | [] => []
  | items => .of .phrase word :: separated items

/-- The tokens with which clauses start that stand after a WHERE clause. -/
def clauseOpeners : List Lexeme :=
  .of .word "LIMIT" :: ["GROUP BY", "ORDER BY"].map fun w => .of .phrase w

/-! ## Paging -/

/-- The numbers of rows that are kept and skipped. -/
structure Page where
  limit : Numeral
  offset : Option Numeral := none
  deriving DecidableEq, Repr

namespace Page

/-- The tokens of the clauses. -/
def lexemes (p : Page) : List Lexeme :=
  .of .word "LIMIT" :: p.limit.lexeme ::
    p.offset.elim [] fun n => [.of .word "OFFSET", n.lexeme]

/-- What the clauses add to the tail of a query. -/
def addTo (p : Page) (tail : Tail) : Tail :=
  { tail with
    limit := some ⟨some (.literal (.numeral p.limit)), "", none, []⟩
    offset := p.offset.map fun n => ⟨.literal (.numeral n), []⟩ }

end Page

theorem termExpr_finds_numeral (n : Numeral) (hends : Opens testClosers ts) :
    Finds g.above.termExpr (⟨n.lexeme, a, b, []⟩ :: ts) (.literal (.numeral n)) ts := by
  have hrow : Row [⟨n.lexeme, a, b, []⟩] (Constant.number false n).lexemes := .cons _ a b .nil
  exact termExpr_of_unaryExpr (unaryExpr_finds_constant hrow (endsOperand_of_opens hends))
    (endsTerm_of_opens hends)

/-- The words after a number of rows. -/
def rowMarks : List String := ["PERCENT", "%", "MOD", "ROW", "ROWS", "ONLY", "WITH", "BY", ","]

theorem countedGroups_none (h : next ts ∉ rowMarks) : g.countedGroups ts = some ([], ts) := by
  rw [Grammar.countedGroups, run_bind_of (accepts_false (ne_of_notMem h (by decide)))]
  rfl

theorem limit?_finds (n : Numeral) (hends : Opens testClosers ts) (h : next ts ∉ rowMarks) :
    Finds g.above.above.limit? (⟨.of .word "LIMIT", a, b, []⟩ :: ⟨n.lexeme, c, d, []⟩ :: ts)
      (none, ⟨some (.literal (.numeral n)), "", none, []⟩) ts := by
  have hterm : Finds (attempt g.above.above.term) (⟨n.lexeme, c, d, []⟩ :: ts)
      (.literal (.numeral n)) ts := attempt_of_some (termExpr_finds_numeral n hends)
  have hcount : Finds g.above.above.rowCount? (⟨n.lexeme, c, d, []⟩ :: ts)
      (.literal (.numeral n)) ts := by
    rw [Finds, Grammar.rowCount?, run_bind_of (run_get _), run_bind_of hterm]
    rfl
  have hoptions : limitOptions ts = some ("", ts) := by
    rw [limitOptions, run_bind_of (acceptOne?_misses (notMem_of_subset h (by decide))),
      run_bind_of (acceptOne?_misses (notMem_of_subset h (by decide))),
      run_bind_of (accept?_misses (ne_of_notMem h (by decide))),
      run_bind_of (acceptAll_false (ne_of_notMem h (by decide)))]
    rfl
  rw [Finds, Grammar.limit?,
    run_bind_of (accept?_finds "LIMIT" (l := .of .word "LIMIT") (by decide) a b _)]
  simp only
  rw [run_bind_of (require_finds hcount), run_bind_of hoptions,
    run_bind_of (accepts_false (ne_of_notMem h (by decide)))]
  simp only [Bool.false_eq_true, if_false]
  rw [run_bind_of (countedGroups_none h)]
  rfl

theorem offset?_finds (n : Numeral) (a b c d : Nat) :
    Finds g.above.above.offset? [⟨.of .word "OFFSET", a, b, []⟩, ⟨n.lexeme, c, d, []⟩]
      ⟨.literal (.numeral n), []⟩ [] := by
  have hterm : Finds g.above.above.term [⟨n.lexeme, c, d, []⟩] (.literal (.numeral n)) [] :=
    termExpr_finds_numeral n (.nil _)
  have hrows : Misses (acceptOne? ["ROW", "ROWS"]) [] := acceptOne?_misses (by decide)
  rw [Finds, Grammar.offset?,
    run_bind_of (accepts_true "OFFSET" (l := .of .word "OFFSET") (by decide) a b _)]
  simp only [if_true]
  rw [run_bind_of (require_finds hterm), run_bind_of hrows,
    run_bind_of (countedGroups_none (by decide))]
  rfl

theorem clause?_limit {n : Numeral} (hlimit : tail.limit = none) (hends : Opens testClosers ts)
    (h : next ts ∉ rowMarks) :
    Finds (g.above.above.clause? tail) (⟨.of .word "LIMIT", a, b, []⟩ :: ⟨n.lexeme, c, d, []⟩ :: ts)
      { tail with limit := some ⟨some (.literal (.numeral n)), "", none, []⟩ } ts := by
  have hkeyword : next (⟨.of .word "LIMIT", a, b, []⟩ :: ⟨n.lexeme, c, d, []⟩ :: ts) = "LIMIT" := by
    rw [next_cons]
    decide
  have hfetch : Misses g.above.above.fetch?
      (⟨.of .word "LIMIT", a, b, []⟩ :: ⟨n.lexeme, c, d, []⟩ :: ts) := by
    rw [Misses, Grammar.fetch?, run_bind_of (accepts_false (by rw [hkeyword]; decide))]
    rfl
  have hclause : g.above.above.limitClause tail
      (⟨.of .word "LIMIT", a, b, []⟩ :: ⟨n.lexeme, c, d, []⟩ :: ts) =
        some ({ tail with limit := some ⟨some (.literal (.numeral n)), "", none, []⟩ }, ts) := by
    rw [Grammar.limitClause, hlimit]
    simp only [Option.isSome_none, Bool.false_eq_true, if_false]
    rw [run_bind_of hfetch]
    simp only
    rw [run_bind_of (require_finds (limit?_finds n hends h))]
    rfl
  rw [Finds, Grammar.clause?, run_bind_of (run_keyword _), hkeyword]
  simp only
  rw [run_bind_of hclause]
  rfl

theorem clause?_offset {n : Numeral} (hoffset : tail.offset = none) (a b c d : Nat) :
    Finds (g.above.above.clause? tail) [⟨.of .word "OFFSET", a, b, []⟩, ⟨n.lexeme, c, d, []⟩]
      { tail with offset := some ⟨.literal (.numeral n), []⟩ } [] := by
  have hkeyword : next [⟨.of .word "OFFSET", a, b, []⟩, ⟨n.lexeme, c, d, []⟩] = "OFFSET" := by
    rw [next_cons]
    decide
  have hclause : g.above.above.offsetClause tail
      [⟨.of .word "OFFSET", a, b, []⟩, ⟨n.lexeme, c, d, []⟩] =
        some ({ tail with offset := some ⟨.literal (.numeral n), []⟩ }, []) := by
    rw [Grammar.offsetClause, run_bind_of (require_finds (offset?_finds n a b c d)), hoffset]
    rfl
  rw [Finds, Grammar.clause?, run_bind_of (run_keyword _), hkeyword]
  simp only
  rw [run_bind_of hclause]
  rfl

/-- The numbers of rows come last. -/
theorem readsClauses_page {page : Option Page} (hlimit : tail.limit = none)
    (hoffset : tail.offset = none) (hrow : Row us (page.elim [] Page.lexemes)) :
    ReadsClauses g.above.above us tail (page.elim tail fun p => p.addTo tail) := by
  cases page with
  | none =>
      cases hrow
      exact readsClauses_nil tail
  | some p =>
      obtain ⟨limit, offset⟩ := p
      cases hrow with
      | cons _ a b hrow =>
          cases hrow with
          | @cons us _ _ c d hrow =>
              set kept : Tail :=
                { tail with limit := some ⟨some (.literal (.numeral limit)), "", none, []⟩ } with hkept
              have hnext : Opens testClosers us ∧ next us ∉ rowMarks ∧
                  ReadsClauses g.above.above us kept (Page.addTo ⟨limit, offset⟩ tail) := by
                cases offset with
                | none =>
                    cases hrow
                    have haddTo : Page.addTo ⟨limit, none⟩ tail = kept := by
                      rw [Page.addTo, Option.map_none, ← hoffset]
                    rw [haddTo]
                    exact ⟨.nil _, by decide, readsClauses_nil kept⟩
                | some n =>
                    cases hrow with
                    | cons _ e f hrow =>
                        cases hrow with
                        | cons _ h k hrow =>
                            cases hrow
                            have hclause := clause?_offset (g := g) (n := n)
                              (show kept.offset = none from hoffset) e f h k
                            exact ⟨.cons (by decide) e f [] _, next_cons_notMem (by decide) e f _,
                              .cons hclause (by simp) (readsClauses_nil _)⟩
              have hclause := clause?_limit (g := g) (n := limit) (a := a) (b := b) (c := c) (d := d)
                hlimit hnext.1 hnext.2.1
              exact .cons hclause (by simp) hnext.2.2

/-! ## Order -/

/-- A column by which rows are ordered. -/
structure SortEntry where
  column : Ref
  isDescending : Bool
  deriving DecidableEq, Repr

namespace SortEntry

/-- The word for a direction. -/
def word (isDescending : Bool) : String := if isDescending then "DESC" else "ASC"

/-- The tokens of an entry. -/
def lexemes (s : SortEntry) : List Lexeme :=
  s.column.lexemes ++ [.of .word (word s.isDescending)]

def item (s : SortEntry) : OrderItem := ⟨s.column.expr, some s.isDescending, false⟩

end SortEntry

/-- The tokens that end an entry of a list. -/
def entryClosers : List Lexeme := .of .sign "," :: clauseOpeners

theorem assignmentExpr_finds_ref {r : Ref} (hr : r.IsNamed) (hrow : Row us r.lexemes)
    (hends : Opens closers ts) : Finds g.assignmentExpr (us ++ ts) r.expr ts :=
  assignmentExpr_of_unaryExpr
    (unaryExpr_finds_ref hr hrow (endsOperand_of_opens (hends.mono (List.subset_cons_self _ _)))) hends

theorem direction?_finds (isDescending : Bool) (a b : Nat) (h : next ts ≠ "DESC") :
    Grammar.direction? (⟨.of .word (SortEntry.word isDescending), a, b, []⟩ :: ts) =
      some (some isDescending, ts) := by
  cases isDescending with
  | true =>
      have hword := accepts_true "DESC" (l := .of .word (SortEntry.word true)) (by decide) a b ts
      rw [Grammar.direction?, run_bind_of (accepts_false (by rw [next_cons]; decide)),
        run_bind_of hword]
      rfl
  | false =>
      have hword := accepts_true "ASC" (l := .of .word (SortEntry.word false)) (by decide) a b ts
      rw [Grammar.direction?, run_bind_of hword, run_bind_of (accepts_false h)]
      rfl

theorem orderItem_finds {s : SortEntry} (hs : s.column.IsNamed) (hrow : Row us s.lexemes)
    (hends : Opens entryClosers ts) : Finds g.above.orderItem (us ++ ts) s.item ts := by
  obtain ⟨vs, ws, rfl, hcolumn, hword⟩ := Row.of_append hrow
  cases hword with
  | cons _ a b hword =>
      cases hword
      have hopens : Opens closers (⟨.of .word (SortEntry.word s.isDescending), a, b, []⟩ :: ts) :=
        .cons (by cases s.isDescending <;> decide) a b [] ts
      have hassignment := assignmentExpr_finds_ref (g := g) hs hcolumn hopens
      have hnulls : ∀ isDescending, Grammar.movesNulls isDescending ts = some (false, ts) := by
        intro isDescending
        rw [Grammar.movesNulls,
          run_bind_of (acceptAll_false (hends.next_ne (by decide) (by decide)))]
        simp only [Bool.false_eq_true, if_false]
        rw [run_bind_of (acceptAll_false (hends.next_ne (by decide) (by decide)))]
        rfl
      rw [List.append_assoc, List.singleton_append, Finds, Grammar.orderItem,
        run_bind_of (show g.above.assignment _ = _ from hassignment)]
      simp only
      rw [run_bind_of (direction?_finds s.isDescending a b (hends.next_ne (by decide) (by decide))),
        run_bind_of (hnulls _)]
      rfl

theorem clause?_order {orders : List SortEntry} (hnone : orders ≠ [])
    (hall : ∀ s ∈ orders, s.column.IsNamed)
    (hrow : Row us (separated (orders.map SortEntry.lexemes))) (horder : tail.order = [])
    (hcomments : tail.comments = {}) (hends : Opens clauseOpeners ts) :
    Finds (g.above.clause? tail) (⟨.of .phrase "ORDER BY", a, b, []⟩ :: (us ++ ts))
      { tail with order := orders.map SortEntry.item } ts := by
  have hitems : commaList g.above.orderItem (us ++ ts) = some (orders.map SortEntry.item, ts) :=
    commaList_of_findsList (findsList_of_row (fun s hs us ts hrow hends =>
      orderItem_finds (hall s hs) hrow hends) (by decide) hnone hrow
      (hends.mono (List.subset_cons_self _ _)) (hends.next_ne (by decide) (by decide)))
  have horders : g.above.orderItems (us ++ ts) = some (orders.map SortEntry.item, ts) := by
    have hfilled : (orders.map SortEntry.item).isEmpty = false := by
      simpa [List.isEmpty_eq_false_iff] using hnone
    rw [Grammar.orderItems, run_bind_of hitems, hfilled]
    rfl
  have hclause : g.above.orderClause tail (⟨.of .phrase "ORDER BY", a, b, []⟩ :: (us ++ ts)) =
      some ({ tail with order := orders.map SortEntry.item }, ts) := by
    rw [Grammar.orderClause,
      run_bind_of (expect_finds "ORDER BY" (l := .of .phrase "ORDER BY") rfl a b _),
      run_bind_of horders, horder, hcomments]
    rfl
  have hkeyword : next (⟨.of .phrase "ORDER BY", a, b, []⟩ :: (us ++ ts)) = "ORDER BY" :=
    next_cons _ a b [] _
  rw [Finds, Grammar.clause?, run_bind_of (run_keyword _), hkeyword]
  simp only
  rw [run_bind_of hclause]
  rfl

/-- The order comes before the numbers of rows. -/
theorem readsClauses_order {orders : List SortEntry} (hall : ∀ s ∈ orders, s.column.IsNamed)
    (hrow : Row us (listRow "ORDER BY" (orders.map SortEntry.lexemes))) (horder : tail.order = [])
    (hcomments : tail.comments = {}) (hends : Opens clauseOpeners vs)
    (hmore : ReadsClauses g.above vs { tail with order := orders.map SortEntry.item } tail') :
    ReadsClauses g.above (us ++ vs) tail tail' := by
  cases orders with
  | nil =>
      cases hrow
      have hsame : ({ tail with order := [] } : Tail) = tail := by
        cases tail
        cases horder
        rfl
      rwa [List.map_nil, hsame] at hmore
  | cons s orders =>
      cases hrow with
      | cons _ a b hrow =>
          refine .cons (clause?_order (List.cons_ne_nil s orders) hall hrow horder hcomments hends)
            ?_ hmore
          simp only [List.length_cons, List.length_append]
          omega

/-! ## Groups -/

/-- What groups add to the tail of a query. -/
def groupingOf : List Ref → Option Grouping
  | [] => none
  | groups => some ⟨"", groups.map Ref.expr, [], false⟩

theorem furtherGroups?_misses (groups : Grammar.Groups) (hends : Opens clauseOpeners ts) :
    Misses (g.furtherGroups? groups) ts := by
  have hset : Misses (g.groupingSet? false) ts := by
    rw [Misses, Grammar.groupingSet?,
      run_bind_of (acceptOne?_misses (hends.next_notMem (by decide) (by decide)))]
    rfl
  have hsets : ∀ depth, Misses (g.groupingSets? (depth + 1)) ts := by
    intro depth
    rw [Misses, Grammar.groupingSets?,
      run_bind_of (accepts_false (hends.next_ne (by decide) (by decide)))]
    rfl
  rw [Misses, Grammar.furtherGroups?, run_bind_of (run_get ts),
    run_bind_of (accepts_false (hends.next_ne (by decide) (by decide))),
    run_bind_of (run_keyword ts), run_bind_of hset]
  simp only
  rw [run_bind_of (hsets _)]
  simp only
  rw [run_bind_of (accepts_false (hends.next_ne (by decide) (by decide)))]
  rfl

theorem groupItem?_finds {r : Ref} (hr : r.IsNamed) (hrow : Row us r.lexemes)
    (hends : Opens entryClosers ts) : Finds g.above.groupItem? (us ++ ts) r.expr ts := by
  have hword : ["CUBE", "ROLLUP"].contains (next (us ++ ts)) = false := by
    have hnot : next (us ++ ts) ∉ ["CUBE", "ROLLUP"] := Ref.next_notMem hr hrow ts (by decide +kernel)
    simpa using hnot
  rw [Finds, Grammar.groupItem?, run_bind_of (run_keyword _), hword]
  exact assignmentExpr_finds_ref hr hrow (hends.mono (by decide))

theorem clause?_group {groups : List Ref} (hnone : groups ≠ []) (hall : ∀ r ∈ groups, r.IsNamed)
    (hrow : Row us (separated (groups.map Ref.lexemes))) (hgrouping : tail.grouping = none)
    (hcomments : tail.comments = {}) (hends : Opens clauseOpeners ts) :
    Finds (g.above.clause? tail) (⟨.of .phrase "GROUP BY", a, b, []⟩ :: (us ++ ts))
      { tail with grouping := some ⟨"", groups.map Ref.expr, [], false⟩ } ts := by
  have hitems : exprList g.above.groupItem? (us ++ ts) = some (groups.map Ref.expr, ts) :=
    exprList_of_findsList (findsList_of_row (fun r hr us ts hrow hends =>
      groupItem?_finds (hall r hr) hrow hends) (by decide) hnone hrow
      (hends.mono (List.subset_cons_self _ _)) (hends.next_ne (by decide) (by decide)))
  have hgroups : ∀ steps, g.above.groupsFrom (steps + 1) {} (us ++ ts) =
      some ({ items := groups.map Ref.expr }, ts) := by
    intro steps
    simp only [Grammar.groupsFrom]
    rw [run_bind_of hitems, run_bind_of (furtherGroups?_misses _ hends)]
    rfl
  have hfirst : ∀ words : List String,
      words.all (fun v => keywords.contains v || !isPlain v) = true →
        next (us ++ ts) ∉ words := by
    intro words hwords
    obtain ⟨r, groups, rfl⟩ := List.exists_cons_of_ne_nil hnone
    have hr := hall r List.mem_cons_self
    cases groups with
    | nil => exact Ref.next_notMem hr hrow ts hwords
    | cons r' groups =>
        obtain ⟨vs, ws, rfl, hvs, -⟩ := Row.of_append hrow
        rw [List.append_assoc]
        exact Ref.next_notMem hr hvs (ws ++ ts) hwords
  have hlength : ∃ n, (us ++ ts).length = n + 1 := by
    cases h : us ++ ts with
    | nil => exact absurd (by rw [h]; decide) (hfirst [""] (by decide))
    | cons t rest => exact ⟨rest.length, rfl⟩
  have hclause : g.above.groupClause tail (⟨.of .phrase "GROUP BY", a, b, []⟩ :: (us ++ ts)) =
      some ({ tail with grouping := some ⟨"", groups.map Ref.expr, [], false⟩ }, ts) := by
    obtain ⟨n, hn⟩ := hlength
    have hwords : clauseWords.contains (next (us ++ ts)) = false := by
      have hnot : next (us ++ ts) ∉ clauseWords := hfirst _ (by decide +kernel)
      simpa using hnot
    rw [Grammar.groupClause,
      run_bind_of (expect_finds "GROUP BY" (l := .of .phrase "GROUP BY") rfl a b _),
      run_bind_of (acceptOne?_misses (hfirst _ (by decide +kernel))), run_bind_of (run_keyword _),
      hwords]
    simp only [Bool.false_eq_true, if_false]
    rw [run_bind_of (run_get _), hn, run_bind_of (hgroups n), hgrouping, hcomments]
    rfl
  have hkeyword : next (⟨.of .phrase "GROUP BY", a, b, []⟩ :: (us ++ ts)) = "GROUP BY" :=
    next_cons _ a b [] _
  rw [Finds, Grammar.clause?, run_bind_of (run_keyword _), hkeyword]
  simp only
  rw [run_bind_of hclause]
  rfl

/-- The groups come before the order. -/
theorem readsClauses_group {groups : List Ref} (hall : ∀ r ∈ groups, r.IsNamed)
    (hrow : Row us (listRow "GROUP BY" (groups.map Ref.lexemes))) (hgrouping : tail.grouping = none)
    (hcomments : tail.comments = {}) (hends : Opens clauseOpeners vs)
    (hmore : ReadsClauses g.above vs { tail with grouping := groupingOf groups } tail') :
    ReadsClauses g.above (us ++ vs) tail tail' := by
  cases groups with
  | nil =>
      cases hrow
      have hsame : ({ tail with grouping := none } : Tail) = tail := by
        cases tail
        cases hgrouping
        rfl
      rwa [groupingOf, hsame] at hmore
  | cons r groups =>
      cases hrow with
      | cons _ a b hrow =>
          refine .cons (clause?_group (List.cons_ne_nil r groups) hall hrow hgrouping hcomments hends)
            ?_ hmore
          simp only [List.length_cons, List.length_append]
          omega

/-! ## Conditions -/

/-- The tokens of a WHERE clause; without tests it is not there. -/
def whereRow : List Test → List Lexeme
  | [] => []
  | first :: others => .of .word "WHERE" :: first.rowOf others

/-- The condition that some tests make up. -/
def conditionOf : List Test → Option Expr
  | [] => none
  | first :: others => some (first.conjunction others)

theorem clause?_where {first : Test} {others : List Test}
    (hall : ∀ t ∈ first :: others, t.IsWritten) (hrow : Row us (first.rowOf others))
    (hcondition : tail.condition = none) (hcomments : tail.comments = {})
    (hends : Opens clauseOpeners ts) :
    Finds (g.above.above.above.clause? tail) (⟨.of .word "WHERE", a, b, []⟩ :: (us ++ ts))
      { tail with condition := some (first.conjunction others) } ts := by
  have hdisjunction : require g.above.above.above.disjunction (us ++ ts) =
      some (first.conjunction others, ts) :=
    require_finds (disjunctionExpr_finds_tests hall hrow (hends.mono (by decide)))
  have hclause : g.above.above.above.whereClause tail
      (⟨.of .word "WHERE", a, b, []⟩ :: (us ++ ts)) =
        some ({ tail with condition := some (first.conjunction others) }, ts) := by
    rw [Grammar.whereClause,
      run_bind_of (expect_finds "WHERE" (l := .of .word "WHERE") (by decide) a b _),
      run_bind_of hdisjunction, hcondition, hcomments]
    rfl
  have hkeyword : next (⟨.of .word "WHERE", a, b, []⟩ :: (us ++ ts)) = "WHERE" := by
    rw [next_cons]
    decide
  rw [Finds, Grammar.clause?, run_bind_of (run_keyword _), hkeyword]
  simp only
  rw [run_bind_of hclause]
  rfl

/-- The conditions come before the groups. -/
theorem readsClauses_where {tests : List Test} (hall : ∀ t ∈ tests, t.IsWritten)
    (hrow : Row us (whereRow tests)) (hcondition : tail.condition = none)
    (hcomments : tail.comments = {}) (hends : Opens clauseOpeners vs)
    (hmore : ReadsClauses g.above.above.above vs { tail with condition := conditionOf tests } tail') :
    ReadsClauses g.above.above.above (us ++ vs) tail tail' := by
  cases tests with
  | nil =>
      cases hrow
      have hsame : ({ tail with condition := none } : Tail) = tail := by
        cases tail
        cases hcondition
        rfl
      rwa [conditionOf, hsame] at hmore
  | cons first others =>
      cases hrow with
      | cons _ a b hrow =>
          refine .cons (clause?_where hall hrow hcondition hcomments hends) ?_ hmore
          simp only [List.length_cons, List.length_append]
          omega

end Sql
end QueryDesigner

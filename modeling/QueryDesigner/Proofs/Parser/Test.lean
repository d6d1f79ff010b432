import Mathlib
import QueryDesigner.Proofs.Parser.Level

/-!
# Reading tests

* `Check`, `Test` — what a condition says about a column, as it stands in a statement;
* `equalityExpr_finds_test` — a test is read as what it is;
* `disjunctionExpr_finds_tests` — and so are tests that are tied by AND.
-/

namespace QueryDesigner
namespace Sql

open QueryDesigner.Sql.Parser
open QueryDesigner.Sql.Grammar (operator? chain patternTests)

variable {g : Grammar} {ts us vs rest : List Token} {l : Lexeme} {a b : Nat} {e : Expr}

/-! ## Tests -/

/-- A comparison by a sign. -/
inductive ComparisonSign where
  | eq
  | ne
  | gt
  | lt
  | ge
  | le
  deriving DecidableEq, Repr

namespace ComparisonSign

def sign : ComparisonSign → String
  | eq => "="
  | ne => "!="
  | gt => ">"
  | lt => "<"
  | ge => ">="
  | le => "<="

def op : ComparisonSign → BinaryOp
  | eq => .eq
  | ne => .ne
  | gt => .gt
  | lt => .lt
  | ge => .ge
  | le => .le

end ComparisonSign

/-- What a condition says about a column. -/
inductive Check where
  | compare (comparison : ComparisonSign) (value : Constant)
  | like (isNegated : Bool) (pattern : Constant)
  | among (isNegated : Bool) (items : List Constant)
  | between (isNegated : Bool) (low high : Constant)
  | isNull (isNegated : Bool)
  deriving DecidableEq, Repr

/-- The word that negates a test, if it is there. -/
def negation (isNegated : Bool) : List Lexeme := if isNegated then [.of .word "NOT"] else []

/-- A test that may be negated. -/
def negatedIf (isNegated : Bool) (e : Expr) : Expr := if isNegated then .unary .not e else e

namespace Check

/-- The tokens after the column. -/
def lexemes : Check → List Lexeme
  | compare comparison value => .of .sign comparison.sign :: value.lexemes
  | like isNegated pattern => negation isNegated ++ .of .word "LIKE" :: pattern.lexemes
  | among isNegated items =>
    negation isNegated ++ .of .word "IN" :: .of .sign "(" ::
      (separated (items.map Constant.lexemes) ++ [.of .sign ")"])
  | between isNegated low high =>
    negation isNegated ++ .of .word "BETWEEN" ::
      (low.lexemes ++ .of .word "AND" :: high.lexemes)
  | isNull isNegated => .of .word "IS" :: (negation isNegated ++ [.of .word "NULL"])

/-- The test of an expression. -/
def expr (left : Expr) : Check → Expr
  | compare comparison value => .binary comparison.op left value.expr
  | like isNegated pattern => negatedIf isNegated (.binary .like left pattern.expr)
  | among isNegated items => negatedIf isNegated (.among left (items.map Constant.expr))
  | between isNegated low high => negatedIf isNegated (.between false left low.expr high.expr)
  | isNull isNegated => negatedIf isNegated (.binary .is left .null)

/-- A list holds something. -/
def IsFilled : Check → Prop
  | among _ items => items ≠ []
  | _ => True

end Check

/-- A column and what is said about it. -/
structure Test where
  left : Ref
  check : Check
  deriving DecidableEq, Repr

namespace Test

def lexemes (t : Test) : List Lexeme := t.left.lexemes ++ t.check.lexemes

def expr (t : Test) : Expr := t.check.expr t.left.expr

/-- The names in it are names, and its list is not empty. -/
structure IsWritten (t : Test) : Prop where
  named : t.left.IsNamed
  filled : t.check.IsFilled

end Test

/-! ## Where no query starts -/

/-- The words with which queries start. -/
def queryOpeners : List String := ["DESCRIBE", "EXPLAIN", "WITH", "FROM", "SELECT", "VALUES"]

theorem simpleQuery?_misses (h : next ts ∉ queryOpeners) : Misses g.simpleQuery? ts := by
  have hwith : Misses g.withQuery? ts := by
    rw [Misses, Grammar.withQuery?, run_bind_of (accepts_false (ne_of_notMem h (by decide)))]
    rfl
  have hfrom : Misses g.from? ts := by
    rw [Misses, Grammar.from?, run_bind_of (accept?_misses (ne_of_notMem h (by decide)))]
    rfl
  have hselect : Misses (g.selectAfter? none) ts := by
    rw [Misses, Grammar.selectAfter?, run_bind_of (accept?_misses (ne_of_notMem h (by decide)))]
    rfl
  have hquery : Misses g.selectQuery? ts := by
    rw [Misses, Grammar.selectQuery?, run_bind_of hfrom, run_bind_of hselect]
    rfl
  rw [Misses, Grammar.simpleQuery?, run_bind_of hwith]
  simp only
  rw [run_bind_of hquery]
  simp only
  rw [run_bind_of (accepts_false (ne_of_notMem h (by decide)))]
  rfl

theorem queryItem_misses (h : next ts ∉ queryOpeners) : Misses g.queryItem ts := by
  have hquestion : ["DESCRIBE", "EXPLAIN"].contains (next ts) = false := by
    have hnot : next ts ∉ ["DESCRIBE", "EXPLAIN"] := notMem_of_subset h (by decide)
    simpa using hnot
  rw [Misses, Grammar.queryItem, run_bind_of (run_keyword ts), hquestion]
  simp only [Bool.false_eq_true, if_false]
  rw [run_bind_of (simpleQuery?_misses h)]
  rfl

/-! ## What stands after the column -/

theorem Constant.next_lexemes (k : Constant) (hrow : Row us k.lexemes) (ts : List Token) :
    next (us ++ ts) ∈ ["", "-"] := by
  cases k with
  | text value =>
      cases hrow with
      | cons _ a b hrow => exact List.mem_cons_self
  | number isNegative digits =>
      cases isNegative with
      | false => cases hrow with | cons _ a b hrow => exact List.mem_cons_self
      | true => cases hrow with | cons _ a b hrow => exact List.mem_cons_of_mem _ List.mem_cons_self

theorem Constant.next_notMem (k : Constant) (hrow : Row us k.lexemes) (ts : List Token)
    {words : List String} (hwords : ["", "-"].all (fun w => !words.contains w) = true) :
    next (us ++ ts) ∉ words := by
  simpa using List.all_eq_true.1 hwords _ (k.next_lexemes hrow ts)

theorem bitwiseExpr_finds_constant (k : Constant) (hrow : Row us k.lexemes)
    (hends : Opens testClosers ts) : Finds g.above.bitwiseExpr (us ++ ts) k.expr ts :=
  bitwiseExpr_of_unaryExpr (unaryExpr_finds_constant hrow (endsOperand_of_opens hends))
    (endsTerm_of_opens hends)

theorem rangeExpr_finds_constant (k : Constant) (hrow : Row us k.lexemes)
    (hends : Opens testClosers ts) : Finds g.above.rangeExpr (us ++ ts) k.expr ts :=
  rangeExpr_of_unaryExpr hends (unaryExpr_finds_constant hrow (endsOperand_of_opens hends))

/-- The words with which checks start. -/
def checkWords : List Lexeme :=
  ["LIKE", "NOT", "IN", "BETWEEN", "IS"].map fun w => .of .word w

/-- The tokens with which checks start. -/
def checkOpeners : List Lexeme :=
  checkWords ++ ["=", "!=", ">", "<", ">=", "<="].map fun s => .of .sign s

theorem opens_negation {ns : List Token} {isNegated : Bool} (hrow : Row ns (negation isNegated))
    (h : Opens checkWords vs) : Opens checkWords (ns ++ vs) := by
  cases isNegated with
  | false =>
      cases hrow
      exact h
  | true => cases hrow with | cons _ a b hrow => exact .cons (by decide) a b [] _

theorem bitwiseExpr_finds_ref {r : Ref} (hr : r.IsNamed) (hrow : Row us r.lexemes)
    (hopens : Opens checkOpeners ts)
    (halone : next ts ∉ ["<", ">"] ∨ next ts.tail ∉ ["<", ">"]) :
    Finds g.bitwiseExpr (us ++ ts) r.expr ts :=
  bitwiseExpr_of_unaryExpr (unaryExpr_finds_ref hr hrow (.of_opens hopens (by decide +kernel)))
    ⟨hopens.next_notMem (by decide +kernel) (by decide), halone⟩

/-- A column before a word. -/
theorem bitwiseExpr_finds_ref_word {r : Ref} (hr : r.IsNamed) (hrow : Row us r.lexemes)
    (hopens : Opens checkWords ts) : Finds g.bitwiseExpr (us ++ ts) r.expr ts :=
  bitwiseExpr_finds_ref hr hrow (hopens.mono (List.subset_append_left _ _))
    (.inl (hopens.next_notMem (by decide) (by decide)))

/-- A column before the sign of a comparison. -/
theorem rangeExpr_finds_ref_sign {r : Ref} (hr : r.IsNamed) (hrow : Row us r.lexemes)
    (comparison : ComparisonSign) (a b : Nat) (halone : next ts ∉ ["<", ">"]) :
    Finds g.rangeExpr (us ++ ⟨.of .sign comparison.sign, a, b, []⟩ :: ts) r.expr
      (⟨.of .sign comparison.sign, a, b, []⟩ :: ts) := by
  have hopens : Opens checkOpeners (⟨.of .sign comparison.sign, a, b, []⟩ :: ts) :=
    .cons (by cases comparison <;> decide) a b [] ts
  refine rangeExpr_of_bitwiseExpr (bitwiseExpr_finds_ref hr hrow hopens (.inr halone)) ?_
  rw [next_cons]
  cases comparison <;> decide

/-! ## Tests by a word -/

/-- The word of a test. -/
theorem rangeTest?_of_wordTest? {test : Expr} {negated : Bool} (hne : next us ≠ "IS")
    (h : Finds (g.wordTest? e) us test ts) : Finds (g.rangeTest? negated e) us test ts := by
  rw [Finds, Grammar.rangeTest?, run_bind_of (run_keyword us), if_neg hne, run_bind_of h]
  rfl

/-- A test by a word, with or without the word that negates it. -/
theorem rangeExpr_of_wordTest {ns : List Token} {isNegated : Bool} {test : Expr}
    (hrow : Row ns (negation isNegated)) (he : Finds g.bitwiseExpr us e (ns ++ vs))
    (hnext : next vs ∉ ["NOT", "!", "IS"]) (htest : Finds (g.wordTest? e) vs test ts)
    (hends : Opens testClosers ts) :
    Finds g.rangeExpr us (negatedIf isNegated test) ts := by
  have hrange : ∀ negated, Finds (g.rangeTest? negated e) vs test ts := fun negated =>
    rangeTest?_of_wordTest? (ne_of_notMem hnext (by decide)) htest
  have hmore : next ts ∉ ["NOTNULL", "IS"] := hends.next_notMem (by decide) (by decide)
  cases isNegated with
  | false =>
      cases hrow
      have hword : Misses (acceptOne? ["NOT", "!"]) vs :=
        acceptOne?_misses (notMem_of_subset hnext (by decide))
      exact rangeExpr_of_test he hword (hrange false) hmore
  | true =>
      cases hrow with
      | cons _ a b hrow =>
          cases hrow
          have hword := acceptOne?_finds ["NOT", "!"] (l := .of .word "NOT") (by decide) a b vs
          exact rangeExpr_of_test he hword (hrange true) hmore

theorem wordTest?_like (k : Constant) (hrow : Row us k.lexemes) (hends : Opens testClosers ts) :
    Finds (g.above.wordTest? e) (⟨.of .word "LIKE", a, b, []⟩ :: (us ++ ts))
      (.binary .like e k.expr) ts := by
  have hoperator := operator?_finds patternTests (l := .of .word "LIKE") rfl a b (us ++ ts)
  have hescape : ∀ test, Grammar.escaped test ts = some (test, ts) := by
    intro test
    rw [Grammar.escaped, run_bind_of (accepts_false (hends.next_ne (by decide) (by decide)))]
    rfl
  rw [Finds, Grammar.wordTest?, run_bind_of hoperator]
  simp only
  rw [run_bind_of (require_finds (bitwiseExpr_finds_constant k hrow hends)),
    run_bind_of (hescape _)]
  rfl

/-- The words of tests that are no operators between two operands. -/
theorem wordTest?_of_word {word : String} (hword : word ∈ ["BETWEEN", "IN"]) (a b : Nat)
    (us : List Token) :
    operator? patternTests (⟨.of .word word, a, b, []⟩ :: us) =
        some (none, ⟨.of .word word, a, b, []⟩ :: us) ∧
      acceptOne? ["BETWEEN", "IN", "SOUNDS LIKE", "MEMBER OF", "ISNULL"]
          (⟨.of .word word, a, b, []⟩ :: us) = some (some ⟨.of .word word, a, b, []⟩, us) := by
  simp only [List.mem_cons, List.not_mem_nil, or_false] at hword
  obtain rfl | rfl := hword
  · exact ⟨operator?_misses (next_cons_notMem (by decide) a b us),
      acceptOne?_finds _ (by decide) a b us⟩
  · exact ⟨operator?_misses (next_cons_notMem (by decide) a b us),
      acceptOne?_finds _ (by decide) a b us⟩

theorem wordTest?_between (low high : Constant) (hlow : Row us low.lexemes) {c d : Nat}
    (hhigh : Row vs high.lexemes) (hends : Opens testClosers ts) :
    Finds (g.above.wordTest? e) (⟨.of .word "BETWEEN", a, b, []⟩ ::
      (us ++ ⟨.of .word "AND", c, d, []⟩ :: (vs ++ ts)))
      (.between false e low.expr high.expr) ts := by
  obtain ⟨hoperator, hword⟩ := wordTest?_of_word (show "BETWEEN" ∈ _ by decide) a b
    (us ++ ⟨.of .word "AND", c, d, []⟩ :: (vs ++ ts))
  have hsymmetric : Misses (acceptOne? ["SYMMETRIC", "ASYMMETRIC"])
      (us ++ ⟨.of .word "AND", c, d, []⟩ :: (vs ++ ts)) :=
    acceptOne?_misses (low.next_notMem hlow _ (by decide))
  have hopens : Opens testClosers (⟨.of .word "AND", c, d, []⟩ :: (vs ++ ts)) :=
    .cons List.mem_cons_self c d [] _
  have hfirst := bitwiseExpr_finds_constant (g := g) low hlow hopens
  have hand := accept?_finds "AND" (l := .of .word "AND") (by decide) c d (vs ++ ts)
  have hlast := bitwiseExpr_finds_constant (g := g) high hhigh hends
  rw [Finds, Grammar.wordTest?, run_bind_of hoperator]
  simp only
  rw [run_bind_of hword]
  have hkeyword : Token.keyword ⟨.of .word "BETWEEN", a, b, []⟩ = "BETWEEN" :=
    (Token.keyword_mk _ a b []).trans (by decide)
  simp only [hkeyword]
  have hbetween : g.above.betweenTest e (us ++ ⟨.of .word "AND", c, d, []⟩ :: (vs ++ ts)) =
      some (.between false e low.expr high.expr, ts) := by
    rw [Grammar.betweenTest, run_bind_of hsymmetric, run_bind_of (require_finds hfirst),
      run_bind_of hand, run_bind_of (require_finds hlast)]
    rfl
  rw [run_bind_of hbetween]
  rfl

theorem Constant.expr_ne_query (k : Constant) (q : Query) : k.expr ≠ .query q := by
  cases k with
  | text value => exact fun h => Expr.noConfusion h
  | number isNegative digits => cases isNegative <;> exact fun h => Expr.noConfusion h

/-- A constant is no query. -/
theorem queryOrExpression_finds_constant (k : Constant) (hrow : Row us k.lexemes)
    (hends : Opens closers ts) :
    Finds g.above.above.queryOrExpression (us ++ ts) k.expr ts := by
  have hquery : Misses g.above.above.query (us ++ ts) :=
    queryItem_misses (k.next_notMem hrow ts (by decide))
  have hassignment : Finds g.above.above.assignment (us ++ ts) k.expr ts :=
    assignmentExpr_of_unaryExpr
      (unaryExpr_finds_constant hrow (endsOperand_of_opens (hends.mono (List.subset_cons_self _ _))))
      hends
  rw [Finds, Grammar.queryOrExpression, run_bind_of hquery]
  simp only
  rw [run_bind_of hassignment]
  cases k with
  | text value => rfl
  | number isNegative digits => cases isNegative <;> rfl

theorem wordTest?_among {items : List Constant} (hitems : items ≠ []) (a b c d f h : Nat)
    (hrow : Row us (separated (items.map Constant.lexemes))) (ts : List Token) :
    Finds (g.above.above.wordTest? e) (⟨.of .word "IN", a, b, []⟩ :: ⟨.of .sign "(", c, d, []⟩ ::
      (us ++ ⟨.of .sign ")", f, h, []⟩ :: ts)) (.among e (items.map Constant.expr)) ts := by
  obtain ⟨hoperator, hword⟩ := wordTest?_of_word (show "IN" ∈ _ by decide) a b
    (⟨.of .sign "(", c, d, []⟩ :: (us ++ ⟨.of .sign ")", f, h, []⟩ :: ts))
  have hlist : exprList g.above.above.queryOrExpression (us ++ ⟨.of .sign ")", f, h, []⟩ :: ts) =
      some (items.map Constant.expr, ⟨.of .sign ")", f, h, []⟩ :: ts) := by
    refine exprList_of_findsList (findsList_of_row (F := closers)
      (fun k _ us ts hrow hends => queryOrExpression_finds_constant k hrow hends) (by decide)
      hitems hrow (.cons (by decide) f h [] ts) ?_)
    rw [next_cons]
    decide
  have hkeyword : Token.keyword ⟨.of .word "IN", a, b, []⟩ = "IN" :=
    (Token.keyword_mk _ a b []).trans (by decide)
  have hamong : g.above.above.amongTest e
      (⟨.of .sign "(", c, d, []⟩ :: (us ++ ⟨.of .sign ")", f, h, []⟩ :: ts)) =
        some (.among e (items.map Constant.expr), ts) := by
    rw [Grammar.amongTest, run_bind_of (accepts_true "(" (l := .of .sign "(") rfl c d _)]
    simp only [if_true]
    rw [Grammar.amongItems, run_bind_of hlist,
      run_bind_of (expect_finds ")" (l := .of .sign ")") rfl f h ts)]
    simp only
    split
    next q heq =>
        obtain ⟨k, -, hk⟩ := List.mem_map.1 (heq ▸ List.mem_singleton_self _ :
          Expr.query q ∈ items.map Constant.expr)
        exact absurd hk (k.expr_ne_query q)
    next => rfl
  rw [Finds, Grammar.wordTest?, run_bind_of hoperator]
  simp only
  rw [run_bind_of hword]
  simp only [hkeyword]
  rw [run_bind_of hamong]
  rfl

/-! ## Whether something is there -/

theorem isTest?_finds {ns : List Token} {isNegated : Bool} {c d : Nat}
    (hrow : Row ns (negation isNegated)) (hends : Opens testClosers ts) :
    Finds (g.isTest? e) (⟨.of .word "IS", a, b, []⟩ :: (ns ++ ⟨.of .word "NULL", c, d, []⟩ :: ts))
      (negatedIf isNegated (.binary .is e .null)) ts := by
  set us : List Token := ⟨.of .word "NULL", c, d, []⟩ :: ts with hus
  have his := accepts_true "IS" (l := .of .word "IS") (by decide) a b (ns ++ us)
  have hdistinct : acceptAll ["DISTINCT", "FROM"] us = some (false, us) :=
    acceptAll_false (by rw [hus, next_cons]; decide)
  have hnull := acceptOne?_finds ["NULL", "UNKNOWN"] (l := .of .word "NULL") (by decide) c d ts
  have hdone : ∀ test, g.columnOperators test ts = some (test, ts) := fun test =>
    columnOperators_done test (hends.next_notMem (by decide +kernel) (by decide))
  cases isNegated with
  | false =>
      cases hrow
      have hnot : Misses (acceptOne? ["NOT", "!"]) us :=
        acceptOne?_misses (by rw [hus, next_cons]; decide)
      rw [Finds, Grammar.isTest?, run_bind_of (run_get _), run_bind_of his]
      simp only [if_true, List.nil_append]
      rw [run_bind_of hnot, run_bind_of hdistinct]
      simp only [Bool.false_eq_true, if_false, Option.isSome_none]
      rw [run_bind_of hnull]
      simp only
      rw [run_bind_of (run_pure _ _)]
      simp only
      rw [run_bind_of (hdone _)]
      rfl
  | true =>
      cases hrow with
      | cons _ f h hrow =>
          cases hrow
          have hnot := acceptOne?_finds ["NOT", "!"] (l := .of .word "NOT") (by decide) f h us
          rw [Finds, Grammar.isTest?, run_bind_of (run_get _), run_bind_of his]
          simp only [if_true, List.singleton_append]
          rw [run_bind_of hnot, run_bind_of hdistinct]
          simp only [Bool.false_eq_true, if_false, Option.isSome_some, if_true]
          rw [run_bind_of hnull]
          simp only
          rw [run_bind_of (run_pure _ _)]
          simp only
          rw [run_bind_of (hdone _)]
          rfl

theorem rangeExpr_of_isTest {test : Expr} (he : Finds g.bitwiseExpr us e vs)
    (hnext : next vs = "IS") (htest : Finds (g.isTest? e) vs test ts)
    (hends : Opens testClosers ts) : Finds g.rangeExpr us test ts := by
  have hword : Misses (acceptOne? ["NOT", "!"]) vs := acceptOne?_misses (by rw [hnext]; decide)
  have hrange : Finds (g.rangeTest? false e) vs test ts := by
    rw [Finds, Grammar.rangeTest?, run_bind_of (run_keyword vs), if_pos hnext]
    exact htest
  exact rangeExpr_of_test he hword hrange (hends.next_notMem (by decide) (by decide))

/-! ## Comparisons -/

section Compare

variable {sign : String} {right : Expr}

/-- A sign of the level of strict comparisons, with its right operand. -/
theorem equalityExpr_of_strict (op : BinaryOp)
    (h : List.lookup sign [(">", Expr.binary .gt), ("<", .binary .lt), (">=", .binary .ge),
      ("<=", .binary .le)] = some (.binary op))
    (he : Finds g.rangeExpr us e (⟨.of .sign sign, a, b, []⟩ :: (vs ++ ts)))
    (hright : Finds g.rangeExpr (vs ++ ts) right ts) (hends : next ts ∉ comparisonMarks) :
    Finds g.equalityExpr us (.binary op e right) ts := by
  have hcomparison : Finds g.comparisonExpr us (.binary op e right) ts := by
    refine chain_of_folds he (.cons (operator?_finds _ (l := .of .sign sign) h a b _) hright ?_
      (.nil (operator?_misses (notMem_of_subset hends (by decide)))))
    simp only [List.length_cons, List.length_append]
    omega
  exact chain_of_operand hcomparison (operator?_misses (notMem_of_subset hends (by decide)))

/-- A sign of the level of equations, with its right operand. -/
theorem equalityExpr_of_equal (op : BinaryOp)
    (h : List.lookup sign [("=", Expr.binary .eq), ("==", .binary .eq), ("<>", .binary .ne),
      ("!=", .binary .ne), ("<=>", .binary .same)] = some (.binary op))
    (hsign : sign ∉ [">", "<", ">=", "<="])
    (he : Finds g.rangeExpr us e (⟨.of .sign sign, a, b, []⟩ :: (vs ++ ts)))
    (hright : Finds g.rangeExpr (vs ++ ts) right ts) (hends : next ts ∉ comparisonMarks) :
    Finds g.equalityExpr us (.binary op e right) ts := by
  have hleft : Finds g.comparisonExpr us e (⟨.of .sign sign, a, b, []⟩ :: (vs ++ ts)) :=
    chain_of_operand he (operator?_misses (next_cons_notMem (l := .of .sign sign) hsign a b _))
  have hoperand : Finds g.comparisonExpr (vs ++ ts) right ts :=
    chain_of_operand hright (operator?_misses (notMem_of_subset hends (by decide)))
  refine chain_of_folds hleft (.cons (operator?_finds _ (l := .of .sign sign) h a b _) hoperand ?_
    (.nil (operator?_misses (notMem_of_subset hends (by decide)))))
  simp only [List.length_cons, List.length_append]
  omega

theorem equalityExpr_of_compare (comparison : ComparisonSign)
    (he : Finds g.rangeExpr us e (⟨.of .sign comparison.sign, a, b, []⟩ :: (vs ++ ts)))
    (hright : Finds g.rangeExpr (vs ++ ts) right ts) (hends : next ts ∉ comparisonMarks) :
    Finds g.equalityExpr us (.binary comparison.op e right) ts := by
  cases comparison with
  | eq => exact equalityExpr_of_equal .eq rfl (by decide) he hright hends
  | ne => exact equalityExpr_of_equal .ne rfl (by decide) he hright hends
  | gt => exact equalityExpr_of_strict .gt rfl he hright hends
  | lt => exact equalityExpr_of_strict .lt rfl he hright hends
  | ge => exact equalityExpr_of_strict .ge rfl he hright hends
  | le => exact equalityExpr_of_strict .le rfl he hright hends

end Compare

/-! ## All tests -/

theorem equalityExpr_of_word (he : Finds g.rangeExpr us e ts) (hends : Opens testClosers ts) :
    Finds g.equalityExpr us e ts :=
  equalityExpr_of_rangeExpr he (next_notMem_comparisonMarks hends)

/-- A test in a statement is read as such. -/
theorem equalityExpr_finds_test {t : Test} (ht : t.IsWritten) (hrow : Row us t.lexemes)
    (hends : Opens testClosers ts) : Finds g.above.above.equalityExpr (us ++ ts) t.expr ts := by
  obtain ⟨left, check⟩ := t
  obtain ⟨hnamed, hfilled⟩ := ht
  obtain ⟨vs, ws, rfl, hleft, hcheck⟩ := Row.of_append hrow
  rw [List.append_assoc]
  cases check with
  | compare comparison k =>
      cases hcheck with
      | cons _ a b hvalue =>
          exact equalityExpr_of_compare comparison
            (rangeExpr_finds_ref_sign hnamed hleft comparison a b
              (k.next_notMem hvalue ts (by decide)))
            (rangeExpr_finds_constant k hvalue hends) (next_notMem_comparisonMarks hends)
  | like isNegated k =>
      obtain ⟨ns, ws, rfl, hns, hws⟩ := Row.of_append hcheck
      cases hws with
      | cons _ a b hvalue =>
          rw [List.append_assoc]
          refine equalityExpr_of_word (rangeExpr_of_wordTest hns
            (bitwiseExpr_finds_ref_word hnamed hleft
              (opens_negation hns (.cons (by decide) a b [] _)))
            (next_cons_notMem (by decide) a b _) (wordTest?_like k hvalue hends) hends) hends
  | among isNegated items =>
      obtain ⟨ns, ws, rfl, hns, hws⟩ := Row.of_append hcheck
      cases hws with
      | cons _ a b hws =>
          cases hws with
          | cons _ c d hws =>
              obtain ⟨ws, xs, rfl, hlist, hclose⟩ := Row.of_append hws
              cases hclose with
              | cons _ f h hclose =>
                  cases hclose
                  rw [List.append_assoc]
                  refine equalityExpr_of_word (rangeExpr_of_wordTest hns
                    (bitwiseExpr_finds_ref_word hnamed hleft
                      (opens_negation hns (.cons (by decide) a b [] _)))
                    (next_cons_notMem (by decide) a b _) ?_ hends) hends
                  simp only [List.cons_append, List.append_assoc, List.nil_append]
                  exact wordTest?_among hfilled a b c d f h hlist ts
  | between isNegated low high =>
      obtain ⟨ns, ws, rfl, hns, hws⟩ := Row.of_append hcheck
      cases hws with
      | cons _ a b hws =>
          obtain ⟨ws, xs, rfl, hlow, hand⟩ := Row.of_append hws
          cases hand with
          | cons _ c d hhigh =>
              rw [List.append_assoc]
              refine equalityExpr_of_word (rangeExpr_of_wordTest hns
                (bitwiseExpr_finds_ref_word hnamed hleft
                  (opens_negation hns (.cons (by decide) a b [] _)))
                (next_cons_notMem (by decide) a b _) ?_ hends) hends
              have hbetween := wordTest?_between (g := g.above) (e := left.expr) (a := a) (b := b)
                (c := c) (d := d) low high hlow hhigh hends
              simp only [List.cons_append, List.append_assoc]
              exact hbetween
  | isNull isNegated =>
      cases hcheck with
      | cons _ a b hws =>
          obtain ⟨ns, ws, rfl, hns, hnull⟩ := Row.of_append hws
          cases hnull with
          | cons _ c d hnull =>
              cases hnull
              have htest := isTest?_finds (g := g.above.above) (e := left.expr) (a := a) (b := b)
                (c := c) (d := d) hns hends
              have hopens : Opens checkWords
                  (⟨.of .word "IS", a, b, []⟩ :: (ns ++ ⟨.of .word "NULL", c, d, []⟩ :: ts)) :=
                .cons (by decide) a b [] _
              have hrange := rangeExpr_of_isTest (bitwiseExpr_finds_ref_word hnamed hleft hopens)
                (next_cons _ a b [] _) htest hends
              simp only [List.cons_append, List.append_assoc, List.nil_append]
              exact equalityExpr_of_word hrange hends

/-! ## Several tests -/

/-- The tokens of tests that are tied by AND. -/
def Test.rowOf (first : Test) (others : List Test) : List Lexeme :=
  first.lexemes ++ others.flatMap fun t => .of .word "AND" :: t.lexemes

/-- Tests that are tied by AND. -/
def Test.conjunction (first : Test) (others : List Test) : Expr :=
  folded first.expr (others.map fun t => (.binary .and, t.expr))

theorem opens_ands {others : List Test}
    (hrow : Row vs (others.flatMap fun t => .of .word "AND" :: t.lexemes))
    (hends : Opens closers ts) : Opens testClosers (vs ++ ts) := by
  cases others with
  | nil =>
      cases hrow
      exact hends.mono (List.subset_cons_self _ _)
  | cons t others => cases hrow with | cons _ a b hrow => exact .cons List.mem_cons_self a b [] _

theorem folds_ands {others : List Test} (hothers : ∀ t ∈ others, t.IsWritten)
    (hrow : Row vs (others.flatMap fun t => .of .word "AND" :: t.lexemes))
    (hends : Opens closers ts) :
    Folds (operator? [("AND", .binary .and), ("&&", .binary .and), ("XOR", .binary .xor)])
      g.above.above.equalityExpr (vs ++ ts) (others.map fun t => (.binary .and, t.expr)) ts := by
  induction others generalizing vs with
  | nil =>
      cases hrow
      exact .nil (operator?_misses
        (notMem_of_subset (next_notMem_connectorMarks hends) (by decide)))
  | cons t others ih =>
      obtain ⟨ht, hothers⟩ := List.forall_mem_cons.1 hothers
      obtain ⟨us, ws, rfl, htest, hmore⟩ := Row.of_append hrow
      cases htest with
      | @cons us _ _ a b htest =>
          have hopens : Opens testClosers (ws ++ ts) := opens_ands hmore hends
          have hoperand := equalityExpr_finds_test (g := g) ht htest hopens
          simp only [List.cons_append, List.append_assoc]
          refine .cons (operator?_finds _ (l := .of .word "AND") rfl a b _) hoperand ?_
            (ih hothers hmore)
          simp only [List.length_cons, List.length_append]
          omega

/-- Tests that are tied by AND are read as such. -/
theorem disjunctionExpr_finds_tests {first : Test} {others : List Test}
    (hall : ∀ t ∈ first :: others, t.IsWritten) (hrow : Row us (first.rowOf others))
    (hends : Opens closers ts) :
    Finds g.above.above.disjunctionExpr (us ++ ts) (first.conjunction others) ts := by
  obtain ⟨hfirst, hothers⟩ := List.forall_mem_cons.1 hall
  obtain ⟨us, vs, rfl, htest, hmore⟩ := Row.of_append hrow
  have hopens : Opens testClosers (vs ++ ts) := opens_ands hmore hends
  have hleft := equalityExpr_finds_test (g := g) hfirst htest hopens
  rw [List.append_assoc]
  exact disjunctionExpr_of_conjunctionExpr (chain_of_folds hleft (folds_ands hothers hmore hends))
    (next_notMem_connectorMarks hends)

end Sql
end QueryDesigner

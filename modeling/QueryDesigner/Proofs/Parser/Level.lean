import Mathlib
import QueryDesigner.Proofs.Parser.Operand

/-!
# Levels of expressions

* `Folds`, `chain_of_folds` — operators of one level with their operands;
* `bitwiseExpr_of_unaryExpr`, `rangeExpr_of_bitwiseExpr` and so on — what nothing of a level follows
  is read by that level as by the one below it.
-/

namespace QueryDesigner
namespace Sql

open QueryDesigner.Sql.Parser
open QueryDesigner.Sql.Grammar (Combination operator? chain chainFrom bitOperator? factorOperators
  patternTests)

variable {g : Grammar} {ts us vs rest : List Token} {l : Lexeme} {a b : Nat} {e : Expr}

/-! ## Operators of one level -/

theorem lookup_eq_none {table : List (String × Combination)} {word : String}
    (h : word ∉ table.map Prod.fst) : table.lookup word = none := by
  rw [List.lookup_eq_none_iff]
  intro p hp
  rw [bne_iff_ne]
  rintro rfl
  exact h (List.mem_map_of_mem hp)

theorem operator?_misses {table : List (String × Combination)} (h : next ts ∉ table.map Prod.fst) :
    Misses (operator? table) ts := by
  have htake : Misses (takeIf? fun t => (table.lookup t.keyword).isSome) ts := by
    refine takeIf?_misses fun t ht => ?_
    have hnext : next ts = t.keyword := by simp [next, Option.mem_def.1 ht]
    rw [← hnext, lookup_eq_none h]
    rfl
  rw [Misses, operator?, run_bind_of htake]
  rfl

theorem operator?_finds (table : List (String × Combination)) {combine : Combination}
    (h : table.lookup l.keyword = some combine) (a b : Nat) (ts : List Token) :
    Finds (operator? table) (⟨l, a, b, []⟩ :: ts) (combine, []) ts := by
  have hkeyword : table.lookup (Token.keyword ⟨l, a, b, []⟩) = some combine := by
    rw [Token.keyword_eq_keyword]
    exact h
  have htake : Finds (takeIf? fun t => (table.lookup t.keyword).isSome) (⟨l, a, b, []⟩ :: ts)
      ⟨l, a, b, []⟩ ts := takeIf?_finds (by rw [hkeyword]; rfl) ts
  rw [Finds, operator?, run_bind_of htake]
  simp only [hkeyword]
  rfl

/-- Operators, each with its right operand, up to where no further one stands. -/
inductive Folds (operator : Parser (Option (Combination × List String)))
    (operand : Parser (Option Expr)) :
    List Token → List (Combination × Expr) → List Token → Prop where
  | nil {ts : List Token} : Misses operator ts → Folds operator operand ts [] ts
  | cons {ts us vs rest : List Token} {combine : Combination} {e : Expr}
      {pairs : List (Combination × Expr)} :
      Finds operator ts (combine, []) us → Finds operand us e vs → vs.length < ts.length →
        Folds operator operand vs pairs rest → Folds operator operand ts ((combine, e) :: pairs) rest

/-- The operands tied together, from left to right. -/
def folded (e : Expr) (pairs : List (Combination × Expr)) : Expr :=
  pairs.foldl (fun left pair => pair.1 left pair.2) e

variable {operator : Parser (Option (Combination × List String))} {operand : Parser (Option Expr)}
  {pairs : List (Combination × Expr)}

theorem chainFrom_of_folds (h : Folds operator operand ts pairs rest) (steps : Nat)
    (hsteps : ts.length ≤ steps) (e : Expr) :
    chainFrom operator operand steps e ts = some (folded e pairs, rest) := by
  induction h generalizing steps e with
  | nil hmiss =>
      cases steps with
      | zero => rfl
      | succ n =>
          rw [chainFrom, run_bind_of hmiss]
          rfl
  | cons hoperator hoperand hlt _ ih =>
      cases steps with
      | zero => omega
      | succ n =>
          simp only [chainFrom]
          rw [run_bind_of hoperator]
          simp only
          rw [run_bind_of (require_finds hoperand)]
          exact ih n (by omega) _

/-- Operators of one level bind to the left. -/
theorem chain_of_folds (h : Finds operand us e ts) (hfolds : Folds operator operand ts pairs rest) :
    Finds (chain operator operand) us (folded e pairs) rest := by
  rw [Finds, chain, run_bind_of h]
  simp only
  rw [run_bind_of (run_get ts), run_bind_of (chainFrom_of_folds hfolds _ le_rfl e)]
  rfl

theorem chain_of_operand (h : Finds operand us e ts) (hmiss : Misses operator ts) :
    Finds (chain operator operand) us e ts := chain_of_folds h (.nil hmiss)

/-! ## What is read by a level as by the one below it -/

/-- The operators between operands. -/
def termMarks : List String :=
  factorOperators.map Prod.fst ++ ["+", "-", "%", "MOD", "COLLATE", "&", "|", "^", "??"]

/-- No operator between operands follows.  A shift is two signs. -/
structure EndsTerm (ts : List Token) : Prop where
  marks : next ts ∉ termMarks
  alone : next ts ∉ ["<", ">"] ∨ next ts.tail ∉ ["<", ">"]

theorem bitOperator?_misses (h : EndsTerm ts) : Misses bitOperator? ts := by
  have hshift : ∀ sign ∈ ["<", ">"], acceptAll [sign, sign] ts = some (false, ts) := by
    intro sign hsign
    rcases h.alone with hfirst | hsecond
    · exact acceptAll_false fun heq => hfirst (heq ▸ hsign)
    · exact acceptAll_false_second fun heq => hsecond (heq ▸ hsign)
  have hmiss : Misses (operator? [("&", .binary .bitAnd), ("|", .binary .bitOr),
      ("^", .binary .bitXor), ("??", Grammar.firstNonNull)]) ts :=
    operator?_misses (notMem_of_subset h.marks (by decide))
  rw [Misses, bitOperator?, run_bind_of (hshift "<" (by decide))]
  simp only [Bool.false_eq_true, if_false]
  rw [run_bind_of (hshift ">" (by decide))]
  simp only [Bool.false_eq_true, if_false]
  rw [run_bind_of hmiss]
  rfl

theorem termExpr_of_unaryExpr (h : Finds g.unaryExpr us e ts) (hends : EndsTerm ts) :
    Finds g.termExpr us e ts := by
  have hfactors : ∀ steps, g.factorsFrom steps e ts = some (e, ts) := by
    intro steps
    cases steps with
    | zero => rfl
    | succ n =>
        have hmiss : Misses (operator? factorOperators) ts :=
          operator?_misses (notMem_of_subset hends.marks (by decide))
        simp only [Grammar.factorsFrom]
        rw [run_bind_of (run_get ts), run_bind_of hmiss]
        rfl
  have hfactor : Finds g.factorExpr us e ts := by
    rw [Finds, Grammar.factorExpr, run_bind_of h]
    simp only
    rw [run_bind_of (run_get ts), run_bind_of (hfactors _)]
    rfl
  exact chain_of_operand hfactor (operator?_misses (notMem_of_subset hends.marks (by decide)))

theorem bitwiseExpr_of_unaryExpr (h : Finds g.unaryExpr us e ts) (hends : EndsTerm ts) :
    Finds g.bitwiseExpr us e ts :=
  chain_of_operand (termExpr_of_unaryExpr h hends) (bitOperator?_misses hends)

/-- The words with which tests go on. -/
def testMarks : List String :=
  patternTests.map Prod.fst ++ ["NOT", "!", "IS", "NOTNULL", "BETWEEN", "IN", "SOUNDS LIKE",
    "MEMBER OF", "ISNULL"]

theorem wordTest?_misses (e : Expr) (h : next ts ∉ testMarks) : Misses (g.wordTest? e) ts := by
  have hpattern : Misses (operator? patternTests) ts :=
    operator?_misses (notMem_of_subset h (by decide))
  have hword : Misses (acceptOne? ["BETWEEN", "IN", "SOUNDS LIKE", "MEMBER OF", "ISNULL"]) ts :=
    acceptOne?_misses (notMem_of_subset h (by decide))
  rw [Misses, Grammar.wordTest?, run_bind_of hpattern]
  simp only
  rw [run_bind_of hword]
  rfl

theorem isTest?_misses (e : Expr) (h : next ts ≠ "IS") : Misses (g.isTest? e) ts := by
  rw [Misses, Grammar.isTest?, run_bind_of (run_get ts), run_bind_of (accepts_false h)]
  rfl

/-- A test that may be negated, with no further test after it. -/
theorem rangeExpr_of_test {test : Expr} {word : Option Token} (he : Finds g.bitwiseExpr us e ts)
    (hword : acceptOne? ["NOT", "!"] ts = some (word, vs))
    (htest : Finds (g.rangeTest? word.isSome e) vs test rest)
    (hends : next rest ∉ ["NOTNULL", "IS"]) :
    Finds g.rangeExpr us (if word.isSome then .unary .not test else test) rest := by
  have hnull : accepts "NOTNULL" rest = some (false, rest) :=
    accepts_false (ne_of_notMem hends (by decide))
  have his : ∀ test, Misses (g.isTest? test) rest := fun test =>
    isTest?_misses test (ne_of_notMem hends (by decide))
  rw [Finds, Grammar.rangeExpr, run_bind_of he]
  simp only
  rw [run_bind_of hword, run_bind_of htest]
  simp only
  rw [run_bind_of hnull]
  simp only [Bool.false_eq_true, if_false]
  rw [run_bind_of (run_pure _ _), run_bind_of (his _)]
  rfl

theorem rangeExpr_of_bitwiseExpr (h : Finds g.bitwiseExpr us e ts) (hends : next ts ∉ testMarks) :
    Finds g.rangeExpr us e ts := by
  have hword : Misses (acceptOne? ["NOT", "!"]) ts :=
    acceptOne?_misses (notMem_of_subset hends (by decide))
  have htest : Finds (g.rangeTest? false e) ts e ts := by
    rw [Finds, Grammar.rangeTest?, run_bind_of (run_keyword ts),
      if_neg (ne_of_notMem hends (by decide)), run_bind_of (wordTest?_misses e hends)]
    rfl
  exact rangeExpr_of_test h hword htest (notMem_of_subset hends (by decide))

/-- The signs of comparisons. -/
def comparisonMarks : List String :=
  [">", "<", ">=", "<=", "=", "==", "<>", "!=", "<=>"]

theorem equalityExpr_of_rangeExpr (h : Finds g.rangeExpr us e ts)
    (hends : next ts ∉ comparisonMarks) : Finds g.equalityExpr us e ts := by
  have hcomparison : Finds g.comparisonExpr us e ts :=
    chain_of_operand h (operator?_misses (notMem_of_subset hends (by decide)))
  exact chain_of_operand hcomparison (operator?_misses (notMem_of_subset hends (by decide)))

/-- The words that tie conditions. -/
def connectorMarks : List String := ["AND", "&&", "XOR", "OR", "||"]

theorem conjunctionExpr_of_equalityExpr (h : Finds g.equalityExpr us e ts)
    (hends : next ts ∉ connectorMarks) : Finds g.conjunctionExpr us e ts :=
  chain_of_operand h (operator?_misses (notMem_of_subset hends (by decide)))

theorem disjunctionExpr_of_conjunctionExpr (h : Finds g.conjunctionExpr us e ts)
    (hends : next ts ∉ connectorMarks) : Finds g.disjunctionExpr us e ts :=
  chain_of_operand h (operator?_misses (notMem_of_subset hends (by decide)))

theorem assignmentExpr_of_disjunctionExpr (h : Finds g.disjunctionExpr us e ts)
    (hends : next ts ≠ ":=") : Finds g.assignmentExpr us e ts := by
  rw [Finds, Grammar.assignmentExpr, run_bind_of h]
  simp only
  rw [run_bind_of (accept?_misses hends)]
  rfl

/-- The tokens that end an expression. -/
def closers : List Lexeme :=
  [",", ")"].map (fun s => .of .sign s) ++
    ["FROM", "INNER", "LEFT", "RIGHT", "WHERE", "ASC", "DESC", "LIMIT", "OFFSET"].map
      (fun w => .of .word w) ++
    ["GROUP BY", "ORDER BY"].map fun w => .of .phrase w

/-- The tokens that end a condition. -/
def testClosers : List Lexeme := .of .word "AND" :: closers

section Closed

variable (h : Opens testClosers ts)
include h

theorem endsOperand_of_opens : EndsOperand ts := .of_opens h (by decide +kernel)

theorem endsTerm_of_opens : EndsTerm ts where
  marks := h.next_notMem (by decide +kernel) (by decide)
  alone := .inl (h.next_notMem (by decide +kernel) (by decide))

theorem next_notMem_comparisonMarks : next ts ∉ comparisonMarks :=
  h.next_notMem (by decide +kernel) (by decide)

theorem rangeExpr_of_unaryExpr (he : Finds g.unaryExpr us e ts) : Finds g.rangeExpr us e ts :=
  rangeExpr_of_bitwiseExpr (bitwiseExpr_of_unaryExpr he (endsTerm_of_opens h))
    (h.next_notMem (by decide +kernel) (by decide))

end Closed

theorem next_notMem_connectorMarks (h : Opens closers ts) : next ts ∉ connectorMarks :=
  h.next_notMem (by decide) (by decide)

theorem disjunctionExpr_of_equalityExpr (he : Finds g.equalityExpr us e ts)
    (h : Opens closers ts) : Finds g.disjunctionExpr us e ts := by
  have hends := next_notMem_connectorMarks h
  exact disjunctionExpr_of_conjunctionExpr (conjunctionExpr_of_equalityExpr he hends) hends

/-- An operand alone is an expression. -/
theorem assignmentExpr_of_unaryExpr (he : Finds g.unaryExpr us e ts) (h : Opens closers ts) :
    Finds g.assignmentExpr us e ts := by
  have htest : Opens testClosers ts := h.mono (List.subset_cons_self _ _)
  have hrange := rangeExpr_of_unaryExpr htest he
  have hequality := equalityExpr_of_rangeExpr hrange (next_notMem_comparisonMarks htest)
  exact assignmentExpr_of_disjunctionExpr (disjunctionExpr_of_equalityExpr hequality h)
    (h.next_ne (by decide) (by decide))

/-! ## Expressions with aliases -/

theorem atPaging_false (h : next ts ∉ ["LIMIT", "OFFSET"]) : g.atPaging ts = some (false, ts) := by
  have hlimit : Misses g.limit? ts := by
    rw [Misses, Grammar.limit?, run_bind_of (accept?_misses (ne_of_notMem h (by decide)))]
    rfl
  have hoffset : Misses g.offset? ts := by
    rw [Misses, Grammar.offset?, run_bind_of (accepts_false (ne_of_notMem h (by decide)))]
    rfl
  rw [Grammar.atPaging, run_bind_of (wouldFind_false hlimit)]
  simp only [Bool.false_eq_true, if_false]
  exact wouldFind_false hoffset

theorem nameAfter?_misses {excluded : List String}
    (h : ∀ t ∈ ts.head?, isNameToken excluded t = false ∧ t.kind ≠ .text) :
    Misses (nameAfter? excluded false) ts := by
  refine takeIf?_misses fun t ht => ?_
  obtain ⟨hname, hkind⟩ := h t ht
  simp [hname, hkind]

/-- No other name follows. -/
structure EndsItem (ts : List Token) : Prop where
  marks : next ts ∉ ["LIMIT", "OFFSET", "AS", "("]
  name : ∀ t ∈ ts.head?, isNameToken [] t = false ∧ t.kind ≠ .text

theorem expressionItem_of_assignmentExpr (h : Finds g.assignmentExpr us e ts)
    (hends : EndsItem ts) : Finds g.expressionItem us e ts := by
  have hpaging : g.atPaging ts = some (false, ts) :=
    atPaging_false (notMem_of_subset hends.marks (by decide))
  have halias : g.withAlias false e ts = some (e, ts) := by
    rw [Grammar.withAlias, run_bind_of hpaging]
    simp only [Bool.false_eq_true, if_false]
    rw [run_bind_of (accept?_misses (ne_of_notMem hends.marks (by decide)))]
    simp only [Bool.false_and, Bool.false_eq_true, if_false, Option.isSome_none]
    rw [run_bind_of (accepts_false (ne_of_notMem hends.marks (by decide)))]
    simp only [Bool.false_eq_true, if_false]
    rw [run_bind_of (nameAfter?_misses hends.name)]
    rfl
  rw [Finds, Grammar.expressionItem, run_bind_of h]
  simp only
  rw [run_bind_of halias]
  rfl

end Sql
end QueryDesigner

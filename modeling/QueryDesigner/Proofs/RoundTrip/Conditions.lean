import QueryDesigner.Proofs.Decompile.Conjuncts
import QueryDesigner.Proofs.RoundTrip.Table

/-!
# The conditions of a plain query are read back

* `Draft.ReadsRef` — a reference that is read as it is written;
* `Sql.Test.condition` — the condition that a test is read as;
* `Sql.columnTest?_expr`, `Reading.run_valueOf_source` — what a test says about its column, and its
  value;
* `Reading.run_readConditions_of_reads` — tests that are tied by AND are read one after the other.
-/

namespace QueryDesigner

namespace Sql

/-- The table and the name of the column.  A column alone names no table. -/
def Ref.parts : Ref → String × String
  | bare column => ("", column)
  | qualified key column => (key, column)

theorem Ref.column?_expr (r : Ref) : r.expr.column? = some r.parts := by
  cases r <;> rfl

/-- How the value of a check is found. -/
def Check.source : Check → ValueSource
  | compare _ k => .operand k.expr
  | like _ k => .operand k.expr
  | among _ items => .text (String.intercalate ", " (items.map Constant.sql))
  | between _ low high => .text (rangeValue low.expr high.expr)
  | isNull _ => .none

/-- The condition that a test is read as. -/
def Test.condition (t : Test) : Condition := ⟨t.left.text, t.check.operator, t.check.value, .and⟩

theorem Constant.afterComments_expr (k : Constant) : k.expr.afterComments = k.expr := by
  cases k with
  | number isNegative digits => cases isNegative <;> rfl
  | text value => rfl

theorem Constant.intercalate_shown (items : List Constant) :
    String.intercalate ", " ((items.map Constant.expr).map Expr.shown) =
      String.intercalate ", " (items.map Constant.sql) := by
  rw [List.map_map, List.map_congr_left fun k _ => k.shown_expr]

section Tests

variable {e left : Expr} {operator negated : Operator} {source : ValueSource}
  {column : String × String}

theorem columnTest?_of_testOf? (hnot : ∀ x, e.bare ≠ .unary .not x)
    (htest : testOf? e = some (left, operator, source)) (hcolumn : left.column? = some column) :
    columnTest? e = some (column, left, operator, source) := by
  unfold columnTest?
  split
  · rename_i x hbare
    exact absurd hbare (hnot x)
  · simp [htest, hcolumn]

theorem columnTest?_negatedIf (hnot : ∀ x, e.bare ≠ .unary .not x) (hunnested : e.unnested = e)
    (htest : testOf? e = some (left, operator, source)) (hcolumn : left.column? = some column)
    (hnegated : negatedOperator? operator = some negated) (isNegated : Bool) :
    columnTest? (negatedIf isNegated e) =
      some (column, left, if isNegated then negated else operator, source) := by
  cases isNegated with
  | false => exact columnTest?_of_testOf? hnot htest hcolumn
  | true =>
      have hbare : columnTest? (.unary .not e) = (testOf? e.unnested).bind fun test =>
          test.1.column?.bind fun column => (negatedOperator? test.2.1).bind fun operator =>
            some (column, test.1, operator, test.2.2) := rfl
      rw [negatedIf, if_pos rfl, hbare, hunnested, htest, Option.bind_some, hcolumn,
        Option.bind_some, hnegated]
      rfl

end Tests

/-- A test says about its column what it was made to say. -/
theorem columnTest?_expr {t : Test} (ht : t.check.IsFilled) :
    columnTest? t.expr =
      some (t.left.parts, t.left.expr, t.check.operator, t.check.source) := by
  obtain ⟨r, check⟩ := t
  have hcolumn := r.column?_expr
  cases check with
  | compare comparison k =>
      have htest : testOf? (.binary comparison.op r.expr k.expr) =
          some (r.expr, comparison.operator, .operand k.expr) := by
        cases comparison <;>
          exact congrArg (fun e => some (r.expr, _, ValueSource.operand e)) k.afterComments_expr
      exact columnTest?_of_testOf? (e := .binary comparison.op r.expr k.expr) (by simp [Expr.bare])
        htest hcolumn
  | like isNegated k =>
      have htest : testOf? (.binary .like r.expr k.expr) =
          some (r.expr, .like, .operand k.expr) :=
        congrArg (fun e => some (r.expr, _, ValueSource.operand e)) k.afterComments_expr
      exact columnTest?_negatedIf (by simp [Expr.bare]) rfl htest hcolumn rfl isNegated
  | among isNegated items =>
      obtain ⟨first, others, rfl⟩ := List.exists_cons_of_ne_nil ht
      have htest : testOf? (.among r.expr ((first :: others).map Constant.expr)) =
          some (r.expr, .isIn,
            .text (String.intercalate ", " ((first :: others).map Constant.sql))) :=
        congrArg (fun v => some (r.expr, _, ValueSource.text v))
          (Constant.intercalate_shown (first :: others))
      exact columnTest?_negatedIf (by simp [Expr.bare]) rfl htest hcolumn rfl isNegated
  | between isNegated low high =>
      exact columnTest?_negatedIf (e := .between false r.expr low.expr high.expr)
        (by simp [Expr.bare]) rfl rfl hcolumn rfl isNegated
  | isNull isNegated =>
      exact columnTest?_negatedIf (e := .binary .is r.expr .null) (by simp [Expr.bare]) rfl rfl
        hcolumn rfl isNegated

theorem Test.conjuncts_expr (t : Test) : t.expr.conjuncts = [t.expr] := by
  obtain ⟨r, check⟩ := t
  cases check with
  | compare comparison k => cases comparison <;> rfl
  | like isNegated k => cases isNegated <;> rfl
  | among isNegated items => cases isNegated <;> rfl
  | between isNegated low high => cases isNegated <;> rfl
  | isNull isNegated => cases isNegated <;> rfl

theorem Test.bare_expr_ne_or (t : Test) (left right : Expr) : t.expr.bare ≠ .binary .or left right := by
  obtain ⟨r, check⟩ := t
  cases check with
  | compare comparison k => cases comparison <;> nofun
  | like isNegated k => cases isNegated <;> nofun
  | among isNegated items => cases isNegated <;> nofun
  | between isNegated low high => cases isNegated <;> nofun
  | isNull isNegated => cases isNegated <;> nofun

theorem conjuncts_folded (e : Expr) (es : List Expr) :
    (folded e (es.map fun e => (.binary .and, e))).conjuncts =
      e.conjuncts ++ es.flatMap Expr.conjuncts := by
  induction es generalizing e with
  | nil => exact (List.append_nil _).symm
  | cons first rest ih =>
      refine (ih (.binary .and e first)).trans ?_
      rw [Expr.conjuncts, List.flatMap_cons, List.append_assoc]

theorem Test.conjuncts_conjunction (first : Test) (others : List Test) :
    (first.conjunction others).conjuncts = (first :: others).map Test.expr := by
  have hfolded := conjuncts_folded first.expr (others.map Test.expr)
  rw [List.map_map, List.flatMap_map] at hfolded
  refine hfolded.trans ?_
  rw [first.conjuncts_expr, List.flatMap_congr fun t _ => t.conjuncts_expr, ← List.map_eq_flatMap]
  rfl

end Sql

/-- The reference is read as it is written. -/
def Draft.ReadsRef (d : Draft) : Sql.Ref → Prop
  | .bare _ => True
  | .qualified key column => d.Resolves key column

/-- What else is in the query does not matter. -/
theorem Draft.ReadsRef.withQuery {d : Draft} {r : Sql.Ref} (h : d.ReadsRef r) {q : Query}
    (hq : q.tables = d.canvas.query.tables) : (Reading.withQuery d q).ReadsRef r := by
  cases r with
  | bare column => trivial
  | qualified key column =>
      refine ⟨h.stands, ?_⟩
      have hfind : q.findTable? key = d.canvas.query.findTable? key := by
        rw [Query.findTable?, hq, Query.findTable?]
      have hspelled := h.spelled
      unfold Draft.spelling at hspelled ⊢
      rwa [← hfind] at hspelled

namespace Reading

variable {d : Draft}

theorem run_columnRef_of_reads {r : Sql.Ref} (h : d.ReadsRef r) (shown : String)
    (keepsUnknown : Bool) :
    (columnRef r.parts.1 r.parts.2 shown keepsUnknown).run d = .ok r.text d := by
  cases r with
  | bare column => rfl
  | qualified key column =>
      have hkey : (keyOf? key).run d = .ok (some key) d :=
        (run_keyOf? key d).trans (congrArg (EStateM.Result.ok · d) h.stands)
      have hne : key ≠ "" := by
        rintro rfl
        cases h.stands
      unfold columnRef
      rw [Sql.Ref.parts, if_neg hne, EStateM.run_bind, hkey]
      exact congrArg (fun c => EStateM.Result.ok (Reference.qualified key c) d) h.spelled

/-- A constant is taken as it is.  A negative number is no literal, but it reads as a number. -/
theorem run_valueOf_operand {k : Sql.Constant} {v : String} (h : k.Means v) (predicate : Sql.Expr) :
    (valueOf predicate (.operand k.expr)).run d = .ok k.value d := by
  unfold valueOf
  dsimp only
  rw [k.literalText?_expr]
  cases k with
  | text content => rfl
  | number isNegative digits =>
      cases isNegative with
      | false => simp [Sql.Constant.literal?, Sql.Constant.value, Sql.Numeral.signed]
      | true =>
          have hnumeral : Text.isNumeral (digits.signed true) = true :=
            (digits.isNumeral_signed true).trans h.1
          have hshown := (Sql.Constant.number true digits).shown_expr
          simp only [Sql.Constant.literal?, hshown, Sql.Constant.sql, hnumeral]
          rfl

theorem run_valueOf_source {check : Sql.Check} {v : String} (h : check.Means v)
    (predicate : Sql.Expr) : (valueOf predicate check.source).run d = .ok check.value d := by
  cases check with
  | compare comparison k => exact run_valueOf_operand h predicate
  | like isNegated k => exact run_valueOf_operand h predicate
  | among isNegated items => rfl
  | between isNegated low high => rfl
  | isNull isNegated => rfl

/-- The draft with more conditions. -/
def withConditions (d : Draft) (cs : List Condition) : Draft :=
  withQuery d { d.canvas.query with conditions := d.canvas.query.conditions ++ cs }

theorem run_readPredicate_of_reads {t : Sql.Test} {v : String} (hleft : d.ReadsRef t.left)
    (h : t.check.Means v) : (readPredicate t.expr).run d = .ok () (withConditions d [t.condition]) := by
  have htest := Sql.columnTest?_expr (Sql.Check.isFilled_of_means h)
  have hcondition : (conditionOf? t.expr).run d = .ok (some t.condition) d := by
    unfold conditionOf?
    rw [htest]
    dsimp only
    rw [EStateM.run_bind, run_valueOf_source h]
    dsimp only
    rw [EStateM.run_bind, run_columnRef_of_reads hleft]
    rfl
  unfold readPredicate
  split
  · rename_i hbare
    exact absurd hbare (t.bare_expr_ne_or _ _)
  · rw [EStateM.run_bind, hcondition]
    rfl

/-- A loop over what was made of a list, given the states after each part of the list. -/
theorem run_forIn_of_split {α β : Type} {f : α → β} {x : β → Reading Unit} {l : List α}
    {s : List α → Draft}
    (hstep : ∀ before a after, l = before ++ a :: after →
      (x (f a)).run (s before) = .ok () (s (before ++ [a]))) :
    EStateM.run (forIn (l.map f) PUnit.unit fun b _ =>
        (do x b; pure (.yield PUnit.unit) : Reading _)) (s []) = .ok PUnit.unit (s l) := by
  induction l generalizing s with
  | nil => rfl
  | cons a rest ih =>
      obtain ⟨hfirst, hrest⟩ := forall_split_cons.1 hstep
      rw [List.map_cons, List.forIn_cons, bind_assoc, EStateM.run_bind, hfirst]
      exact ih (s := fun before => s (a :: before)) hrest

/-- Tests that are tied by AND are read one after the other. -/
theorem run_readConditions_of_reads {first : Sql.Test} {others : List Sql.Test}
    (hleft : ∀ t ∈ first :: others, d.ReadsRef t.left)
    (h : ∀ t ∈ first :: others, ∃ v, t.check.Means v) :
    (readConditions (first.conjunction others)).run d =
      .ok () (withConditions d ((first :: others).map Sql.Test.condition)) := by
  have hempty : withConditions d ([].map Sql.Test.condition) = d := by
    simp [withConditions, withQuery]
  have hloop := run_forIn_of_split (f := Sql.Test.expr) (x := readPredicate) (l := first :: others)
    (s := fun ts => withConditions d (ts.map Sql.Test.condition)) fun before t after hsplit => by
      have ht : t ∈ first :: others := by
        rw [hsplit]
        exact List.mem_append_right _ List.mem_cons_self
      obtain ⟨v, hv⟩ := h t ht
      have hleft : (withConditions d (before.map Sql.Test.condition)).ReadsRef t.left :=
        (hleft t ht).withQuery rfl
      rw [run_readPredicate_of_reads hleft hv]
      simp [withConditions, withQuery]
  rw [hempty] at hloop
  unfold readConditions
  rw [Sql.Test.conjuncts_conjunction, EStateM.run_bind, hloop]
  rfl

/-- The whole WHERE clause, if there is one. -/
theorem run_conditionOf_of_reads {tests : List Sql.Test} (hleft : ∀ t ∈ tests, d.ReadsRef t.left)
    (h : ∀ t ∈ tests, ∃ v, t.check.Means v) :
    EStateM.run (forM (Sql.conditionOf tests) readConditions) d =
      .ok () (withConditions d (tests.map Sql.Test.condition)) := by
  cases tests with
  | nil => simp [Sql.conditionOf, withConditions, withQuery]
  | cons first others => exact run_readConditions_of_reads hleft h

end Reading

end QueryDesigner

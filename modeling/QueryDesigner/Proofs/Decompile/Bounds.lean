import QueryDesigner.Compile.Clause
import QueryDesigner.Proofs.Compile.Range
import QueryDesigner.Proofs.Decompile.Steps

/-!
# Ranges that are read and written again

* `Sql.Expr.IsRange` — the predicates with two bounds;
* `Reading.between_kept_iff` — the bounds of a range that was read are written again just if they
  can be told apart in the text that is made of them.
-/

namespace QueryDesigner

/-- A predicate that says of its left side that it is between two bounds, or that it is not. -/
def Sql.Expr.IsRange (predicate left low high : Sql.Expr) : Prop :=
  ∃ isSymmetric, predicate.bare = .between isSymmetric left low high ∨
    ∃ e, predicate.bare = .unary .not e ∧ e.unnested.bare = .between isSymmetric left low high

variable {predicate left low high : Sql.Expr} {a b : String}

theorem rangeValue_of_literals (hlow : low.literalText? = some a)
    (hhigh : high.literalText? = some b) (ha : ',' ∉ a.toList) (hb : ',' ∉ b.toList) :
    rangeValue low high = a ++ ", " ++ b := by
  simp [rangeValue, hlow, hhigh, ha, hb]

theorem testOf?_of_between {isSymmetric : Bool}
    (h : predicate.bare = .between isSymmetric left low high) :
    testOf? predicate = some (left, .between, .text (rangeValue low high)) := by
  rw [testOf?, h]

/-- A range of a column becomes a condition with both bounds in its value. -/
theorem columnTest?_of_isRange (h : predicate.IsRange left low high) {column : String × String}
    (hcolumn : left.column? = some column) :
    ∃ operator, operator.operand = .range ∧
      columnTest? predicate = some (column, left, operator, .text (rangeValue low high)) := by
  rcases h with ⟨isSymmetric, hbare | ⟨e, hbare, hinner⟩⟩
  · refine ⟨.between, rfl, ?_⟩
    rw [columnTest?, hbare, testOf?_of_between hbare]
    simp [hcolumn]
  · refine ⟨.notBetween, rfl, ?_⟩
    rw [columnTest?, hbare]
    simp [testOf?_of_between hinner, hcolumn, negatedOperator?]

namespace Reading

theorem run_conditionOf?_of_isRange (h : predicate.IsRange left low high)
    {column : String × String} (hcolumn : left.column? = some column) (d : Draft) :
    ∃ condition reported, (conditionOf? predicate).run d =
        .ok (some condition) { d with warnings := d.warnings ++ reported } ∧
      condition.operator.operand = .range ∧ condition.value = rangeValue low high := by
  rcases columnTest?_of_isRange h hcolumn with ⟨operator, hoperand, htest⟩
  rcases Remarks.columnRef column.1 column.2 left.shown true d with ⟨ref, reported, href, -⟩
  refine ⟨⟨ref, operator, rangeValue low high, .and⟩, reported, ?_, hoperand, rfl⟩
  rw [conditionOf?, htest]
  dsimp only
  rw [valueOf, pure_bind, EStateM.run_bind, href]
  rfl

/-- Bounds that are literals without a comma stand in the condition one after the other without
quotes.  They are written again as two values just if they can be told apart there. -/
theorem between_kept_iff (d : Draft) :
    predicate.IsRange left low high → left.column?.isSome = true →
      low.literalText? = some a → high.literalText? = some b →
        ',' ∉ a.toList → ',' ∉ b.toList →
          ∃ condition reported, (conditionOf? predicate).run d =
              .ok (some condition) { d with warnings := d.warnings ++ reported } ∧
            condition.value = a ++ ", " ++ b ∧
              (condition.text = condition.column ++ " " ++ condition.operator.text ++ " " ++
                  (formatValue a ++ " AND " ++ formatValue b) ↔
                Separable a b) := by
  intro h hleft hlow hhigh ha hb
  rcases Option.isSome_iff_exists.1 hleft with ⟨column, hcolumn⟩
  rcases run_conditionOf?_of_isRange h hcolumn d with ⟨condition, reported, hrun, hoperand, hvalue⟩
  rw [rangeValue_of_literals hlow hhigh ha hb] at hvalue
  refine ⟨condition, reported, hrun, hvalue, ?_⟩
  rw [← formatRange_bare_iff ha hb, Condition.text, hoperand, hvalue]
  exact String.append_right_inj _

/-- Two numbers are told apart.  A parenthesis that is not closed hides the comma behind it. -/
theorem between_kept_iff_of_numbers_and_parenthesis :
    (∃ condition reported,
      (conditionOf? (.between false (.column [] ⟨"a", false⟩) (.string "10")
          (.string "20"))).run {} = .ok (some condition) { warnings := reported } ∧
        condition.value = "10, 20" ∧
          condition.text = condition.column ++ " " ++ condition.operator.text ++ " " ++
            "10 AND 20") ∧
      ∃ condition reported,
        (conditionOf? (.between false (.column [] ⟨"a", false⟩) (.string "(x")
            (.string "y"))).run {} = .ok (some condition) { warnings := reported } ∧
          condition.value = "(x, y" ∧
            condition.text ≠ condition.column ++ " " ++ condition.operator.text ++ " " ++
              "'(x' AND 'y'" := by
  have hnumbers : Separable "10" "20" := by
    refine ⟨?_, ?_, .inl (by decide +kernel), .inl (by decide +kernel)⟩
    · rw [← hasAnd_eq_true_iff]
      decide +kernel
    · rw [← isSome_separator?_iff (by decide)]
      decide +kernel
  have hhidden : ¬ Separable "(x" "y" := by
    intro h
    have hcomma := (isSome_separator?_iff (by decide)).2 h.openComma
    revert hcomma
    decide +kernel
  have hwritten : formatValue "10" ++ " AND " ++ formatValue "20" = "10 AND 20" ∧
      formatValue "(x" ++ " AND " ++ formatValue "y" = "'(x' AND 'y'" := by
    decide +kernel
  have hrange : ∀ a b : String, Sql.Expr.IsRange
      (.between false (.column [] ⟨"a", false⟩) (.string a) (.string b)) (.column [] ⟨"a", false⟩)
        (.string a) (.string b) := fun a b => ⟨false, .inl rfl⟩
  constructor
  · rcases between_kept_iff {} (hrange "10" "20") rfl rfl rfl (by decide) (by decide) with
      ⟨condition, reported, hrun, hvalue, htext⟩
    rw [hwritten.1] at htext
    exact ⟨condition, reported, hrun, hvalue, htext.2 hnumbers⟩
  · rcases between_kept_iff {} (hrange "(x" "y") rfl rfl rfl (by decide) (by decide) with
      ⟨condition, reported, hrun, hvalue, htext⟩
    rw [hwritten.2] at htext
    exact ⟨condition, reported, hrun, hvalue, fun heq => hhidden (htext.1 heq)⟩

end Reading

end QueryDesigner

import Mathlib
import QueryDesigner.Compile.Clause
import QueryDesigner.Proofs.Compile.Constant
import QueryDesigner.Proofs.Decompile.Bounds
import QueryDesigner.Proofs.Parser.Test

/-!
# Conditions in statements

* `Ref.text`, `isSpelled_ref` — a column as it is written;
* `Check.operator`, `Check.Means` — the test that an operator and its value are written as;
* `isSpelled_condition` — a condition is spelled by the tokens of its test;
* `Check.value`, `Condition.settled` — the value that is read back.
-/

namespace QueryDesigner
namespace Sql

open QueryDesigner.Sql.Parser

variable {s t v : String} {ls ms : List Lexeme} {isNegated : Bool}

/-! ## Columns -/

/-- A column as a query refers to it. -/
def Ref.text : Ref → String
  | bare column => column
  | qualified key column => Reference.qualified key column

theorem isSpelled_ref {r : Ref} (hr : r.IsNamed) : IsSpelled r.text r.lexemes := by
  cases r with
  | bare column => exact .name hr
  | qualified key column =>
      rw [Ref.text, Reference.qualified, String.append_assoc]
      exact .after_point hr.1 (.name hr.2)

/-! ## Tests -/

namespace ComparisonSign

def operator : ComparisonSign → Operator
  | eq => .eq
  | ne => .ne
  | gt => .gt
  | lt => .lt
  | ge => .ge
  | le => .le

theorem text_operator (comparison : ComparisonSign) : comparison.operator.text = comparison.sign := by
  cases comparison <;> rfl

theorem operand_operator (comparison : ComparisonSign) : comparison.operator.operand = .single := by
  cases comparison <;> rfl

theorem sign_mem (comparison : ComparisonSign) : comparison.sign ∈ comparisonSigns := by
  cases comparison <;> decide

end ComparisonSign

/-- The value of a range comes back as it is: its bounds are constants without a sign and without a
comma, and a comma separates them, or they are constants with `AND` between them. -/
inductive IsRange : String → Constant → Constant → Prop where
  | separated {low high : Constant} {a b : String} :
      low.literal? = some a → high.literal? = some b → low.Means a → high.Means b →
        ',' ∉ a.toList → ',' ∉ b.toList → Separable a b → IsRange (a ++ ", " ++ b) low high
  | tied {low high : Constant} :
      low.IsWhole → high.IsWhole →
        (∀ a b, low.literal? = some a → high.literal? = some b → ',' ∈ a.toList ∨ ',' ∈ b.toList) →
          IsRange (low.sql ++ " AND " ++ high.sql) low high

namespace Check

/-- The operator of the test. -/
def operator : Check → Operator
  | compare comparison _ => comparison.operator
  | like isNegated _ => if isNegated then .notLike else .like
  | among isNegated _ => if isNegated then .notIn else .isIn
  | between isNegated _ _ => if isNegated then .notBetween else .between
  | isNull isNegated => if isNegated then .isNotNull else .isNull

/-- Together with the operator, the value says what the test does.  A list consists of constants with
commas and blanks between them. -/
def Means (v : String) : Check → Prop
  | compare _ k => k.Means v
  | like _ k => k.Means v
  | among _ items =>
    items ≠ [] ∧ (∀ k ∈ items, k.IsWhole) ∧ v = String.intercalate ", " (items.map Constant.sql)
  | between _ low high => IsRange v low high
  | isNull _ => True

/-- The value that the reader takes a test for. -/
def value : Check → String
  | compare _ k => k.value
  | like _ k => k.value
  | among _ items => String.intercalate ", " (items.map Constant.sql)
  | between _ low high => rangeValue low.expr high.expr
  | isNull _ => ""

theorem isFilled_of_means {check : Check} (h : check.Means v) : check.IsFilled := by
  cases check with
  | among isNegated items => exact h.1
  | _ => exact trivial

end Check

/-! ## Ranges -/

section Range

variable {low high : Constant}

theorem flush_sql {k : Constant} (hk : k.IsWhole) : Text.Flush k.sql.toList where
  head c hc := by
    obtain ⟨d, cs, hchars, hd⟩ := (Constant.isSpelled_sql hk).ink
    rw [hchars] at hc
    obtain rfl := Option.some.inj hc
    exact hd
  last c hc := by
    cases k with
    | text content =>
        rw [Constant.sql, String.toList_ofList, writeText_eq, ← List.cons_append,
          List.getLast?_concat] at hc
        obtain rfl := Option.some.inj hc
        decide
    | number isNegative digits =>
        obtain ⟨d, tail, hchars, -⟩ := digits.exists_cons
        refine hk.flush.last c ?_
        rw [Constant.sql, Numeral.signed, String.toList_append, hchars,
          List.getLast?_append_cons] at hc
        rwa [hchars]

theorem hasAnd_tied (low high : String) : hasAnd (low ++ " AND " ++ high).toList = true := by
  refine (hasAnd_eq_true_iff _).2 ⟨[' ', 'A', 'N', 'D', ' '], ?_, low.toList, high.toList, by simp⟩
  exact ⟨' ', 'A', 'N', 'D', ' ', rfl, by decide, .inl rfl, .inl rfl, .inl rfl, by decide⟩

/-- Constants that are tied by `AND` stay as they are. -/
theorem formatRange_tied (hlow : low.IsWhole) (hhigh : high.IsWhole) :
    formatRange (low.sql ++ " AND " ++ high.sql) = low.sql ++ " AND " ++ high.sql := by
  rw [formatRange, if_pos (hasAnd_tied _ _)]
  refine Text.trim_eq_self ⟨fun c hc => ?_, fun c hc => ?_⟩
  · obtain ⟨d, cs, hchars, hd⟩ := (Constant.isSpelled_sql hlow).ink
    rw [String.append_assoc, String.toList_append, hchars] at hc
    obtain rfl := Option.some.inj hc
    exact hd
  · obtain ⟨d, cs, hchars, -⟩ := (Constant.isSpelled_sql hhigh).ink
    refine (flush_sql hhigh).last c ?_
    rw [String.toList_append, hchars, List.getLast?_append_cons] at hc
    rwa [hchars]

theorem isSpelled_range (h : IsRange v low high) :
    IsSpelled (formatRange v) (low.lexemes ++ .of .word "AND" :: high.lexemes) := by
  have htie : ∀ {a b : String}, IsSpelled a low.lexemes → IsSpelled b high.lexemes →
      IsSpelled (a ++ " AND " ++ b) (low.lexemes ++ .of .word "AND" :: high.lexemes) := by
    intro a b ha hb
    have hword : a ++ " AND " ++ b = a ++ (" " ++ ("AND" ++ (" " ++ b))) := by
      rw [String.append_assoc]
      rfl
    rw [hword]
    exact ha.spaced (.after_keyword (by decide) hb) (follows_words (by decide) (by decide) b)
  cases h with
  | separated _ _ hlow hhigh ha hb hseparable =>
      rw [(formatRange_bare_iff ha hb).2 hseparable]
      exact htie (Constant.isSpelled_formatValue hlow) (Constant.isSpelled_formatValue hhigh)
  | tied hlow hhigh _ =>
      rw [formatRange_tied hlow hhigh]
      exact htie (Constant.isSpelled_sql hlow) (Constant.isSpelled_sql hhigh)

/-- A range is read back as it was. -/
theorem rangeValue_of_isRange (h : IsRange v low high) : rangeValue low.expr high.expr = v := by
  cases h with
  | separated ha hb _ _ hlow hhigh _ =>
      rw [rangeValue_of_literals (low.literalText?_expr.trans ha) (high.literalText?_expr.trans hb)
        hlow hhigh]
  | tied _ _ hcomma =>
      unfold rangeValue
      rw [low.literalText?_expr, high.literalText?_expr, low.shown_expr, high.shown_expr]
      split
      next a b ha hb =>
          have hor : (a.toList.contains ',' || b.toList.contains ',') = true := by
            simpa using hcomma a b ha hb
          rw [if_pos hor]
      next => rfl

end Range

/-! ## Conditions -/

/-- A test that may be negated. -/
def negatedText (isNegated : Bool) (t : String) : String :=
  if isNegated then "NOT" ++ (" " ++ t) else t

theorem negatedText_append (isNegated : Bool) (s t : String) :
    negatedText isNegated s ++ t = negatedText isNegated (s ++ t) := by
  have hassoc : ∀ n b : String, n ++ (b ++ s) ++ t = n ++ (b ++ (s ++ t)) := by
    intro n b
    rw [String.append_assoc, String.append_assoc]
  cases isNegated with
  | false => rfl
  | true => exact hassoc "NOT" " "

theorem append_spaced (a s t : String) :
    a ++ " " ++ s ++ " " ++ t = a ++ (" " ++ (s ++ (" " ++ t))) := by
  rw [String.append_assoc, String.append_assoc, String.append_assoc]

theorem append_parens (a s t : String) :
    a ++ " " ++ s ++ " (" ++ t ++ ")" = a ++ (" " ++ (s ++ (" " ++ ("(" ++ (t ++ ")"))))) := by
  have hassoc : ∀ b p : String,
      a ++ " " ++ s ++ (b ++ p) ++ t ++ ")" = a ++ " " ++ s ++ b ++ (p ++ (t ++ ")")) := by
    intro b p
    simp only [String.append_assoc]
  rw [← append_spaced]
  exact hassoc " " "("

theorem isSpelled_negated (ht : IsSpelled t ms) (isNegated : Bool) :
    IsSpelled (negatedText isNegated t) (negation isNegated ++ ms) := by
  cases isNegated with
  | false => exact ht
  | true => exact .after_keyword (by decide) ht

theorem follows_negated (ht : Follows t) (isNegated : Bool) :
    Follows (negatedText isNegated t) := by
  cases isNegated with
  | false => exact ht
  | true => exact follows_words (by decide) (by decide) t

/-- A list between parentheses. -/
theorem isSpelled_parens (ht : IsSpelled t ms) :
    IsSpelled ("(" ++ (t ++ ")")) (.of .sign "(" :: (ms ++ [.of .sign ")"])) where
  ink := HasInk.append ⟨'(', [], rfl, by decide⟩ _
  spells rest hrest := by
    have hchars : ("(" ++ (t ++ ")")).toList ++ rest = '(' :: (t.toList ++ ')' :: rest) := by simp
    rw [hchars]
    exact (spells_sign (by decide) _).append
      ((ht.spells _ (.of_mark (by decide) rest)).append (spells_sign (by decide) rest))

/-- What a condition says about its column is spelled by the tokens of its test. -/
theorem exists_text_of_means {c : Condition} {check : Check} (hoperator : c.operator = check.operator)
    (h : check.Means c.value) :
    ∃ text, c.text = c.column ++ (" " ++ text) ∧ IsSpelled text check.lexemes ∧ Follows text := by
  obtain ⟨column, operator, v, connector⟩ := c
  dsimp only at hoperator h
  subst hoperator
  cases check with
  | compare comparison k =>
      refine ⟨comparison.sign ++ (" " ++ formatValue v), ?_,
        .after_comparison comparison.sign_mem (Constant.isSpelled_formatValue h),
        follows_comparison comparison.sign_mem _⟩
      simp only [Condition.text, Check.operator, comparison.operand_operator,
        comparison.text_operator, append_spaced]
  | like isNegated k =>
      refine ⟨negatedText isNegated ("LIKE" ++ (" " ++ formatValue v)), ?_,
        isSpelled_negated (.after_keyword (by decide) (Constant.isSpelled_formatValue h)) _,
        follows_negated (follows_words (by decide) (by decide) _) _⟩
      rw [← negatedText_append, ← append_spaced]
      cases isNegated <;> rfl
  | among isNegated items =>
      obtain ⟨hne, hwhole, rfl⟩ := h
      have hlist := IsSpelled.commaList (fun k hk => Constant.isSpelled_sql (hwhole k hk)) hne
      refine ⟨negatedText isNegated ("IN" ++ (" " ++ ("(" ++
          (String.intercalate ", " (items.map Constant.sql) ++ ")")))), ?_,
        isSpelled_negated (.after_keyword (by decide) (isSpelled_parens hlist)) _,
        follows_negated (follows_words (by decide) (by decide) _) _⟩
      rw [← negatedText_append, ← append_parens]
      cases isNegated <;> rfl
  | between isNegated low high =>
      refine ⟨negatedText isNegated ("BETWEEN" ++ (" " ++ formatRange v)), ?_,
        isSpelled_negated (.after_keyword (by decide) (isSpelled_range h)) _,
        follows_negated (follows_words (by decide) (by decide) _) _⟩
      rw [← negatedText_append, ← append_spaced]
      cases isNegated <;> rfl
  | isNull isNegated =>
      refine ⟨"IS" ++ (" " ++ negatedText isNegated "NULL"), ?_,
        .after_keyword (by decide) (isSpelled_negated (.keyword (by decide)) _),
        follows_words (by decide) (by decide) _⟩
      have hnull : Condition.text ⟨column, (Check.isNull isNegated).operator, v, connector⟩ =
          column ++ " " ++ ("IS" ++ (" " ++ negatedText isNegated "NULL")) := by
        cases isNegated <;> rfl
      rw [hnull, String.append_assoc]

theorem isSpelled_condition {c : Condition} {test : Test} (hnamed : test.left.IsNamed)
    (hcolumn : test.left.text = c.column) (hoperator : test.check.operator = c.operator)
    (h : test.check.Means c.value) : IsSpelled c.text test.lexemes := by
  obtain ⟨text, htext, hspelled, hfollows⟩ := exists_text_of_means hoperator.symm h
  rw [htext, ← hcolumn]
  exact (isSpelled_ref hnamed).spaced hspelled hfollows

end Sql

/-! ## What is read back -/

/-- The condition as it is read back: without blanks around a number and without a value where none
is written. -/
def Condition.settled (c : Condition) : Condition :=
  { c with
    connector := .and
    value :=
      match c.operator.operand with
      | .absent => ""
      | .single => if Text.isNumeral (Text.trim c.value) then Text.trim c.value else c.value
      | _ => c.value }

theorem Condition.settled_eq {c : Condition} {check : Sql.Check}
    (hoperator : check.operator = c.operator) (h : check.Means c.value) :
    c.settled = ⟨c.column, check.operator, check.value, .and⟩ := by
  obtain ⟨column, operator, v, connector⟩ := c
  dsimp only at hoperator h
  subst hoperator
  cases check with
  | compare comparison k =>
      simp only [Condition.settled, Sql.Check.operator, comparison.operand_operator,
        Sql.Check.value, Sql.Constant.value_of_means h]
  | like isNegated k =>
      have hvalue := Sql.Constant.value_of_means h
      cases isNegated <;>
        simp [Condition.settled, Sql.Check.operator, Operator.operand, Sql.Check.value, hvalue]
  | among isNegated items =>
      obtain ⟨-, -, rfl⟩ := h
      cases isNegated <;> rfl
  | between isNegated low high =>
      have hvalue := Sql.rangeValue_of_isRange h
      cases isNegated <;>
        simp [Condition.settled, Sql.Check.operator, Operator.operand, Sql.Check.value, hvalue]
  | isNull isNegated => cases isNegated <;> rfl

/-- The settled condition is written as the condition was. -/
theorem Condition.text_settled (c : Condition) : c.settled.text = c.text := by
  have hformat : ∀ v : String,
      formatValue (if Text.isNumeral (Text.trim v) then Text.trim v else v) = formatValue v := by
    intro v
    split_ifs with hnumeral
    · rw [formatValue_of_isNumeral hnumeral,
        formatValue_of_isNumeral (by rwa [trim_trim]), trim_trim]
    · rfl
  cases hoperand : c.operator.operand <;> simp [Condition.text, Condition.settled, hoperand, hformat]

end QueryDesigner

import Mathlib
import QueryDesigner.Proofs.Layout.LetterCase
import QueryDesigner.Proofs.Text.Trim
import QueryDesigner.Sql.Comparison

/-!
# What a comparison does not tell apart

* `literals_agree_of_isEquivalent` — texts that are equivalent have the same literals but for letter
  case;
* `isEquivalent_filtered_iff` — letter case is indeed left out: a literal in a condition may change
  to any other one with the same letters.
-/

namespace QueryDesigner
namespace Sql

open Layout (quotedParts)

/-! ## Literals -/

theorem compare_isEquivalent_iff {s t : String} :
    (compare s t).isEquivalent = true ↔
      ∃ a b, script? s = some a ∧ script? t = some b ∧ areEquivalent a b = true := by
  unfold compare
  cases script? s with
  | none =>
      simp
  | some a =>
      cases script? t with
      | none =>
          simp
      | some b =>
          simp

/-- Equivalent texts can both be read.  Either nothing differs in them besides comments and
directions that go without saying, or their literals, as the server would get them, differ in letter
case at most. -/
theorem literals_agree_of_isEquivalent {s t : String} (h : (compare s t).isEquivalent = true) :
    ∃ a b, script? s = some a ∧ script? t = some b ∧
      (scriptText .essential a = scriptText .essential b ∨
        (quotedParts (scriptText .folded a)).map Text.folded =
          (quotedParts (scriptText .folded b)).map Text.folded) := by
  rcases compare_isEquivalent_iff.1 h with ⟨a, b, ha, hb, hequivalent⟩
  rw [areEquivalent, Bool.or_eq_true, beq_iff_eq, Text.sameLetters, beq_iff_eq] at hequivalent
  -- The lower case of a whole text moves no quote in it, so the literals can be compared one by one.
  exact ⟨a, b, ha, hb, hequivalent.imp_right Layout.quotedParts_of_lower_eq⟩

theorem literals_agree_of_case_in_literal :
    (compare "SELECT 'Ada'" "SELECT 'ada'").isEquivalent = true ∧
      ∃ a b, script? "SELECT 'Ada'" = some a ∧ script? "SELECT 'ada'" = some b ∧
        (scriptText .essential a = scriptText .essential b ∨
          (quotedParts (scriptText .folded a)).map Text.folded =
            (quotedParts (scriptText .folded b)).map Text.folded) := by
  have h : (compare "SELECT 'Ada'" "SELECT 'ada'").isEquivalent = true := by
    decide +kernel
  exact ⟨h, literals_agree_of_isEquivalent h⟩

/-! ## Conditions on a literal -/

def Tail.ofCondition (condition : Expr) : Tail := { Tail.empty with condition := some condition }

/-- A SELECT statement with a condition whose right operand is a literal. -/
def Select.filtered (items : List Expr) (source : Option TableSource) (op : BinaryOp)
    (operand : Expr) (value : String) : Select :=
  ⟨[], [], false, [], [], items, source, .ofCondition (.binary op operand (.string value))⟩

/-- The items and the source of a statement without comments. -/
def frontText (style : Style) (items : List Expr) (source : Option TableSource) : String :=
  (if items.isEmpty then "" else " " ++ commaText (exprTexts style items)) ++
    (match source with
      | none => ""
      | some t => style.clauseText [] ("FROM " ++ t.write style))

theorem Style.before_nil (style : Style) (text : String) : style.before [] text = text := by
  simp [Style.before, Style.comments]

theorem Expr.write_binary (style : Style) (op : BinaryOp) (left right : Expr) :
    (Expr.binary op left right).write style =
      left.write style ++ " " ++ op.text ++ " " ++ right.write style := rfl

theorem Expr.write_string (style : Style) (value : String) :
    (Expr.string value).write style = (Literal.text value).sql := rfl

theorem Tail.write_ofCondition (style : Style) (condition : Expr) :
    (Tail.ofCondition condition).write style = " " ++ ("WHERE " ++ condition.write style) := by
  simp [Tail.ofCondition, Tail.empty, Tail.write, joinTexts, blankTexts, clauseOf,
    Style.clauseText, Style.before_nil, optionText, groupingText, limitText, offsetText,
    Tail.write.isFetch]

/-- A statement without hints and modifiers. -/
theorem Select.write_plain (style : Style) (items : List Expr) (source : Option TableSource)
    (tail : Tail) :
    (⟨[], [], false, [], [], items, source, tail⟩ : Select).write style =
      style.before [] (" ".intercalate (["SELECT"] ++
        (if items.isEmpty then [] else [commaText (exprTexts style items)])) ++
          source.elim "" fun t =>
            style.clauseText tail.comments.source ("FROM " ++ t.write style)) ++
              tail.write style := by
  cases source <;> rfl

section Filtered

variable (items : List Expr) (source : Option TableSource) (op : BinaryOp) (operand : Expr)

/-- The literal stands last, after a blank, and nothing before it depends on it. -/
theorem Select.write_filtered (style : Style) :
    ∃ front : String, ∀ value, (Select.filtered items source op operand value).write style =
      "SELECT" ++ front ++ " " ++ (Literal.text value).sql := by
  have hlist : " ".intercalate (["SELECT"] ++
      (if items.isEmpty then [] else [commaText (exprTexts style items)])) =
      "SELECT" ++ (if items.isEmpty then "" else " " ++ commaText (exprTexts style items)) := by
    cases items <;> rfl
  refine ⟨frontText style items source ++
    (" " ++ ("WHERE " ++ (operand.write style ++ (" " ++ op.text)))), fun value => ?_⟩
  cases source <;>
    simp only [Select.filtered, Select.write_plain, Option.elim_none, Option.elim_some,
      Style.before_nil, Tail.write_ofCondition, frontText, Expr.write_binary, Expr.write_string,
      hlist, String.append_assoc, String.append_empty]
  rfl

/-- What a server does not know may stand anywhere but in the literal. -/
theorem Statement.sql_filtered (style : Style) :
    ∃ items' source' operand', ∀ value,
      Statement.sql style (.query (.select (.filtered items source op operand value))) =
        Text.trim ((Select.filtered items' source' op operand' value).write style) := by
  cases hadapts : style.adapts with
  | true =>
      refine ⟨adaptedExprs false items, adaptedSource source, operand.adapted false, fun value => ?_⟩
      rw [Statement.sql, hadapts]
      rfl
  | false =>
      refine ⟨items, source, operand, fun value => ?_⟩
      rw [Statement.sql, hadapts]
      rfl

theorem flush_of_literal_last (front value : String) :
    Text.Flush ("SELECT" ++ front ++ " " ++ (Literal.text value).sql).toList := by
  have hlast : ∃ body, (Literal.text value).sql.toList = body ++ ['\''] :=
    ⟨'\'' :: _, String.toList_ofList⟩
  rcases hlast with ⟨body, hbody⟩
  have hsplit : ("SELECT" ++ front ++ " " ++ (Literal.text value).sql).toList =
      ("SELECT".toList ++ front.toList ++ [' '] ++ body) ++ ['\''] := by
    simp [hbody]
  rw [hsplit]
  exact Text.flush_append rfl (by simp) (by simp; decide)

theorem scriptText_filtered (style : Style) :
    ∃ front : String, ∀ value,
      scriptText style [.query (.select (.filtered items source op operand value))] =
        "SELECT" ++ front ++ " " ++ (Literal.text value).sql := by
  rcases Statement.sql_filtered items source op operand style with ⟨items', source', operand', hsql⟩
  rcases Select.write_filtered items' source' op operand' style with ⟨front, hfront⟩
  refine ⟨front, fun value => ?_⟩
  rw [scriptText, List.map_singleton, String.intercalate_singleton, hsql, hfront]
  exact Text.trim_eq_self (flush_of_literal_last front value)

variable {items source op operand}

/-- Statements that differ in the literal of their condition only are equivalent if the literals
have the same letters. -/
theorem isEquivalent_filtered_iff {s t v w : String}
    (hs : script? s = some [.query (.select (.filtered items source op operand v))])
    (ht : script? t = some [.query (.select (.filtered items source op operand w))]) :
    (compare s t).isEquivalent = true ↔
      Text.sameLetters (Literal.text v).sql (Literal.text w).sql = true := by
  -- In either style the texts agree up to the literal, so that only the literals are compared.
  rcases scriptText_filtered items source op operand .essential with ⟨_, hessential⟩
  rcases scriptText_filtered items source op operand .folded with ⟨_, hfolded⟩
  have hcompare : (compare s t).isEquivalent = true ↔
      (Literal.text v).sql = (Literal.text w).sql ∨
        Text.sameLetters (Literal.text v).sql (Literal.text w).sql = true := by
    simp only [compare, hs, ht, areEquivalent, hessential, hfolded, Text.sameLetters_after_blank,
      Bool.or_eq_true, beq_iff_eq, String.append_right_inj]
  rw [hcompare, or_iff_right_iff_imp]
  intro h
  rw [h, Text.sameLetters, beq_self_eq_true]

end Filtered

end Sql
end QueryDesigner

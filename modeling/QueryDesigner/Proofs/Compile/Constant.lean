import Mathlib
import QueryDesigner.Decompile.Conditions
import QueryDesigner.Proofs.Compile.Range
import QueryDesigner.Proofs.Compile.Spelled
import QueryDesigner.Proofs.Parser.Operand

/-!
# Constants in statements

* `Constant.sql`, `shown_expr` — a constant as the reader shows it;
* `isSpelled_sql` — it is spelled by its tokens;
* `Constant.Means`, `isSpelled_formatValue` — the constant that a value is written as;
* `Constant.value`, `Constant.literal?` — what the reader gets back from it.
-/

namespace QueryDesigner
namespace Sql

variable {n : Numeral} {k : Constant} {v : String}

/-! ## Numerals -/

namespace Numeral

theorem dropSign_text (n : Numeral) : Text.dropSign n.text.toList = n.text.toList := by
  obtain ⟨d, tail, hchars, hdigit⟩ := n.exists_cons
  have hplus : Text.isDigit '+' = false := isDigit_eq_false_of_sign (by decide)
  have hminus : Text.isDigit '-' = false := isDigit_eq_false_of_sign (by decide)
  rw [hchars]
  unfold Text.dropSign
  split
  · simp_all
  · simp_all
  · rfl

/-- The numeral after a minus sign, if there is one. -/
def signed (isNegative : Bool) (n : Numeral) : String := (if isNegative then "-" else "") ++ n.text

theorem isNumeral_signed (isNegative : Bool) (n : Numeral) :
    Text.isNumeral (n.signed isNegative) = Text.isNumeral n.text := by
  cases isNegative with
  | false => rw [signed, if_neg Bool.false_ne_true, String.empty_append]
  | true =>
      have hchars : (n.signed true).toList = '-' :: n.text.toList := by simp [signed]
      rw [Text.isNumeral, hchars, Text.isNumeral, n.dropSign_text]
      rfl

theorem hasInk_text (n : Numeral) : HasInk n.text := by
  obtain ⟨d, tail, hchars, hdigit⟩ := n.exists_cons
  exact ⟨d, tail, hchars, Text.isBlank_eq_false_of_isDigit hdigit⟩

/-- A minus sign before a numeral is a token of its own. -/
theorem spells_signed (hn : n.IsWhole) (isNegative : Bool) {rest : List Char}
    (hrest : EndsNumber rest) :
    Spells ((n.signed isNegative).toList ++ rest) (Constant.number isNegative n).lexemes rest := by
  cases isNegative with
  | false =>
      have hchars : (n.signed false).toList = n.text.toList := by simp [signed]
      rw [hchars]
      exact spells_numeral hn hrest
  | true =>
      obtain ⟨d, tail, htext, hdigit⟩ := n.exists_cons
      have hchars : (n.signed true).toList ++ rest = '-' :: d :: (tail ++ rest) := by
        simp [signed, htext]
      have hmore := spells_numeral hn hrest
      rw [htext, List.cons_append] at hmore
      rw [hchars]
      exact .cons (readPiece?_of_sign (by decide) (.inl hdigit)) hmore

end Numeral

/-! ## Constants -/

namespace Constant

/-- A constant as the reader shows it: control characters in a text become sequences. -/
def sql : Constant → String
  | number isNegative digits => digits.signed isNegative
  | text value => String.ofList (writeText value.toList)

/-- Its digits are read as one number. -/
def IsWhole : Constant → Prop
  | number _ digits => digits.IsWhole
  | text _ => True

theorem shown_expr (k : Constant) : k.expr.shown = k.sql := by
  cases k with
  | text value => rfl
  | number isNegative digits =>
      cases isNegative with
      | false =>
          rw [sql, Numeral.signed, if_neg Bool.false_ne_true, String.empty_append]
          rfl
      | true =>
          have hsign : digits.text.startsWith "-" = false := by
            obtain ⟨d, tail, hchars, hdigit⟩ := digits.exists_cons
            have hminus : Text.isDigit '-' = false := isDigit_eq_false_of_sign (by decide)
            rw [← Bool.not_eq_true, String.startsWith_string_iff, hchars]
            rintro ⟨more, hmore⟩
            have hhead : '-' = d := (List.cons.inj hmore).1
            rw [← hhead, hminus] at hdigit
            cases hdigit
          have hshown : (number true digits).expr.shown = negated digits.text := rfl
          rw [hshown, negated, hsign, sql, Numeral.signed]
          rfl

theorem isSpelled_sql (hk : k.IsWhole) : IsSpelled k.sql k.lexemes where
  ink := by
    cases k with
    | text value => exact ⟨'\'', _, by rw [sql, String.toList_ofList, writeText_eq], by decide⟩
    | number isNegative digits =>
        cases isNegative with
        | false => exact digits.hasInk_text
        | true => exact HasInk.append ⟨'-', [], rfl, by decide⟩ digits.text
  spells rest hrest := by
    cases k with
    | text value =>
        have hspells := spells_writeText value.toList hrest.head
        rw [String.ofList_toList] at hspells
        rw [sql, String.toList_ofList]
        exact hspells
    | number isNegative digits => exact digits.spells_signed hk isNegative hrest.head

/-! ## Values -/

/-- The value of a condition is written as the constant: as a number if it reads as one, which may
have blanks around it, else as a text, in which there is no backslash. -/
def Means (v : String) : Constant → Prop
  | number isNegative digits =>
    Text.isNumeral digits.text = true ∧ Text.trim v = digits.signed isNegative
  | text content =>
    content = v ∧ Text.isNumeral (Text.trim v) = false ∧ '\\' ∉ v.toList

theorem isNumeral_of_means_number {isNegative : Bool}
    (h : Means v (.number isNegative n)) : Text.isNumeral (Text.trim v) = true := by
  rw [h.2, n.isNumeral_signed]
  exact h.1

theorem isWhole_of_means (h : k.Means v) : k.IsWhole := by
  cases k with
  | text content => exact trivial
  | number isNegative digits =>
      refine ⟨h.1, ?_, fun c hc => ?_⟩
      · obtain ⟨d, tail, hchars, hd⟩ := digits.hasInk_text
        intro c hc
        rw [hchars] at hc
        obtain rfl := Option.some.inj hc
        exact hd
      · refine (Text.flush_trim v).last c ?_
        rw [h.2, Numeral.signed, String.toList_append, List.getLast?_append]
        rw [Option.mem_def] at hc
        rw [hc]
        rfl

theorem isSpelled_formatValue (h : k.Means v) : IsSpelled (formatValue v) k.lexemes := by
  have hwhole := isWhole_of_means h
  cases k with
  | number isNegative digits =>
      have hsql := isSpelled_sql hwhole
      rw [formatValue_of_isNumeral (isNumeral_of_means_number h), h.2]
      exact hsql
  | text content =>
      obtain ⟨rfl, hnumeral, hplain⟩ := h
      rw [formatValue_of_not_isNumeral hnumeral]
      refine ⟨⟨'\'', _, by rw [String.toList_ofList, quoteValue, List.cons_append], by decide⟩,
        fun rest hrest => ?_⟩
      have hquote : rest.head? ≠ some '\'' := fun hhead =>
        notQuote_of_endsNumber hrest.head _ hhead (by simp)
      have hread := readPiece?_quoteValue hplain rest hquote
      rw [String.ofList_toList] at hread
      rw [String.toList_ofList]
      exact .cons hread (.nil rest)

/-! ## What is read back -/

/-- The value that the reader takes a constant for. -/
def value : Constant → String
  | number isNegative digits => digits.signed isNegative
  | text content => content

/-- The content of a constant without a sign. -/
def literal? : Constant → Option String
  | number true _ => none
  | number false digits => some digits.text
  | text content => some content

theorem literalText?_expr (k : Constant) : k.expr.literalText? = k.literal? := by
  cases k with
  | text content => rfl
  | number isNegative digits => cases isNegative <;> rfl

/-- A value comes back as it was, but for blanks around a number. -/
theorem value_of_means (h : k.Means v) :
    k.value = if Text.isNumeral (Text.trim v) then Text.trim v else v := by
  cases k with
  | number isNegative digits => rw [if_pos (isNumeral_of_means_number h), h.2, Constant.value]
  | text content => rw [if_neg (by simp [h.2.1]), ← h.1, Constant.value]

end Constant

end Sql
end QueryDesigner

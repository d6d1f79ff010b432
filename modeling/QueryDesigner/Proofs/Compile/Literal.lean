import Mathlib
import QueryDesigner.Compile.Clause
import QueryDesigner.Proofs.Compile.Quotes
import QueryDesigner.Proofs.Sql.Literal

/-!
# Values stay in their literals

* `IsLiteralRow` — the tokens that a value is to be read as;
* `exists_lexes_formatValue` — a written value is cut off as those tokens, wherever it may end;
* `value_stays_in_literal` — so a condition holds nothing of its value but those tokens.

Text is quoted by doubling its quotes alone, so the statements are about values without a backslash.
-/

namespace QueryDesigner

open Sql

/-- The tokens of a value: those of a numeral, or one text. -/
structure IsLiteralRow (value : String) (literal : List Lexeme) : Prop where
  numeral : Text.isNumeral (Text.trim value) = true → IsNumeralRow (Text.trim value).toList literal
  text : Text.isNumeral (Text.trim value) = false → literal = [.of .text value]

variable {value : String} {literal : List Lexeme}

theorem exists_lexes_formatValue (hplain : '\\' ∉ value.toList) :
    ∃ literal, IsLiteralRow value literal ∧
      ∀ rest, EndsLiteral rest → Lexes ((formatValue value).toList ++ rest) literal rest := by
  cases hnumeral : Text.isNumeral (Text.trim value) with
  | true =>
      rcases exists_lexes_numeral hnumeral (Text.flush_trim value).not_lineBreak_suffix with
        ⟨literal, hrow, hlexes⟩
      rw [formatValue_of_isNumeral hnumeral]
      exact ⟨literal, ⟨fun _ => hrow, fun h => absurd (hnumeral.symm.trans h) (by decide)⟩,
        fun rest hrest => hlexes rest hrest.endsNumber⟩
  | false =>
      refine ⟨[.of .text value], ⟨fun h => absurd (hnumeral.symm.trans h) (by decide), fun _ => rfl⟩,
        fun rest hrest => ?_⟩
      have hquote : rest.head? ≠ some '\'' := by
        intro hhead
        rcases hrest '\'' hhead with h | h <;> revert h <;> decide
      have htext := lexes_text hplain hquote
      rw [String.ofList_toList] at htext
      rw [formatValue_of_not_isNumeral hnumeral, String.toList_ofList, quoteValue]
      simpa using htext

/-- Literals are calm: what stands before them does not change how they are read. -/
theorem isCalm_of_isLiteralRow (h : IsLiteralRow value literal) : ∀ l ∈ literal, l.IsCalm := by
  intro l hl
  cases hnumeral : Text.isNumeral (Text.trim value) with
  | true =>
      rcases h.numeral hnumeral with ⟨sign, point, number, hsign, hpoint, hkind, -, rfl⟩
      rcases List.mem_append.1 hl with hl | hl
      · rcases List.mem_map.1 hl with ⟨c, hc, rfl⟩
        have hsub : sign ++ point ⊆ ['+', '-', '.'] := by
          rcases hsign with rfl | rfl | rfl <;> rcases hpoint with rfl | rfl <;> decide
        have hnone : ['+', '-', '.'].all (fun c => !commandWords.contains (String.ofList [c])) =
            true := by
          decide +kernel
        have hcommand := List.all_eq_true.1 hnone c (hsub hc)
        exact .inr (.inr ⟨rfl, Bool.not_eq_true' _ ▸ hcommand⟩)
      · obtain rfl := List.mem_singleton.1 hl
        exact .inr (.inl hkind)
  | false =>
      rw [h.text hnumeral] at hl
      obtain rfl := List.mem_singleton.1 hl
      exact .inl rfl

/-- Alone, a written value has the tokens of its literal, and before whatever may end a literal the
lexer takes just those tokens.  In a comparison or a pattern nothing else depends on the value. -/
theorem value_stays_in_literal (value : String) (hplain : '\\' ∉ value.toList) :
    ∃ literal, IsLiteralRow value literal ∧
      (tokens? (formatValue value)).map (List.map Token.toLexeme) = some literal ∧
        (∀ rest, EndsLiteral rest → Lexes ((formatValue value).toList ++ rest) literal rest) ∧
          ∀ c : Condition, c.operator.operand = .single →
            ({ c with value } : Condition).text =
              c.column ++ " " ++ c.operator.text ++ " " ++ formatValue value := by
  rcases exists_lexes_formatValue hplain with ⟨literal, hrow, hlexes⟩
  have halone := hlexes [] endsLiteral_nil
  rw [List.append_nil] at halone
  refine ⟨literal, hrow, tokens?_of_lexes halone (isCalm_of_isLiteralRow hrow), hlexes, ?_⟩
  intro c hc
  simp only [Condition.text, hc]

/-- The quotes of the value do not end its literal. -/
theorem value_stays_in_literal_of_quotes :
    '\\' ∉ "' OR 'a' = 'a".toList ∧
      (tokens? "''' OR ''a'' = ''a'").map (List.map Token.toLexeme) =
        some [.of .text "' OR 'a' = 'a"] ∧
        (∀ rest, EndsLiteral rest →
          Lexes ("''' OR ''a'' = ''a'".toList ++ rest) [.of .text "' OR 'a' = 'a"] rest) ∧
          (⟨"name", .like, "' OR 'a' = 'a", .and⟩ : Condition).text =
            "name LIKE ''' OR ''a'' = ''a'" := by
  have hplain : '\\' ∉ "' OR 'a' = 'a".toList := by decide
  rcases value_stays_in_literal "' OR 'a' = 'a" hplain with
    ⟨literal, hrow, htokens, hlexes, htext⟩
  have hformat : formatValue "' OR 'a' = 'a" = "''' OR ''a'' = ''a'" := by decide +kernel
  have hnumeral : Text.isNumeral (Text.trim "' OR 'a' = 'a") = false := by decide +kernel
  obtain rfl := hrow.text hnumeral
  rw [hformat] at htokens hlexes htext
  exact ⟨hplain, htokens, hlexes, htext ⟨"name", .like, "", .and⟩ rfl⟩

/-- The point in front of a number is a token of its own.  A backslash is not written twice: at the
end of a value it leaves the literal open, and a quote after it closes the literal early. -/
theorem value_leaves_literal_at_point_or_backslash :
    (tokens? (formatValue ".5")).map (List.map Token.toLexeme) =
        some [.of .sign ".", .number '5' [] (by decide +kernel)] ∧
      tokens? (formatValue "\\") = none ∧
        (tokens? (formatValue "\\' OR name -- ")).map (List.map Token.toLexeme) =
          some [.of .text "'", .of .word "OR", .of .word "name"] := by
  have hpoint : (tokens? (formatValue ".5")).map (List.map Token.toLexeme) =
      some [.of .sign ".", .number '5' [] (by decide +kernel)] := by
    decide +kernel
  have hopen : tokens? (formatValue "\\") = none := by decide +kernel
  have hbehind : (tokens? (formatValue "\\' OR name -- ")).map (List.map Token.toLexeme) =
      some [.of .text "'", .of .word "OR", .of .word "name"] := by
    decide +kernel
  exact ⟨hpoint, hopen, hbehind⟩

end QueryDesigner

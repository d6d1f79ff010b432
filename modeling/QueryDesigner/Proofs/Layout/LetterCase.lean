import Mathlib
import QueryDesigner.Proofs.Layout.Quote
import QueryDesigner.Proofs.Text.LetterCase

/-!
# Literals without letter case

Taking away the letter case of a text moves no quote.  So the text has as many literals as before,
and each of them is the one from before without letter case.

* `quotedEnd?_folded`, `nameEnd?_folded` — a literal ends at the same place;
* `protectFrom_folded` — all literals of a text;
* `quotedParts_of_lower_eq` — texts with the same lower case have the same literals but for letter
  case.
-/

namespace QueryDesigner
namespace Layout

open Text (folded foldChar)

/-! ## Quotes -/

theorem foldChar_quote {quote : Char} (h : isQuote quote = true) : foldChar quote = [quote] := by
  rcases isQuote_cases h with rfl | rfl | rfl <;> decide +kernel

theorem eq_of_quote_mem_foldChar {quote c : Char} (h : isQuote quote = true)
    (hmem : quote ∈ foldChar c) : c = quote := by
  refine Text.eq_of_mem_foldChar ?_ hmem
  rcases isQuote_cases h with rfl | rfl | rfl <;> decide

theorem folded_quote {quote : Char} (h : isQuote quote = true) (cs : List Char) :
    folded (quote :: cs) = quote :: folded cs := by
  rw [Text.folded_cons, foldChar_quote h, List.singleton_append]

/-! ## Where literals end -/

section Scanners

variable {quote : Char} {ps : List Char}

theorem quotedEnd?_append_of_not_mem (h : quote ∉ ps) (cs : List Char) :
    quotedEnd? quote (ps ++ cs) =
      (quotedEnd? quote cs).map fun (text, after) => (ps ++ text, after) := by
  induction ps with
  | nil =>
      simp
  | cons p rest ih =>
      rw [List.mem_cons, not_or] at h
      rw [List.cons_append, quotedEnd?_cons_of_ne (Ne.symm h.1), ih h.2, Option.map_map]
      rfl

theorem quotedEnd?_folded (h : isQuote quote = true) (cs : List Char) :
    quotedEnd? quote (folded cs) =
      (quotedEnd? quote cs).map fun (text, after) => (folded text, folded after) := by
  fun_induction quotedEnd? quote cs with
  | case1 =>
      rfl
  | case2 =>
      rw [folded_quote h]
      simp [quotedEnd?, folded_quote h]
  | case3 rest text after hrest ih =>
      rw [folded_quote h, folded_quote h]
      simp [quotedEnd?, ih, hrest, folded_quote h]
  | case4 rest hrest ih =>
      rw [folded_quote h, folded_quote h]
      simp [quotedEnd?, ih, hrest, folded_quote h]
  | case5 d rest hd =>
      -- What follows the closing quote starts with another character, and goes on doing so.
      have hfold : quote ∉ foldChar d := fun hmem => hd (eq_of_quote_mem_foldChar h hmem)
      rcases List.exists_cons_of_ne_nil (Text.foldChar_ne_nil d) with ⟨e, image, himage⟩
      rw [himage, List.mem_cons, not_or] at hfold
      rw [folded_quote h, Text.folded_cons, himage]
      simp [quotedEnd?, Ne.symm hfold.1, folded_quote h, Text.folded_cons, himage]
  | case6 c rest hc ih =>
      have hfold : quote ∉ foldChar c := fun hmem => hc (eq_of_quote_mem_foldChar h hmem)
      rw [Text.folded_cons, quotedEnd?_append_of_not_mem hfold, ih, Option.map_map, Option.map_map]
      simp [Function.comp_def, Text.folded_cons]

theorem nameEnd?_append_of_not_mem (h : '`' ∉ ps) (cs : List Char) :
    nameEnd? (ps ++ cs) = (nameEnd? cs).map fun (text, after) => (ps ++ text, after) := by
  induction ps with
  | nil =>
      simp
  | cons p rest ih =>
      rw [List.mem_cons, not_or] at h
      rw [List.cons_append, nameEnd?, if_neg (Ne.symm h.1), ih h.2, Option.map_map]
      rfl

theorem nameEnd?_folded (cs : List Char) :
    nameEnd? (folded cs) =
      (nameEnd? cs).map fun (text, after) => (folded text, folded after) := by
  have h : isQuote '`' = true := by decide
  fun_induction nameEnd? cs with
  | case1 =>
      rfl
  | case2 =>
      rw [folded_quote h]
      simp [nameEnd?, folded_quote h]
  | case3 c rest hc ih =>
      have hfold : '`' ∉ foldChar c := fun hmem => hc (eq_of_quote_mem_foldChar h hmem)
      rw [Text.folded_cons, nameEnd?_append_of_not_mem hfold, ih, Option.map_map, Option.map_map]
      simp [Function.comp_def, Text.folded_cons]

/-- A text without letter case starts with the same literal without letter case. -/
theorem literal?_folded (h : isQuote quote = true) (cs : List Char) :
    literal? (quote :: folded cs) =
      (literal? (quote :: cs)).map fun (text, after) => (folded text, folded after) := by
  rcases isQuote_cases h with rfl | rfl | rfl
  · simp [literal?, quotedEnd?_folded h, Function.comp_def, folded_quote h]
  · simp [literal?, quotedEnd?_folded h, Function.comp_def, folded_quote h]
  · simp [literal?, nameEnd?_folded, Function.comp_def, folded_quote h]

end Scanners

/-! ## All literals -/

/-- What starts no literal can be left out, if there are steps enough. -/
theorem protectFrom_append_of_open {ps cs : List Char} (hps : ∀ p ∈ ps, isQuote p = false)
    (index steps : Nat) (hsteps : (ps ++ cs).length ≤ steps) :
    ∃ fewer, cs.length ≤ fewer ∧
      (protectFrom index steps (ps ++ cs)).2 = (protectFrom index fewer cs).2 := by
  induction ps generalizing steps with
  | nil =>
      exact ⟨steps, hsteps, rfl⟩
  | cons p rest ih =>
      cases steps with
      | zero =>
          cases hsteps
      | succ steps =>
          have hp : literal? (p :: (rest ++ cs)) = none :=
            literal?_cons_of_not_quote (hps p (by simp)) _
          rcases ih (fun q hq => hps q (List.mem_cons_of_mem p hq)) steps (by simpa using hsteps)
            with ⟨fewer, hfewer, heq⟩
          refine ⟨fewer, hfewer, ?_⟩
          rw [List.cons_append, protectFrom, hp]
          exact heq

theorem isQuote_of_mem_foldChar {c : Char} (h : isQuote c = false) :
    ∀ d ∈ foldChar c, isQuote d = false := by
  intro d hd
  by_contra hquote
  have hc := eq_of_quote_mem_foldChar (by simpa using hquote) hd
  rw [hc] at h
  exact hquote h

/-- The literals of a text without letter case, whatever numbers they get. -/
theorem protectFrom_folded (steps : Nat) {cs : List Char} (hsteps : cs.length ≤ steps)
    {index index' steps' : Nat} (hsteps' : (folded cs).length ≤ steps') :
    (protectFrom index' steps' (folded cs)).2 = (protectFrom index steps cs).2.map folded := by
  induction steps generalizing cs index index' steps' with
  | zero =>
      obtain rfl : cs = [] := List.eq_nil_of_length_eq_zero (Nat.le_zero.1 hsteps)
      cases steps' <;> rfl
  | succ steps ih =>
      cases cs with
      | nil =>
          cases steps' <;> rfl
      | cons c rest =>
          cases hquote : isQuote c with
          | false =>
              -- One character may become several, none of which is a quote.
              rw [Text.folded_cons] at hsteps' ⊢
              rcases protectFrom_append_of_open (isQuote_of_mem_foldChar hquote) index' steps'
                hsteps' with ⟨fewer, hfewer, heq⟩
              rw [heq, protectFrom, literal?_cons_of_not_quote hquote]
              exact ih (by simpa using hsteps) hfewer
          | true =>
              rw [folded_quote hquote] at hsteps' ⊢
              cases steps' with
              | zero =>
                  cases hsteps'
              | succ steps' =>
                  have hfold := literal?_folded hquote rest
                  cases hliteral : literal? (c :: rest) with
                  | none =>
                      rw [hliteral, Option.map_none] at hfold
                      rw [protectFrom, protectFrom, hliteral, hfold]
                      exact ih (by simpa using hsteps) (by simpa using hsteps')
                  | some result =>
                      rcases result with ⟨text, after⟩
                      rw [hliteral, Option.map_some] at hfold
                      have hlength := length_lt_of_literal? hliteral
                      have hlength' := length_lt_of_literal? hfold
                      simp only [List.length_cons] at hlength hlength' hsteps hsteps'
                      rw [protectFrom, protectFrom, hliteral, hfold]
                      simp only [List.map_cons]
                      rw [ih (by omega) (by omega)]

/-- The literals of a text, with their quotes. -/
def quotedParts (s : String) : List (List Char) := (protect s.toList).2

/-- Texts with the same lower case have the same literals but for letter case. -/
theorem quotedParts_of_lower_eq {s t : String} (h : Text.lower s = Text.lower t) :
    (quotedParts s).map folded = (quotedParts t).map folded := by
  have hfolded : ∀ s : String,
      (quotedParts s).map folded = (protect (folded s.toList)).2 := fun s =>
    (protectFrom_folded _ le_rfl le_rfl).symm
  rw [hfolded, hfolded, Text.folded_eq_of_lower_eq h]

end Layout
end QueryDesigner

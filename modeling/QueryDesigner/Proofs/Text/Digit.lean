import Mathlib
import QueryDesigner.Text.Numeral
import QueryDesigner.Text.WordChar

/-!
# Digits, blanks and what lies between

* `isWordChar_eq_false_of_isBlank` — no blank is a word character;
* `isWordChar_of_isLetter`, `isWordChar_of_isDigit` — letters and digits of any script are word
  characters, so that none of them is a blank;
* `decimalNumber_toDigits` — the digits of a number are read as that number;
* `exists_trimChars_of_isDigit` — what starts with a digit is trimmed at its end only;
* `isBlank_eq_false_of_getLast?_trimChars` — trimmed text does not end in a blank;
* `zero_le_of_readInteger?` — what starts with a digit is no negative number.
-/

namespace QueryDesigner
namespace Text

/-- The code points of the blanks. -/
def blankCodes : List Nat :=
  [9, 10, 11, 12, 13, 0x1C, 0x1D, 0x1E, 0x1F, 0x20, 0x85, 0xA0, 0x1680, 0x2000, 0x2001, 0x2002,
    0x2003, 0x2004, 0x2005, 0x2006, 0x2007, 0x2008, 0x2009, 0x200A, 0x2028, 0x2029, 0x202F, 0x205F,
    0x3000]

variable {c : Char} {cs : List Char}

theorem toNat_mem_blankCodes (h : isBlank c = true) : c.toNat ∈ blankCodes := by
  have hrun : ∀ {a n : Nat}, (List.range' a n).all blankCodes.contains = true →
      a ≤ c.toNat → c.toNat < a + n → c.toNat ∈ blankCodes := fun hall hlow hhigh =>
    List.contains_iff_mem.1 (List.all_eq_true.1 hall _ (List.mem_range'_1.2 ⟨hlow, hhigh⟩))
  simp only [isBlank, isWhiteSpace, Bool.or_eq_true, Bool.and_eq_true, decide_eq_true_eq,
    beq_iff_eq, or_assoc] at h
  rcases h with h | h | h | h | h | h | h | h | h | h | h | h
  · exact hrun (a := 9) (n := 5) (by decide) h.1 (by omega)
  · rw [h]; decide
  · rw [h]; decide
  · rw [h]; decide
  · rw [h]; decide
  · exact hrun (a := 0x2000) (n := 11) (by decide) h.1 (by omega)
  · rw [h]; decide
  · rw [h]; decide
  · rw [h]; decide
  · rw [h]; decide
  · rw [h]; decide
  · exact hrun (a := 0x1C) (n := 4) (by decide) h.1 (by omega)

theorem isWordChar_eq_false_of_isBlank (h : isBlank c = true) : isWordChar c = false := by
  have hcodes : blankCodes.all (fun n => !isWordChar (Char.ofNat n)) = true := by decide +kernel
  simpa using List.all_eq_true.1 hcodes c.toNat (toNat_mem_blankCodes h)

theorem isWordChar_of_isLetter (h : isLetter c = true) : isWordChar c = true := by
  by_cases hascii : c.toNat < 128
  · rw [isWordChar, if_pos hascii, h, Bool.or_true, Bool.true_or]
  · rw [isLetter, if_neg hascii] at h
    rw [isWordChar, if_neg hascii, h, Bool.true_or]

theorem isLetter_eq_false_of_isBlank (h : isBlank c = true) : isLetter c = false := by
  by_contra hletter
  have hword := isWordChar_of_isLetter (Bool.eq_true_of_not_eq_false hletter)
  rw [isWordChar_eq_false_of_isBlank h] at hword
  cases hword

theorem isDigit_of_isDecimal (h : isDecimal c = true) : isDigit c = true := by
  rw [isDigit, h, Bool.true_or]

/-- Digits of any script are word characters: each run of them lies in one run of numerals. -/
theorem isWordChar_of_isDigit (h : isDigit c = true) : isWordChar c = true := by
  have hzeros : zeros.all (fun z => 128 ≤ z &&
      numeralRanges.any fun r => r.1 ≤ z && z + 9 ≤ r.2) = true := by
    decide +kernel
  have hothers : otherDigitRanges.all (fun q => 128 ≤ q.1 &&
      numeralRanges.any fun r => r.1 ≤ q.1 && q.2 ≤ r.2) = true := by
    decide +kernel
  have hpast : ∀ {lo hi : Nat}, (128 ≤ lo && numeralRanges.any fun r => r.1 ≤ lo && hi ≤ r.2) =
      true → lo ≤ c.toNat → c.toNat ≤ hi → isWordChar c = true := by
    intro lo hi hrun hlo hhi
    rw [Bool.and_eq_true, decide_eq_true_eq] at hrun
    rcases List.any_eq_true.1 hrun.2 with ⟨r, hr, hle⟩
    simp only [Bool.and_eq_true, decide_eq_true_eq] at hle
    have hin : inRanges numeralRanges c.toNat = true := by
      refine List.any_eq_true.2 ⟨r, hr, ?_⟩
      simp only [Bool.and_eq_true, decide_eq_true_eq]
      omega
    rw [isWordChar, if_neg (by omega), hin, Bool.or_true]
  rw [isDigit, Bool.or_eq_true] at h
  rcases h with h | h
  · rw [isDecimal, decimalValue?] at h
    split_ifs at h with hascii hdigit
    · rw [isWordChar, if_pos hascii, hdigit, Bool.or_true]
    · cases h
    · rw [Option.isSome_map, List.find?_isSome] at h
      rcases h with ⟨z, hz, hle⟩
      simp only [Bool.and_eq_true, decide_eq_true_eq] at hle
      exact hpast (List.all_eq_true.1 hzeros z hz) hle.1 (by omega)
  · rcases List.any_eq_true.1 h with ⟨⟨lo, hi⟩, hmem, hle⟩
    simp only [Bool.and_eq_true, decide_eq_true_eq] at hle
    exact hpast (List.all_eq_true.1 hothers _ hmem) hle.1 hle.2

theorem decimalValue?_digitChar : ∀ d < 10, decimalValue? (Nat.digitChar d) = some d := by decide

theorem isDecimal_of_mem_toDigits {n : Nat} (h : c ∈ Nat.toDigits 10 n) : isDecimal c = true := by
  induction n using Nat.strongRecOn with
  | ind n ih =>
      rw [Nat.toDigits_eq_if (by decide)] at h
      split_ifs at h with hn
      · rw [List.mem_singleton] at h
        rw [h, isDecimal, decimalValue?_digitChar n hn, Option.isSome_some]
      · rcases List.mem_append.1 h with h | h
        · exact ih (n / 10) (by omega) h
        · rw [List.mem_singleton] at h
          rw [h, isDecimal, decimalValue?_digitChar _ (Nat.mod_lt n (by decide)),
            Option.isSome_some]

/-- The digits that a number is written with denote that number. -/
theorem decimalNumber_toDigits (n : Nat) : decimalNumber (Nat.toDigits 10 n) = n := by
  induction n using Nat.strongRecOn with
  | ind n ih =>
      rw [Nat.toDigits_eq_if (by decide)]
      split_ifs with hn
      · simp [decimalNumber, decimalNumberFrom, decimalValue?_digitChar n hn]
      · have hrest := ih (n / 10) (by omega)
        rw [decimalNumber, decimalNumberFrom] at hrest ⊢
        rw [List.foldl_append, hrest, List.foldl_cons, List.foldl_nil,
          decimalValue?_digitChar _ (Nat.mod_lt n (by decide)), Option.getD_some]
        omega

theorem isDigit_eq_false_of_isBlank (h : isBlank c = true) : isDigit c = false := by
  by_contra hdigit
  have hword := isWordChar_of_isDigit (Bool.eq_true_of_not_eq_false hdigit)
  rw [isWordChar_eq_false_of_isBlank h] at hword
  cases hword

theorem isBlank_eq_false_of_isDigit (h : isDigit c = true) : isBlank c = false := by
  by_contra hblank
  rw [isDigit_eq_false_of_isBlank (by simpa using hblank)] at h
  cases h

/-! ## Trimmed text -/

theorem trimChars_eq_dropBlanksEnd_of_isDigit (hc : isDigit c = true) :
    trimChars (c :: cs) = dropBlanksEnd (c :: cs) := by
  rw [trimChars, dropBlanks, List.dropWhile_cons_of_neg]
  simp [isBlank_eq_false_of_isDigit hc]

/-- Blanks at the end come off behind the digit. -/
theorem exists_trimChars_of_isDigit (cs : List Char) (hc : isDigit c = true) :
    ∃ rest, trimChars (c :: cs) = c :: rest := by
  refine ⟨dropBlanksEnd cs, ?_⟩
  rw [trimChars_eq_dropBlanksEnd_of_isDigit hc, dropBlanksEnd, dropBlanksEnd, List.reverse_cons,
    List.dropWhile_append]
  have hstop : [c].dropWhile isBlank = [c] := by
    rw [List.dropWhile_cons_of_neg]
    simp [isBlank_eq_false_of_isDigit hc]
  cases hall : (cs.reverse.dropWhile isBlank).isEmpty with
  | true =>
      rw [List.isEmpty_iff.1 hall]
      simp [hstop]
  | false =>
      simp

theorem isBlank_eq_false_of_getLast?_trimChars (h : (trimChars cs).getLast? = some c) :
    isBlank c = false := by
  have hnot := List.head?_dropWhile_not isBlank (dropBlanks cs).reverse
  rw [trimChars, dropBlanksEnd, List.getLast?_reverse] at h
  rw [h] at hnot
  exact hnot

/-- Neither a sign nor a blank stands before the digits. -/
theorem zero_le_of_readInteger? {s : String} {n : Int} (hs : startsWithDigit s = true)
    (hread : readInteger? s = some n) : 0 ≤ n := by
  rcases hlist : s.toList with _ | ⟨c, cs⟩
  · simp [startsWithDigit, hlist] at hs
  · have hc : isDigit c = true := by simpa [startsWithDigit, hlist] using hs
    rcases exists_trimChars_of_isDigit cs hc with ⟨rest, hrest⟩
    have hsign : isNegated (c :: rest) = false := by
      unfold isNegated
      split
      next heq =>
        obtain rfl : c = '-' := (List.cons.inj heq).1
        exact absurd hc (by decide +kernel)
      next => rfl
    simp only [readInteger?, hlist, hrest, hsign, signedInteger, Bool.false_eq_true, if_false,
      Option.map_eq_some_iff] at hread
    rcases hread with ⟨digits, -, rfl⟩
    exact Int.natCast_nonneg _

end Text
end QueryDesigner

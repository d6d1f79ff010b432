import Mathlib
import QueryDesigner.Proofs.Sql.Stem
import QueryDesigner.Proofs.Text.Trim
import QueryDesigner.Sql.Parser.Query

/-!
# Ordinary names

* `isPlain` — an ASCII letter and then ASCII letters, digits and underscores;
* `keywords` — the words that are something else somewhere where a name may stand;
* `IsName` — a plain word that is none of them.
-/

namespace QueryDesigner
namespace Sql

/-- The characters of plain words after their first letter. -/
def isPlainChar (c : Char) : Bool := c.isAlphanum || c == '_'

/-- An ASCII letter and then ASCII letters, digits and underscores. -/
def isPlain (s : String) : Bool :=
  match s.toList with
  | [] => false
  | c :: cs => c.isAlpha && cs.all isPlainChar

/-- The words, in capitals, that the reader takes for something else in some of the places where a
name may stand. -/
def keywords : List String :=
  Parser.reservedWords ++ Grammar.nullaryCalls ++ Grammar.adviceWords ++
    ["NULL", "TRUE", "FALSE", "ALL", "ANY", "CASE", "IF", "CONNECT_BY_ROOT", "INTERVAL", "BINARY",
      "CUBE", "ROLLUP", "WINDOW", "LIMIT", "OFFSET", "LOCK", "DESCRIBE", "EXPLAIN", "SOUNDS",
      "BEGIN", "START"]

/-- A plain word that the reader takes as a name wherever a name may stand. -/
structure IsName (w : String) : Prop where
  plain : isPlain w = true
  free : Text.upper w ∉ keywords

instance (w : String) : Decidable (IsName w) :=
  decidable_of_iff (isPlain w = true ∧ Text.upper w ∉ keywords)
    ⟨fun h => ⟨h.1, h.2⟩, fun h => ⟨h.plain, h.free⟩⟩

/-! ## Characters -/

section Characters

variable {c : Char}

theorem isBlank_of_isPlainChar (h : isPlainChar c = true) : Text.isBlank c = false := by
  have hcodes : ∀ n ∈ Text.blankCodes, isPlainChar (Char.ofNat n) = false := by decide
  by_contra hblank
  have hnot := hcodes c.toNat (Text.toNat_mem_blankCodes (Bool.eq_true_of_not_eq_false hblank))
  rw [Char.ofNat_toNat, h] at hnot
  cases hnot

theorem notMem_of_isPlainChar (h : isPlainChar c = true) {cs : List Char}
    (hcs : cs.all (fun d => !isPlainChar d) = true) : c ∉ cs := by
  intro hmem
  have hnot := List.all_eq_true.1 hcs c hmem
  rw [h] at hnot
  cases hnot

theorem isSign_of_isPlainChar (h : isPlainChar c = true) : isSign c = false := by
  rw [isSign, ← Bool.not_eq_true, List.contains_iff_mem]
  exact notMem_of_isPlainChar h (by decide +kernel)

theorem isWordPart_of_isPlainChar (h : isPlainChar c = true) : isWordPart c = true := by
  rw [isWordPart, isBlank_of_isPlainChar h, isSign_of_isPlainChar h]
  rfl

theorem isPlainChar_of_isAlpha (h : c.isAlpha = true) : isPlainChar c = true := by
  simp [isPlainChar, Char.isAlphanum, h]

theorem range_of_isAlpha (h : c.isAlpha = true) : 65 ≤ c.toNat ∧ c.toNat ≤ 122 := by
  simp only [Char.isAlpha, Char.isUpper, Char.isLower, Bool.or_eq_true, Bool.and_eq_true,
    decide_eq_true_eq, ge_iff_le, UInt32.le_iff_toNat_le] at h
  rw [← Char.toNat_val]
  have hcodes : 'A'.val.toNat = 65 ∧ 'Z'.val.toNat = 90 ∧ 'a'.val.toNat = 97 ∧
      'z'.val.toNat = 122 := by decide
  omega

theorem toNat_lt_of_isPlainChar (h : isPlainChar c = true) : c.toNat < 128 := by
  simp only [isPlainChar, Char.isAlphanum, Char.isDigit, Bool.or_eq_true, Bool.and_eq_true,
    decide_eq_true_eq, beq_iff_eq, ge_iff_le, UInt32.le_iff_toNat_le] at h
  obtain (halpha | hdigit) | rfl := h
  · have hrange := range_of_isAlpha halpha
    omega
  · rw [← Char.toNat_val]
    have hcode : '9'.val.toNat = 57 := by decide
    omega
  · decide

/-- A property of characters that ASCII characters keep in capitals. -/
theorem toUpper_of_codes {p : Char → Bool}
    (hcodes : (List.range 128).all (fun n => !p (Char.ofNat n) || p (Char.ofNat n).toUpper) = true)
    (hc : c.toNat < 128) (h : p c = true) : p c.toUpper = true := by
  have hcode := List.all_eq_true.1 hcodes c.toNat (List.mem_range.2 hc)
  rwa [Char.ofNat_toNat, h, Bool.not_true, Bool.false_or] at hcode

theorem isDigit_of_isAlpha (h : c.isAlpha = true) : Text.isDigit c = false := by
  have hrange : c.toNat < 128 ∧ ¬ (48 ≤ c.toNat ∧ c.toNat ≤ 57) := by
    have hletter := range_of_isAlpha h
    omega
  have hothers : ∀ r ∈ Text.otherDigitRanges, 128 ≤ r.1 := by decide +kernel
  have hnone : Text.decimalValue? c = none := by
    simp only [Text.decimalValue?, if_pos hrange.1, Bool.and_eq_true, decide_eq_true_eq,
      if_neg hrange.2]
  rw [Text.isDigit, Text.isDecimal, hnone, Option.isSome_none, Bool.false_or, List.any_eq_false]
  intro r hr
  have hlow := hothers r hr
  simp only [Bool.and_eq_true, decide_eq_true_eq, not_and]
  omega

end Characters

/-! ## Words -/

variable {w : String}

theorem exists_cons_of_isPlain (h : isPlain w = true) :
    ∃ c cs, w.toList = c :: cs ∧ c.isAlpha = true ∧ ∀ d ∈ c :: cs, isPlainChar d = true := by
  rw [isPlain] at h
  split at h
  next => cases h
  next c cs hw =>
      rw [Bool.and_eq_true, List.all_eq_true] at h
      exact ⟨c, cs, hw, h.1, List.forall_mem_cons.2 ⟨isPlainChar_of_isAlpha h.1, h.2⟩⟩

theorem isWordPart_of_isPlain (h : isPlain w = true) : ∀ d ∈ w.toList, isWordPart d = true := by
  obtain ⟨c, cs, hw, -, hall⟩ := exists_cons_of_isPlain h
  rw [hw]
  exact fun d hd => isWordPart_of_isPlainChar (hall d hd)

theorem ne_empty_of_isPlain (h : isPlain w = true) : w ≠ "" := by
  rintro rfl
  cases h

theorem isBlank_of_isPlain (h : isPlain w = true) : ∀ d ∈ w.toList, Text.isBlank d = false := by
  obtain ⟨c, cs, hw, -, hall⟩ := exists_cons_of_isPlain h
  rw [hw]
  exact fun d hd => isBlank_of_isPlainChar (hall d hd)

theorem flush_of_isPlain (h : isPlain w = true) : Text.Flush w.toList where
  head c hc := isBlank_of_isPlain h c (List.mem_of_mem_head? hc)
  last c hc := isBlank_of_isPlain h c (List.mem_of_mem_getLast? hc)

/-- A plain word is plain in capitals. -/
theorem isPlain_upper (h : isPlain w = true) : isPlain (Text.upper w) = true := by
  obtain ⟨c, cs, hw, halpha, hall⟩ := exists_cons_of_isPlain h
  have hchar : ∀ d ∈ c :: cs, Text.upperChar d = [d.toUpper] := fun d hd =>
    if_pos (toNat_lt_of_isPlainChar (hall d hd))
  have hupper : (Text.upper w).toList = c.toUpper :: cs.map Char.toUpper := by
    rw [Text.upper, String.toList_ofList, hw, List.flatMap_congr hchar, ← List.map_eq_flatMap]
    rfl
  have hplain : ∀ d ∈ cs, isPlainChar d.toUpper = true := fun d hd =>
    have hd := hall d (List.mem_cons_of_mem _ hd)
    toUpper_of_codes (by decide +kernel) (toNat_lt_of_isPlainChar hd) hd
  have hfirst : c.toUpper.isAlpha = true :=
    toUpper_of_codes (by decide +kernel) (toNat_lt_of_isPlainChar (hall c List.mem_cons_self)) halpha
  simpa [isPlain, hupper, hfirst] using hplain

namespace IsName

/-- A name is none of the keywords, and nothing that is no word. -/
theorem upper_notMem (hw : IsName w) {words : List String}
    (h : words.all (fun v => keywords.contains v || !isPlain v) = true) :
    Text.upper w ∉ words := by
  intro hmem
  have hv := List.all_eq_true.1 h _ hmem
  rw [isPlain_upper hw.plain, Bool.not_true, Bool.or_false] at hv
  exact hw.free (List.contains_iff_mem.1 hv)

theorem upper_ne (hw : IsName w) {word : String}
    (h : (keywords.contains word || !isPlain word) = true) : Text.upper w ≠ word := by
  have hnot : Text.upper w ∉ [word] := hw.upper_notMem (by rw [List.all_cons, h]; rfl)
  simpa using hnot

theorem ne_empty (hw : IsName w) : w ≠ "" := ne_empty_of_isPlain hw.plain

end IsName

end Sql
end QueryDesigner

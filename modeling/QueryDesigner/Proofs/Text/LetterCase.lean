import Mathlib
import QueryDesigner.Text.LetterCase

/-!
# Facts about letter case

* `Text.shiftBy_cases` — a code point stays, or it is shifted by a run that it lies in;
* `Text.eq_of_upper_eq_sign` — a sign in front of the letters is the upper case of no other text;
* `Text.lower_eq_empty` — only the empty text has the empty text as its lower case;
* `Text.sameLetters_empty` — the empty text agrees with no other one;
* `Text.folded` — a text without letter case, which does not tell the two small sigmas apart;
* `Text.folded_eq_of_lower_eq` — texts with the same lower case are the same without letter case;
* `Text.sameLetters_after_blank` — what stands before a blank has no say in the letters behind it.
-/

namespace QueryDesigner
namespace Text

/-- A code point is shifted by a run that it lies in, or it is in none and stays. -/
theorem shiftBy_cases (runs : List (Nat × Nat × Nat × Int)) (n : Nat) :
    shiftBy runs n = n ∨
      ∃ run ∈ runs, run.1 ≤ n ∧ n ≤ run.2.1 ∧ shiftBy runs n = ((n : Int) + run.2.2.2).toNat := by
  unfold shiftBy
  split
  · rename_i lo hi step shift hfind
    have hrange := List.find?_some hfind
    simp only [Bool.and_eq_true, decide_eq_true_eq] at hrange
    exact .inr ⟨_, List.mem_of_find?_eq_some hfind, hrange.1.1, hrange.1.2, rfl⟩
  · exact .inl rfl

/-- A case mapping whose images do not go below a bound makes a character below it of no other
one. -/
theorem eq_of_mem_mapCase {runs : List (Nat × Nat × Nat × Int)}
    {expansions : List (Nat × List Nat)} {bound : Nat} {c d : Char}
    (hexpansions : ∀ e ∈ expansions, ∀ n ∈ e.2, bound ≤ (Char.ofNat n).toNat)
    (hruns : ∀ run ∈ runs, (bound : Int) ≤ run.1 + run.2.2.2)
    (hd : 0 < d.toNat ∧ d.toNat < bound) (hmem : d ∈ mapCase runs expansions c) : c = d := by
  unfold mapCase at hmem
  cases hlookup : expansions.lookup c.toNat with
  | some image =>
      rw [hlookup] at hmem
      rcases List.mem_map.1 hmem with ⟨n, hn, rfl⟩
      rcases List.lookup_eq_some_iff.1 hlookup with ⟨before, after, hsplit, _⟩
      have hlarge := hexpansions (c.toNat, image) (by simp [hsplit]) n hn
      omega
  | none =>
      rw [hlookup] at hmem
      obtain rfl := List.mem_singleton.1 hmem
      rcases shiftBy_cases runs c.toNat with hstays | ⟨run, hrun, hlo, _, hshift⟩
      · rw [hstays, Char.ofNat_toNat]
      · rw [Char.toNat_ofNat] at hd
        split_ifs at hd
        · have hlarge := hruns run hrun
          omega
        · omega

/-! ## Upper case -/

/-- No other character becomes a sign that stands before the letters. -/
theorem eq_of_mem_upperChar {c d : Char} (hd : 0 < d.toNat ∧ d.toNat < 65) :
    d ∈ upperChar c → c = d := by
  have hascii : ∀ n < 128, (Char.ofNat n).toUpper.toNat < 65 →
      (Char.ofNat n).toUpper = Char.ofNat n := by
    decide +kernel
  intro hmem
  unfold upperChar at hmem
  split_ifs at hmem with hc
  · obtain rfl := List.mem_singleton.1 hmem
    have hsame := hascii c.toNat hc
    rw [Char.ofNat_toNat] at hsame
    exact (hsame hd.2).symm
  · exact eq_of_mem_mapCase (by decide +kernel) (by decide +kernel) hd hmem

theorem upperChar_ne_nil (c : Char) : upperChar c ≠ [] := by
  unfold upperChar mapCase
  split_ifs
  · simp
  · cases hlookup : upperExpansions.lookup c.toNat with
    | none =>
        simp
    | some image =>
        rcases List.lookup_eq_some_iff.1 hlookup with ⟨before, after, hsplit, _⟩
        have hall : ∀ e ∈ upperExpansions, e.2 ≠ [] := by decide
        have himage : image ≠ [] := hall (c.toNat, image) (by simp [hsplit])
        simpa using himage

/-- A sign that stands before the letters is the upper case of no other text. -/
theorem eq_of_upper_eq_sign {c d : Char} {cs : List Char} (hd : 0 < d.toNat ∧ d.toNat < 65)
    (h : upper (String.ofList (c :: cs)) = String.ofList [d]) : c = d := by
  have hchars := congrArg String.toList h
  simp only [upper, String.toList_ofList, List.flatMap_cons] at hchars
  rcases List.exists_cons_of_ne_nil (upperChar_ne_nil c) with ⟨e, image, himage⟩
  rw [himage, List.cons_append, List.cons.injEq] at hchars
  exact eq_of_mem_upperChar hd (by simp [himage, hchars.1])

/-! ## Lower case -/

theorem lowerChar_ne_nil (c : Char) : lowerChar c ≠ [] := by
  unfold lowerChar mapCase
  split_ifs
  · simp
  · cases hlookup : lowerExpansions.lookup c.toNat with
    | none =>
        simp
    | some image =>
        rw [List.lookup_eq_some_iff] at hlookup
        rcases hlookup with ⟨before, after, hsplit, _⟩
        have hall : ∀ e ∈ lowerExpansions, e.2 ≠ [] := by decide
        have himage : image ≠ [] := hall (c.toNat, image) (by simp [hsplit])
        simpa using himage

theorem lowerFrom_eq_nil {before cs : List Char} : lowerFrom before cs = [] → cs = [] := by
  intro h
  cases cs with
  | nil =>
      rfl
  | cons c rest =>
      by_cases hc : c = 'Σ'
      · simp [lowerFrom, hc] at h
      · simp [lowerFrom, hc, lowerChar_ne_nil c] at h

theorem lower_eq_empty {s : String} : lower s = "" → s = "" := by
  intro h
  have hchars : lowerFrom [] s.toList = [] := by
    have hlist : (lower s).toList = [] := by rw [h]; rfl
    simpa [lower] using hlist
  exact String.toList_eq_nil_iff.1 (lowerFrom_eq_nil hchars)

theorem sameLetters_empty {s : String} : sameLetters "" s = true → s = "" := by
  intro h
  have hlower : lower "" = lower s := by simpa [sameLetters] using h
  exact lower_eq_empty (hlower.symm.trans rfl)

/-! ## Lower case in parts -/

/-- A character at which the sigma finds no letter when it looks around. -/
def isNeutral (c : Char) : Bool := !isCaseIgnorable c && !isCased c

section Neutral

variable {c : Char}

theorem meetsCased_append_of_neutral (h : isNeutral c = true) (ps cs : List Char) :
    meetsCased (ps ++ c :: cs) = meetsCased ps := by
  simp only [isNeutral, Bool.and_eq_true, Bool.not_eq_true'] at h
  induction ps with
  | nil =>
      simp [meetsCased, h.1, h.2]
  | cons p rest ih =>
      cases hp : isCaseIgnorable p with
      | true =>
          simpa [meetsCased, hp] using ih
      | false =>
          simp [meetsCased, hp]

/-- The sigma does not look back beyond a neutral character. -/
theorem lowerFrom_append_before (h : isNeutral c = true) (before further cs : List Char) :
    lowerFrom (before ++ c :: further) cs = lowerFrom before cs := by
  -- What has been read is put before the neutral character, which stays where it is.
  induction cs generalizing before with
  | nil =>
      rfl
  | cons d rest ih =>
      rw [lowerFrom, lowerFrom, meetsCased_append_of_neutral h, ← List.cons_append, ih]

/-- A neutral character parts a text into two with lower cases of their own. -/
theorem lowerFrom_append_of_neutral (h : isNeutral c = true) (before ps cs : List Char) :
    lowerFrom before (ps ++ c :: cs) = lowerFrom before ps ++ lowerFrom [] (c :: cs) := by
  induction ps generalizing before with
  | nil =>
      have hsigma : c ≠ 'Σ' := by
        rintro rfl
        exact absurd h (by decide +kernel)
      have hbefore := lowerFrom_append_before h [] before cs
      have hnone := lowerFrom_append_before h [] [] cs
      rw [List.nil_append] at hbefore hnone
      simp only [List.nil_append, lowerFrom, if_neg hsigma, hbefore, hnone]
  | cons p rest ih =>
      rw [List.cons_append, lowerFrom, lowerFrom, meetsCased_append_of_neutral h, ih,
        List.append_assoc]

end Neutral

/-- What stands before a blank has no say in the letters behind it. -/
theorem sameLetters_after_blank (front s t : String) :
    sameLetters (front ++ " " ++ s) (front ++ " " ++ t) = sameLetters s t := by
  have hblank : isNeutral ' ' = true := by decide
  have hlower : ∀ s : String, lower (front ++ " " ++ s) =
      String.ofList (lowerFrom [] front.toList ++ ' ' :: lowerFrom [] s.toList) := by
    intro s
    have hnone := lowerFrom_append_before hblank [] [] s.toList
    have hchars : (front ++ " " ++ s).toList = front.toList ++ ' ' :: s.toList := by simp
    rw [lower, hchars, lowerFrom_append_of_neutral hblank, lowerFrom, if_neg (by decide), ← hnone]
    rfl
  rw [Bool.eq_iff_iff, sameLetters, sameLetters, beq_iff_eq, beq_iff_eq, hlower, hlower, lower,
    lower, String.ofList_inj, String.ofList_inj, List.append_cancel_left_eq, List.cons_inj_right]

/-! ## Without letter case -/

/-- The two forms of the small sigma as one. -/
def plainSigma (c : Char) : Char := if c = 'ς' then 'σ' else c

def foldChar (c : Char) : List Char := (lowerChar c).map plainSigma

/-- A text without letter case, read character by character. -/
def folded (cs : List Char) : List Char := cs.flatMap foldChar

@[simp] theorem folded_nil : folded [] = [] := rfl

theorem folded_cons (c : Char) (cs : List Char) : folded (c :: cs) = foldChar c ++ folded cs :=
  List.flatMap_cons

theorem foldChar_ne_nil (c : Char) : foldChar c ≠ [] := by
  simpa [foldChar] using lowerChar_ne_nil c

/-- The lower case in context is the one without context, but for the form of the sigma. -/
theorem map_lowerFrom (before cs : List Char) : (lowerFrom before cs).map plainSigma = folded cs := by
  induction cs generalizing before with
  | nil =>
      rfl
  | cons c rest ih =>
      rw [lowerFrom, List.map_append, ih, folded_cons]
      by_cases hc : c = 'Σ'
      · have hsigma : foldChar 'Σ' = ['σ'] := by decide +kernel
        rw [if_pos hc, hc, hsigma]
        split <;> rfl
      · rw [if_neg hc, foldChar]

theorem folded_eq_of_lower_eq {s t : String} (h : lower s = lower t) :
    folded s.toList = folded t.toList := by
  have hchars := congrArg String.toList h
  rw [lower, lower, String.toList_ofList, String.toList_ofList] at hchars
  rw [← map_lowerFrom [] s.toList, hchars, map_lowerFrom]

/-- No other character becomes a sign that stands before the small letters. -/
theorem eq_of_mem_foldChar {c d : Char} (hd : 0 < d.toNat ∧ d.toNat < 97) :
    d ∈ foldChar c → c = d := by
  have hascii : ∀ n < 128, (Char.ofNat n).toLower.toNat < 97 →
      (Char.ofNat n).toLower = Char.ofNat n := by
    decide +kernel
  intro hmem
  rcases List.mem_map.1 hmem with ⟨e, he, hsigma⟩
  have hplain : e = d := by
    unfold plainSigma at hsigma
    split_ifs at hsigma
    · subst hsigma
      exact absurd hd.2 (by decide)
    · exact hsigma
  subst hplain
  unfold lowerChar at he
  split_ifs at he with hc
  · obtain rfl := List.mem_singleton.1 he
    have hsame := hascii c.toNat hc
    rw [Char.ofNat_toNat] at hsame
    exact (hsame hd.2).symm
  · exact eq_of_mem_mapCase (by decide +kernel) (by decide +kernel) hd he

end Text
end QueryDesigner

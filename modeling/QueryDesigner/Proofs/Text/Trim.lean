import QueryDesigner.Proofs.Text.Digit
import QueryDesigner.Proofs.Text.LetterCase

/-!
# Text without blanks at its ends

* `Text.Flush` — neither the first character nor the last one is a blank;
* `Text.flush_trimChars`, `Text.trimChars_eq_self` — trimming makes a text flush and leaves a flush
  one alone;
* `Text.trimChars_between_blanks` — blanks around a text make no difference;
* `Text.exists_lowerChar` — letter case makes no blank and loses none at the start of a letter;
* `Text.blankStart_eq_of_sameLetters` — texts that differ in letter case only start alike.
-/

namespace QueryDesigner
namespace Text

variable {c : Char} {cs : List Char}

/-- Neither the first character nor the last one is a blank. -/
structure Flush (cs : List Char) : Prop where
  head : ∀ c ∈ cs.head?, isBlank c = false
  last : ∀ c ∈ cs.getLast?, isBlank c = false

/-! ## Trimming -/

/-- What is cut off at the end leaves the start as it is. -/
theorem Flush.not_lineBreak_suffix (h : Flush cs) : ¬ ['\n'] <:+ cs := by
  rintro ⟨front, rfl⟩
  exact absurd (h.last '\n' (by simp)) (by decide)

theorem dropBlanksEnd_prefix (cs : List Char) : dropBlanksEnd cs <+: cs :=
  List.rdropWhile_prefix isBlank cs

theorem head?_dropBlanks (cs : List Char) : ∀ c ∈ (dropBlanks cs).head?, isBlank c = false := by
  intro c hc
  have hnot := List.head?_dropWhile_not isBlank cs
  rw [dropBlanks, Option.mem_def] at hc
  rw [hc] at hnot
  exact hnot

theorem flush_trimChars (cs : List Char) : Flush (trimChars cs) where
  head := by
    intro c hc
    rcases dropBlanksEnd_prefix (dropBlanks cs) with ⟨rest, hrest⟩
    -- The first character of what is left is the first one that is no blank.
    have hfirst : (dropBlanks cs).head? = some c := by
      rw [← hrest, List.head?_append, ← trimChars, hc, Option.some_or]
    exact head?_dropBlanks cs c hfirst
  last := fun _ hc => isBlank_eq_false_of_getLast?_trimChars hc

theorem trimChars_eq_self (h : Flush cs) : trimChars cs = cs := by
  have hstart : dropBlanks cs = cs := by
    cases cs with
    | nil =>
        rfl
    | cons d rest =>
        have hd : isBlank d = false := h.head d rfl
        exact List.dropWhile_cons_of_neg (by simp [hd])
  have hend : dropBlanksEnd cs = cs := by
    refine List.rdropWhile_eq_self_iff.2 fun hne => ?_
    simp [h.last _ (List.getLast?_eq_some_getLast hne)]
  rw [trimChars, hstart, hend]

/-- Blanks around a text make no difference to what trimming leaves of it. -/
theorem trimChars_between_blanks {before after : List Char}
    (hbefore : ∀ c ∈ before, isBlank c = true) (hafter : ∀ c ∈ after, isBlank c = true) :
    trimChars (before ++ cs ++ after) = trimChars cs := by
  rw [trimChars, dropBlanks, List.append_assoc, List.dropWhile_append_of_pos hbefore,
    List.dropWhile_append]
  split_ifs with hblank
  · -- nothing but blanks: they are all dropped from the start
    rw [List.isEmpty_iff] at hblank
    rw [trimChars, dropBlanks, hblank, List.dropWhile_eq_nil_iff.2 hafter]
  · rw [dropBlanksEnd, List.reverse_append,
      List.dropWhile_append_of_pos fun c hc => hafter c (List.mem_reverse.1 hc)]
    rfl

theorem trim_eq_self {s : String} (h : Flush s.toList) : trim s = s := by
  rw [trim, trimChars_eq_self h, String.ofList_toList]

/-- Trimming loses no other characters than blanks. -/
theorem mem_trim_iff (hc : isBlank c = false) {s : String} :
    c ∈ (trim s).toList ↔ c ∈ s.toList := by
  have hdrop : ∀ cs : List Char, c ∈ cs.dropWhile isBlank ↔ c ∈ cs := by
    intro cs
    conv_rhs => rw [← List.takeWhile_append_dropWhile (p := isBlank) (l := cs), List.mem_append]
    refine ⟨.inr, fun hmem => hmem.resolve_left fun hblank => ?_⟩
    rw [List.mem_takeWhile_imp hblank] at hc
    cases hc
  rw [trim, String.toList_ofList, trimChars, dropBlanksEnd, List.mem_reverse, hdrop,
    List.mem_reverse, dropBlanks, hdrop]

theorem flush_trim (s : String) : Flush (trim s).toList := by
  rw [trim, String.toList_ofList]
  exact flush_trimChars s.toList

theorem isBlank_eq_false_of_asciiDigit (h : c.isDigit = true) : isBlank c = false := by
  have hcodes : ∀ n ∈ blankCodes, (Char.ofNat n).isDigit = false := by decide
  by_contra hblank
  have hnot := hcodes c.toNat (toNat_mem_blankCodes (Bool.eq_true_of_not_eq_false hblank))
  rw [Char.ofNat_toNat, h] at hnot
  cases hnot

/-! ## Starts -/

/-- Whether the first character of a text is a blank. -/
def blankStart (cs : List Char) : Option Bool := cs.head?.map isBlank

theorem Flush.blankStart (h : Flush cs) (hne : cs ≠ []) : blankStart cs = some false := by
  cases cs with
  | nil =>
      exact absurd rfl hne
  | cons c rest =>
      have hc : isBlank c = false := h.head c rfl
      simp [Text.blankStart, hc]

/-- What starts with no blank, and then comes to an end without any. -/
theorem flush_append {ds : List Char} (h : blankStart cs = some false) (hne : ds ≠ [])
    (hds : ∀ c ∈ ds, isBlank c = false) : Flush (cs ++ ds) where
  head := by
    intro c hc
    cases cs with
    | nil =>
        simp [Text.blankStart] at h
    | cons d rest =>
        obtain rfl : d = c := by simpa using hc
        simpa [Text.blankStart] using h
  last := by
    intro c hc
    have hlast : ds.getLast? = some c := by
      rwa [List.getLast?_append_of_ne_nil cs hne] at hc
    exact hds c (List.mem_of_getLast? hlast)

/-! ## Letter case -/

theorem toNat_ofNat_mem_blankCodes {n : Nat} (h : isBlank (Char.ofNat n) = true) :
    n ∈ blankCodes := by
  have hmem := toNat_mem_blankCodes h
  by_cases hn : n.isValidChar
  · rwa [Char.toNat_ofNat, if_pos hn] at hmem
  · -- A number that is no code point stands for the null character, which is no blank.
    rw [Char.toNat_ofNat, if_neg hn] at hmem
    exact absurd hmem (by decide)

/-- A shift leaves blanks alone, and no other character becomes one. -/
theorem isBlank_shiftBy (c : Char) :
    isBlank (Char.ofNat (shiftBy lowerRuns c.toNat)) = isBlank c := by
  have hblanks : ∀ n ∈ blankCodes, shiftBy lowerRuns n = n := by decide +kernel
  -- No run has a blank among its images.
  have hruns : ∀ run ∈ lowerRuns, ∀ n ∈ blankCodes,
      ¬ ((run.1 : Int) + run.2.2.2 ≤ n ∧ (n : Int) ≤ run.2.1 + run.2.2.2) := by
    decide +kernel
  have hpositive : ∀ n ∈ blankCodes, 0 < n := by decide
  cases hc : isBlank c with
  | true =>
      rw [hblanks _ (toNat_mem_blankCodes hc), Char.ofNat_toNat, hc]
  | false =>
      rcases shiftBy_cases lowerRuns c.toNat with hstays | ⟨run, hrun, hlo, hhi, hshift⟩
      · rw [hstays, Char.ofNat_toNat, hc]
      · by_contra hblank
        have hmem := toNat_ofNat_mem_blankCodes (Bool.eq_true_of_not_eq_false hblank)
        have houtside := hruns run hrun _ hmem
        have hcode := hpositive _ hmem
        omega

/-- The lower case of a character starts with a blank exactly if the character is one. -/
theorem exists_lowerChar (c : Char) :
    ∃ d rest, lowerChar c = d :: rest ∧ isBlank d = isBlank c := by
  have hascii : ∀ n < 128, isBlank (Char.ofNat n).toLower = isBlank (Char.ofNat n) := by
    decide +kernel
  have hexpansions : ∀ e ∈ lowerExpansions,
      (e.2.map Char.ofNat).head?.map isBlank = some (isBlank (Char.ofNat e.1)) := by
    decide +kernel
  unfold lowerChar mapCase
  split_ifs with hc
  · refine ⟨c.toLower, [], rfl, ?_⟩
    simpa using hascii c.toNat hc
  · cases hlookup : lowerExpansions.lookup c.toNat with
    | none =>
        exact ⟨_, [], rfl, isBlank_shiftBy c⟩
    | some image =>
        rcases List.lookup_eq_some_iff.1 hlookup with ⟨before, after, hsplit, _⟩
        have himage := hexpansions (c.toNat, image) (by simp [hsplit])
        cases hlist : image.map Char.ofNat with
        | nil =>
            simp [hlist] at himage
        | cons d rest =>
            exact ⟨d, rest, hlist, by simpa [hlist] using himage⟩

theorem blankStart_lowerFrom (before cs : List Char) :
    blankStart (lowerFrom before cs) = blankStart cs := by
  cases cs with
  | nil =>
      rfl
  | cons c rest =>
      by_cases hc : c = 'Σ'
      · -- Neither form of the small sigma is a blank, as the capital one is none.
        subst hc
        have hfinal : isBlank 'ς' = isBlank 'Σ' := by decide +kernel
        have hinner : isBlank 'σ' = isBlank 'Σ' := by decide +kernel
        simp only [lowerFrom, blankStart, List.head?_cons, Option.map_some]
        split_ifs <;> simp [hfinal, hinner]
      · rcases exists_lowerChar c with ⟨d, image, hlower, hblank⟩
        simp [lowerFrom, hc, hlower, blankStart, hblank]

/-- Texts that agree but for letter case start with a blank both or neither of them does. -/
theorem blankStart_eq_of_sameLetters {s t : String} (h : sameLetters s t = true) :
    blankStart s.toList = blankStart t.toList := by
  have hlower : lower s = lower t := by simpa [sameLetters] using h
  have hchars := congrArg String.toList hlower
  simp only [lower, String.toList_ofList] at hchars
  calc
    blankStart s.toList
        = blankStart (lowerFrom [] s.toList) := (blankStart_lowerFrom [] s.toList).symm
    _ = blankStart (lowerFrom [] t.toList) := by rw [hchars]
    _ = blankStart t.toList := blankStart_lowerFrom [] t.toList

end Text
end QueryDesigner

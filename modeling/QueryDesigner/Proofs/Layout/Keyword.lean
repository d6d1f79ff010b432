import Mathlib
import QueryDesigner.Proofs.Layout.Tidy
import QueryDesigner.Proofs.Text.Digit
import QueryDesigner.Proofs.Text.LetterCase

/-!
# Words and keywords

The pass for keywords looks at words.  A word that it writes anew is a keyword, and so are the
letters of both spellings: no blank, quote, comma or mark is among them.

* `words`, `ink` — the runs of a text that are not blank, and their glyphs;
* `words_tidy` — a layout leaves the words alone;
* `ShownAs`, `exists_shown_upperKeywords` — a run and what the pass for keywords writes for it;
* `ShownAs.cases` — a run that is written anew holds plain letters, and so does what is written.
-/

namespace QueryDesigner
namespace Layout

/-! ## Runs -/

def startsWord (gs : List Glyph) : Bool := (gs.head?.map Glyph.isWord).getD false

theorem exists_runs_cons (g : Glyph) (gs : List Glyph) :
    ∃ run others, runs (g :: gs) = (g :: run) :: others := by
  rw [runs]
  split
  · split
    · exact ⟨_, _, rfl⟩
    · exact ⟨_, _, rfl⟩
  · exact ⟨_, _, rfl⟩

/-- A word grows at its start. -/
theorem runs_cons_word {g : Glyph} {gs : List Glyph} (hg : g.isWord = true)
    (hgs : startsWord gs = true) :
    ∃ h run others, h.isWord = true ∧ runs gs = (h :: run) :: others ∧
      runs (g :: gs) = (g :: h :: run) :: others := by
  cases gs with
  | nil =>
      cases hgs
  | cons h rest =>
      have hh : h.isWord = true := hgs
      rcases exists_runs_cons h rest with ⟨run, others, hruns⟩
      refine ⟨h, run, others, hh, hruns, ?_⟩
      rw [runs, hruns]
      simp [hg, hh]

theorem runs_cons_apart {g : Glyph} {gs : List Glyph} (h : (g.isWord && startsWord gs) = false) :
    runs (g :: gs) = [g] :: runs gs := by
  cases gs with
  | nil =>
      rfl
  | cons h' rest =>
      rcases exists_runs_cons h' rest with ⟨run, others, hruns⟩
      have hh : (g.isWord && h'.isWord) = false := h
      rw [runs, hruns]
      simp [hh]

theorem flatten_runs (gs : List Glyph) : (runs gs).flatten = gs := by
  induction gs with
  | nil =>
      rfl
  | cons g rest ih =>
      cases hword : g.isWord && startsWord rest with
      | true =>
          rw [Bool.and_eq_true] at hword
          rcases runs_cons_word hword.1 hword.2 with ⟨h, run, others, _, hruns, hcons⟩
          rw [hcons, ← ih, hruns, List.flatten_cons, List.flatten_cons, List.cons_append]
      | false =>
          rw [runs_cons_apart hword, List.flatten_cons, ih, List.singleton_append]

/-! ## Words -/

theorem isWord_eq_false_of_isBlank {g : Glyph} (h : g.isBlank = true) : g.isWord = false := by
  cases g with
  | literal index =>
      rfl
  | char c =>
      exact Text.isWordChar_eq_false_of_isBlank h

theorem isBlank_eq_false_of_isWord {g : Glyph} (h : g.isWord = true) : g.isBlank = false := by
  by_contra hblank
  rw [isWord_eq_false_of_isBlank (by simpa using hblank)] at h
  cases h

/-- The words of a text, and its other glyphs that are not blank. -/
def words (gs : List Glyph) : List (List Glyph) :=
  (runs gs).filter fun run => run.any fun g => !g.isBlank

def ink (gs : List Glyph) : List Glyph := gs.filter fun g => !g.isBlank

theorem ink_append (gs hs : List Glyph) : ink (gs ++ hs) = ink gs ++ ink hs :=
  List.filter_append ..

theorem words_cons_of_isBlank {g : Glyph} (hg : g.isBlank = true) (gs : List Glyph) :
    words (g :: gs) = words gs := by
  rw [words, runs_cons_apart (by simp [isWord_eq_false_of_isBlank hg])]
  simp [hg, words]

theorem words_cons_apart {g : Glyph} (hg : g.isBlank = false) {gs : List Glyph}
    (h : (g.isWord && startsWord gs) = false) : words (g :: gs) = [g] :: words gs := by
  rw [words, runs_cons_apart h]
  simp [hg, words]

theorem words_cons_word {g : Glyph} {gs : List Glyph} (hg : g.isWord = true)
    (hgs : startsWord gs = true) :
    ∃ word others, words gs = word :: others ∧ words (g :: gs) = (g :: word) :: others := by
  rcases runs_cons_word hg hgs with ⟨h, run, others, hh, hruns, hcons⟩
  have hblank : h.isBlank = false := isBlank_eq_false_of_isWord hh
  refine ⟨h :: run, others.filter fun run => run.any fun g => !g.isBlank, ?_, ?_⟩
  · rw [words, hruns]
    simp [hblank]
  · rw [words, hcons]
    simp [hblank]

/-- The glyphs of the words are those that are not blank. -/
theorem flatten_words (gs : List Glyph) : (words gs).flatten = ink gs := by
  induction gs with
  | nil =>
      rfl
  | cons g rest ih =>
      cases hblank : g.isBlank with
      | true =>
          rw [words_cons_of_isBlank hblank, ih]
          simp [ink, hblank]
      | false =>
          have hink : ink (g :: rest) = g :: ink rest := by simp [ink, hblank]
          cases hword : g.isWord && startsWord rest with
          | true =>
              rw [Bool.and_eq_true] at hword
              rcases words_cons_word hword.1 hword.2 with ⟨word, others, hwords, hcons⟩
              rw [hcons, hink, ← ih, hwords, List.flatten_cons, List.flatten_cons,
                List.cons_append]
          | false =>
              rw [words_cons_apart hblank hword, hink, ← ih, List.flatten_cons,
                List.singleton_append]

/-- Of what follows, a glyph only sees the words and whether one of them starts there. -/
theorem words_congr (g : Glyph) {gs hs : List Glyph} (h : words gs = words hs)
    (hstart : startsWord gs = startsWord hs) : words (g :: gs) = words (g :: hs) := by
  cases hblank : g.isBlank with
  | true =>
      rw [words_cons_of_isBlank hblank, words_cons_of_isBlank hblank, h]
  | false =>
      cases hword : g.isWord && startsWord gs with
      | false =>
          rw [words_cons_apart hblank hword, words_cons_apart hblank (hstart ▸ hword), h]
      | true =>
          rw [Bool.and_eq_true] at hword
          rcases words_cons_word hword.1 hword.2 with ⟨word, others, hwords, hcons⟩
          rcases words_cons_word hword.1 (hstart ▸ hword.2) with ⟨word', others', hwords', hcons'⟩
          rw [hwords, hwords', List.cons.injEq] at h
          rw [hcons, hcons', h.1, h.2]

theorem words_spaced (gs : List Glyph) : words (spaced gs) = words gs := by
  cases gs with
  | nil =>
      rfl
  | cons h rest =>
      rw [spaced]
      split_ifs
      · rfl
      · exact words_cons_of_isBlank isBlank_space _

theorem startsWord_spaced (gs : List Glyph) : startsWord (spaced gs) = false := by
  have hspace : space.isWord = false := isWord_eq_false_of_isBlank isBlank_space
  cases gs with
  | nil =>
      rfl
  | cons h rest =>
      rw [spaced]
      split_ifs with hh
      · rw [hh]
        exact hspace
      · exact hspace

theorem words_unspaced (gs : List Glyph) : words (unspaced gs) = words gs := by
  cases gs with
  | nil =>
      rfl
  | cons h rest =>
      rw [unspaced]
      split_ifs with hh
      · rw [hh, words_cons_of_isBlank isBlank_space]
      · rfl

theorem words_tidy_and_startsWord_tidy (gs : List Glyph) :
    words (tidy gs) = words gs ∧ startsWord (tidy gs) = startsWord gs := by
  -- A glyph joins the word after it, so the words alone would not be enough for the induction.
  induction gs with
  | nil =>
      exact ⟨rfl, rfl⟩
  | cons g rest ih =>
      rcases ih with ⟨ihwords, ihstart⟩
      rw [tidy_cons]
      cases hblank : g.isBlank with
      | true =>
          rw [tidyStep_of_isBlank hblank, words_spaced, ihwords, words_cons_of_isBlank hblank,
            startsWord_spaced]
          exact ⟨rfl, (isWord_eq_false_of_isBlank hblank).symm⟩
      | false =>
          by_cases hcomma : g = .char ','
          · have hapart : ∀ gs, (g.isWord && startsWord gs) = false := by
              intro gs
              rw [hcomma, show (Glyph.char ',').isWord = false by decide, Bool.false_and]
            refine ⟨?_, by rw [hcomma, tidyStep_comma]; rfl⟩
            rw [words_cons_apart hblank (hapart _), hcomma, tidyStep_comma, ← hcomma,
              words_cons_apart hblank (hapart _), words_unspaced, ihwords]
          · rw [tidyStep_of_other hblank hcomma]
            exact ⟨words_congr g ihwords ihstart, rfl⟩

theorem words_tidy (gs : List Glyph) : words (tidy gs) = words gs :=
  (words_tidy_and_startsWord_tidy gs).1

theorem ink_tidy (gs : List Glyph) : ink (tidy gs) = ink gs := by
  rw [← flatten_words, words_tidy, flatten_words]

/-! ## Keywords -/

/-- The characters that no pass and no literal makes use of. -/
def isPlainChar (c : Char) : Bool :=
  !Text.isBlank c && !([ '\'', '"', '`', ',', '\x00', rangeAnd ].contains c)

namespace Glyph

def isPlain : Glyph → Bool
  | char c => isPlainChar c
  | literal _ => false

end Glyph

def isCapital (c : Char) : Bool := c == '_' || (65 ≤ c.toNat && c.toNat ≤ 90)

/-- The code points of all that is taken for a letter of a keyword. -/
def keywordCodes : List Nat :=
  List.range' 65 26 ++ List.range' 97 26 ++ [0x5F, 0x130, 0x131, 0x17F, 0x212A]

/-- What holds of all letters of keywords can be looked up. -/
theorem of_mem_keywordCodes {p : Char → Bool}
    (hcodes : keywordCodes.all (fun n => p (Char.ofNat n)) = true) {c : Char}
    (h : c.toNat ∈ keywordCodes) : p c = true := by
  have hp := List.all_eq_true.1 hcodes c.toNat h
  rwa [Char.ofNat_toNat] at hp

theorem toNat_mem_keywordCodes {c : Char} (h : isCapital (keywordLetter c) = true) :
    c.toNat ∈ keywordCodes := by
  have hcapital : ∀ {d : Char}, isCapital d = true → d.toNat ∈ keywordCodes := by
    intro d hd
    simp only [isCapital, Bool.or_eq_true, beq_iff_eq, Bool.and_eq_true, decide_eq_true_eq] at hd
    rcases hd with rfl | hd
    · decide
    · simp only [keywordCodes, List.mem_append, List.mem_range'_1]
      omega
  unfold keywordLetter at h
  split at h
  · decide
  · decide
  · decide
  · decide
  · rw [Char.toUpper] at h
    split_ifs at h with hc
    · have hlow : 97 ≤ c.toNat := UInt32.le_iff_toNat_le.1 hc.1
      have hhigh : c.toNat ≤ 122 := UInt32.le_iff_toNat_le.1 hc.2
      simp only [keywordCodes, List.mem_append, List.mem_range'_1]
      omega
    · exact hcapital h

theorem toNat_mem_keywordCodes_of_isKeyword {word : List Char} (h : isKeyword word = true) :
    word ≠ [] ∧ ∀ c ∈ word, c.toNat ∈ keywordCodes := by
  have hkeywords : keywords.all (fun k => !k.isEmpty && k.toList.all isCapital) = true := by
    decide +kernel
  have hk := List.all_eq_true.1 hkeywords _ (List.contains_iff_mem.1 h)
  rw [Bool.and_eq_true, String.toList_ofList, List.all_map, List.all_eq_true] at hk
  constructor
  · rintro rfl
    exact absurd hk.1 (by decide)
  · exact fun c hc => toNat_mem_keywordCodes (hk.2 c hc)

theorem isPlainChar_of_mem_keywordCodes {c : Char} (h : c.toNat ∈ keywordCodes) :
    isPlainChar c = true ∧ ∀ d ∈ Text.upperChar c, isPlainChar d = true := by
  have hc := of_mem_keywordCodes
    (p := fun c => isPlainChar c && (Text.upperChar c).all isPlainChar) (by decide +kernel) h
  rwa [Bool.and_eq_true, List.all_eq_true] at hc

/-- Some glyphs, each of them plain. -/
structure AllPlain (gs : List Glyph) : Prop where
  nonempty : gs ≠ []
  plain : ∀ g ∈ gs, g.isPlain = true

theorem isBlank_eq_false_of_isPlain {g : Glyph} (h : g.isPlain = true) : g.isBlank = false := by
  cases g with
  | char c =>
      simp only [Glyph.isPlain, isPlainChar, Bool.and_eq_true, Bool.not_eq_true'] at h
      exact h.1
  | literal index =>
      cases h

theorem AllPlain.ink_eq {gs : List Glyph} (h : AllPlain gs) : ink gs = gs :=
  List.filter_eq_self.2 fun g hg => by simp [isBlank_eq_false_of_isPlain (h.plain g hg)]

/-- What the pass for keywords may write for a run: the run, or a keyword in capitals. -/
def ShownAs (run shown : List Glyph) : Prop :=
  shown = run ∨
    isKeyword (spell run) = true ∧ shown = glyphs (Text.upper (String.ofList (spell run)))

theorem shownAs_upperRun (run : List Glyph) : ShownAs run (upperRun run) := by
  simp only [upperRun]
  split_ifs with hkeyword
  · exact .inr ⟨hkeyword, rfl⟩
  · exact .inl rfl

theorem exists_shown_upperRuns (earlier before : Option Glyph) (rs : List (List Glyph)) :
    ∃ shown, List.Forall₂ ShownAs rs shown ∧ upperRuns earlier before rs = shown.flatten := by
  induction rs generalizing earlier before with
  | nil =>
      exact ⟨[], .nil, rfl⟩
  | cons run rest ih =>
      rcases ih (if 2 ≤ run.length then run.dropLast.getLast? else before) run.getLast?
        with ⟨shown, hshown, heq⟩
      by_cases hqualified : isQualified earlier before = true
      · refine ⟨run :: shown, .cons (.inl rfl) hshown, ?_⟩
        rw [upperRuns, if_pos hqualified, heq, List.flatten_cons]
      · refine ⟨upperRun run :: shown, .cons (shownAs_upperRun run) hshown, ?_⟩
        rw [upperRuns, if_neg hqualified, heq, List.flatten_cons]

theorem exists_shown_upperKeywords (gs : List Glyph) :
    ∃ shown, List.Forall₂ ShownAs (runs gs) shown ∧ upperKeywords gs = shown.flatten :=
  exists_shown_upperRuns none none (runs gs)

theorem allPlain_of_isKeyword {run : List Glyph} (h : isKeyword (spell run) = true) :
    AllPlain run := by
  rcases toNat_mem_keywordCodes_of_isKeyword h with ⟨hne, hmem⟩
  have hchars : ∀ g ∈ run, ∀ c ∈ g.spell, isPlainChar c = true := fun g hg c hc =>
    (isPlainChar_of_mem_keywordCodes (hmem c (List.mem_flatMap.2 ⟨g, hg, hc⟩))).1
  refine ⟨?_, ?_⟩
  · rintro rfl
    exact hne rfl
  · intro g hg
    cases g with
    | char c =>
        exact hchars _ hg c (by simp [Glyph.spell])
    | literal index =>
        -- A literal is spelled with a null character, which no keyword holds.
        have hnull := hchars _ hg '\x00' (by simp [Glyph.spell])
        exact absurd hnull (by decide)

theorem allPlain_upper {word : List Char} (h : isKeyword word = true) :
    AllPlain (glyphs (Text.upper (String.ofList word))) := by
  rcases toNat_mem_keywordCodes_of_isKeyword h with ⟨hne, hmem⟩
  rw [Text.upper, glyphs, String.toList_ofList, String.toList_ofList]
  refine ⟨?_, ?_⟩
  · cases word with
    | nil =>
        exact absurd rfl hne
    | cons c word =>
        simp [Text.upperChar_ne_nil]
  · intro g hg
    rcases List.mem_map.1 hg with ⟨d, hd, rfl⟩
    rcases List.mem_flatMap.1 hd with ⟨c, hc, hd⟩
    exact (isPlainChar_of_mem_keywordCodes (hmem c hc)).2 d hd

/-- A run that is written anew holds plain letters, and so does what is written. -/
theorem ShownAs.cases {run shown : List Glyph} (h : ShownAs run shown) :
    shown = run ∨ AllPlain run ∧ AllPlain shown := by
  cases h with
  | inl hsame =>
      exact .inl hsame
  | inr hupper =>
      rw [hupper.2]
      exact .inr ⟨allPlain_of_isKeyword hupper.1, allPlain_upper hupper.1⟩

theorem mem_flatten_shown {rs shown : List (List Glyph)} (h : List.Forall₂ ShownAs rs shown)
    {g : Glyph} (hg : g ∈ shown.flatten) : g ∈ rs.flatten ∨ g.isPlain = true := by
  induction h with
  | nil =>
      cases hg
  | cons hrun _ ih =>
      rw [List.flatten_cons, List.mem_append] at hg ⊢
      rcases hg with hg | hg
      · rcases hrun.cases with rfl | ⟨_, hplain⟩
        · exact .inl (.inl hg)
        · exact .inr (hplain.plain g hg)
      · rcases ih hg with hmem | hplain
        · exact .inl (.inr hmem)
        · exact .inr hplain

theorem mem_upperKeywords {gs : List Glyph} {g : Glyph} (hg : g ∈ upperKeywords gs) :
    g ∈ gs ∨ g.isPlain = true := by
  rcases exists_shown_upperKeywords gs with ⟨shown, hshown, heq⟩
  rw [heq] at hg
  simpa [flatten_runs] using mem_flatten_shown hshown hg

/-- A run with a glyph that is not blank holds no blanks. -/
theorem ink_run (gs : List Glyph) :
    ∀ run ∈ runs gs, (run.any fun g => !g.isBlank) = true → ink run = run := by
  induction gs with
  | nil =>
      intro run hrun
      cases hrun
  | cons g rest ih =>
      intro run hrun hany
      cases hword : g.isWord && startsWord rest with
      | false =>
          rw [runs_cons_apart hword, List.mem_cons] at hrun
          rcases hrun with rfl | hrun
          · simpa [ink] using hany
          · exact ih run hrun hany
      | true =>
          rw [Bool.and_eq_true] at hword
          rcases runs_cons_word hword.1 hword.2 with ⟨h, tail, others, hh, hruns, hcons⟩
          rw [hcons, List.mem_cons] at hrun
          rw [hruns] at ih
          rcases hrun with rfl | hrun
          · have hg : g.isBlank = false := isBlank_eq_false_of_isWord hword.1
            have hinner := ih (h :: tail) (by simp) (by simp [isBlank_eq_false_of_isWord hh])
            rw [ink, List.filter_cons_of_pos (by simp [hg]), ← ink, hinner]
          · exact ih run (List.mem_cons_of_mem _ hrun) hany

/-- What is written for the runs without the blanks, if each run with other glyphs has no blanks. -/
theorem exists_shown_words {rs shown : List (List Glyph)} (h : List.Forall₂ ShownAs rs shown)
    (hink : ∀ run ∈ rs, (run.any fun g => !g.isBlank) = true → ink run = run) :
    ∃ shown', List.Forall₂ ShownAs (rs.filter fun run => run.any fun g => !g.isBlank) shown' ∧
      ink shown.flatten = shown'.flatten := by
  induction h with
  | nil =>
      exact ⟨[], .nil, rfl⟩
  | @cons run shownRun rs shown hrun _ ih =>
      rcases ih fun run hmem => hink run (List.mem_cons_of_mem _ hmem) with ⟨shown', hshown', heq⟩
      have hflatten : ink (shownRun :: shown).flatten = ink shownRun ++ shown'.flatten := by
        rw [List.flatten_cons, ink_append, heq]
      by_cases hany : (run.any fun g => !g.isBlank) = true
      · have hshownRun : ink shownRun = shownRun := by
          rcases hrun.cases with rfl | ⟨_, hplain⟩
          · exact hink _ (by simp) hany
          · exact hplain.ink_eq
        refine ⟨shownRun :: shown', ?_, by rw [hflatten, hshownRun, List.flatten_cons]⟩
        rw [List.filter_cons_of_pos (p := fun run : List Glyph => run.any fun g => !g.isBlank) hany]
        exact .cons hrun hshown'
      · -- A run of blanks is no keyword, so it is written as it is.
        have hnone : ink run = [] := by
          simpa [ink] using hany
        have hshownRun : ink shownRun = [] := by
          rcases hrun.cases with rfl | ⟨hplain, _⟩
          · exact hnone
          · exact absurd (hplain.ink_eq.symm.trans hnone) hplain.nonempty
        refine ⟨shown', ?_, by rw [hflatten, hshownRun, List.nil_append]⟩
        rw [List.filter_cons_of_neg (p := fun run : List Glyph => run.any fun g => !g.isBlank) hany]
        exact hshown'

theorem exists_shown_ink (gs : List Glyph) :
    ∃ shown, List.Forall₂ ShownAs (words gs) shown ∧ ink (upperKeywords gs) = shown.flatten := by
  rcases exists_shown_upperKeywords gs with ⟨shown, hshown, heq⟩
  rw [heq]
  exact exists_shown_words hshown (ink_run gs)

end Layout
end QueryDesigner

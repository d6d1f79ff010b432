import Mathlib
import QueryDesigner.Proofs.Layout.Keyword

/-!
# Keywords in capitals once and for all

The pass for keywords writes a letter for a letter.  So the words stay where they are, and a second
pass finds nothing to do.

* `Glyph.isLetter`, `Recased` — the letters of keywords, and glyphs that differ by such letters only;
* `recased_upperKeywords` — the pass changes letters only, one by one;
* `Recased.runs` — glyphs that differ by letters have the same words but for letters;
* `upperKeywords_upperKeywords` — a second pass leaves everything as it is.
-/

namespace QueryDesigner
namespace Layout

/-! ## Letters -/

/-- A letter of a keyword stands for a single capital, which is a letter and its own capital. -/
theorem exists_upperChar_of_mem_keywordCodes {c : Char} (h : c.toNat ∈ keywordCodes) :
    ∃ d, Text.upperChar c = [d] ∧ d.toNat ∈ keywordCodes ∧ Text.upperChar d = [d] := by
  have hc := of_mem_keywordCodes (p := fun c =>
    (Text.upperChar c).length == 1 &&
      (Text.upperChar c).all fun d => keywordCodes.contains d.toNat && Text.upperChar d == [d])
    (by decide +kernel) h
  simp only [Bool.and_eq_true, beq_iff_eq, List.all_eq_true, List.contains_iff_mem] at hc
  rcases List.length_eq_one_iff.1 hc.1 with ⟨d, hupper⟩
  rcases hc.2 d (by simp [hupper]) with ⟨hd, hself⟩
  exact ⟨d, hupper, hd, hself⟩

namespace Glyph

/-- A letter that a keyword may be spelled with. -/
def isLetter : Glyph → Bool
  | char c => keywordCodes.contains c.toNat
  | literal _ => false

end Glyph

theorem exists_char_of_isLetter {g : Glyph} (h : g.isLetter = true) :
    ∃ c : Char, g = .char c ∧ c.toNat ∈ keywordCodes := by
  cases g with
  | char c =>
      exact ⟨c, rfl, List.contains_iff_mem.1 h⟩
  | literal index =>
      cases h

theorem of_isLetter {p : Glyph → Bool}
    (hcodes : keywordCodes.all (fun n => p (.char (Char.ofNat n))) = true) {g : Glyph}
    (h : g.isLetter = true) : p g = true := by
  rcases exists_char_of_isLetter h with ⟨c, rfl, hc⟩
  exact of_mem_keywordCodes (p := fun c => p (.char c)) hcodes hc

theorem isWord_of_isLetter {g : Glyph} (h : g.isLetter = true) : g.isWord = true :=
  of_isLetter (by decide +kernel) h

theorem isBlank_eq_false_of_isLetter {g : Glyph} (h : g.isLetter = true) : g.isBlank = false :=
  isBlank_eq_false_of_isWord (isWord_of_isLetter h)

/-! ## Glyphs that differ by letters -/

/-- The same glyph, or two letters. -/
def Alter (g h : Glyph) : Prop := g = h ∨ g.isLetter = true ∧ h.isLetter = true

namespace Alter

variable {g h : Glyph}

theorem refl (g : Glyph) : Alter g g := .inl rfl

/-- A reading that takes all letters for one does not tell such glyphs apart. -/
theorem congr {p : Glyph → Bool} {b : Bool} (hp : ∀ {k : Glyph}, k.isLetter = true → p k = b)
    (halter : Alter g h) : p g = p h := by
  rcases halter with rfl | ⟨hg, hh⟩
  · rfl
  · rw [hp hg, hp hh]

theorem isWord_eq (halter : Alter g h) : g.isWord = h.isWord := halter.congr isWord_of_isLetter

theorem isBlank_eq (halter : Alter g h) : g.isBlank = h.isBlank :=
  halter.congr isBlank_eq_false_of_isLetter

/-- What is no letter stays where it is. -/
theorem beq_eq (halter : Alter g h) {k : Glyph} (hk : k.isLetter = false) :
    (g == k) = (h == k) := by
  refine halter.congr (p := fun g => g == k) (b := false) fun {l} hl => ?_
  rw [beq_eq_false_iff_ne]
  rintro rfl
  rw [hl] at hk
  cases hk

end Alter

/-- Glyphs that differ by letters only, one by one. -/
abbrev Recased : List Glyph → List Glyph → Prop := List.Forall₂ Alter

theorem Recased.refl (gs : List Glyph) : Recased gs gs := List.forall₂_same.2 fun g _ => .refl g

theorem Recased.flatten {rs shown : List (List Glyph)} (h : List.Forall₂ Recased rs shown) :
    Recased rs.flatten shown.flatten := by
  induction h with
  | nil =>
      exact .nil
  | cons hrun _ ih =>
      rw [List.flatten_cons, List.flatten_cons]
      exact List.rel_append hrun ih

theorem Recased.ink {gs hs : List Glyph} (h : Recased gs hs) :
    Recased (ink gs) (Layout.ink hs) :=
  List.rel_filter (fun {g k} halter => by simp only [halter.isBlank_eq]) h

theorem Recased.startsWord_eq {gs hs : List Glyph} (h : Recased gs hs) :
    startsWord gs = startsWord hs := by
  cases h with
  | nil =>
      rfl
  | cons hg _ =>
      simpa [startsWord] using hg.isWord_eq

/-- Glyphs that differ by letters have the same words but for letters. -/
theorem Recased.runs {gs hs : List Glyph} (h : Recased gs hs) :
    List.Forall₂ Recased (runs gs) (runs hs) := by
  induction h with
  | nil =>
      exact .nil
  | @cons g k gs hs hg hrest ih =>
      have hstart := Recased.startsWord_eq hrest
      cases hword : g.isWord && startsWord gs with
      | false =>
          rw [runs_cons_apart hword]
          rw [hg.isWord_eq, hstart] at hword
          rw [runs_cons_apart hword]
          exact .cons (.cons hg .nil) ih
      | true =>
          rw [Bool.and_eq_true] at hword
          rcases runs_cons_word hword.1 hword.2 with ⟨g', run, others, _, hruns, hcons⟩
          rw [hg.isWord_eq, hstart] at hword
          rcases runs_cons_word hword.1 hword.2 with ⟨k', run', others', _, hruns', hcons'⟩
          rw [hruns, hruns'] at ih
          rw [hcons, hcons']
          cases ih with
          | cons hrun hothers =>
              exact .cons (.cons hg hrun) hothers

/-! ## The pass for keywords -/

theorem map_char_spell {run : List Glyph} (h : ∀ g ∈ run, g.isPlain = true) :
    (spell run).map .char = run := by
  induction run with
  | nil =>
      rfl
  | cons g rest ih =>
      have hrest := ih fun k hk => h k (List.mem_cons_of_mem g hk)
      have hg := h g List.mem_cons_self
      cases g with
      | char c =>
          rw [spell, List.flatMap_cons, ← spell, Glyph.spell, List.singleton_append, List.map_cons,
            hrest]
      | literal index =>
          cases hg

/-- A keyword in capitals: a letter for each letter. -/
theorem recased_upper {word : List Char} (h : ∀ c ∈ word, c.toNat ∈ keywordCodes) :
    Recased (word.map .char) (glyphs (Text.upper (String.ofList word))) := by
  rw [Text.upper, glyphs, String.toList_ofList, String.toList_ofList]
  induction word with
  | nil =>
      exact .nil
  | cons c rest ih =>
      have hc := h c List.mem_cons_self
      rcases exists_upperChar_of_mem_keywordCodes hc with ⟨d, hupper, hd, _⟩
      rw [List.map_cons, List.flatMap_cons, hupper, List.singleton_append, List.map_cons]
      exact .cons (.inr ⟨List.contains_iff_mem.2 hc, List.contains_iff_mem.2 hd⟩)
        (ih fun c hc => h c (List.mem_cons_of_mem _ hc))

theorem ShownAs.recased {run shown : List Glyph} (h : ShownAs run shown) : Recased run shown := by
  rcases h with heq | ⟨hkeyword, heq⟩
  · rw [heq]
    exact .refl _
  · have hrecased := recased_upper (toNat_mem_keywordCodes_of_isKeyword hkeyword).2
    rwa [map_char_spell (allPlain_of_isKeyword hkeyword).plain, ← heq] at hrecased

/-- The pass for keywords changes letters only. -/
theorem recased_upperKeywords (gs : List Glyph) : Recased gs (upperKeywords gs) := by
  rcases exists_shown_upperKeywords gs with ⟨shown, hshown, heq⟩
  rw [heq]
  conv_lhs => rw [← flatten_runs gs]
  exact Recased.flatten (hshown.imp fun _ _ => ShownAs.recased)

/-! ## A second pass -/

/-- A word that is in capitals already stays as it is. -/
theorem upper_upper {word : List Char} (h : ∀ c ∈ word, c.toNat ∈ keywordCodes) :
    Text.upper (Text.upper (String.ofList word)) = Text.upper (String.ofList word) := by
  simp only [Text.upper, String.toList_ofList, String.ofList_inj, List.flatMap_assoc]
  refine List.flatMap_congr fun c hc => ?_
  rcases exists_upperChar_of_mem_keywordCodes (h c hc) with ⟨d, hupper, _, hd⟩
  rw [hupper, List.flatMap_singleton, hd]

theorem spell_glyphs (s : String) : spell (glyphs s) = s.toList := by
  rw [spell, glyphs, List.flatMap_map]
  exact List.flatMap_singleton' _

theorem upperRun_upperRun (run : List Glyph) : upperRun (upperRun run) = upperRun run := by
  by_cases hkeyword : isKeyword (spell run) = true
  · have hupper : upperRun run = glyphs (Text.upper (String.ofList (spell run))) := by
      simp only [upperRun, if_pos hkeyword]
    have hletters := (toNat_mem_keywordCodes_of_isKeyword hkeyword).2
    rw [hupper]
    simp only [upperRun, spell_glyphs, String.ofList_toList, upper_upper hletters]
    split_ifs <;> rfl
  · have hsame : upperRun run = run := by
      simp only [upperRun, if_neg hkeyword]
    rw [hsame, hsame]

/-- What is written for each of the runs after two given glyphs. -/
def shownRuns (earlier before : Option Glyph) : List (List Glyph) → List (List Glyph)
  | [] => []
  | run :: rest =>
    (if isQualified earlier before then run else upperRun run) ::
      shownRuns (if 2 ≤ run.length then run.dropLast.getLast? else before) run.getLast? rest

theorem flatten_shownRuns (earlier before : Option Glyph) (rs : List (List Glyph)) :
    (shownRuns earlier before rs).flatten = upperRuns earlier before rs := by
  induction rs generalizing earlier before with
  | nil =>
      rfl
  | cons run rest ih =>
      rw [shownRuns, upperRuns, List.flatten_cons, ih]

theorem shownAs_shownRuns (earlier before : Option Glyph) (rs : List (List Glyph)) :
    List.Forall₂ ShownAs rs (shownRuns earlier before rs) := by
  induction rs generalizing earlier before with
  | nil =>
      exact .nil
  | cons run rest ih =>
      refine .cons ?_ (ih _ _)
      split_ifs
      · exact .inl rfl
      · exact shownAs_upperRun run

/-- The words of what is written are what is written for the words. -/
theorem runs_upperKeywords (gs : List Glyph) :
    runs (upperKeywords gs) = shownRuns none none (runs gs) := by
  have hlengths : ∀ {rs shown : List (List Glyph)}, List.Forall₂ Recased rs shown →
      shown.map List.length = rs.map List.length := by
    intro rs shown h
    induction h with
    | nil =>
        rfl
    | cons hrun _ ih =>
        rw [List.map_cons, List.map_cons, hrun.length_eq, ih]
  have hshown : List.Forall₂ Recased (runs gs) (shownRuns none none (runs gs)) :=
    (shownAs_shownRuns none none (runs gs)).imp fun _ _ => ShownAs.recased
  refine List.eq_iff_flatten_eq.2 ⟨?_, ?_⟩
  · rw [flatten_runs, flatten_shownRuns, upperKeywords]
  · rw [hlengths (recased_upperKeywords gs).runs, hlengths hshown]

section Neighbours

variable {e e' b b' : Option Glyph} {run shown : List Glyph}

theorem isQualified_congr (he : Option.Rel Alter e e') (hb : Option.Rel Alter b b') :
    isQualified e b = isQualified e' b' := by
  have hpoint : ∀ {o o' : Option Glyph}, Option.Rel Alter o o' →
      (o == some (.char '.')) = (o' == some (.char '.')) := by
    intro o o' h
    cases h with
    | none =>
        rfl
    | some hglyph =>
        simpa using hglyph.beq_eq (k := .char '.') (by decide)
  have hblank : (b.map Glyph.isBlank).getD false = (b'.map Glyph.isBlank).getD false := by
    cases hb with
    | none =>
        rfl
    | some hglyph =>
        exact hglyph.isBlank_eq
  rw [isQualified, isQualified, hpoint he, hpoint hb, hblank]

theorem Recased.getLast? (h : Recased run shown) :
    Option.Rel Alter run.getLast? shown.getLast? := by
  have hreverse : Recased run.reverse shown.reverse := List.forall₂_reverse_iff.2 h
  rw [← List.head?_reverse, ← List.head?_reverse]
  generalize run.reverse = gs at hreverse
  generalize shown.reverse = hs at hreverse
  cases hreverse with
  | nil =>
      exact .none
  | cons hglyph _ =>
      exact .some hglyph

theorem Recased.dropLast (h : Recased run shown) : Recased run.dropLast shown.dropLast := by
  rw [List.dropLast_eq_take, List.dropLast_eq_take, h.length_eq]
  exact List.forall₂_take _ h

end Neighbours

/-- Letters do not qualify a name, so the same words are names the second time. -/
theorem shownRuns_shownRuns {e e' b b' : Option Glyph} (he : Option.Rel Alter e e')
    (hb : Option.Rel Alter b b') (rs : List (List Glyph)) :
    shownRuns e' b' (shownRuns e b rs) = shownRuns e b rs := by
  induction rs generalizing e e' b b' with
  | nil =>
      rfl
  | cons run rest ih =>
      rw [shownRuns]
      set shown := if isQualified e b then run else upperRun run with hset
      have hrun : Recased run shown := by
        rw [hset]
        split_ifs
        · exact .refl run
        · exact (shownAs_upperRun run).recased
      have htwice : (if isQualified e' b' then shown else upperRun shown) = shown := by
        rw [hset, ← isQualified_congr he hb]
        split_ifs
        · rfl
        · exact upperRun_upperRun run
      rw [shownRuns, htwice, ← hrun.length_eq]
      refine congrArg (shown :: ·) (ih ?_ hrun.getLast?)
      by_cases hlength : 2 ≤ run.length
      · rw [if_pos hlength, if_pos hlength]
        exact hrun.dropLast.getLast?
      · rw [if_neg hlength, if_neg hlength]
        exact hb

theorem upperKeywords_upperKeywords (gs : List Glyph) :
    upperKeywords (upperKeywords gs) = upperKeywords gs := by
  conv_lhs => rw [upperKeywords, ← flatten_shownRuns, runs_upperKeywords]
  rw [shownRuns_shownRuns .none .none, flatten_shownRuns, upperKeywords]

end Layout
end QueryDesigner

import Mathlib
import QueryDesigner.Proofs.Layout.Capital
import QueryDesigner.Proofs.Layout.Comma
import QueryDesigner.Proofs.Layout.Cosmetic

/-!
# A layout is laid out already

The first pass makes one space of every run of blanks.  If a blank follows every comma, all that the
later passes did to the blanks is undone by that, and they do the same once more.

* `single`, `squeezed_eq_single` — the first pass, glyph by glyph;
* `Single` — glyphs that the first pass leaves as they are, also with keywords in capitals;
* `Airy`, `aired`, `single_eq_aired` — with a blank after every comma the tidy reading tells all;
* `layOut_layOut`, `format?_format?` — what is laid out stays as it is.
-/

namespace QueryDesigner
namespace Layout

variable {gs hs : List Glyph}

/-! ## The first pass -/

/-- The glyphs with one space for each run of blanks, and with none at the end. -/
def single : List Glyph → List Glyph
  | [] => []
  | g :: rest => if g.isBlank then spaced (single rest) else g :: single rest

theorem single_cons_of_isBlank {g : Glyph} (hg : g.isBlank = true) (gs : List Glyph) :
    single (g :: gs) = spaced (single gs) := if_pos hg

theorem single_cons_of_ink {g : Glyph} (hg : g.isBlank = false) (gs : List Glyph) :
    single (g :: gs) = g :: single gs := if_neg (by simp [hg])

/-- More blanks in front make no difference to one that is there. -/
theorem spaced_single_dropBlanks (gs : List Glyph) :
    spaced (single (gs.dropWhile Glyph.isBlank)) = spaced (single gs) := by
  induction gs with
  | nil =>
      rfl
  | cons g rest ih =>
      cases hg : g.isBlank with
      | false =>
          rw [List.dropWhile_cons_of_neg (by simp [hg])]
      | true =>
          rw [List.dropWhile_cons_of_pos hg, ih, single_cons_of_isBlank hg, spaced_spaced]

theorem ne_space_of_isBlank_eq_false {g : Glyph} (hg : g.isBlank = false) : g ≠ space := by
  rintro rfl
  rw [isBlank_space] at hg
  cases hg

theorem spaced_cons_space (gs : List Glyph) : spaced (space :: gs) = space :: gs := by
  rw [spaced, if_pos rfl]

theorem spaced_cons_of_ne {g : Glyph} (hg : g ≠ space) (gs : List Glyph) :
    spaced (g :: gs) = space :: g :: gs := if_neg hg

theorem rdropWhile_cons {α : Type} (p : α → Bool) (a : α) (as : List α) :
    (a :: as).rdropWhile p =
      if p a && (as.rdropWhile p).isEmpty then [] else a :: as.rdropWhile p := by
  rw [List.rdropWhile, List.rdropWhile, List.isEmpty_reverse, List.reverse_cons,
    List.dropWhile_append]
  cases hall : (as.reverse.dropWhile p).isEmpty with
  | false =>
      rw [Bool.and_false, if_neg (by simp), if_neg (by simp), List.reverse_append]
      rfl
  | true =>
      rw [if_pos rfl, Bool.and_true, List.isEmpty_iff.1 hall]
      cases ha : p a with
      | false =>
          rw [List.dropWhile_cons_of_neg (by simp [ha]), if_neg (by simp)]
          rfl
      | true =>
          rw [List.dropWhile_cons_of_pos ha, if_pos rfl]
          rfl

/-- The rule of the first pass. -/
abbrev squeezing : Rule := fun _ gs => (afterBlanks? gs).map fun rest => ([space], rest)

theorem squeezing_cons_of_isBlank {g : Glyph} (hg : g.isBlank = true) (before : Option Glyph)
    (steps : Nat) (gs : List Glyph) :
    rewriteFrom squeezing before (steps + 1) (g :: gs) =
      space :: rewriteFrom squeezing (lastTaken (g :: gs) (gs.dropWhile Glyph.isBlank)) steps
        (gs.dropWhile Glyph.isBlank) := by
  rw [rewriteFrom, squeezing, afterBlanks?, if_pos hg]
  rfl

theorem squeezing_cons_of_ink {g : Glyph} (hg : g.isBlank = false) (before : Option Glyph)
    (steps : Nat) (gs : List Glyph) :
    rewriteFrom squeezing before (steps + 1) (g :: gs) =
      g :: rewriteFrom squeezing (some g) steps gs := by
  rw [rewriteFrom, squeezing, afterBlanks?, if_neg (by simp [hg])]
  rfl

theorem rdropWhile_squeezing (before : Option Glyph) {steps : Nat} (hsteps : gs.length ≤ steps) :
    (rewriteFrom squeezing before steps gs).rdropWhile Glyph.isBlank = single gs := by
  induction steps generalizing before gs with
  | zero =>
      obtain rfl : gs = [] := List.eq_nil_of_length_eq_zero (Nat.le_zero.1 hsteps)
      rfl
  | succ steps ih =>
      cases gs with
      | nil =>
          rfl
      | cons g rest =>
          have hrest : rest.length ≤ steps := by simpa using hsteps
          cases hg : g.isBlank with
          | false =>
              rw [squeezing_cons_of_ink hg, rdropWhile_cons, hg, Bool.false_and,
                if_neg (by simp), ih _ hrest, single_cons_of_ink hg]
          | true =>
              have hdrop := (List.dropWhile_suffix Glyph.isBlank (l := rest)).length_le.trans hrest
              rw [squeezing_cons_of_isBlank hg, rdropWhile_cons, ih _ hdrop,
                single_cons_of_isBlank hg, ← spaced_single_dropBlanks, isBlank_space, Bool.true_and]
              -- The blanks are over, so what follows them starts with something else.
              cases hafter : rest.dropWhile Glyph.isBlank with
              | nil =>
                  rfl
              | cons h tail =>
                  have hh := isBlank_eq_false_of_dropBlanks hafter
                  rw [single_cons_of_ink hh, if_neg (by simp),
                    spaced_cons_of_ne (ne_space_of_isBlank_eq_false hh)]

/-- The first pass, glyph by glyph. -/
theorem squeezed_eq_single (gs : List Glyph) :
    squeezed gs = single (gs.dropWhile Glyph.isBlank) := by
  change ((rewrite squeezing gs).dropWhile Glyph.isBlank).rdropWhile Glyph.isBlank = _
  have hstart : ∀ {before : Option Glyph} {steps : Nat} {gs : List Glyph}, gs.length ≤ steps →
      gs.dropWhile Glyph.isBlank = gs → ((rewriteFrom squeezing before steps
        gs).dropWhile Glyph.isBlank).rdropWhile Glyph.isBlank = single gs := by
    intro before steps gs hsteps hgs
    rw [← rdropWhile_squeezing before hsteps]
    cases gs with
    | nil =>
        cases steps <;> rfl
    | cons g rest =>
        have hg := isBlank_eq_false_of_dropBlanks hgs
        cases steps with
        | zero =>
            cases hsteps
        | succ steps =>
            rw [squeezing_cons_of_ink hg, List.dropWhile_cons_of_neg (by simp [hg])]
  cases gs with
  | nil =>
      rfl
  | cons g rest =>
      cases hg : g.isBlank with
      | false =>
          have hgs : (g :: rest).dropWhile Glyph.isBlank = g :: rest :=
            List.dropWhile_cons_of_neg (by simp [hg])
          rw [hgs]
          exact hstart le_rfl hgs
      | true =>
          rw [rewrite, List.length_cons, squeezing_cons_of_isBlank hg,
            List.dropWhile_cons_of_pos hg, List.dropWhile_cons_of_pos isBlank_space]
          exact hstart (List.dropWhile_suffix _).length_le (List.dropWhile_idempotent _ _)

/-! ## What the first pass leaves as it is -/

/-- Every blank is a space, and something else follows it. -/
def Single : List Glyph → Prop
  | [] => True
  | g :: rest => (g.isBlank = true → g = space ∧ ∃ h ∈ rest.head?, h.isBlank = false) ∧ Single rest

theorem Single.spaced (h : Single gs) : Single (spaced gs) := by
  cases gs with
  | nil =>
      exact h
  | cons g rest =>
      by_cases hg : g = space
      · rwa [Layout.spaced, if_pos hg]
      · rw [spaced_cons_of_ne hg]
        refine ⟨fun _ => ⟨rfl, g, rfl, ?_⟩, h⟩
        cases hblank : g.isBlank with
        | false =>
            rfl
        | true =>
            exact absurd (h.1 hblank).1 hg

theorem single_single (gs : List Glyph) : Single (single gs) := by
  induction gs with
  | nil =>
      trivial
  | cons g rest ih =>
      cases hg : g.isBlank with
      | false =>
          rw [single_cons_of_ink hg]
          exact ⟨fun hblank => by simp [hg] at hblank, ih⟩
      | true =>
          rw [single_cons_of_isBlank hg]
          exact ih.spaced

/-- Letters are no blanks, so their case does not matter. -/
theorem Single.recased (h : Single gs) (halter : Recased gs hs) : Single hs := by
  induction halter with
  | nil =>
      trivial
  | @cons g k gs hs hg hrest ih =>
      refine ⟨fun hk => ?_, ih h.2⟩
      have hgblank := hg.isBlank_eq.trans hk
      rcases h.1 hgblank with ⟨rfl, h', hhead, hh'⟩
      constructor
      · rcases hg with heq | ⟨hletter, _⟩
        · exact heq.symm
        · exact absurd hletter (by decide)
      · cases hrest with
        | nil =>
            cases hhead
        | @cons a b _ _ hnext _ =>
            obtain rfl := Option.some.inj hhead
            exact ⟨b, rfl, hnext.isBlank_eq.symm.trans hh'⟩

theorem Single.single_eq (h : Single gs) : single gs = gs := by
  induction gs with
  | nil =>
      rfl
  | cons g rest ih =>
      cases hg : g.isBlank with
      | false =>
          rw [single_cons_of_ink hg, ih h.2]
      | true =>
          rcases h.1 hg with ⟨rfl, h', hhead, hh'⟩
          rw [single_cons_of_isBlank hg, ih h.2]
          cases rest with
          | nil =>
              cases hhead
          | cons k tail =>
              obtain rfl := Option.some.inj hhead
              exact spaced_cons_of_ne (ne_space_of_isBlank_eq_false hh') tail

/-- Squeezed glyphs with other letters are squeezed already. -/
theorem squeezed_of_recased (h : Recased (squeezed gs) hs) : squeezed hs = hs := by
  rw [squeezed_eq_single] at h
  have hstart : hs.dropWhile Glyph.isBlank = hs := by
    cases hdrop : gs.dropWhile Glyph.isBlank with
    | nil =>
        rw [hdrop] at h
        cases h
        rfl
    | cons g rest =>
        have hg := isBlank_eq_false_of_dropBlanks hdrop
        rw [hdrop, single_cons_of_ink hg] at h
        cases h with
        | cons halter _ =>
            rw [List.dropWhile_cons_of_neg (by simp [← halter.isBlank_eq, hg])]
  rw [squeezed_eq_single, hstart, ((single_single _).recased h).single_eq]

/-! ## Commas before blanks -/

/-- A blank comes first, or nothing at all. -/
def Airy (gs : List Glyph) : Prop := ∀ g ∈ gs.head?, g.isBlank = true

instance : DecidablePred Airy := fun gs => inferInstanceAs (Decidable (∀ g ∈ gs.head?, _))

theorem tolerant_airy : Tolerant Airy where
  cursory := by
    intro gs hs _ hhead hgs
    rcases hhead with rfl | hhead
    · intro g hg
      cases hg
    · rwa [Airy, hhead]
  clause := by
    intro g gs hg _ h hh
    rwa [← Option.some.inj hh]

theorem afterCommas_spaced {P : List Glyph → Prop} (h : AfterCommas P gs) :
    AfterCommas P (spaced gs) := by
  cases gs with
  | nil =>
      exact h
  | cons g rest =>
      rw [spaced]
      split_ifs
      · exact h
      · exact afterCommas_cons.2 ⟨fun hcomma => absurd hcomma (by decide), h⟩

theorem airy_single (h : Airy gs) : Airy (single gs) := by
  cases gs with
  | nil =>
      exact h
  | cons g rest =>
      rw [single_cons_of_isBlank (h g rfl)]
      intro k hk
      rw [head?_spaced _ k hk]
      exact isBlank_space

theorem afterCommas_single (h : AfterCommas Airy gs) : AfterCommas Airy (single gs) := by
  induction gs with
  | nil =>
      exact h
  | cons g rest ih =>
      rw [afterCommas_cons] at h
      cases hg : g.isBlank with
      | false =>
          rw [single_cons_of_ink hg]
          exact afterCommas_cons.2 ⟨fun hcomma => airy_single (h.1 hcomma), ih h.2⟩
      | true =>
          rw [single_cons_of_isBlank hg]
          exact afterCommas_spaced (ih h.2)

theorem afterCommas_squeezed (h : AfterCommas Airy gs) : AfterCommas Airy (squeezed gs) := by
  rw [squeezed_eq_single]
  exact afterCommas_single (h.suffix (List.dropWhile_suffix _))

theorem airy_recased (h : Airy gs) (halter : Recased gs hs) : Airy hs := by
  cases halter with
  | nil =>
      exact h
  | cons hg _ =>
      intro k hk
      obtain rfl := Option.some.inj hk
      exact hg.isBlank_eq.symm.trans (h _ rfl)

theorem afterCommas_recased (h : AfterCommas Airy gs) (halter : Recased gs hs) :
    AfterCommas Airy hs := by
  induction halter with
  | nil =>
      exact h
  | cons hg hrest ih =>
      rw [afterCommas_cons] at h ⊢
      refine ⟨fun hk => airy_recased (h.1 ?_) hrest, ih h.2⟩
      have hcomma := hg.beq_eq (k := .char ',') (by decide)
      simpa [hk] using hcomma

/-- The tidy reading with a space after each comma, if anything follows it. -/
def aired : List Glyph → List Glyph
  | [] => []
  | g :: rest => g :: if g = .char ',' then spaced (aired rest) else aired rest

theorem aired_cons_of_ne {g : Glyph} (hg : g ≠ .char ',') (gs : List Glyph) :
    aired (g :: gs) = g :: aired gs := by
  rw [aired, if_neg hg]

theorem aired_spaced (gs : List Glyph) : aired (spaced gs) = spaced (aired gs) := by
  have hspace : ∀ gs, aired (space :: gs) = space :: aired gs := aired_cons_of_ne (by decide)
  cases gs with
  | nil =>
      rfl
  | cons g rest =>
      by_cases hg : g = space
      · rw [hg, spaced_cons_space, hspace, spaced_cons_space]
      · rw [spaced_cons_of_ne hg, hspace, aired, spaced_cons_of_ne hg]

/-- The tidy reading is single as well. -/
theorem single_tidy (gs : List Glyph) : Single (tidy gs) := by
  induction gs with
  | nil =>
      trivial
  | cons g rest ih =>
      rw [tidy_cons]
      cases hg : g.isBlank with
      | true =>
          rw [tidyStep_of_isBlank hg]
          exact ih.spaced
      | false =>
          by_cases hcomma : g = .char ','
          · rw [hcomma, tidyStep_comma]
            refine ⟨fun hblank => absurd hblank (by decide), ?_⟩
            cases hread : tidy rest with
            | nil =>
                trivial
            | cons h tail =>
                rw [hread] at ih
                rw [unspaced]
                split_ifs
                · exact ih.2
                · exact ih
          · rw [tidyStep_of_other hg hcomma]
            exact ⟨fun hblank => by simp [hg] at hblank, ih⟩

theorem spaced_aired_unspaced (h : Single gs) :
    spaced (aired (unspaced gs)) = spaced (aired gs) := by
  cases gs with
  | nil =>
      rfl
  | cons g rest =>
      by_cases hg : g = space
      · subst hg
        rcases h.1 isBlank_space with ⟨-, h', hhead, hh'⟩
        rw [unspaced, if_pos rfl, aired_cons_of_ne (by decide), spaced_cons_space]
        cases rest with
        | nil =>
            cases hhead
        | cons k tail =>
            obtain rfl := Option.some.inj hhead
            rw [aired, spaced_cons_of_ne (ne_space_of_isBlank_eq_false hh')]
      · rw [unspaced, if_neg hg]

/-- If a blank follows every comma, the tidy reading tells all that the first pass leaves. -/
theorem single_eq_aired (h : AfterCommas Airy gs) : single gs = aired (tidy gs) := by
  induction gs with
  | nil =>
      rfl
  | cons g rest ih =>
      rw [afterCommas_cons] at h
      have hrest := ih h.2
      rw [tidy_cons]
      cases hg : g.isBlank with
      | true =>
          rw [single_cons_of_isBlank hg, tidyStep_of_isBlank hg, aired_spaced, hrest]
      | false =>
          by_cases hcomma : g = .char ','
          · subst hcomma
            rw [single_cons_of_ink hg, tidyStep_comma, aired, if_pos rfl]
            -- The blank after the comma is one of those that the tidy reading leaves out.
            cases rest with
            | nil =>
                rfl
            | cons b tail =>
                have hb : b.isBlank = true := h.1 rfl b rfl
                rw [hrest, tidy_cons, tidyStep_of_isBlank hb, unspaced_spaced,
                  spaced_aired_unspaced (single_tidy tail), aired_spaced]
          · rw [single_cons_of_ink hg, tidyStep_of_other hg hcomma, aired_cons_of_ne hcomma, hrest]

/-! ## All passes -/

/-- With blanks after the commas, the first pass sees no more than the tidy reading. -/
theorem squeezed_congr (h : tidy (space :: gs) = tidy (space :: hs)) (hgs : AfterCommas Airy gs)
    (hhs : AfterCommas Airy hs) : squeezed gs = squeezed hs := by
  have hread : ∀ gs, AfterCommas Airy gs →
      squeezed gs = aired ((tidy (space :: gs)).dropWhile Glyph.isBlank) := by
    intro gs hgs
    rw [squeezed_eq_single, single_eq_aired (hgs.suffix (List.dropWhile_suffix _)),
      ← tidy_dropBlanks, List.dropWhile_cons_of_pos isBlank_space]
  rw [hread gs hgs, hread hs hhs, h]

theorem layOut_congr (h : upperKeywords (squeezed gs) = upperKeywords (squeezed hs)) :
    layOut gs = layOut hs := by
  simp only [layOut, h]

/-- What is laid out stays as it is. -/
theorem layOut_layOut (hmark : .char rangeAnd ∉ gs) (h : AfterCommas Airy gs) :
    layOut (layOut gs) = layOut gs := by
  set capital := upperKeywords (squeezed gs) with hcapital
  have hrecased : Recased (squeezed gs) capital := recased_upperKeywords _
  have hmark' : .char rangeAnd ∉ capital :=
    not_mem_upperKeywords_squeezed (by decide) (by decide) hmark
  have hairy : AfterCommas Airy capital := afterCommas_recased (afterCommas_squeezed h) hrecased
  have hlaid : AfterCommas Airy (layOut gs) :=
    afterCommas_layOut tolerant_airy tolerant_airy
      (fun {gs} _ => by
        intro g hg
        rw [← Option.some.inj hg]
        decide) (fun _ hgs => hgs) hmark' hairy
  have hsqueezed : squeezed (layOut gs) = capital :=
    (squeezed_congr (tidy_layOut hmark') hlaid hairy).trans (squeezed_of_recased hrecased)
  refine layOut_congr ?_
  rw [hsqueezed, hcapital, upperKeywords_upperKeywords]

/-! ## Statements -/

theorem exists_ink_layOut (hmark : .char rangeAnd ∉ gs) {g : Glyph} (hmem : g ∈ gs)
    (hg : g.isBlank = false) : ∃ h ∈ layOut gs, h.isBlank = false := by
  have hrecased := (recased_upperKeywords (squeezed gs)).ink
  rw [← ink_layOut hmark, ink_squeezed] at hrecased
  have hpos : 0 < (ink (layOut gs)).length := by
    rw [← hrecased.length_eq]
    exact List.length_pos_of_mem (List.mem_filter.2 ⟨hmem, by simp [hg]⟩)
  rcases List.exists_mem_of_length_pos hpos with ⟨h, hh⟩
  rcases List.mem_filter.1 hh with ⟨hlaid, hink⟩
  exact ⟨h, hlaid, by simpa using hink⟩

/-- What is neither blank nor a letter is in the text that is shown only if it was there. -/
theorem mem_of_mem_fill_layOut {literals : List (List Char)} (hmark : .char rangeAnd ∉ gs) {c : Char}
    (hblank : Text.isBlank c = false) (hplain : isPlainChar c = false)
    (h : c ∈ fill literals (layOut gs)) : c ∈ fill literals gs := by
  rcases List.mem_flatMap.1 h with ⟨g, hg, hc⟩
  refine List.mem_flatMap.2 ⟨g, ?_, hc⟩
  cases g with
  | char d =>
      obtain rfl : c = d := by simpa [Glyph.read] using hc
      have hglyph : (Glyph.char c).isBlank = false := hblank
      by_contra hmem
      rw [← mem_ink_iff hglyph, ink_layOut hmark, mem_ink_iff hglyph] at hg
      exact not_mem_upperKeywords_squeezed hglyph hplain hmem hg
  | literal index =>
      have hindex : index ∈ indexes gs := by
        rw [← indexes_layOut hmark]
        exact List.mem_filterMap.2 ⟨_, hg, rfl⟩
      rcases List.mem_filterMap.1 hindex with ⟨g, hgs, heq⟩
      cases g with
      | char d =>
          cases heq
      | literal other =>
          obtain rfl := Option.some.inj heq
          exact hgs

/-- The text that is shown can be laid out again. -/
theorem Presentable.shown {sql shown : String} (h : Presentable sql)
    (hprotect : protect shown.toList = (layOut (protect sql.toList).1, (protect sql.toList).2)) :
    Presentable shown := by
  rcases protect_spec sql.toList with ⟨hfill, hsettled, -⟩
  rcases protect_spec shown.toList with ⟨hshown, hsettled', -⟩
  rw [hprotect] at hshown hsettled'
  simp only at hshown hsettled'
  have hmem : ∀ {c}, Text.isBlank c = false → isPlainChar c = false → c ∈ shown.toList →
      c ∈ sql.toList := by
    intro c hblank hplain hc
    rw [← hshown] at hc
    rw [← hfill]
    exact mem_of_mem_fill_layOut h.not_mem_protect hblank hplain hc
  refine ⟨fun hnull => h.null (hmem (by decide) (by decide) hnull),
    fun hmark => h.mark (hmem (by decide) (by decide) hmark), ?_⟩
  rcases h.ink with ⟨c, hc, hblank⟩
  rw [← hfill] at hc
  rcases List.mem_flatMap.1 hc with ⟨g, hg, hread⟩
  have hgblank : g.isBlank = false := by
    cases g with
    | char d =>
        obtain rfl : c = d := by simpa [Glyph.read] using hread
        exact hblank
    | literal index =>
        rfl
  rcases exists_ink_layOut h.not_mem_protect hg hgblank with ⟨g', hg', hgblank'⟩
  rw [← hshown]
  exact hsettled'.exists_ink hg' hgblank'

/-- Of blanks nothing is left. -/
theorem format?_of_blank {sql : String} (h : ¬ ∃ c ∈ sql.toList, Text.isBlank c = false) :
    format? sql = some "" := by
  have hblank : Text.trim sql = "" := by
    by_contra hne
    rcases List.exists_cons_of_ne_nil (mt String.toList_eq_nil_iff.1 hne) with ⟨c, cs, htrim⟩
    have hc : Text.isBlank c = false := (Text.flush_trim sql).head c (by simp [htrim])
    exact h ⟨c, (Text.mem_trim_iff hc).1 (by simp [htrim]), hc⟩
  rw [format?, if_pos hblank]

/-- Laying out a text twice is laying it out once, if a blank or the end follows every comma that is
in no literal. -/
theorem format?_format? {sql : String} (hnull : '\x00' ∉ sql.toList) (hmark : rangeAnd ∉ sql.toList)
    (hcommas : AfterCommas Airy (protect sql.toList).1) :
    ∃ shown, format? sql = some shown ∧ format? shown = some shown := by
  by_cases hink : ∃ c ∈ sql.toList, Text.isBlank c = false
  · have h : Presentable sql := ⟨hnull, hmark, hink⟩
    rcases h.exists_shown with ⟨shown, hformat, hprotect⟩
    rcases (h.shown hprotect).exists_shown with ⟨again, hformat', hprotect'⟩
    have hsame : protect again.toList = protect shown.toList := by
      rw [hprotect', hprotect, layOut_layOut h.not_mem_protect hcommas]
    have heq : again = shown := by
      rw [← String.toList_inj, ← (protect_spec again.toList).1, hsame,
        (protect_spec shown.toList).1]
    rw [heq] at hformat'
    exact ⟨shown, hformat, hformat'⟩
  · exact ⟨"", format?_of_blank hink, rfl⟩

theorem format?_format?_of_blanks_after_commas :
    ('\x00' ∉ "select a, b from t where a in (1, 2) and b = 'x,y'".toList ∧
      rangeAnd ∉ "select a, b from t where a in (1, 2) and b = 'x,y'".toList ∧
      AfterCommas Airy (protect "select a, b from t where a in (1, 2) and b = 'x,y'".toList).1) ∧
    ∃ shown, format? "select a, b from t where a in (1, 2) and b = 'x,y'" = some shown ∧
      format? shown = some shown :=
  have hnull : '\x00' ∉ "select a, b from t where a in (1, 2) and b = 'x,y'".toList := by decide
  have hmark : rangeAnd ∉ "select a, b from t where a in (1, 2) and b = 'x,y'".toList := by decide
  have hcommas : AfterCommas Airy
      (protect "select a, b from t where a in (1, 2) and b = 'x,y'".toList).1 := by
    decide +kernel
  ⟨⟨hnull, hmark, hcommas⟩, format?_format? hnull hmark hcommas⟩

end Layout
end QueryDesigner

import Mathlib
import QueryDesigner.Proofs.Layout.Keyword
import QueryDesigner.Proofs.Layout.Protect
import QueryDesigner.Proofs.Text.Trim

/-!
# A layout is cosmetic

Laying out a statement changes blanks and the case of keywords.  The literals of the result are
those of the statement, and its other glyphs are too.

* `Near`, `Alike` — glyphs with the same quotes, and those before which also the same literals end;
* `alike_tidy`, `alike_upperKeywords` — what the passes give is alike to what they get;
* `settled_layOut`, `indexes_layOut`, `ink_layOut` — what all passes keep;
* `Presentable.exists_shown` — the glyphs and the literals of the result;
* `format?_cosmetic` — literals and glyphs stay, but for the capitals of keywords.
-/

namespace QueryDesigner
namespace Layout

variable {literals : List (List Char)}

/-! ## Glyphs that start no literal -/

namespace Glyph

def isOpen : Glyph → Bool
  | char c => !isQuote c
  | literal _ => false

end Glyph

section Open

variable {g : Glyph}

/-- Neither a literal nor one of the three quotes. -/
theorem isOpen_of {p : Glyph → Bool} (hliteral : ∀ index, p (.literal index) = false)
    (hquotes : [ '\'', '"', '`' ].all (fun c => !p (.char c)) = true) (h : p g = true) :
    g.isOpen = true := by
  cases g with
  | literal index =>
      rw [hliteral] at h
      cases h
  | char c =>
      cases hquote : isQuote c with
      | false =>
          rw [Glyph.isOpen, hquote, Bool.not_false]
      | true =>
          have hc := List.all_eq_true.1 hquotes c (by simpa using isQuote_cases hquote)
          rw [h] at hc
          cases hc

theorem isOpen_of_isBlank (h : g.isBlank = true) : g.isOpen = true :=
  isOpen_of (fun _ => rfl) (by decide) h

theorem isOpen_of_isPlain (h : g.isPlain = true) : g.isOpen = true :=
  isOpen_of (fun _ => rfl) (by decide) h

theorem stands_of_isOpen (h : g.isOpen = true) (cs : List Char) : Stands literals g cs := by
  cases g with
  | literal index =>
      cases h
  | char c =>
      exact literal?_cons_of_not_quote (by simpa [Glyph.isOpen] using h) cs

theorem not_mem_read_of_isOpen (h : g.isOpen = true) {quote : Char} (hquote : isQuote quote = true) :
    quote ∉ g.read literals := by
  cases g with
  | literal index =>
      cases h
  | char c =>
      rintro hmem
      obtain rfl : quote = c := by simpa [Glyph.read] using hmem
      simp [Glyph.isOpen, hquote] at h

/-- No quote is in front. -/
theorem apart_of_isOpen {gs : List Glyph} (h : ∀ g ∈ gs.head?, g.isOpen = true) {quote : Char}
    (hquote : isQuote quote = true) : Apart quote (fill literals gs) := by
  cases gs with
  | nil =>
      exact apart_nil
  | cons g rest =>
      have hg : g.isOpen = true := h g rfl
      cases g with
      | literal index =>
          cases hg
      | char c =>
          refine apart_cons_of_ne ?_
          rintro rfl
          simp [Glyph.isOpen, hquote] at hg

end Open

/-! ## Glyphs with the same quotes -/

/-- Glyphs that hold the same quotes, and that are settled together. -/
structure Near (literals : List (List Char)) (gs hs : List Glyph) : Prop where
  mem : ∀ quote, isQuote quote = true →
    (quote ∈ fill literals gs ↔ quote ∈ fill literals hs)
  settled : Settled literals gs ↔ Settled literals hs

/-- Glyphs before which, in addition, the same literals end. -/
structure Alike (literals : List (List Char)) (gs hs : List Glyph) : Prop
    extends Near literals gs hs where
  apart : ∀ quote, isQuote quote = true →
    (Apart quote (fill literals gs) ↔ Apart quote (fill literals hs))

namespace Near

variable {gs hs ks : List Glyph}

theorem refl (gs : List Glyph) : Near literals gs gs where
  mem _ _ := Iff.rfl
  settled := Iff.rfl

theorem symm (h : Near literals gs hs) : Near literals hs gs where
  mem quote hquote := (h.mem quote hquote).symm
  settled := h.settled.symm

theorem trans (h : Near literals gs hs) (h' : Near literals hs ks) : Near literals gs ks where
  mem quote hquote := (h.mem quote hquote).trans (h'.mem quote hquote)
  settled := h.settled.trans h'.settled

theorem cons_of_isOpen {g : Glyph} (hg : g.isOpen = true) (gs : List Glyph) :
    Near literals (g :: gs) gs where
  mem := by
    intro quote hquote
    rw [fill_cons, List.mem_append]
    exact or_iff_right (not_mem_read_of_isOpen hg hquote)
  settled := settled_cons_iff.trans (and_iff_right (stands_of_isOpen hg _))

theorem append_of_isOpen {ps : List Glyph} (hps : ∀ p ∈ ps, p.isOpen = true) (gs : List Glyph) :
    Near literals (ps ++ gs) gs := by
  induction ps with
  | nil =>
      exact refl gs
  | cons p rest ih =>
      exact (cons_of_isOpen (hps p (by simp)) _).trans
        (ih fun q hq => hps q (List.mem_cons_of_mem p hq))

theorem spaced (gs : List Glyph) : Near literals (spaced gs) gs := by
  cases gs with
  | nil =>
      exact refl []
  | cons h rest =>
      rw [Layout.spaced]
      split_ifs
      · exact refl _
      · exact cons_of_isOpen (isOpen_of_isBlank isBlank_space) _

theorem unspaced (gs : List Glyph) : Near literals (unspaced gs) gs := by
  cases gs with
  | nil =>
      exact refl []
  | cons h rest =>
      rw [Layout.unspaced]
      split_ifs with hh
      · rw [hh]
        exact (cons_of_isOpen (isOpen_of_isBlank isBlank_space) _).symm
      · exact refl _

/-- Nothing that follows is seen through a glyph that is no quote. -/
theorem alike (h : Near literals gs hs) (hgs : ∀ g ∈ gs.head?, g.isOpen = true)
    (hhs : ∀ g ∈ hs.head?, g.isOpen = true) : Alike literals gs hs where
  toNear := h
  apart _ hquote := iff_of_true (apart_of_isOpen hgs hquote) (apart_of_isOpen hhs hquote)

end Near

namespace Alike

variable {gs hs : List Glyph}

theorem refl (gs : List Glyph) : Alike literals gs gs where
  toNear := .refl gs
  apart _ _ := Iff.rfl

theorem sameQuotes (h : Alike literals gs hs) :
    SameQuotes (fill literals gs) (fill literals hs) := ⟨h.mem, h.apart⟩

theorem cons (g : Glyph) (h : Alike literals gs hs) : Alike literals (g :: gs) (g :: hs) where
  mem := (h.sameQuotes.append (g.read literals)).mem
  apart := (h.sameQuotes.append (g.read literals)).apart
  settled := by
    rw [settled_cons_iff, settled_cons_iff, Stands.congr h.sameQuotes, h.settled]

theorem append (ps : List Glyph) (h : Alike literals gs hs) :
    Alike literals (ps ++ gs) (ps ++ hs) := by
  induction ps with
  | nil =>
      exact h
  | cons p rest ih =>
      exact ih.cons p

end Alike

/-! ## The passes -/

theorem head?_spaced (gs : List Glyph) : ∀ g ∈ (spaced gs).head?, g = space := by
  cases gs with
  | nil =>
      intro g hg
      cases hg
  | cons h rest =>
      rw [spaced]
      split_ifs with hh
      · simp [hh]
      · simp

theorem alike_tidy (gs : List Glyph) : Alike literals (tidy gs) gs := by
  induction gs with
  | nil =>
      exact .refl []
  | cons g rest ih =>
      have hopen : ∀ {h : Glyph} (hs : List Glyph), h.isOpen = true →
          ∀ k ∈ (h :: hs).head?, k.isOpen = true := by
        intro h hs hh k hk
        simpa [Option.mem_some_iff.1 hk] using hh
      rw [tidy_cons]
      -- Blanks that come or go stand behind a blank or a comma, through which no quote is seen.
      by_cases hblank : g.isBlank = true
      · have hg := isOpen_of_isBlank hblank
        rw [tidyStep_of_isBlank hblank]
        refine Near.alike ?_ ?_ (hopen rest hg)
        · exact (Near.spaced _).trans (ih.toNear.trans (Near.cons_of_isOpen hg rest).symm)
        · intro h hh
          rw [head?_spaced _ h hh]
          exact isOpen_of_isBlank isBlank_space
      · by_cases hcomma : g = .char ','
        · have hg : (Glyph.char ',').isOpen = true := by decide
          subst hcomma
          rw [tidyStep_comma]
          refine Near.alike ?_ (hopen _ hg) (hopen rest hg)
          exact (Near.cons_of_isOpen hg _).trans ((Near.unspaced _).trans
            (ih.toNear.trans (Near.cons_of_isOpen hg rest).symm))
        · rw [tidyStep_of_other (by simpa using hblank) hcomma]
          exact ih.cons g

theorem AllPlain.isOpen {ps : List Glyph} (h : AllPlain ps) :
    ∀ p ∈ ps, p.isOpen = true := fun p hp => isOpen_of_isPlain (h.plain p hp)

theorem AllPlain.isOpen_head {ps : List Glyph} (h : AllPlain ps) (gs : List Glyph) :
    ∀ p ∈ (ps ++ gs).head?, p.isOpen = true := by
  intro p hp
  cases ps with
  | nil =>
      exact absurd rfl h.nonempty
  | cons q rest =>
      exact h.isOpen p (by simpa using Or.inl (Option.mem_some_iff.1 hp).symm)

theorem alike_shown {rs shown : List (List Glyph)} (h : List.Forall₂ ShownAs rs shown) :
    Alike literals shown.flatten rs.flatten := by
  induction h with
  | nil =>
      exact .refl []
  | @cons run shownRun rs shown hrun _ ih =>
      rw [List.flatten_cons, List.flatten_cons]
      rcases hrun.cases with rfl | ⟨hplain, hplain'⟩
      · exact ih.append _
      · -- The spelling changes, but either spelling starts with a letter.
        refine Near.alike ?_ (hplain'.isOpen_head _) (hplain.isOpen_head _)
        exact (Near.append_of_isOpen hplain'.isOpen _).trans
          (ih.toNear.trans (Near.append_of_isOpen hplain.isOpen _).symm)

theorem alike_upperKeywords (gs : List Glyph) : Alike literals (upperKeywords gs) gs := by
  rcases exists_shown_upperKeywords gs with ⟨shown, hshown, heq⟩
  have halike : Alike literals shown.flatten (runs gs).flatten := alike_shown hshown
  rwa [← heq, flatten_runs] at halike

/-! ## All passes -/

section Passes

variable {gs : List Glyph}

theorem words_squeezed (gs : List Glyph) : words (squeezed gs) = words gs := by
  rw [← words_cons_of_isBlank isBlank_space, ← words_tidy, tidy_squeezed, words_tidy,
    words_cons_of_isBlank isBlank_space]

theorem ink_squeezed (gs : List Glyph) : ink (squeezed gs) = ink gs := by
  rw [← flatten_words, words_squeezed, flatten_words]

theorem settled_cons_space (gs : List Glyph) :
    Settled literals (space :: gs) ↔ Settled literals gs :=
  (Near.cons_of_isOpen (isOpen_of_isBlank isBlank_space) gs).settled

theorem settled_squeezed (gs : List Glyph) :
    Settled literals (squeezed gs) ↔ Settled literals gs := by
  rw [← settled_cons_space, ← (alike_tidy _).settled, tidy_squeezed, (alike_tidy _).settled,
    settled_cons_space]

theorem indexes_ink (gs : List Glyph) : indexes (ink gs) = indexes gs := by
  induction gs with
  | nil =>
      rfl
  | cons g rest ih =>
      cases g with
      | char c =>
          by_cases hc : (Glyph.char c).isBlank = true
          · rw [ink, List.filter_cons_of_neg (by simp [hc]), ← ink, ih]
            rfl
          · rw [ink, List.filter_cons_of_pos (by simp [hc]), ← ink]
            exact ih
      | literal index =>
          rw [ink, List.filter_cons_of_pos rfl, ← ink]
          exact congrArg (index :: ·) ih

theorem AllPlain.indexes_eq (h : AllPlain gs) : indexes gs = [] := by
  refine List.filterMap_eq_nil_iff.2 fun g hg => ?_
  cases g with
  | char c =>
      rfl
  | literal index =>
      cases h.plain _ hg

theorem indexes_shown {rs shown : List (List Glyph)} (h : List.Forall₂ ShownAs rs shown) :
    indexes shown.flatten = indexes rs.flatten := by
  induction h with
  | nil =>
      rfl
  | cons hrun _ ih =>
      rw [List.flatten_cons, List.flatten_cons, indexes_append, indexes_append, ih]
      rcases hrun.cases with rfl | ⟨hplain, hplain'⟩
      · rfl
      · rw [hplain.indexes_eq, hplain'.indexes_eq]

theorem indexes_upperKeywords (gs : List Glyph) : indexes (upperKeywords gs) = indexes gs := by
  rcases exists_shown_upperKeywords gs with ⟨shown, hshown, heq⟩
  rw [heq, indexes_shown hshown, flatten_runs]

theorem mem_ink_iff {g : Glyph} (hg : g.isBlank = false) : g ∈ ink gs ↔ g ∈ gs := by
  simp [ink, hg]

/-- A mark that is not in a text is not there when its keywords are in capitals. -/
theorem not_mem_upperKeywords_squeezed {g : Glyph} (hblank : g.isBlank = false)
    (hplain : g.isPlain = false) (hgs : g ∉ gs) : g ∉ upperKeywords (squeezed gs) := by
  intro hmem
  rcases mem_upperKeywords hmem with hmem | hmem
  · rw [← mem_ink_iff hblank, ink_squeezed, mem_ink_iff hblank] at hmem
    exact hgs hmem
  · rw [hplain] at hmem
    cases hmem

theorem tidy_layOut_of_not_mem (hmark : .char rangeAnd ∉ gs) :
    tidy (space :: layOut gs) = tidy (space :: upperKeywords (squeezed gs)) :=
  tidy_layOut (not_mem_upperKeywords_squeezed (by decide) (by decide) hmark)

theorem settled_layOut (hmark : .char rangeAnd ∉ gs) :
    Settled literals (layOut gs) ↔ Settled literals gs := by
  rw [← settled_cons_space, ← (alike_tidy _).settled, tidy_layOut_of_not_mem hmark,
    (alike_tidy _).settled, settled_cons_space, (alike_upperKeywords _).settled, settled_squeezed]

theorem ink_layOut (hmark : .char rangeAnd ∉ gs) :
    ink (layOut gs) = ink (upperKeywords (squeezed gs)) := by
  have hspace : ∀ gs, ink (space :: gs) = ink gs := fun _ => rfl
  rw [← hspace, ← ink_tidy, tidy_layOut_of_not_mem hmark, ink_tidy, hspace]

theorem indexes_layOut (hmark : .char rangeAnd ∉ gs) : indexes (layOut gs) = indexes gs := by
  rw [← indexes_ink, ink_layOut hmark, indexes_ink, indexes_upperKeywords, ← indexes_ink,
    ink_squeezed, indexes_ink]

end Passes

/-- Laid out glyphs are filled in with the same literals, and are found again in the result. -/
theorem laidOut_fill {gs : List Glyph} (hnull : .char '\x00' ∉ layOut gs)
    (hmark : .char rangeAnd ∉ gs) (hsettled : Settled literals gs)
    (hindexes : indexes gs = List.range literals.length) :
    restore? literals (spell (layOut gs)) = some (fill literals (layOut gs)) ∧
      protect (fill literals (layOut gs)) = (layOut gs, literals) := by
  have hindexes' := (indexes_layOut hmark).trans hindexes
  refine ⟨restore?_spell hnull ?_, protect_fill ((settled_layOut hmark).2 hsettled) hindexes'⟩
  intro index hindex
  rw [hindexes'] at hindex
  exact List.mem_range.1 hindex

/-! ## Statements -/

/-- Glyphs that are not blank stand for text that is not. -/
theorem Settled.exists_ink {gs : List Glyph} (h : Settled literals gs) {g : Glyph} (hmem : g ∈ gs)
    (hg : g.isBlank = false) : ∃ c ∈ fill literals gs, Text.isBlank c = false := by
  induction h with
  | nil =>
      cases hmem
  | @cons head rest hstands hsettled ih =>
      rw [fill_cons]
      rcases List.mem_cons.1 hmem with rfl | hmem
      · cases g with
        | char c =>
            exact ⟨c, by simp [Glyph.read], hg⟩
        | literal index =>
            rcases hstands with ⟨text, hget, hliteral⟩
            rcases literal?_eq_some hliteral with ⟨-, quote, body, hquote, htext, -⟩
            refine ⟨quote, by simp [Glyph.read, hget, htext], ?_⟩
            rcases isQuote_cases hquote with rfl | rfl | rfl
            all_goals decide
      · rcases ih hmem with ⟨c, hc, hblank⟩
        exact ⟨c, List.mem_append_right _ hc, hblank⟩

theorem mem_of_mem_protect {cs : List Char} {c : Char} (h : .char c ∈ (protect cs).1) : c ∈ cs := by
  rw [← (protect_spec cs).1]
  exact List.mem_flatMap.2 ⟨.char c, h, List.mem_singleton_self c⟩

/-- A text that can be laid out: it holds more than blanks, and neither of the characters that
stand for something else meanwhile. -/
structure Presentable (sql : String) : Prop where
  null : '\x00' ∉ sql.toList
  mark : rangeAnd ∉ sql.toList
  ink : ∃ c ∈ sql.toList, Text.isBlank c = false

namespace Presentable

variable {sql : String}

theorem not_mem_protect (h : Presentable sql) : .char rangeAnd ∉ (protect sql.toList).1 :=
  fun hmem => h.mark (mem_of_mem_protect hmem)

theorem not_mem_layOut (h : Presentable sql) :
    .char '\x00' ∉ layOut (protect sql.toList).1 := by
  intro hmem
  rw [← mem_ink_iff (by decide), ink_layOut h.not_mem_protect, mem_ink_iff (by decide)] at hmem
  exact not_mem_upperKeywords_squeezed (by decide) (by decide)
    (fun hmem => h.null (mem_of_mem_protect hmem)) hmem

theorem trim_ne (h : Presentable sql) : Text.trim sql ≠ "" := by
  rcases h.ink with ⟨c, hc, hblank⟩
  intro hempty
  have hmem := (Text.mem_trim_iff hblank).2 hc
  rw [hempty] at hmem
  cases hmem

/-- The glyphs and the literals of the text that is shown. -/
theorem exists_shown (h : Presentable sql) :
    ∃ shown, format? sql = some shown ∧
      protect shown.toList = (layOut (protect sql.toList).1, (protect sql.toList).2) := by
  have hformat : format? sql = (restore? (protect sql.toList).2
      (spell (layOut (protect sql.toList).1))).map String.ofList := by
    rw [format?, if_neg h.trim_ne]
  rcases protect_spec sql.toList with ⟨-, hsettled, hindexes⟩
  rcases laidOut_fill h.not_mem_layOut h.not_mem_protect hsettled hindexes with ⟨hrestore, hprotect⟩
  refine ⟨String.ofList (fill (protect sql.toList).2 (layOut (protect sql.toList).1)), ?_, ?_⟩
  · rw [hformat, hrestore, Option.map_some]
  · rw [String.toList_ofList, hprotect]

end Presentable

/-- Laying out a text changes blanks and the case of keywords only: the result has the literals of
the text, and its other glyphs that are not blank are those of the text, word by word, but for the
keywords that are written in capitals. -/
theorem format?_cosmetic {sql : String} (h : Presentable sql) :
    ∃ shown, format? sql = some shown ∧
      (protect shown.toList).2 = (protect sql.toList).2 ∧
      ∃ shownWords, List.Forall₂ ShownAs (words (protect sql.toList).1) shownWords ∧
        ink (protect shown.toList).1 = shownWords.flatten := by
  rcases h.exists_shown with ⟨shown, hformat, hprotect⟩
  rcases exists_shown_ink (squeezed (protect sql.toList).1) with ⟨shownWords, hwords, hink⟩
  rw [words_squeezed] at hwords
  refine ⟨shown, hformat, by rw [hprotect], shownWords, hwords, ?_⟩
  rw [hprotect, ink_layOut h.not_mem_protect, hink]

theorem format?_cosmetic_of_blanks_in_literal :
    Presentable "select 'a  b'  from t" ∧
      ∃ shown, format? "select 'a  b'  from t" = some shown ∧
        (protect shown.toList).2 = (protect "select 'a  b'  from t".toList).2 ∧
        ∃ shownWords,
          List.Forall₂ ShownAs (words (protect "select 'a  b'  from t".toList).1) shownWords ∧
          ink (protect shown.toList).1 = shownWords.flatten :=
  have hpresentable : Presentable "select 'a  b'  from t" :=
    ⟨by decide, by decide, 's', by decide, by decide⟩
  ⟨hpresentable, format?_cosmetic hpresentable⟩

end Layout
end QueryDesigner

import Mathlib
import QueryDesigner.Proofs.Layout.Keyword

/-!
# Glyphs that start with a clause

Some words have rules of their own: a clause, a join, AND, OR and ON move to a line or away from one
wherever they stand.

* `matchPhrase?_suffix`, `wholePhrase?_suffix` — a phrase is taken from the start;
* `Phrase.IsInk`, `matchPhrase?_tidy`, `wholePhrase?_tidy` — a phrase is found in the tidy reading
  just where it was;
* `startsClause`, `startsClause_tidy`, `startsClause_of_phrase` — whether one of those words comes
  next.
-/

namespace QueryDesigner
namespace Layout

variable {gs rest : List Glyph}

/-! ## What a phrase leaves -/

theorem afterBlanks?_suffix (h : afterBlanks? gs = some rest) : rest <:+ gs := by
  rcases afterBlanks?_eq_some h with ⟨bs, _, _, rfl⟩
  exact List.suffix_append bs rest

theorem matchPhrase?_suffix {p : Phrase} (h : matchPhrase? p gs = some rest) : rest <:+ gs := by
  induction p generalizing gs with
  | nil =>
      obtain rfl := Option.some.inj h
      exact List.suffix_rfl
  | cons word words ih =>
      cases words with
      | nil =>
          rw [matchPhrase?_word h]
          exact List.suffix_append _ _
      | cons next words =>
          simp only [matchPhrase?, Option.bind_eq_bind, Option.bind_eq_some_iff] at h
          rcases h with ⟨mid, hword, tail, hblanks, hwords⟩
          rw [afterWord?_eq_some hword]
          exact (ih hwords).trans
            ((afterBlanks?_suffix hblanks).trans (List.suffix_append _ _))

/-- A whole phrase is a phrase before something that is no word. -/
theorem wholePhrase?_eq_some_iff {p : Phrase} :
    wholePhrase? p gs = some rest ↔ matchPhrase? p gs = some rest ∧ startsWord rest = false := by
  simp only [wholePhrase?, Option.bind_eq_bind, Option.bind_eq_some_iff]
  constructor
  · rintro ⟨after, hmatch, hend⟩
    split_ifs at hend with hword
    obtain rfl := Option.some.inj hend
    exact ⟨hmatch, by simpa [startsWord] using hword⟩
  · rintro ⟨hmatch, hword⟩
    refine ⟨rest, hmatch, if_neg ?_⟩
    rw [startsWord] at hword
    simp [hword]

theorem wholePhrase?_suffix {p : Phrase} (h : wholePhrase? p gs = some rest) : rest <:+ gs :=
  matchPhrase?_suffix (wholePhrase?_eq_some_iff.1 h).1

/-! ## Phrases in the tidy reading -/

/-- No word of the phrase is empty or holds a blank or a comma. -/
def Phrase.IsInk (p : Phrase) : Prop :=
  ∀ word ∈ p, word.toList ≠ [] ∧ ∀ c ∈ word.toList, Text.isBlank c = false ∧ c ≠ ','

theorem tidy_char {c : Char} (hc : Text.isBlank c = false ∧ c ≠ ',') (gs : List Glyph) :
    tidy (.char c :: gs) = .char c :: tidy gs := by
  have hblank : (Glyph.char c).isBlank = false := hc.1
  have hne : Glyph.char c ≠ .char ',' := fun h => hc.2 (Glyph.char.inj h)
  rw [tidy_cons, tidyStep_of_other hblank hne]

/-- Glyphs with another start do not start that way in the tidy reading. -/
theorem head?_tidy_ne {c : Char} (hc : Text.isBlank c = false) {g : Glyph} (hg : g ≠ .char c) :
    (tidy (g :: gs)).head? ≠ some (.char c) := by
  have hspace : space ≠ .char c := by
    rintro heq
    rw [← Glyph.char.inj heq] at hc
    exact absurd hc (by decide)
  rw [tidy_cons, tidyStep]
  split_ifs with hblank hcomma
  · cases tidy gs with
    | nil =>
        simp [spaced]
    | cons h tail =>
        rw [spaced]
        split_ifs with hh
        · simpa [hh] using hspace
        · simpa using hspace
  · simpa using hg
  · simpa using hg

theorem afterWord?_tidy {word : List Char} (h : ∀ c ∈ word, Text.isBlank c = false ∧ c ≠ ',')
    (gs : List Glyph) : afterWord? word (tidy gs) = (afterWord? word gs).map tidy := by
  have hfails : ∀ {c : Char} {cs : List Char} {hs : List Glyph}, hs.head? ≠ some (.char c) →
      afterWord? (c :: cs) hs = none := by
    intro c cs hs hhead
    rcases hs with _ | ⟨⟨d⟩ | ⟨index⟩, hs⟩
    · rfl
    · rw [afterWord?, if_neg]
      rintro rfl
      exact hhead rfl
    · rfl
  induction word generalizing gs with
  | nil =>
      rfl
  | cons c word ih =>
      have hc := h c List.mem_cons_self
      cases gs with
      | nil =>
          rfl
      | cons g tail =>
          by_cases hg : g = .char c
          · subst hg
            rw [tidy_char hc, afterWord?, if_pos rfl, afterWord?, if_pos rfl,
              ih fun d hd => h d (List.mem_cons_of_mem c hd)]
          · have hhead : (g :: tail).head? ≠ some (.char c) := by simpa using hg
            rw [hfails (head?_tidy_ne hc.1 hg), hfails hhead, Option.map_none]

/-- What is no blank stays in front. -/
theorem exists_tidy_cons {g : Glyph} (hg : g.isBlank = false) (gs : List Glyph) :
    ∃ tail, tidy (g :: gs) = g :: tail := by
  rw [tidy_cons, tidyStep, if_neg (by simp [hg])]
  split_ifs
  · exact ⟨_, rfl⟩
  · exact ⟨_, rfl⟩

theorem isBlank_eq_false_of_dropBlanks {g : Glyph} {tail : List Glyph}
    (h : gs.dropWhile Glyph.isBlank = g :: tail) : g.isBlank = false := by
  have hnot := List.head?_dropWhile_not Glyph.isBlank gs
  rw [h] at hnot
  exact hnot

theorem tidy_dropBlanks (gs : List Glyph) :
    tidy (gs.dropWhile Glyph.isBlank) = (tidy gs).dropWhile Glyph.isBlank := by
  rcases dropBlanks_split gs with ⟨bs, hbs, hsplit⟩
  have hspace : space.isBlank = true := isBlank_space
  cases hdrop : gs.dropWhile Glyph.isBlank with
  | nil =>
      rw [hdrop, List.append_nil] at hsplit
      rw [hsplit, tidy_eq_nil_of_blanks hbs]
      rfl
  | cons g tail =>
      have hg := isBlank_eq_false_of_dropBlanks hdrop
      rcases exists_tidy_cons hg tail with ⟨tail', htail⟩
      have hne : g ≠ space := by
        rintro rfl
        rw [hspace] at hg
        cases hg
      rw [hdrop] at hsplit
      by_cases hempty : bs = []
      · rw [hsplit, hempty, List.nil_append, htail, List.dropWhile_cons_of_neg (by simp [hg])]
      · rw [hsplit, tidy_blanks hbs hempty, htail, spaced, if_neg hne,
          List.dropWhile_cons_of_pos hspace, List.dropWhile_cons_of_neg (by simp [hg])]

theorem tidy_ne_nil_of_dropBlanks (h : gs.dropWhile Glyph.isBlank ≠ []) : tidy gs ≠ [] := by
  intro hnil
  have hdrop := tidy_dropBlanks gs
  rw [hnil] at hdrop
  cases hcases : gs.dropWhile Glyph.isBlank with
  | nil =>
      exact h hcases
  | cons g tail =>
      rcases exists_tidy_cons (isBlank_eq_false_of_dropBlanks hcases) tail with ⟨tail', htail⟩
      rw [hcases, htail] at hdrop
      cases hdrop

/-- Blanks before something else are found in the tidy reading where they were. -/
theorem afterBlanks?_tidy (hne : gs.dropWhile Glyph.isBlank ≠ []) :
    afterBlanks? (tidy gs) = (afterBlanks? gs).map tidy := by
  cases gs with
  | nil =>
      rfl
  | cons g tail =>
      cases hg : g.isBlank with
      | false =>
          rcases exists_tidy_cons hg tail with ⟨tail', htail⟩
          rw [htail, afterBlanks?, afterBlanks?, hg]
          rfl
      | true =>
          rw [List.dropWhile_cons_of_pos hg] at hne
          rw [tidy_cons, tidyStep_of_isBlank hg, afterBlanks?, hg, if_pos rfl, Option.map_some,
            tidy_dropBlanks]
          cases hread : tidy tail with
          | nil =>
              exact absurd hread (tidy_ne_nil_of_dropBlanks hne)
          | cons h rest =>
              rw [spaced]
              split_ifs with hh
              · subst hh
                rw [afterBlanks?, if_pos isBlank_space, List.dropWhile_cons_of_pos isBlank_space]
              · rw [afterBlanks?, if_pos isBlank_space]

theorem matchPhrase?_nil {word : String} {words : Phrase} (h : word.toList ≠ []) :
    matchPhrase? (word :: words) [] = none := by
  have hword : afterWord? word.toList [] = none := by
    cases hchars : word.toList with
    | nil =>
        exact absurd hchars h
    | cons c cs =>
        rfl
  cases words with
  | nil =>
      exact hword
  | cons next words =>
      simp only [matchPhrase?, hword, Option.bind_eq_bind, Option.bind_none]

/-- Nothing but blanks is left, in which no further word is found. -/
theorem bind_afterBlanks?_of_blank {word : String} (words : Phrase) (h : word.toList ≠ [])
    (hgs : gs.dropWhile Glyph.isBlank = []) :
    ((afterBlanks? gs).bind fun rest => matchPhrase? (word :: words) rest) = none := by
  cases gs with
  | nil =>
      rfl
  | cons g tail =>
      rw [afterBlanks?]
      split_ifs with hg
      · rw [List.dropWhile_cons_of_pos hg] at hgs
        rw [hgs, Option.bind_some, matchPhrase?_nil h]
      · rfl

theorem matchPhrase?_tidy {p : Phrase} (hp : p.IsInk) (gs : List Glyph) :
    matchPhrase? p (tidy gs) = (matchPhrase? p gs).map tidy := by
  induction p generalizing gs with
  | nil =>
      rfl
  | cons word words ih =>
      have hword := afterWord?_tidy (hp word List.mem_cons_self).2
      have hwords : Phrase.IsInk words := fun w hw => hp w (List.mem_cons_of_mem word hw)
      cases words with
      | nil =>
          exact hword gs
      | cons next words =>
          simp only [matchPhrase?, Option.bind_eq_bind, hword, Option.map_bind, Option.bind_map]
          refine Option.bind_congr fun mid _ => ?_
          simp only [Function.comp_apply]
          by_cases hne : mid.dropWhile Glyph.isBlank = []
          · have hnext := (hp next (by simp)).1
            have hread : (tidy mid).dropWhile Glyph.isBlank = [] := by
              rw [← tidy_dropBlanks, hne, tidy_nil]
            have hmid := bind_afterBlanks?_of_blank words hnext hne
            rw [bind_afterBlanks?_of_blank words hnext hread]
            simp only [hmid, Option.map_none]
          · rw [afterBlanks?_tidy hne, Option.bind_map, Option.map_bind]
            exact Option.bind_congr fun tail _ => ih hwords tail

theorem startsWord_tidy (gs : List Glyph) : startsWord (tidy gs) = startsWord gs :=
  (words_tidy_and_startsWord_tidy gs).2

theorem wholePhrase?_tidy {p : Phrase} (hp : p.IsInk) (gs : List Glyph) :
    wholePhrase? p (tidy gs) = (wholePhrase? p gs).map tidy := by
  simp only [wholePhrase?, Option.bind_eq_bind, matchPhrase?_tidy hp, Option.bind_map,
    Option.map_bind]
  refine Option.bind_congr fun rest _ => ?_
  have hstart := startsWord_tidy rest
  unfold startsWord at hstart
  simp only [Function.comp_apply, hstart]
  split_ifs <;> rfl

/-! ## The words with rules of their own -/

/-- The words that start a line, or that hold one together, wherever they stand. -/
def clausePhrases : List Phrase := mainClauses ++ joinPhrases ++ [["AND"], ["OR"], ["ON"]]

theorem isInk_of_mem_clausePhrases {p : Phrase} (h : p ∈ clausePhrases) : p.IsInk := by
  have hall : clausePhrases.all (fun p => p.all fun word => !word.isEmpty &&
      word.toList.all fun c => !Text.isBlank c && c != ',') = true := by
    decide +kernel
  intro word hword
  have hink := List.all_eq_true.1 (List.all_eq_true.1 hall p h) word hword
  simp only [Bool.and_eq_true, Bool.not_eq_true', List.all_eq_true, bne_iff_ne] at hink
  refine ⟨fun hempty => ?_, hink.2⟩
  rw [String.toList_eq_nil_iff.1 hempty] at hink
  cases hink.1

/-- Whether one of those words comes next, perhaps after blanks. -/
def startsClause (gs : List Glyph) : Bool :=
  clausePhrases.any fun p => (wholePhrase? p (gs.dropWhile Glyph.isBlank)).isSome

theorem startsClause_tidy (gs : List Glyph) : startsClause (tidy gs) = startsClause gs := by
  rw [startsClause, startsClause, ← tidy_dropBlanks, Bool.eq_iff_iff, List.any_eq_true,
    List.any_eq_true]
  refine exists_congr fun p => and_congr_right fun hp => ?_
  rw [wholePhrase?_tidy (isInk_of_mem_clausePhrases hp), Option.isSome_map]

theorem afterWord?_append (word : List Char) (rest : List Glyph) :
    afterWord? word (word.map .char ++ rest) = some rest := by
  induction word with
  | nil =>
      rfl
  | cons c word ih =>
      rw [List.map_cons, List.cons_append, afterWord?, if_pos rfl, ih]

theorem text_cons_cons (word next : String) (words : Phrase) :
    glyphs (Phrase.text (word :: next :: words)) =
      glyphs word ++ space :: glyphs (Phrase.text (next :: words)) := by
  rw [Phrase.text, String.intercalate_cons_cons, glyphs_append, glyphs_append]
  simp [glyphs, space, Phrase.text]

theorem exists_text_cons {word : String} {words : Phrase} (h : Phrase.IsInk (word :: words)) :
    ∃ c tail, Text.isBlank c = false ∧ glyphs (Phrase.text (word :: words)) = .char c :: tail := by
  rcases h word List.mem_cons_self with ⟨hne, hink⟩
  rcases List.exists_cons_of_ne_nil hne with ⟨c, cs, hchars⟩
  have hc : Text.isBlank c = false := (hink c (by simp [hchars])).1
  cases words with
  | nil =>
      refine ⟨c, cs.map .char, hc, ?_⟩
      rw [Phrase.text, String.intercalate_singleton, glyphs, hchars, List.map_cons]
  | cons next words =>
      refine ⟨c, cs.map .char ++ space :: glyphs (Phrase.text (next :: words)), hc, ?_⟩
      rw [text_cons_cons, glyphs, hchars, List.map_cons, List.cons_append]

/-- A phrase is found where it is written. -/
theorem matchPhrase?_text {p : Phrase} (hp : p.IsInk) (rest : List Glyph) :
    matchPhrase? p (glyphs p.text ++ rest) = some rest := by
  induction p with
  | nil =>
      rfl
  | cons word words ih =>
      have hwords : Phrase.IsInk words := fun w hw => hp w (List.mem_cons_of_mem word hw)
      cases words with
      | nil =>
          rw [Phrase.text, String.intercalate_singleton]
          exact afterWord?_append word.toList rest
      | cons next words =>
          have hblanks : afterBlanks? (space :: (glyphs (Phrase.text (next :: words)) ++ rest)) =
              some (glyphs (Phrase.text (next :: words)) ++ rest) := by
            rcases exists_text_cons hwords with ⟨c, tail, hc, htext⟩
            have hneg : ¬ (Glyph.char c).isBlank = true := by simpa [Glyph.isBlank] using hc
            rw [afterBlanks?, if_pos isBlank_space, htext, List.cons_append,
              List.dropWhile_cons_of_neg hneg]
          simp only [matchPhrase?, Option.bind_eq_bind]
          rw [text_cons_cons, List.append_assoc, List.cons_append, glyphs, afterWord?_append,
            Option.bind_some, hblanks, Option.bind_some, ih hwords]

/-- One of those words comes next where it is written behind blanks. -/
theorem startsClause_of_phrase {p : Phrase} (hp : p ∈ clausePhrases) {bs : List Glyph}
    (hbs : Blanks bs) (hrest : startsWord rest = false) :
    startsClause (bs ++ (glyphs p.text ++ rest)) = true := by
  have hink := isInk_of_mem_clausePhrases hp
  have hdrop : (bs ++ (glyphs p.text ++ rest)).dropWhile Glyph.isBlank = glyphs p.text ++ rest := by
    have hne : ∀ p ∈ clausePhrases, p ≠ [] := by
      decide
    rcases List.exists_cons_of_ne_nil (hne p hp) with ⟨word, words, rfl⟩
    rcases exists_text_cons hink with ⟨c, tail, hc, htext⟩
    have hneg : ¬ (Glyph.char c).isBlank = true := by simpa [Glyph.isBlank] using hc
    rw [List.dropWhile_append_of_pos hbs, htext, List.cons_append,
      List.dropWhile_cons_of_neg hneg]
  refine List.any_eq_true.2 ⟨p, hp, ?_⟩
  rw [hdrop, wholePhrase?_eq_some_iff.2 ⟨matchPhrase?_text hink rest, hrest⟩]
  rfl

end Layout
end QueryDesigner

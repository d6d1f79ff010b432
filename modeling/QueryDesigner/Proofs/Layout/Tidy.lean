import Mathlib
import QueryDesigner.Proofs.Layout.Lenient

/-!
# What a layout leaves alone

The glyphs with one space for each run of blanks, and with none after a comma and at the end: all
that the passes after the keywords keep.

* `tidy` — the glyphs in that reading;
* `lenient_tidy`, `lenient_tidy_unmarked` — no rule changes it, with the mark of a range or without;
* `tidy_squeezed`, `tidy_layOut` — the pass before the keywords and all passes after it;
* `Lenient.tidy` — no other reading of that kind sees more.
-/

namespace QueryDesigner
namespace Layout

/-! ## The tidy reading -/

/-- One space in front of what does not start with one.  At the end there is none. -/
def spaced : List Glyph → List Glyph
  | [] => []
  | h :: rest => if h = space then h :: rest else space :: h :: rest

/-- Without the space at the start. -/
def unspaced : List Glyph → List Glyph
  | [] => []
  | h :: rest => if h = space then rest else h :: rest

def tidyStep (g : Glyph) (rest : List Glyph) : List Glyph :=
  if g.isBlank then spaced rest else if g = .char ',' then g :: unspaced rest else g :: rest

/-- The glyphs with one space for each run of blanks, and with none after a comma and at the end. -/
def tidy (gs : List Glyph) : List Glyph := gs.foldr tidyStep []

@[simp] theorem tidy_nil : tidy [] = [] := rfl

@[simp] theorem tidy_cons (g : Glyph) (gs : List Glyph) :
    tidy (g :: gs) = tidyStep g (tidy gs) := rfl

theorem spaced_spaced (gs : List Glyph) : spaced (spaced gs) = spaced gs := by
  cases gs with
  | nil =>
      rfl
  | cons h rest =>
      by_cases hh : h = space <;> simp [spaced, hh]

theorem unspaced_spaced (gs : List Glyph) : unspaced (spaced gs) = unspaced gs := by
  cases gs with
  | nil =>
      rfl
  | cons h rest =>
      by_cases hh : h = space <;> simp [spaced, unspaced, hh]

theorem tidyStep_of_isBlank {g : Glyph} (hg : g.isBlank = true) (gs : List Glyph) :
    tidyStep g gs = spaced gs := by
  rw [tidyStep, if_pos hg]

theorem tidyStep_comma (gs : List Glyph) :
    tidyStep (.char ',') gs = .char ',' :: unspaced gs := by
  rw [tidyStep, if_neg (by decide), if_pos rfl]

theorem tidyStep_of_other {g : Glyph} (hg : g.isBlank = false) (hcomma : g ≠ .char ',')
    (gs : List Glyph) : tidyStep g gs = g :: gs := by
  rw [tidyStep, if_neg (by simp [hg]), if_neg hcomma]

/-- A run of blanks counts as one. -/
theorem tidy_blanks {bs : List Glyph} (hbs : Blanks bs) (hne : bs ≠ [])
    (gs : List Glyph) : tidy (bs ++ gs) = spaced (tidy gs) := by
  induction bs with
  | nil =>
      exact absurd rfl hne
  | cons b rest ih =>
      have hb : b.isBlank = true := hbs b (by simp)
      rw [List.cons_append, tidy_cons, tidyStep_of_isBlank hb]
      by_cases hrest : rest = []
      · rw [hrest, List.nil_append]
      · rw [ih (fun c hc => hbs c (List.mem_cons_of_mem b hc)) hrest, spaced_spaced]

/-- Whether there are blanks or not, one more makes a single space of them. -/
theorem spaced_tidy_blanks {bs : List Glyph} (hbs : Blanks bs)
    (gs : List Glyph) : spaced (tidy (bs ++ gs)) = spaced (tidy gs) := by
  by_cases hne : bs = []
  · rw [hne, List.nil_append]
  · rw [tidy_blanks hbs hne, spaced_spaced]

theorem tidy_eq_nil_of_blanks {bs : List Glyph} (hbs : Blanks bs) :
    tidy bs = [] := by
  by_cases hne : bs = []
  · rw [hne, tidy_nil]
  · rw [← List.append_nil bs, tidy_blanks hbs hne, tidy_nil, spaced]

theorem lenient_tidy : Lenient tidy where
  cons := by
    intro g gs hs h
    rw [tidy_cons, tidy_cons, h]
  blanks := by
    intro bs cs hbs hbs' hcs hcs' gs
    rw [tidy_blanks hbs hbs', tidy_blanks hcs hcs']
  comma := by
    intro bs hbs gs
    rw [tidy_cons, tidy_cons, tidyStep_comma, tidyStep_comma, ← unspaced_spaced,
      spaced_tidy_blanks hbs, unspaced_spaced]

/-! ## The mark of a range -/

theorem unmarked_append (gs hs : List Glyph) : unmarked (gs ++ hs) = unmarked gs ++ unmarked hs :=
  List.flatMap_append

/-- Glyphs without the mark stay as they are. -/
theorem unmarked_of_not_mem {gs : List Glyph} (h : .char rangeAnd ∉ gs) : unmarked gs = gs := by
  induction gs with
  | nil =>
      rfl
  | cons g rest ih =>
      rw [List.mem_cons, not_or] at h
      rw [unmarked, List.flatMap_cons, ← unmarked, ih h.2, if_neg (Ne.symm h.1),
        List.singleton_append]

theorem Blanks.unmarked {bs : List Glyph} (hbs : Blanks bs) : unmarked bs = bs := by
  refine unmarked_of_not_mem fun hmem => ?_
  have hblank := hbs _ hmem
  revert hblank
  decide

theorem lenient_tidy_unmarked : Lenient fun gs => tidy (unmarked gs) where
  cons := by
    intro g gs hs h
    change tidy (unmarked ([g] ++ gs)) = tidy (unmarked ([g] ++ hs))
    rw [unmarked_append, unmarked_append]
    exact lenient_tidy.append h _
  blanks := by
    intro bs cs hbs hbs' hcs hcs' gs
    rw [unmarked_append, unmarked_append, hbs.unmarked, hcs.unmarked]
    exact lenient_tidy.blanks hbs hbs' hcs hcs' _
  comma := by
    intro bs hbs gs
    have hcomma : ∀ gs, unmarked (.char ',' :: gs) = .char ',' :: unmarked gs := fun gs =>
      unmarked_append [.char ','] gs
    rw [hcomma, hcomma, unmarked_append, hbs.unmarked]
    exact lenient_tidy.comma hbs _

/-- The mark stands for the AND that it replaces. -/
theorem spares_rangeMark : Spares (fun gs => tidy (unmarked gs)) rangeMark := by
  intro before gs shown after h
  unfold rangeMark at h
  split_ifs at h
  simp only [Option.bind_eq_bind, Option.bind_eq_some_iff] at h
  rcases h with ⟨tail, hbetween, low, hlow, rest, hblanks, tail', hand, mid, hblanks', heq⟩
  split_ifs at heq
  rcases Prod.mk.inj (Option.some.inj heq) with ⟨rfl, rfl⟩
  have hF := lenient_tidy_unmarked
  set bound := low.takeWhile fun g => !g.isBlank with hbound
  -- From the mark back to its AND, then from the blanks around each part to those that were read.
  have hspace : Blanks [space] := blanks_singleton isBlank_space
  calc
    tidy (unmarked (glyphs "BETWEEN " ++ bound ++ [.char ' ', .char rangeAnd, .char ' '] ++ mid))
        = tidy (unmarked (glyphs "BETWEEN" ++ ([space] ++ (bound ++ ([space] ++
            (glyphs (Phrase.text ["AND"]) ++ ([space] ++ mid))))))) := by
          have hmark : unmarked [.char ' ', .char rangeAnd, .char ' '] = glyphs " AND " := rfl
          have hand' : unmarked (glyphs " AND ") = glyphs " AND " := rfl
          have hline : glyphs "BETWEEN" ++ ([space] ++ (bound ++ ([space] ++
              (glyphs (Phrase.text ["AND"]) ++ ([space] ++ mid))))) =
              glyphs "BETWEEN " ++ bound ++ glyphs " AND " ++ mid := by
            simp [glyphs, space, Phrase.text]
          rw [hline]
          simp only [unmarked_append, hmark, hand']
    _ = tidy (unmarked (glyphs "BETWEEN" ++ ([space] ++ (bound ++ ([space] ++ rest))))) :=
          hF.append (hF.append (hF.append (hF.append
            (hF.phraseBefore hand hblanks' hspace (by simp)) _) _) _) _
    _ = tidy (unmarked (glyphs "BETWEEN" ++ ([space] ++ low))) := by
          refine hF.append (hF.append ?_ _) _
          refine (hF.append (hF.afterBlanks? hblanks hspace (by simp)) bound).trans ?_
          rw [hbound, List.takeWhile_append_dropWhile]
    _ = tidy (unmarked gs) :=
          hF.phraseBefore (p := ["BETWEEN"]) hbetween hlow hspace (by simp)

/-! ## Lines and ends -/

theorem linesOf_ne_nil (gs : List Glyph) : linesOf gs ≠ [] := by
  cases gs with
  | nil =>
      simp [linesOf]
  | cons g rest =>
      rw [linesOf]
      split
      · simp
      · split <;> simp

theorem intercalate_cons {α : Type} (sep line : List α) {lines : List (List α)}
    (h : lines ≠ []) :
    List.intercalate sep (line :: lines) = line ++ (sep ++ List.intercalate sep lines) := by
  cases lines with
  | nil =>
      exact absurd rfl h
  | cons next lines =>
      simp [List.intercalate]

theorem intercalate_linesOf (gs : List Glyph) :
    List.intercalate [.char '\n'] (linesOf gs) = gs := by
  induction gs with
  | nil =>
      rfl
  | cons g rest ih =>
      rw [linesOf]
      split
      · rename_i hbreak
        rw [intercalate_cons _ _ (linesOf_ne_nil rest), ih, hbreak, List.nil_append,
          List.singleton_append]
      · split
        · rename_i line lines heq
          rw [heq] at ih
          rw [← ih]
          by_cases hlines : lines = []
          · simp [hlines, List.intercalate]
          · rw [intercalate_cons _ _ hlines, intercalate_cons _ _ hlines, List.cons_append]
        · rename_i heq
          exact absurd heq (linesOf_ne_nil rest)

/-- A line break reads as a space, also one at the end. -/
theorem tidy_intercalate_cons (line : List Glyph) (lines : List (List Glyph)) :
    tidy (List.intercalate [.char '\n'] (line :: lines)) =
      tidy (line ++ space :: List.intercalate [.char '\n'] lines) := by
  by_cases hlines : lines = []
  · have hend : tidy [] = tidy [space] := rfl
    rw [hlines, List.intercalate_singleton]
    conv_lhs => rw [← List.append_nil line]
    exact lenient_tidy.append hend line
  · rw [intercalate_cons _ _ hlines]
    exact lenient_tidy.append
      (lenient_tidy.blanks (blanks_singleton (by decide)) (by simp)
        (blanks_singleton isBlank_space) (by simp) _) line

/-- Lines of blanks go without a trace. -/
theorem tidy_filter_lines (lines : List (List Glyph)) :
    tidy (space :: List.intercalate [.char '\n']
      (lines.filter fun line => line.any fun g => !g.isBlank)) =
    tidy (space :: List.intercalate [.char '\n'] lines) := by
  induction lines with
  | nil =>
      rfl
  | cons line lines ih =>
      have hcons := lenient_tidy.cons space (tidy_intercalate_cons line lines)
      by_cases hline : (line.any fun g => !g.isBlank) = true
      · rw [List.filter_cons, if_pos hline, hcons,
          lenient_tidy.cons space (tidy_intercalate_cons line _)]
        exact lenient_tidy.append ih (space :: line)
      · -- The line is a run of blanks together with the spaces around it.
        have hblanks : Blanks (space :: line ++ [space]) := by
          intro b hb
          simp only [List.cons_append, List.mem_cons, List.mem_append, List.not_mem_nil,
            or_false] at hb
          rcases hb with rfl | hb | rfl
          · exact isBlank_space
          · simpa using fun hb' => hline (List.any_eq_true.2 ⟨b, hb, hb'⟩)
          · exact isBlank_space
        rw [List.filter_cons, if_neg hline, ih, hcons]
        calc
          tidy (space :: List.intercalate [.char '\n'] lines)
              = tidy ([space] ++ List.intercalate [.char '\n'] lines) := rfl
          _ = tidy (space :: line ++ [space] ++ List.intercalate [.char '\n'] lines) :=
                lenient_tidy.blanks (blanks_singleton isBlank_space) (by simp) hblanks (by simp) _
          _ = tidy (space :: (line ++ space :: List.intercalate [.char '\n'] lines)) := by
                rw [List.append_assoc, List.cons_append, List.singleton_append]

theorem tidy_withoutBlankLines (gs : List Glyph) :
    tidy (space :: withoutBlankLines gs) = tidy (space :: gs) := by
  rw [withoutBlankLines, tidy_filter_lines, intercalate_linesOf]

/-! ## The passes -/

theorem tidy_squeezed (gs : List Glyph) : tidy (space :: squeezed gs) = tidy (space :: gs) := by
  unfold squeezed
  set single := rewrite (fun _ gs => (afterBlanks? gs).map fun rest => ([.char ' '], rest)) gs
  set started := single.dropWhile Glyph.isBlank with hstarted
  -- Blanks at the start are one run with the space in front; those at the end do not read at all.
  have hstart : tidy (space :: started) = tidy (space :: single) := by
    rcases dropBlanks_split single with ⟨bs, hbs, hsingle⟩
    conv_rhs => rw [tidy_cons, tidyStep_of_isBlank isBlank_space, hsingle, spaced_tidy_blanks hbs]
    rfl
  have hend : tidy (started.reverse.dropWhile Glyph.isBlank).reverse = tidy started := by
    rcases dropBlanks_split started.reverse with ⟨bs, hbs, hrev⟩
    have hsplit : started =
        (started.reverse.dropWhile Glyph.isBlank).reverse ++ bs.reverse := by
      rw [← List.reverse_append, ← hrev, List.reverse_reverse]
    conv_rhs => rw [hsplit]
    conv_lhs => rw [← List.append_nil (List.reverse _)]
    refine lenient_tidy.append ?_ _
    rw [tidy_eq_nil_of_blanks (blanks_reverse hbs), tidy_nil]
  rw [lenient_tidy.cons space hend, hstart]
  exact lenient_tidy.cons space (lenient_tidy.rewrite lenient_tidy.squeezing gs)

/-- All passes after the one for keywords leave the tidy reading as it is.  A mark that was there
before is taken for the AND of a range. -/
theorem tidy_layOut_unmarked (gs : List Glyph) :
    tidy (space :: layOut gs) = tidy (space :: unmarked (upperKeywords (squeezed gs))) := by
  unfold layOut
  set capital := upperKeywords (squeezed gs)
  have hF := lenient_tidy_unmarked
  calc
    tidy (space :: withoutBlankLines (rewrite joinLine (brokenAtConditions
        (rewrite commaBreak (indentedContent (brokenAtClauses capital))))))
        = tidy (space :: rewrite joinLine (brokenAtConditions
            (rewrite commaBreak (indentedContent (brokenAtClauses capital))))) :=
          tidy_withoutBlankLines _
    _ = tidy (space :: brokenAtConditions
            (rewrite commaBreak (indentedContent (brokenAtClauses capital)))) :=
          lenient_tidy.cons space (lenient_tidy.rewrite lenient_tidy.joinLine _)
    _ = tidy (space :: unmarked (rewrite commaBreak (indentedContent (brokenAtClauses capital)))) :=
          lenient_tidy.cons space
            ((hF.rewrite hF.logicBreak _).trans (hF.rewrite spares_rangeMark _))
    _ = tidy (space :: unmarked capital) :=
          lenient_tidy.cons space ((hF.rewrite hF.commaBreak _).trans
            ((hF.indentedContent _).trans (hF.brokenAtClauses _)))

theorem tidy_layOut {gs : List Glyph} (hmark : .char rangeAnd ∉ upperKeywords (squeezed gs)) :
    tidy (space :: layOut gs) = tidy (space :: upperKeywords (squeezed gs)) := by
  rw [tidy_layOut_unmarked, unmarked_of_not_mem hmark]

/-! ## Other readings -/

/-- No reading sees more than the tidy one, if it does not see blanks at the end. -/
theorem Lenient.tidy {β : Type} {F : List Glyph → β} (hF : Lenient F)
    (hend : ∀ {bs : List Glyph}, Blanks bs → F bs = F []) (gs : List Glyph) :
    F (tidy gs) = F gs := by
  have hspaced : ∀ {b : Glyph} (hs : List Glyph), b.isBlank = true →
      F (spaced hs) = F (b :: hs) := by
    intro b hs hb
    cases hs with
    | nil =>
        exact (hend (blanks_singleton hb)).symm
    | cons h rest =>
        rw [spaced]
        split_ifs with hh
        · subst hh
          have hboth : Blanks [b, space] := by simp [Blanks, hb, isBlank_space]
          exact hF.blanks (blanks_singleton isBlank_space) (by simp) hboth (by simp) rest
        · exact hF.blanks (blanks_singleton isBlank_space) (by simp) (blanks_singleton hb) (by simp) _
  induction gs with
  | nil =>
      rfl
  | cons g rest ih =>
      have hrest : F (g :: Layout.tidy rest) = F (g :: rest) := hF.cons g ih
      rw [tidy_cons, ← hrest]
      by_cases hblank : g.isBlank = true
      · rw [tidyStep_of_isBlank hblank]
        exact hspaced _ hblank
      · by_cases hcomma : g = .char ','
        · subst hcomma
          rw [tidyStep_comma]
          cases hread : Layout.tidy rest with
          | nil =>
              rfl
          | cons h tail =>
              rw [unspaced]
              split_ifs with hh
              · rw [hh]
                exact (hF.comma (blanks_singleton isBlank_space) tail).symm
              · rfl
        · rw [tidyStep_of_other (by simpa using hblank) hcomma]

end Layout
end QueryDesigner

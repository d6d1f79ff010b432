import Mathlib
import QueryDesigner.Layout.Format

/-!
# Readings that do not see the layout

The passes over a statement put blanks in place of blanks, and blanks after commas.  So no pass
changes a reading that does not tell those apart.

* `Blanks` — glyphs that are all blank;
* `Lenient` — a reading that does not tell one run of blanks from another;
* `Spares` — a rule that does not change a reading;
* `Lenient.rewrite` — what one match leaves alone, a whole pass leaves alone;
* `Lenient.breakBefore`, `Lenient.commaBreak`, … — one fact for each rule.
-/

namespace QueryDesigner
namespace Layout

def space : Glyph := .char ' '

def Blanks (bs : List Glyph) : Prop := ∀ b ∈ bs, b.isBlank = true

theorem isBlank_space : space.isBlank = true := by decide

theorem blanks_nil : Blanks [] := by
  intro b hb
  cases hb

theorem blanks_cons {b : Glyph} {bs : List Glyph} :
    Blanks (b :: bs) ↔ b.isBlank = true ∧ Blanks bs := List.forall_mem_cons

theorem blanks_singleton {g : Glyph} (hg : g.isBlank = true) : Blanks [g] := by
  simpa [Blanks] using hg

theorem blanks_indent : Blanks (glyphs ("\n" ++ indent)) := by
  unfold Blanks
  decide

theorem blanks_reverse {bs : List Glyph} (hbs : Blanks bs) : Blanks bs.reverse :=
  fun b hb => hbs b (List.mem_reverse.1 hb)

/-! ## Readings and rules -/

/-- A reading that sees of what follows a glyph only how that reads, that does not tell one run of
blanks from another, and that does not see the blanks after a comma. -/
structure Lenient {β : Type} (F : List Glyph → β) : Prop where
  cons : ∀ g {gs hs : List Glyph}, F gs = F hs → F (g :: gs) = F (g :: hs)
  blanks : ∀ {bs cs : List Glyph}, Blanks bs → bs ≠ [] → Blanks cs → cs ≠ [] →
    ∀ gs, F (bs ++ gs) = F (cs ++ gs)
  comma : ∀ {bs : List Glyph}, Blanks bs → ∀ gs, F (.char ',' :: (bs ++ gs)) = F (.char ',' :: gs)

/-- A rule that does not change how the glyphs read. -/
def Spares {β : Type} (F : List Glyph → β) (rule : Rule) : Prop :=
  ∀ before gs shown after, rule before gs = some (shown, after) → F (shown ++ after) = F gs

/-! ## Blanks and words in front -/

section Matches

variable {gs rest : List Glyph}

theorem dropBlanks_split (gs : List Glyph) :
    ∃ bs, Blanks bs ∧ gs = bs ++ gs.dropWhile Glyph.isBlank :=
  ⟨gs.takeWhile Glyph.isBlank, fun _ hb => List.mem_takeWhile_imp hb,
    List.takeWhile_append_dropWhile.symm⟩

theorem afterBlanks?_eq_some (h : afterBlanks? gs = some rest) :
    ∃ bs, Blanks bs ∧ bs ≠ [] ∧ gs = bs ++ rest := by
  cases gs with
  | nil =>
      cases h
  | cons g tail =>
      rw [afterBlanks?] at h
      split_ifs at h with hg
      obtain rfl := Option.some.inj h
      rcases dropBlanks_split tail with ⟨bs, hbs, htail⟩
      refine ⟨g :: bs, ?_, by simp, by rw [List.cons_append, ← htail]⟩
      simpa [Blanks, hg] using hbs

theorem afterWord?_eq_some {word : List Char} (h : afterWord? word gs = some rest) :
    gs = word.map .char ++ rest := by
  induction word generalizing gs with
  | nil =>
      obtain rfl := Option.some.inj h
      rfl
  | cons c word ih =>
      cases gs with
      | nil =>
          cases h
      | cons g tail =>
          cases g with
          | literal index =>
              cases h
          | char d =>
              rw [afterWord?] at h
              split_ifs at h with hc
              rw [ih h, hc, List.map_cons, List.cons_append]

theorem glyphs_append (s t : String) : glyphs (s ++ t) = glyphs s ++ glyphs t := by
  rw [glyphs, String.toList_append, List.map_append, glyphs, glyphs]

theorem matchPhrase?_word {word : String} (h : matchPhrase? [word] gs = some rest) :
    gs = glyphs word ++ rest := afterWord?_eq_some h

end Matches

/-! ## The rules -/

namespace Lenient

variable {β : Type} {F : List Glyph → β} {rule : Rule}

theorem append (hF : Lenient F) {gs hs : List Glyph} (h : F gs = F hs) (ps : List Glyph) :
    F (ps ++ gs) = F (ps ++ hs) := by
  induction ps with
  | nil =>
      exact h
  | cons p rest ih =>
      exact hF.cons p ih

theorem rewriteFrom (hF : Lenient F) (hrule : Spares F rule) (before : Option Glyph)
    (steps : Nat) (gs : List Glyph) : F (rewriteFrom rule before steps gs) = F gs := by
  induction steps generalizing before gs with
  | zero =>
      cases gs <;> rfl
  | succ steps ih =>
      cases gs with
      | nil =>
          rfl
      | cons g rest =>
          rw [Layout.rewriteFrom]
          cases hmatch : rule before (g :: rest) with
          | none =>
              exact hF.cons g (ih (some g) rest)
          | some result =>
              rcases result with ⟨shown, after⟩
              calc
                F (shown ++ Layout.rewriteFrom rule (lastTaken (g :: rest) after) steps after)
                    = F (shown ++ after) := hF.append (ih _ after) shown
                _ = F (g :: rest) := hrule before _ shown after hmatch

/-- What one match leaves alone, a whole pass leaves alone. -/
theorem rewrite (hF : Lenient F) (hrule : Spares F rule) (gs : List Glyph) :
    F (rewrite rule gs) = F gs := hF.rewriteFrom hrule none gs.length gs

section Matches

variable {gs rest : List Glyph}

theorem afterBlanks? (hF : Lenient F) (h : afterBlanks? gs = some rest) {bs : List Glyph}
    (hbs : Blanks bs) (hne : bs ≠ []) : F (bs ++ rest) = F gs := by
  rcases afterBlanks?_eq_some h with ⟨cs, hcs, hcs', rfl⟩
  exact hF.blanks hbs hne hcs hcs' rest

/-- A phrase reads as its words with single spaces between them. -/
theorem matchPhrase? (hF : Lenient F) {p : Phrase} (h : matchPhrase? p gs = some rest) :
    F (glyphs p.text ++ rest) = F gs := by
  induction p generalizing gs with
  | nil =>
      obtain rfl := Option.some.inj h
      rfl
  | cons word words ih =>
      cases words with
      | nil =>
          rw [matchPhrase?_word h, Phrase.text, String.intercalate_singleton]
      | cons next words =>
          simp only [Layout.matchPhrase?, Option.bind_eq_bind, Option.bind_eq_some_iff] at h
          rcases h with ⟨mid, hword, tail, hblanks, hwords⟩
          calc
            F (glyphs (Phrase.text (word :: next :: words)) ++ rest)
                = F (glyphs word ++ space :: (glyphs (Phrase.text (next :: words)) ++ rest)) := by
                  rw [Phrase.text, String.intercalate_cons_cons, glyphs_append, glyphs_append]
                  simp [glyphs, space, Phrase.text]
            _ = F (glyphs word ++ space :: tail) := hF.append (hF.cons space (ih hwords)) _
            _ = F (glyphs word ++ mid) :=
                  hF.append (hF.afterBlanks? hblanks (blanks_singleton isBlank_space) (by simp)) _
            _ = F gs := by rw [afterWord?_eq_some hword, glyphs]

theorem wholePhrase? (hF : Lenient F) {p : Phrase} (h : wholePhrase? p gs = some rest) :
    F (glyphs p.text ++ rest) = F gs := by
  simp only [Layout.wholePhrase?, Option.bind_eq_bind, Option.bind_eq_some_iff] at h
  rcases h with ⟨after, hmatch, hend⟩
  split_ifs at hend
  obtain rfl := Option.some.inj hend
  exact hF.matchPhrase? hmatch

/-- A phrase and the blanks after it. -/
theorem phraseBefore (hF : Lenient F) {p : Phrase} {after bs : List Glyph}
    (hphrase : Layout.matchPhrase? p gs = some rest)
    (hblanks : Layout.afterBlanks? rest = some after) (hbs : Blanks bs) (hne : bs ≠ []) :
    F (glyphs p.text ++ (bs ++ after)) = F gs :=
  (hF.append (hF.afterBlanks? hblanks hbs hne) _).trans (hF.matchPhrase? hphrase)

end Matches

theorem squeezing (hF : Lenient F) :
    Spares F fun _ gs => (Layout.afterBlanks? gs).map fun rest => ([.char ' '], rest) := by
  intro _ gs shown after h
  rcases Option.map_eq_some_iff.1 h with ⟨rest, hblanks, heq⟩
  rcases Prod.mk.inj heq with ⟨rfl, rfl⟩
  exact hF.afterBlanks? hblanks (blanks_singleton isBlank_space) (by simp)

theorem breakBefore (hF : Lenient F) (phrases : List Phrase) :
    Spares F (breakBefore phrases) := by
  intro _ gs shown after h
  simp only [Layout.breakBefore, Option.bind_eq_bind, Option.bind_eq_some_iff] at h
  rcases h with ⟨rest, hblanks, hphrase⟩
  rcases List.exists_of_findSome?_eq_some hphrase with ⟨p, _, hp⟩
  rcases Option.map_eq_some_iff.1 hp with ⟨tail, hwhole, heq⟩
  rcases Prod.mk.inj heq with ⟨rfl, rfl⟩
  calc
    F (.char '\n' :: (glyphs p.text ++ tail)) = F (.char '\n' :: rest) :=
      hF.cons _ (hF.wholePhrase? hwhole)
    _ = F gs := hF.afterBlanks? hblanks (blanks_singleton (by decide)) (by simp)

theorem indentAfter (hF : Lenient F) (p : Phrase) : Spares F (indentAfter p) := by
  intro _ gs shown after h
  unfold Layout.indentAfter at h
  split at h
  · rename_i rest
    simp only [Option.bind_eq_bind, Option.bind_eq_some_iff] at h
    rcases h with ⟨tail, hphrase, mid, hblanks, heq⟩
    rcases Prod.mk.inj (Option.some.inj heq) with ⟨rfl, rfl⟩
    have hline : glyphs ("\n" ++ p.text ++ "\n" ++ indent) ++ mid =
        .char '\n' :: (glyphs p.text ++ (glyphs ("\n" ++ indent) ++ mid)) := by
      simp [glyphs]
    rw [hline]
    exact hF.cons _ (hF.phraseBefore hphrase hblanks blanks_indent (by decide))
  · cases h

theorem selectLine (hF : Lenient F) (gs : List Glyph) : F (selectLine gs) = F gs := by
  unfold Layout.selectLine
  split
  · rfl
  · rename_i rest hselect
    rcases Option.bind_eq_some_iff.1 hselect with ⟨tail, hphrase, hblanks⟩
    split
    · rename_i after hdistinct
      rcases Option.bind_eq_some_iff.1 hdistinct with ⟨tail', hphrase', hblanks'⟩
      calc
        F (glyphs ("SELECT DISTINCT\n" ++ indent) ++ after)
            = F (glyphs "SELECT" ++ ([space] ++
                (glyphs (Phrase.text ["DISTINCT"]) ++ (glyphs ("\n" ++ indent) ++ after)))) := rfl
        _ = F (glyphs "SELECT" ++ ([space] ++ rest)) :=
              hF.append (hF.cons space
                (hF.phraseBefore hphrase' hblanks' blanks_indent (by decide))) _
        _ = F gs :=
              hF.phraseBefore (p := ["SELECT"]) hphrase hblanks (blanks_singleton isBlank_space)
                (by simp)
    · exact hF.phraseBefore (p := ["SELECT"]) hphrase hblanks blanks_indent (by decide)

theorem joinLine (hF : Lenient F) : Spares F joinLine := by
  intro _ gs shown after h
  unfold Layout.joinLine at h
  split at h
  · rename_i rest
    simp only [Option.bind_eq_bind, Option.bind_eq_some_iff] at h
    rcases h with ⟨tail, hphrase, mid, hblanks, heq⟩
    rcases Prod.mk.inj (Option.some.inj heq) with ⟨rfl, rfl⟩
    have hbreak : Layout.afterBlanks? (.char '\n' :: rest) =
        some (rest.dropWhile Glyph.isBlank) := by
      rw [Layout.afterBlanks?, if_pos (by decide)]
    calc
      F (glyphs " ON " ++ mid)
          = F ([space] ++ (glyphs (Phrase.text ["ON"]) ++ ([space] ++ mid))) := rfl
      _ = F ([space] ++ rest.dropWhile Glyph.isBlank) :=
            hF.append (hF.phraseBefore hphrase hblanks (blanks_singleton isBlank_space)
              (by simp)) _
      _ = F (.char '\n' :: rest) :=
            hF.afterBlanks? hbreak (blanks_singleton isBlank_space) (by simp)
  · cases h

theorem logicBreak (hF : Lenient F) : Spares F logicBreak := by
  intro _ gs shown after h
  simp only [Layout.logicBreak, Option.bind_eq_bind, Option.bind_eq_some_iff] at h
  rcases h with ⟨rest, hblanks, hword⟩
  rcases List.exists_of_findSome?_eq_some hword with ⟨word, _, hw⟩
  simp only [Option.bind_eq_some_iff] at hw
  rcases hw with ⟨tail, hphrase, mid, hblanks', heq⟩
  rcases Prod.mk.inj (Option.some.inj heq) with ⟨rfl, rfl⟩
  have hline : glyphs ("\n" ++ indent ++ word ++ " ") ++ mid =
      glyphs ("\n" ++ indent) ++ (glyphs (Phrase.text [word]) ++ ([space] ++ mid)) := by
    simp [glyphs, space, Phrase.text]
  calc
    F (glyphs ("\n" ++ indent ++ word ++ " ") ++ mid)
        = F (glyphs ("\n" ++ indent) ++ rest) := by
          rw [hline]
          exact hF.append (hF.phraseBefore hphrase hblanks' (blanks_singleton isBlank_space)
            (by simp)) _
    _ = F gs := hF.afterBlanks? hblanks blanks_indent (by decide)

theorem commaBreak (hF : Lenient F) : Spares F commaBreak := by
  intro _ gs shown after h
  unfold Layout.commaBreak at h
  split at h
  · rename_i rest
    split_ifs at h
    rcases Prod.mk.inj (Option.some.inj h) with ⟨rfl, rfl⟩
    rcases dropBlanks_split rest with ⟨bs, hbs, hrest⟩
    conv_rhs => rw [hrest, hF.comma hbs]
    exact hF.comma blanks_indent _
  · cases h

/-! ### Several rules -/

theorem foldl (hF : Lenient F) {α : Type} {rules : α → Rule} (h : ∀ a, Spares F (rules a))
    (as : List α) (gs : List Glyph) :
    F (as.foldl (fun gs a => Layout.rewrite (rules a) gs) gs) = F gs := by
  induction as generalizing gs with
  | nil =>
      rfl
  | cons a as ih =>
      rw [List.foldl_cons, ih, hF.rewrite (h a)]

theorem brokenAtClauses (hF : Lenient F) (gs : List Glyph) : F (brokenAtClauses gs) = F gs := by
  rw [Layout.brokenAtClauses, hF.rewrite (hF.breakBefore _)]
  exact hF.foldl (fun _ => hF.breakBefore _) _ gs

theorem indentedContent (hF : Lenient F) (gs : List Glyph) : F (indentedContent gs) = F gs := by
  rw [Layout.indentedContent, hF.foldl hF.indentAfter]
  exact hF.selectLine gs

end Lenient

end Layout
end QueryDesigner

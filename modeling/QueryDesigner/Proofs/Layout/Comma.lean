import Mathlib
import QueryDesigner.Proofs.Layout.Clause

/-!
# What follows the commas

The passes move words to lines and away from them, and they break the line after commas.  So what is
said of the glyphs after every comma outlasts a pass, if it sees no more of them than the first glyph
and the tidy reading, and if it holds before the words that have rules of their own.

* `After`, `AfterCommas` — what is said of the glyphs after every glyph of one kind, say a comma;
* `Cursory`, `Tolerant` — what can be said of them so that passes keep it;
* `KeptBy`, `AfterCommas.rewrite` — what one match keeps, a whole pass keeps;
* `Tolerant.keptBy_breakBefore`, `Tolerant.keptBy_joinLine`, … — one fact for each rule;
* `afterCommas_layOut` — all passes, of which the one for commas decides.
-/

namespace QueryDesigner
namespace Layout

/-- What is said of the glyphs after every glyph of one kind. -/
def After (k : Glyph) (P : List Glyph → Prop) (gs : List Glyph) : Prop :=
  ∀ after, k :: after <:+ gs → P after

section After

variable {P Q : List Glyph → Prop} {k g : Glyph} {gs hs ps : List Glyph}

theorem after_nil : After k P [] := by
  intro after h
  cases List.suffix_nil.1 h

theorem after_cons : After k P (g :: gs) ↔ (g = k → P gs) ∧ After k P gs := by
  constructor
  · intro h
    refine ⟨fun hg => h gs ?_, fun after hafter => h after (List.suffix_cons_iff.2 (.inr hafter))⟩
    rw [hg]
  · rintro ⟨hfirst, hrest⟩ after hafter
    rcases List.suffix_cons_iff.1 hafter with heq | hafter
    · rcases List.cons.inj heq with ⟨hg, rfl⟩
      exact hfirst hg.symm
    · exact hrest after hafter

instance decidableAfter [DecidablePred P] : (gs : List Glyph) → Decidable (After k P gs)
  | [] => isTrue after_nil
  | _ :: rest =>
    have := decidableAfter rest
    decidable_of_iff _ after_cons.symm

theorem After.suffix (h : After k P gs) (hsuffix : hs <:+ gs) : After k P hs :=
  fun after hafter => h after (hafter.trans hsuffix)

theorem after_append (hps : k ∉ ps) : After k P (ps ++ gs) ↔ After k P gs := by
  induction ps with
  | nil =>
      exact Iff.rfl
  | cons p rest ih =>
      rw [List.mem_cons, not_or] at hps
      rw [List.cons_append, after_cons, ih hps.2]
      exact and_iff_right fun hp => absurd hp.symm hps.1

theorem After.of_imp (h : After k P gs) (himp : ∀ hs, hs <:+ gs → P hs → Q hs) : After k Q gs :=
  fun after hafter => himp after ((List.suffix_cons _ _).trans hafter) (h after hafter)

end After

/-- What is said of the glyphs after every comma. -/
abbrev AfterCommas : (List Glyph → Prop) → List Glyph → Prop := After (.char ',')

theorem afterCommas_cons {P : List Glyph → Prop} {g : Glyph} {gs : List Glyph} :
    AfterCommas P (g :: gs) ↔ (g = .char ',' → P gs) ∧ AfterCommas P gs := after_cons

/-! ## What passes keep -/

section Passes

variable {β : Type} {F : List Glyph → β} {P Q : List Glyph → Prop} {rule : Rule}
  {gs hs : List Glyph}

/-- What is said of glyphs looks at the first one and at how they read. -/
def Cursory (F : List Glyph → β) (P : List Glyph → Prop) : Prop :=
  ∀ {gs hs : List Glyph}, F gs = F hs → hs = [] ∨ hs.head? = gs.head? → P gs → P hs

/-- A rule keeps what is said of the glyphs after every comma, those inside a match and the one right
before it included. -/
structure KeptBy (F : List Glyph → β) (P : List Glyph → Prop) (rule : Rule) : Prop where
  left : ∀ {before gs shown after}, rule before gs = some (shown, after) → after <:+ gs
  inside : ∀ {before gs shown after}, rule before gs = some (shown, after) → AfterCommas P gs →
    ∀ {rest}, F rest = F after → AfterCommas P rest → AfterCommas P (shown ++ rest)
  start : ∀ {before gs shown after}, rule before gs = some (shown, after) → P gs →
    ∀ {rest}, F rest = F after → P (shown ++ rest)

theorem KeptBy.rewriteFrom (hF : Lenient F) (hspares : Spares F rule) (hP : Cursory F P)
    (hrule : KeptBy F P rule) (before : Option Glyph) (steps : Nat) (gs : List Glyph) :
    (P gs → P (rewriteFrom rule before steps gs)) ∧
      (AfterCommas P gs → AfterCommas P (rewriteFrom rule before steps gs)) := by
  -- A comma may stand right before a match, so the start of the glyphs goes along.
  induction steps generalizing before gs with
  | zero =>
      cases gs with
      | nil =>
          exact ⟨id, id⟩
      | cons g rest =>
          exact ⟨id, id⟩
  | succ steps ih =>
      cases gs with
      | nil =>
          exact ⟨id, id⟩
      | cons g rest =>
          rw [Layout.rewriteFrom]
          cases hmatch : rule before (g :: rest) with
          | some result =>
              rcases result with ⟨shown, after⟩
              have hread := hF.rewriteFrom hspares (lastTaken (g :: rest) after) steps after
              have hlater := (ih (lastTaken (g :: rest) after) after).2
              exact ⟨fun hgs => hrule.start hmatch hgs hread, fun hgs =>
                hrule.inside hmatch hgs hread (hlater (hgs.suffix (hrule.left hmatch)))⟩
          | none =>
              have hread := hF.cons g (hF.rewriteFrom hspares (some g) steps rest)
              rcases ih (some g) rest with ⟨hstart, hlater⟩
              refine ⟨hP hread.symm (.inr rfl), fun hgs => ?_⟩
              rw [afterCommas_cons] at hgs ⊢
              exact ⟨fun hg => hstart (hgs.1 hg), hlater hgs.2⟩

/-- What one match keeps, a whole pass keeps. -/
theorem AfterCommas.rewrite (h : AfterCommas P gs) (hF : Lenient F) (hspares : Spares F rule)
    (hP : Cursory F P) (hrule : KeptBy F P rule) : AfterCommas P (rewrite rule gs) :=
  (hrule.rewriteFrom hF hspares hP none gs.length gs).2 h

/-- What stands after some glyphs may be written anew, if what is said of it holds again. -/
theorem AfterCommas.append_congr {ps : List Glyph} (hF : Lenient F) (hP : Cursory F P)
    (hread : F gs = F hs) (hstart : P gs → P hs) (h : AfterCommas P (ps ++ gs))
    (hlater : AfterCommas P hs) : AfterCommas P (ps ++ hs) := by
  induction ps with
  | nil =>
      exact hlater
  | cons p rest ih =>
      rw [List.cons_append, afterCommas_cons] at h ⊢
      refine ⟨fun hp => ?_, ih h.2⟩
      cases rest with
      | nil =>
          exact hstart (h.1 hp)
      | cons q rest =>
          exact hP (hF.append hread _) (.inr rfl) (h.1 hp)

/-- What each of some rules keeps, all of them keep. -/
theorem AfterCommas.foldl {α : Type} (rules : α → Rule) {as : List α} (h : AfterCommas P gs)
    (hF : Lenient F) (hspares : ∀ a, Spares F (rules a)) (hP : Cursory F P)
    (hrules : ∀ a ∈ as, KeptBy F P (rules a)) :
    AfterCommas P (as.foldl (fun gs a => Layout.rewrite (rules a) gs) gs) := by
  induction as generalizing gs with
  | nil =>
      exact h
  | cons a as ih =>
      rw [List.foldl_cons]
      exact ih (h.rewrite hF (hspares a) hP (hrules a List.mem_cons_self))
        fun b hb => hrules b (List.mem_cons_of_mem a hb)

/-- A rule that shows no comma has only to keep what is said of the glyphs where it matches. -/
theorem KeptBy.of_notMem
    (hleft : ∀ {before gs shown after}, rule before gs = some (shown, after) → after <:+ gs)
    (hcomma : ∀ {before gs shown after}, rule before gs = some (shown, after) →
      .char ',' ∉ shown)
    (hstart : ∀ {before gs shown after}, rule before gs = some (shown, after) → P gs →
      ∀ {rest}, F rest = F after → P (shown ++ rest)) : KeptBy F P rule where
  left := hleft
  inside hmatch _ _ _ hrest := (after_append (hcomma hmatch)).2 hrest
  start := hstart

end Passes

/-! ## The rules -/

theorem notMem_text_of_mem_clausePhrases {p : Phrase} (h : p ∈ clausePhrases) :
    .char ',' ∉ glyphs p.text := by
  have hall : ∀ p ∈ clausePhrases, .char ',' ∉ glyphs p.text := by
    decide +kernel
  exact hall p h

/-- What is said of the glyphs after commas so that passes keep it: it looks at the first glyph and
the tidy reading only, and it goes without saying before the words that have rules of their own. -/
structure Tolerant (P : List Glyph → Prop) : Prop where
  cursory : Cursory tidy P
  clause : ∀ {g gs}, g.isBlank = true → startsClause (g :: gs) = true → P (g :: gs)

section Rules

variable {P Q : List Glyph → Prop} {gs hs rest : List Glyph}

namespace Tolerant

/-- Such a word after a line break and before a blank. -/
theorem line (hP : Tolerant P) {p : Phrase} (hp : p ∈ clausePhrases) {b : Glyph}
    (hb : b.isBlank = true) {bs : List Glyph} (hbs : Blanks bs) (hrest : startsWord rest = false) :
    P (b :: (bs ++ (glyphs p.text ++ rest))) := by
  have hblanks : Blanks (b :: bs) := by simpa [Blanks, hb] using hbs
  exact hP.clause hb (startsClause_of_phrase hp hblanks hrest)

theorem keptBy_breakBefore (hP : Tolerant P) {phrases : List Phrase}
    (hphrases : ∀ p ∈ phrases, p ∈ clausePhrases) : KeptBy tidy P (breakBefore phrases) := by
  have hsplit : ∀ {before gs shown after}, breakBefore phrases before gs = some (shown, after) →
      ∃ rest, afterBlanks? gs = some rest ∧ ∃ p ∈ clausePhrases,
        wholePhrase? p rest = some after ∧ shown = .char '\n' :: glyphs p.text := by
    intro before gs shown after h
    simp only [breakBefore, Option.bind_eq_bind, Option.bind_eq_some_iff] at h
    rcases h with ⟨rest, hblanks, hphrase⟩
    rcases List.exists_of_findSome?_eq_some hphrase with ⟨p, hp, hmap⟩
    rcases Option.map_eq_some_iff.1 hmap with ⟨tail, hwhole, heq⟩
    rcases Prod.mk.inj heq with ⟨rfl, rfl⟩
    exact ⟨rest, hblanks, p, hphrases p hp, hwhole, rfl⟩
  refine .of_notMem ?_ ?_ ?_
  · intro before gs shown after h
    rcases hsplit h with ⟨rest, hblanks, p, _, hwhole, _⟩
    exact (wholePhrase?_suffix hwhole).trans (afterBlanks?_suffix hblanks)
  · intro before gs shown after h
    rcases hsplit h with ⟨rest, _, p, hp, _, rfl⟩
    simpa using notMem_text_of_mem_clausePhrases hp
  · intro before gs shown after h _ rest' hread
    rcases hsplit h with ⟨rest, _, p, hp, hwhole, rfl⟩
    have hword : startsWord rest' = false := by
      rw [← startsWord_tidy, hread, startsWord_tidy]
      exact (wholePhrase?_eq_some_iff.1 hwhole).2
    exact hP.line hp (b := .char '\n') (by decide) blanks_nil hword

theorem keptBy_indentAfter (hP : Tolerant P) {p : Phrase} (hp : p ∈ clausePhrases) :
    KeptBy tidy P (indentAfter p) := by
  have hsplit : ∀ {before gs shown after}, indentAfter p before gs = some (shown, after) →
      after <:+ gs ∧ shown = .char '\n' :: (glyphs p.text ++ glyphs ("\n" ++ indent)) := by
    intro before gs shown after h
    unfold indentAfter at h
    split at h
    · rename_i rest
      simp only [Option.bind_eq_bind, Option.bind_eq_some_iff] at h
      rcases h with ⟨tail, hphrase, mid, hblanks, heq⟩
      rcases Prod.mk.inj (Option.some.inj heq) with ⟨rfl, rfl⟩
      refine ⟨(afterBlanks?_suffix hblanks).trans
        ((matchPhrase?_suffix hphrase).trans (List.suffix_cons _ _)), ?_⟩
      simp [glyphs]
    · cases h
  refine .of_notMem (fun h => (hsplit h).1) ?_ ?_
  · intro before gs shown after h
    have hindent : .char ',' ∉ glyphs ("\n" ++ indent) := by decide
    rw [(hsplit h).2, List.mem_cons, List.mem_append]
    simp [notMem_text_of_mem_clausePhrases hp, hindent]
  · intro before gs shown after h _ rest' _
    have hbreak : (Glyph.char '\n').isBlank = true := by decide
    rw [(hsplit h).2, List.cons_append, List.append_assoc]
    exact hP.line hp hbreak blanks_nil (isWord_eq_false_of_isBlank hbreak)

theorem keptBy_joinLine (hP : Tolerant P) : KeptBy tidy P joinLine := by
  have hsplit : ∀ {before gs shown after}, joinLine before gs = some (shown, after) →
      after <:+ gs ∧ shown = glyphs " ON " := by
    intro before gs shown after h
    unfold joinLine at h
    split at h
    · rename_i rest
      simp only [Option.bind_eq_bind, Option.bind_eq_some_iff] at h
      rcases h with ⟨tail, hphrase, mid, hblanks, heq⟩
      rcases Prod.mk.inj (Option.some.inj heq) with ⟨rfl, rfl⟩
      exact ⟨(afterBlanks?_suffix hblanks).trans ((matchPhrase?_suffix hphrase).trans
        ((List.dropWhile_suffix _).trans (List.suffix_cons _ _))), rfl⟩
    · cases h
  refine .of_notMem (fun h => (hsplit h).1) ?_ ?_
  · intro before gs shown after h
    rw [(hsplit h).2]
    decide
  · intro before gs shown after h _ rest' _
    rw [(hsplit h).2]
    have hword : startsWord (space :: rest') = false := isWord_eq_false_of_isBlank isBlank_space
    exact hP.line (p := ["ON"]) (by decide) isBlank_space blanks_nil hword

/-! ### With the marks of ranges -/

theorem head?_unmarked (h : hs.head? = gs.head?) : (unmarked hs).head? = (unmarked gs).head? := by
  cases gs with
  | nil =>
      rw [List.head?_nil, List.head?_eq_none_iff] at h
      rw [h]
  | cons g gs =>
      cases hs with
      | nil =>
          cases h
      | cons k hs =>
          obtain rfl : k = g := Option.some.inj h
          simp only [unmarked, List.flatMap_cons]
          split_ifs
          · rfl
          · rfl

theorem cursory_unmarked (hP : Tolerant P) :
    Cursory (fun gs => tidy (unmarked gs)) fun gs => P (unmarked gs) := by
  intro gs hs hread hhead hgs
  refine hP.cursory hread (hhead.imp ?_ head?_unmarked) hgs
  rintro rfl
  rfl

theorem keptBy_logicBreak (hP : Tolerant P) :
    KeptBy (fun gs => tidy (unmarked gs)) (fun gs => P (unmarked gs)) logicBreak := by
  have hsplit : ∀ {before gs shown after}, logicBreak before gs = some (shown, after) →
      after <:+ gs ∧ ∃ word ∈ ["AND", "OR"], shown = glyphs ("\n" ++ indent ++ word ++ " ") := by
    intro before gs shown after h
    simp only [logicBreak, Option.bind_eq_bind, Option.bind_eq_some_iff] at h
    rcases h with ⟨rest, hblanks, hword⟩
    rcases List.exists_of_findSome?_eq_some hword with ⟨word, hmem, hw⟩
    simp only [Option.bind_eq_some_iff] at hw
    rcases hw with ⟨tail, hphrase, mid, hblanks', heq⟩
    rcases Prod.mk.inj (Option.some.inj heq) with ⟨rfl, rfl⟩
    exact ⟨(afterBlanks?_suffix hblanks').trans
      ((matchPhrase?_suffix hphrase).trans (afterBlanks?_suffix hblanks)), word, hmem, rfl⟩
  refine .of_notMem (fun h => (hsplit h).1) ?_ ?_
  · intro before gs shown after h
    have hcomma : ∀ word ∈ ["AND", "OR"], .char ',' ∉ glyphs ("\n" ++ indent ++ word ++ " ") := by
      decide
    rcases (hsplit h).2 with ⟨word, hword, rfl⟩
    exact hcomma word hword
  · intro before gs shown after h _ rest' _
    rcases (hsplit h).2 with ⟨word, hword, rfl⟩
    have hbreak : (Glyph.char '\n').isBlank = true := by decide
    have hclause : ∀ word ∈ ["AND", "OR"], [word] ∈ clausePhrases := by decide
    have hplain : ∀ word ∈ ["AND", "OR"], unmarked (glyphs ("\n" ++ indent ++ word ++ " ")) =
        .char '\n' :: (glyphs indent ++ (glyphs (Phrase.text [word]) ++ [space])) := by
      decide
    have hindent : Blanks (glyphs indent) := by
      unfold Blanks
      decide
    have hstart : startsWord (space :: unmarked rest') = false :=
      isWord_eq_false_of_isBlank isBlank_space
    have hline := hP.line (hclause word hword) hbreak hindent hstart
    simpa only [unmarked_append, hplain word hword, List.cons_append, List.append_assoc,
      List.nil_append] using hline

theorem rangeMark_eq_some {before : Option Glyph} {shown after : List Glyph}
    (h : rangeMark before gs = some (shown, after)) :
    ∃ bs low bs' bs'', gs = glyphs "BETWEEN" ++ (bs ++ (low ++ (bs' ++ (glyphs "AND" ++
        (bs'' ++ after))))) ∧ Blanks bs' ∧ bs' ≠ [] ∧ Blanks bs'' ∧ bs'' ≠ [] ∧
      shown = glyphs "BETWEEN " ++ low ++ [space, .char rangeAnd, space] := by
  unfold rangeMark at h
  split_ifs at h
  simp only [Option.bind_eq_bind, Option.bind_eq_some_iff] at h
  rcases h with ⟨tail, hbetween, low, hlow, rest, hblanks, tail', hand, mid, hblanks', heq⟩
  split_ifs at heq
  rcases Prod.mk.inj (Option.some.inj heq) with ⟨rfl, rfl⟩
  rcases afterBlanks?_eq_some hlow with ⟨bs, _, _, rfl⟩
  rcases afterBlanks?_eq_some hblanks with ⟨bs', hbs', hne', hdrop⟩
  rcases afterBlanks?_eq_some hblanks' with ⟨bs'', hbs'', hne'', rfl⟩
  refine ⟨bs, low.takeWhile fun g => !g.isBlank, bs', bs'', ?_, hbs', hne', hbs'', hne'', rfl⟩
  rw [← matchPhrase?_word hand, ← hdrop, List.takeWhile_append_dropWhile]
  exact matchPhrase?_word hbetween

theorem keptBy_rangeMark (hP : Tolerant P) :
    KeptBy (fun gs => tidy (unmarked gs)) (fun gs => P (unmarked gs)) rangeMark := by
  have hF := lenient_tidy_unmarked
  have hspace : Blanks [space] := blanks_singleton isBlank_space
  constructor
  · intro before gs shown after h
    rcases rangeMark_eq_some h with ⟨bs, low, bs', bs'', rfl, -⟩
    simp only [← List.append_assoc]
    exact List.suffix_append _ after
  · intro before gs shown after h hgs rest hread hrest
    rcases rangeMark_eq_some h with ⟨bs, low, bs', bs'', rfl, hbs', hne', hbs'', hne'', rfl⟩
    -- The bound is the same before the mark as it was before the AND.
    have hmarked : unmarked ([space, .char rangeAnd, space] ++ rest) =
        space :: ([] ++ (glyphs (Phrase.text ["AND"]) ++ (space :: unmarked rest))) := by
      rw [unmarked_append]
      rfl
    have hbound : tidy (unmarked (bs' ++ (glyphs "AND" ++ (bs'' ++ after)))) =
        tidy (unmarked ([space, .char rangeAnd, space] ++ rest)) := by
      calc
        tidy (unmarked (bs' ++ (glyphs "AND" ++ (bs'' ++ after))))
            = tidy (unmarked ([space] ++ (glyphs "AND" ++ (bs'' ++ after)))) :=
              hF.blanks hbs' hne' hspace (by simp) _
        _ = tidy (unmarked ([space] ++ (glyphs "AND" ++ ([space] ++ after)))) :=
              hF.append (hF.append (hF.blanks hbs'' hne'' hspace (by simp) _) _) _
        _ = tidy (unmarked ([space] ++ (glyphs "AND" ++ ([space] ++ rest)))) :=
              hF.append (hF.append (hF.append hread.symm _) _) _
        _ = tidy (unmarked ([space, .char rangeAnd, space] ++ rest)) := by
              rw [hmarked, unmarked_append, unmarked_append, unmarked_append]
              rfl
    have hand : P (unmarked ([space, .char rangeAnd, space] ++ rest)) := by
      rw [hmarked]
      exact hP.line (by decide) isBlank_space blanks_nil
        (isWord_eq_false_of_isBlank isBlank_space)
    have hlow : AfterCommas (fun gs => P (unmarked gs))
        (low ++ (bs' ++ (glyphs "AND" ++ (bs'' ++ after)))) :=
      hgs.suffix ((List.suffix_append _ _).trans (List.suffix_append _ _))
    rw [List.append_assoc, List.append_assoc]
    refine (after_append (by decide)).2 ?_
    exact hlow.append_congr hF hP.cursory_unmarked hbound (fun _ => hand)
      ((after_append (by decide)).2 hrest)
  · intro before gs shown after h hgs rest hread
    have hsame := (hF.append hread shown).trans (spares_rangeMark before gs shown after h)
    refine hP.cursory_unmarked hsame.symm (.inr ?_) hgs
    rcases rangeMark_eq_some h with ⟨bs, low, bs', bs'', rfl, _, _, _, _, rfl⟩
    rfl

theorem afterCommas_unmarked (h : AfterCommas (fun gs => P (unmarked gs)) gs) :
    AfterCommas P (unmarked gs) := by
  induction gs with
  | nil =>
      exact after_nil
  | cons g rest ih =>
      rw [afterCommas_cons] at h
      have hcons : unmarked (g :: rest) = unmarked [g] ++ unmarked rest :=
        unmarked_append [g] rest
      rw [hcons]
      by_cases hg : g = .char ','
      · subst hg
        exact afterCommas_cons.2 ⟨fun _ => h.1 rfl, ih h.2⟩
      · refine (after_append ?_).2 (ih h.2)
        simp only [unmarked, List.flatMap_singleton]
        split_ifs
        · decide
        · simpa using Ne.symm hg

theorem selectLine (h : AfterCommas P gs) : AfterCommas P (selectLine gs) := by
  have hleft : ∀ {word : String} {gs rest : List Glyph},
      (matchPhrase? [word] gs).bind afterBlanks? = some rest → rest <:+ gs := by
    intro word gs rest hmatch
    rcases Option.bind_eq_some_iff.1 hmatch with ⟨tail, hphrase, hblanks⟩
    exact (afterBlanks?_suffix hblanks).trans (matchPhrase?_suffix hphrase)
  unfold Layout.selectLine
  split
  · exact h
  · rename_i rest hselect
    split
    · rename_i after hdistinct
      exact (after_append (by decide)).2
        (h.suffix ((hleft hdistinct).trans (hleft hselect)))
    · exact (after_append (by decide)).2 (h.suffix (hleft hselect))

theorem withoutBlankLines (hP : Tolerant P) (h : AfterCommas P gs) :
    AfterCommas P (withoutBlankLines gs) := by
  have hlines : ∀ {lines : List (List Glyph)},
      AfterCommas P (List.intercalate [.char '\n'] lines) →
        AfterCommas P (List.intercalate [.char '\n']
          (lines.filter fun line => line.any fun g => !g.isBlank)) := by
    intro lines
    induction lines with
    | nil =>
        exact id
    | cons line lines ih =>
        intro hall
        by_cases hempty : lines = []
        · rw [hempty, List.intercalate_singleton] at hall
          rw [hempty, List.filter_cons, List.filter_nil]
          split_ifs
          · rwa [List.intercalate_singleton]
          · exact after_nil
        · rw [intercalate_cons _ _ hempty] at hall
          have hlater := ih (hall.suffix ((List.suffix_append _ _).trans (List.suffix_append _ _)))
          rw [List.filter_cons]
          split_ifs with hline
          · -- The line stays.  What follows it reads as before, if anything is left of it.
            set kept := lines.filter fun line => line.any fun g => !g.isBlank with hkept
            have hread : ∀ gs, tidy (.char '\n' :: gs) = tidy (space :: gs) := fun gs =>
              lenient_tidy.blanks (blanks_singleton (by decide)) (by simp)
                (blanks_singleton isBlank_space) (by simp) gs
            have hsame := tidy_filter_lines lines
            rw [← hkept, ← hread, ← hread] at hsame
            by_cases hnone : kept = []
            · rw [hnone, List.intercalate_singleton]
              rw [hnone] at hsame
              rw [← List.append_nil line]
              exact hall.append_congr lenient_tidy hP.cursory hsame.symm
                (hP.cursory hsame.symm (.inl rfl)) after_nil
            · rw [intercalate_cons _ _ hnone]
              refine hall.append_congr lenient_tidy hP.cursory hsame.symm
                (hP.cursory hsame.symm (.inr rfl)) ?_
              exact afterCommas_cons.2 ⟨fun hcomma => absurd hcomma (by decide), hlater⟩
          · exact hlater
  rw [← intercalate_linesOf gs] at h
  exact hlines h

end Tolerant

/-! ### The commas themselves -/

theorem find?_blanks {p : Glyph → Bool} (hp : ∀ g, g.isBlank = true → p g = false)
    {bs : List Glyph} (hbs : Blanks bs) (gs : List Glyph) : (bs ++ gs).find? p = gs.find? p := by
  rw [List.find?_append, List.find?_eq_none.2 fun b hb => by simp [hp b (hbs b hb)],
    Option.none_or]

theorem lenient_find? {p : Glyph → Bool} (hp : ∀ g, g.isBlank = true → p g = false) :
    Lenient (List.find? p) where
  cons := by
    intro g gs hs h
    rw [List.find?_cons, List.find?_cons, h]
  blanks := by
    intro bs cs hbs _ hcs _ gs
    rw [find?_blanks hp hbs, find?_blanks hp hcs]
  comma := by
    intro bs hbs gs
    rw [List.find?_cons, List.find?_cons, find?_blanks hp hbs]

theorem isParenthesis_eq_false_of_isBlank (g : Glyph) (hg : g.isBlank = true) :
    (g == .char '(' || g == .char ')') = false := by
  have hne : ∀ c : Char, Text.isBlank c = false → (g == .char c) = false := by
    intro c hc
    rw [beq_eq_false_iff_ne]
    rintro rfl
    rw [Glyph.isBlank, hc] at hg
    cases hg
  rw [hne '(' (by decide), hne ')' (by decide), Bool.or_false]

theorem closesNext_blanks {bs : List Glyph} (hbs : Blanks bs) (gs : List Glyph) :
    closesNext (bs ++ gs) = closesNext gs := by
  rw [closesNext, closesNext, find?_blanks isParenthesis_eq_false_of_isBlank hbs]

/-- Which parenthesis comes next is seen in the tidy reading. -/
theorem closesNext_tidy (gs : List Glyph) : closesNext (tidy gs) = closesNext gs := by
  have hend : ∀ {bs : List Glyph}, Blanks bs →
      bs.find? (fun g => g == .char '(' || g == .char ')') = none := by
    intro bs hbs
    conv_lhs => rw [← List.append_nil bs]
    exact find?_blanks isParenthesis_eq_false_of_isBlank hbs []
  have hfind := (lenient_find? isParenthesis_eq_false_of_isBlank).tidy hend gs
  rw [closesNext, closesNext, hfind]

theorem closesNext_congr (h : tidy gs = tidy hs) : closesNext gs = closesNext hs := by
  rw [← closesNext_tidy, h, closesNext_tidy]

theorem commaBreak_comma (before : Option Glyph) (rest : List Glyph) :
    commaBreak before (.char ',' :: rest) =
      if closesNext rest then none
      else some (glyphs (",\n" ++ indent), rest.dropWhile Glyph.isBlank) := rfl

theorem commaBreak_of_ne (before : Option Glyph) {g : Glyph} (hg : g ≠ .char ',')
    (rest : List Glyph) : commaBreak before (g :: rest) = none := by
  unfold commaBreak
  split
  · rename_i heq
    exact absurd (List.cons.inj heq).1 hg
  · rfl

/-- The pass for commas leaves the first glyph as it is. -/
theorem head?_rewriteFrom_commaBreak (before : Option Glyph) (steps : Nat) (gs : List Glyph) :
    (rewriteFrom commaBreak before steps gs).head? = gs.head? := by
  cases gs with
  | nil =>
      cases steps <;> rfl
  | cons g rest =>
      cases steps with
      | zero =>
          rfl
      | succ steps =>
          rw [rewriteFrom]
          by_cases hg : g = .char ','
          · subst hg
            rw [commaBreak_comma]
            split_ifs <;> rfl
          · rw [commaBreak_of_ne before hg]
            rfl

/-- Where a parenthesis is closed next the pass for commas keeps what is said of them.  Elsewhere it
breaks the line. -/
theorem AfterCommas.rewriteFrom_commaBreak (hP : Tolerant P)
    (hbroken : ∀ {gs}, closesNext gs = false → Q (.char '\n' :: gs))
    (hkept : ∀ {gs}, closesNext gs = true → P gs → Q gs) (before : Option Glyph) {steps : Nat}
    (hsteps : gs.length ≤ steps) (h : AfterCommas P gs) :
    AfterCommas Q (rewriteFrom commaBreak before steps gs) := by
  have hread := lenient_tidy.rewriteFrom lenient_tidy.commaBreak
  induction steps generalizing before gs with
  | zero =>
      obtain rfl : gs = [] := List.eq_nil_of_length_eq_zero (Nat.le_zero.1 hsteps)
      exact after_nil
  | succ steps ih =>
      cases gs with
      | nil =>
          exact after_nil
      | cons g rest =>
          have hrest : rest.length ≤ steps := by simpa using hsteps
          rw [afterCommas_cons] at h
          rw [rewriteFrom]
          by_cases hg : g = .char ','
          · subst hg
            rw [commaBreak_comma]
            cases hcloses : closesNext rest with
            | true =>
                rw [if_pos rfl]
                refine afterCommas_cons.2 ⟨fun _ => hkept ?_ ?_, ih _ hrest h.2⟩
                · rw [closesNext_congr (hread _ steps rest), hcloses]
                · exact hP.cursory (hread _ steps rest).symm
                    (.inr (head?_rewriteFrom_commaBreak _ steps rest)) (h.1 rfl)
            | false =>
                rw [if_neg (by simp)]
                set after := rest.dropWhile Glyph.isBlank with hafter
                have hsuffix : after <:+ rest := List.dropWhile_suffix _
                have hnext : closesNext (glyphs indent ++ rewriteFrom commaBreak
                    (lastTaken (.char ',' :: rest) after) steps after) = false := by
                  rcases dropBlanks_split rest with ⟨bs, hbs, hsplit⟩
                  rw [closesNext_blanks (by unfold Blanks; decide), closesNext_congr (hread _ _ _),
                    ← closesNext_blanks hbs, hafter, ← hsplit, hcloses]
                refine afterCommas_cons.2 ⟨fun _ => hbroken hnext, ?_⟩
                have hindent : .char ',' ∉ glyphs ("\n" ++ indent) := by decide
                exact (after_append hindent).2
                  (ih _ (hsuffix.length_le.trans hrest) (h.2.suffix hsuffix))
          · rw [commaBreak_of_ne before hg]
            exact afterCommas_cons.2 ⟨fun hcomma => absurd hcomma hg, ih _ hrest h.2⟩

theorem brokenAtClauses_keeps (hP : Tolerant P) (h : AfterCommas P gs) :
    AfterCommas P (brokenAtClauses gs) := by
  have hmain : ∀ clause ∈ mainClauses, clause ∈ clausePhrases := by decide
  have hjoins : ∀ p ∈ joinPhrases, p ∈ clausePhrases := by decide
  have hclauses := h.foldl (fun clause => breakBefore [clause]) lenient_tidy
    (fun _ => lenient_tidy.breakBefore _) hP.cursory fun clause hclause =>
      hP.keptBy_breakBefore (by simpa using hmain clause hclause)
  exact hclauses.rewrite lenient_tidy (lenient_tidy.breakBefore _) hP.cursory
    (hP.keptBy_breakBefore hjoins)

theorem indentedContent_keeps (hP : Tolerant P) (h : AfterCommas P gs) :
    AfterCommas P (indentedContent gs) := by
  have hindented : ∀ clause ∈ indentedClauses, clause ∈ clausePhrases := by decide
  exact (Tolerant.selectLine h).foldl indentAfter lenient_tidy lenient_tidy.indentAfter hP.cursory
    fun clause hclause => hP.keptBy_indentAfter (hindented clause hclause)

theorem brokenAtConditions_keeps (hP : Tolerant P) (hmark : .char rangeAnd ∉ gs)
    (h : AfterCommas P gs) : AfterCommas P (brokenAtConditions gs) := by
  have hF := lenient_tidy_unmarked
  have hmarked : AfterCommas (fun gs => P (unmarked gs)) gs := h.of_imp fun hs hsuffix hhs => by
    rwa [unmarked_of_not_mem fun hmem => hmark (hsuffix.subset hmem)]
  have hranges := hmarked.rewrite hF spares_rangeMark hP.cursory_unmarked hP.keptBy_rangeMark
  have hlogic := hranges.rewrite hF hF.logicBreak hP.cursory_unmarked hP.keptBy_logicBreak
  exact Tolerant.afterCommas_unmarked hlogic

/-- What is said of the glyphs after commas before the passes that follow the one for keywords, and
what is said of them in the end: the pass for commas makes the one out of the other. -/
theorem afterCommas_layOut (hP : Tolerant P) (hQ : Tolerant Q)
    (hbroken : ∀ {gs}, closesNext gs = false → Q (.char '\n' :: gs))
    (hkept : ∀ {gs}, closesNext gs = true → P gs → Q gs)
    (hmark : .char rangeAnd ∉ upperKeywords (squeezed gs))
    (h : AfterCommas P (upperKeywords (squeezed gs))) : AfterCommas Q (layOut gs) := by
  unfold layOut
  set capital := upperKeywords (squeezed gs)
  have hcontent := indentedContent_keeps hP (brokenAtClauses_keeps hP h)
  have hcommas := AfterCommas.rewriteFrom_commaBreak hP hbroken hkept none le_rfl hcontent
  have hmark' : .char rangeAnd ∉ rewrite commaBreak (indentedContent (brokenAtClauses capital)) := by
    have hread : tidy (rewrite commaBreak (indentedContent (brokenAtClauses capital))) =
        tidy capital :=
      (lenient_tidy.rewrite lenient_tidy.commaBreak _).trans
        ((lenient_tidy.indentedContent _).trans (lenient_tidy.brokenAtClauses _))
    intro hmem
    have hink : .char rangeAnd ∈ ink capital := by
      rw [← ink_tidy, ← hread, ink_tidy]
      exact List.mem_filter.2 ⟨hmem, by decide⟩
    exact hmark (List.mem_filter.1 hink).1
  have hconditions := brokenAtConditions_keeps hQ hmark' hcommas
  have hjoins := hconditions.rewrite lenient_tidy lenient_tidy.joinLine hQ.cursory
    hQ.keptBy_joinLine
  exact hQ.withoutBlankLines hjoins

end Rules

end Layout
end QueryDesigner

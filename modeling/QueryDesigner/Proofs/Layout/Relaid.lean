import Mathlib
import QueryDesigner.Proofs.Layout.Capital
import QueryDesigner.Proofs.Layout.Respelled

/-!
# Glyphs laid out anew

What the passes may change: how many blanks stand together, blanks after commas and at the end, and
the case of letters in words that are no names after a point.

* `Relaid` — glyphs that differ by that;
* `relaid_tidy`, `relaid_upperKeywords` — the tidy reading, and keywords in capitals;
* `Relaid.dropBlanks`, `Relaid.exists_stem` — what stands at the start of such glyphs.
-/

namespace QueryDesigner
namespace Layout

open Sql (Solid isStop)

namespace Glyph

/-- Whether no word starts behind a glyph. -/
def glues : Glyph → Bool
  | char c => Layout.glues c
  | literal _ => false

/-- A character at which a word, a number or a sign may go on. -/
def isSolid : Glyph → Bool
  | char c => !isStop c
  | literal _ => false

end Glyph

/-- The same glyphs in another layout.  The flag says whether a word may start there. -/
inductive Relaid : Bool → List Glyph → List Glyph → Prop where
  | ends {free : Bool} {bs cs : List Glyph} : Blanks bs → Blanks cs → Relaid free bs cs
  | blanks {free : Bool} {bs cs gs hs : List Glyph} :
      Blanks bs → bs ≠ [] → Blanks cs → cs ≠ [] → Relaid true gs hs →
        Relaid free (bs ++ gs) (cs ++ hs)
  | comma {free : Bool} {bs cs gs hs : List Glyph} :
      Blanks bs → Blanks cs → Relaid true gs hs →
        Relaid free (.char ',' :: (bs ++ gs)) (.char ',' :: (cs ++ hs))
  | same {free : Bool} {g : Glyph} {gs hs : List Glyph} :
      g.isBlank = false → g ≠ .char ',' → Relaid (!g.glues) gs hs → Relaid free (g :: gs) (g :: hs)
  | letter {c d : Char} {gs hs : List Glyph} :
      SameLetter c d → Relaid true gs hs → Relaid true (.char c :: gs) (.char d :: hs)

namespace Relaid

variable {free : Bool} {gs hs : List Glyph}

theorem symm (h : Relaid free gs hs) : Relaid free hs gs := by
  induction h with
  | ends hbs hcs =>
      exact .ends hcs hbs
  | blanks hbs hbs' hcs hcs' _ ih =>
      exact .blanks hcs hcs' hbs hbs' ih
  | comma hbs hcs _ ih =>
      exact .comma hcs hbs ih
  | same hblank hcomma _ ih =>
      exact .same hblank hcomma ih
  | letter hletter _ ih =>
      exact .letter hletter.symm ih

/-- Where no word starts less may change. -/
theorem freed (h : Relaid free gs hs) : Relaid true gs hs := by
  cases h with
  | ends hbs hcs =>
      exact .ends hbs hcs
  | blanks hbs hbs' hcs hcs' hrest =>
      exact .blanks hbs hbs' hcs hcs' hrest
  | comma hbs hcs hrest =>
      exact .comma hbs hcs hrest
  | same hblank hcomma hrest =>
      exact .same hblank hcomma hrest
  | letter hletter hrest =>
      exact .letter hletter hrest

/-- A glyph more on both sides. -/
theorem cons (g : Glyph) (h : Relaid (!g.glues) gs hs) : Relaid free (g :: gs) (g :: hs) := by
  cases hblank : g.isBlank with
  | true =>
      exact .blanks (blanks_singleton hblank) (by simp) (blanks_singleton hblank) (by simp) h.freed
  | false =>
      by_cases hcomma : g = .char ','
      · subst hcomma
        exact .comma blanks_nil blanks_nil h.freed
      · exact .same hblank hcomma h

/-- The same glyphs more on both sides. -/
theorem append {ps : List Glyph} (hps : ps ≠ [])
    (h : Relaid (!(ps.getLast hps).glues) gs hs) : Relaid free (ps ++ gs) (ps ++ hs) := by
  induction ps generalizing free with
  | nil =>
      exact absurd rfl hps
  | cons p rest ih =>
      by_cases hrest : rest = []
      · subst hrest
        exact cons p h
      · rw [List.getLast_cons hrest] at h
        exact cons p (ih hrest h)

/-! ## The tidy reading -/

/-- What is laid out as glyphs that start with a space starts with blanks, or nothing is there. -/
theorem exists_of_space (h : Relaid free gs (space :: hs)) :
    ∃ bs cs gs' hs', Blanks bs ∧ Blanks cs ∧ gs = bs ++ gs' ∧ hs = cs ++ hs' ∧
      Relaid true gs' hs' := by
  generalize hks : space :: hs = ks at h
  cases h with
  | ends hbs hcs =>
      subst hks
      exact ⟨gs, hs, [], [], hbs, (blanks_cons.1 hcs).2, by simp, by simp,
        .ends blanks_nil blanks_nil⟩
  | @blanks _ bs cs gs' hs' hbs _ hcs hcs' hrest =>
      cases cs with
      | nil =>
          exact absurd rfl hcs'
      | cons c cs =>
          obtain ⟨-, rfl⟩ := List.cons.inj hks
          exact ⟨bs, cs, gs', hs', hbs, (blanks_cons.1 hcs).2, rfl, rfl, hrest⟩
  | comma =>
      exact absurd (List.cons.inj hks).1 (by decide)
  | same hblank =>
      rw [← (List.cons.inj hks).1, isBlank_space] at hblank
      cases hblank
  | letter hletter =>
      have hblank := isBlank_eq_false_of_isLetter (g := .char _)
        (List.contains_iff_mem.2 hletter.right)
      rw [← (List.cons.inj hks).1, isBlank_space] at hblank
      cases hblank

theorem blanks_of_nil (h : Relaid free gs []) : Blanks gs := by
  generalize hks : ([] : List Glyph) = ks at h
  cases h with
  | ends hbs _ =>
      exact hbs
  | blanks _ _ _ hcs' _ =>
      exact absurd (List.append_eq_nil_iff.1 hks.symm).1 hcs'
  | comma | same | letter =>
      cases hks

theorem cons_spaced {g : Glyph} (hg : g.isBlank = true) (h : Relaid true gs hs) :
    Relaid free (g :: gs) (spaced hs) := by
  cases hs with
  | nil =>
      exact .ends (blanks_cons.2 ⟨hg, h.blanks_of_nil⟩) blanks_nil
  | cons k tail =>
      rw [spaced]
      split_ifs with hk
      · subst hk
        rcases h.exists_of_space with ⟨bs, cs, gs', hs', hbs, hcs, rfl, rfl, hrest⟩
        have hleft : Blanks (g :: bs) := blanks_cons.2 ⟨hg, hbs⟩
        have hright : Blanks (space :: cs) := blanks_cons.2 ⟨isBlank_space, hcs⟩
        exact .blanks hleft (by simp) hright (by simp) hrest
      · exact .blanks (blanks_singleton hg) (by simp) (blanks_singleton isBlank_space) (by simp) h

theorem comma_unspaced (h : Relaid true gs hs) :
    Relaid free (.char ',' :: gs) (.char ',' :: unspaced hs) := by
  cases hs with
  | nil =>
      exact .comma blanks_nil blanks_nil h
  | cons k tail =>
      rw [unspaced]
      split_ifs with hk
      · subst hk
        rcases h.exists_of_space with ⟨bs, cs, gs', hs', hbs, hcs, rfl, rfl, hrest⟩
        exact .comma hbs hcs hrest
      · exact .comma blanks_nil blanks_nil h

end Relaid

theorem relaid_tidy (free : Bool) (gs : List Glyph) : Relaid free gs (tidy gs) := by
  induction gs generalizing free with
  | nil =>
      exact .ends blanks_nil blanks_nil
  | cons g rest ih =>
      rw [tidy_cons]
      cases hblank : g.isBlank with
      | true =>
          rw [tidyStep_of_isBlank hblank]
          exact (ih true).cons_spaced hblank
      | false =>
          by_cases hcomma : g = .char ','
          · subst hcomma
            rw [tidyStep_comma]
            exact (ih true).comma_unspaced
          · rw [tidyStep_of_other hblank hcomma]
            exact .same hblank hcomma (ih _)

/-! ## Keywords -/

theorem sameLetters_upper {word : List Char} (h : ∀ c ∈ word, c.toNat ∈ keywordCodes) :
    List.Forall₂ SameLetter word (Text.upper (String.ofList word)).toList := by
  simp only [Text.upper, String.toList_ofList]
  induction word with
  | nil =>
      exact .nil
  | cons c rest ih =>
      rw [List.forall_mem_cons] at h
      rcases exists_upperChar_of_mem_keywordCodes h.1 with ⟨d, hupper, hd, hself⟩
      rw [List.flatMap_cons, hupper, List.singleton_append]
      exact .cons ⟨h.1, hd, by rw [hupper, hself]⟩ (ih h.2)

theorem Relaid.letters {word shown : List Char} {gs hs : List Glyph}
    (h : List.Forall₂ SameLetter word shown) (hrest : Relaid true gs hs) :
    Relaid true (word.map .char ++ gs) (shown.map .char ++ hs) := by
  induction h with
  | nil =>
      exact hrest
  | cons hletter _ ih =>
      exact .letter hletter ih

/-- The first of the runs goes as far as the word does. -/
theorem exists_first_run (g : Glyph) (gs : List Glyph) :
    ∃ (run tail : List Glyph) (hrun : run ≠ []), g :: gs = run ++ tail ∧
      runs (g :: gs) = run :: runs tail ∧
        ((run.getLast hrun).isWord = true → startsWord tail = false) := by
  induction gs generalizing g with
  | nil =>
      exact ⟨[g], [], by simp, rfl, rfl, fun _ => rfl⟩
  | cons h rest ih =>
      cases hword : g.isWord && startsWord (h :: rest) with
      | false =>
          refine ⟨[g], h :: rest, by simp, rfl, runs_cons_apart hword, fun hg => ?_⟩
          rw [List.getLast_singleton] at hg
          rwa [hg, Bool.true_and] at hword
      | true =>
          rw [Bool.and_eq_true] at hword
          rcases ih h with ⟨run, tail, hrun, hsplit, hruns, hlast⟩
          rcases runs_cons_word hword.1 hword.2 with ⟨h', run', others, _, hruns', hcons⟩
          rw [hruns] at hruns'
          obtain ⟨rfl, rfl⟩ := List.cons.inj hruns'
          exact ⟨g :: h' :: run', tail, by simp, by rw [hsplit]; rfl, hcons, hlast⟩

/-- Whether a word may start behind the glyph before a place. -/
def startsFree (before : Option Glyph) : Bool := !(before.map Glyph.glues).getD false

/-- A word that is no name after a point starts freely. -/
theorem startsFree_of_letter {earlier before : Option Glyph} {c : Char} {gs : List Glyph}
    (hc : c.toNat ∈ keywordCodes) (hname : isQualified earlier before = false)
    (hbefore : (before.map Glyph.isWord).getD false = true → startsWord (.char c :: gs) = false) :
    startsFree before = true := by
  have hword : startsWord (.char c :: gs) = true :=
    isWord_of_isLetter (g := .char c) (List.contains_iff_mem.2 hc)
  have hapart : (before.map Glyph.isWord).getD false = false := by
    by_contra h
    rw [hbefore (by simpa using h)] at hword
    cases hword
  rw [isQualified, Bool.or_eq_false_iff] at hname
  cases before with
  | none =>
      rfl
  | some g =>
      cases g with
      | literal index =>
          rfl
      | char d =>
          have hd : Text.isWordChar d = false := hapart
          have hpoint : (d == '.') = false := by simpa using hname.1
          simp [startsFree, Glyph.glues, glues, hd, hpoint]

theorem relaid_upperRuns {gs : List Glyph} (earlier before : Option Glyph)
    (hbefore : (before.map Glyph.isWord).getD false = true → startsWord gs = false) :
    Relaid (startsFree before) gs (upperRuns earlier before (runs gs)) := by
  induction hlength : gs.length using Nat.strong_induction_on generalizing gs earlier before with
  | _ n ih =>
      cases gs with
      | nil =>
          exact .ends blanks_nil blanks_nil
      | cons g rest =>
          rcases exists_first_run g rest with ⟨run, tail, hrun, hsplit, hruns, hlast⟩
          have hlt : tail.length < n := by
            have hpos := List.length_pos_iff.2 hrun
            rw [← hlength, hsplit, List.length_append]
            omega
          have hend : run.getLast? = some (run.getLast hrun) := List.getLast?_eq_some_getLast hrun
          have htail := ih tail.length hlt (if 2 ≤ run.length then run.dropLast.getLast? else before)
            run.getLast? (by rw [hend]; exact hlast) rfl
          have hafter : startsFree run.getLast? = !(run.getLast hrun).glues := by
            rw [hend]
            rfl
          rw [hruns, hsplit, upperRuns]
          rw [hsplit] at hbefore
          generalize upperRuns (if 2 ≤ run.length then run.dropLast.getLast? else before)
            run.getLast? (runs tail) = shown at htail ⊢
          have hsame : Relaid (startsFree before) (run ++ tail) (run ++ shown) :=
            .append hrun (hafter ▸ htail)
          by_cases hname : isQualified earlier before = true
          · rwa [if_pos hname]
          · rw [if_neg hname, upperRun]
            by_cases hkeyword : isKeyword (spell run) = true
            · rw [if_pos hkeyword]
              have hletters := (toNat_mem_keywordCodes_of_isKeyword hkeyword).2
              have hspell := map_char_spell (allPlain_of_isKeyword hkeyword).plain
              have hanew := Relaid.letters (sameLetters_upper hletters) htail.freed
              rw [hspell] at hanew
              -- The word has a first letter, and that one is no name after a point.
              obtain ⟨c, word, hword⟩ :=
                List.exists_cons_of_ne_nil (toNat_mem_keywordCodes_of_isKeyword hkeyword).1
              rw [hword] at hspell hletters
              rw [← hspell] at hbefore
              rwa [startsFree_of_letter (hletters c List.mem_cons_self) (by simpa using hname)
                hbefore]
            · rwa [if_neg hkeyword]

theorem relaid_upperKeywords (gs : List Glyph) : Relaid true gs (upperKeywords gs) :=
  relaid_upperRuns none none (by simp)

/-! ## What comes first -/

/-- Glyphs that start with a solid text and go on with something else. -/
structure Stem (gs : List Glyph) (t : List Char) (tail : List Glyph) : Prop where
  eq : gs = t.map .char ++ tail
  solid : Solid t
  stops : ∀ g ∈ tail.head?, g.isSolid = false

theorem isSolid_of_isBlank {g : Glyph} (h : g.isBlank = true) : g.isSolid = false := by
  cases g with
  | char c =>
      have hc : Text.isBlank c = true := h
      simp [Glyph.isSolid, isStop, hc]
  | literal index =>
      rfl

theorem Stem.nil {gs : List Glyph} (h : ∀ g ∈ gs.head?, g.isSolid = false) : Stem gs [] gs where
  eq := rfl
  solid := by
    intro c hc
    cases hc
  stops := h

theorem Stem.cons {gs tail : List Glyph} {t : List Char} {c : Char} (hc : isStop c = false)
    (h : Stem gs t tail) : Stem (.char c :: gs) (c :: t) tail where
  eq := by rw [h.eq, List.map_cons, List.cons_append]
  solid := List.forall_mem_cons.2 ⟨hc, h.solid⟩
  stops := h.stops

theorem stem_of_blanks {bs gs : List Glyph} (hbs : Blanks bs) (hne : bs ≠ []) :
    Stem (bs ++ gs) [] (bs ++ gs) := by
  refine .nil fun g hg => isSolid_of_isBlank (hbs g ?_)
  rw [List.head?_append_of_ne_nil _ hne] at hg
  exact List.mem_of_mem_head? hg

namespace Relaid

variable {free : Bool} {gs hs : List Glyph}

theorem dropBlanks (h : Relaid free gs hs) :
    Relaid true (gs.dropWhile Glyph.isBlank) (hs.dropWhile Glyph.isBlank) := by
  induction h with
  | ends hbs hcs =>
      rw [List.dropWhile_eq_nil_iff.2 hbs, List.dropWhile_eq_nil_iff.2 hcs]
      exact .ends blanks_nil blanks_nil
  | blanks hbs _ hcs _ _ ih =>
      rwa [List.dropWhile_append_of_pos hbs, List.dropWhile_append_of_pos hcs]
  | comma hbs hcs hrest _ =>
      rw [List.dropWhile_cons_of_neg (by decide), List.dropWhile_cons_of_neg (by decide)]
      exact .comma hbs hcs hrest
  | same hblank hcomma hrest _ =>
      rw [List.dropWhile_cons_of_neg (by simp [hblank]),
        List.dropWhile_cons_of_neg (by simp [hblank])]
      exact .same hblank hcomma hrest
  | @letter c d gs hs hletter hrest _ =>
      have hink : ∀ {c : Char}, c.toNat ∈ keywordCodes → (Glyph.char c).isBlank = false :=
        fun hc => isBlank_eq_false_of_isLetter (List.contains_iff_mem.2 hc)
      rw [List.dropWhile_cons_of_neg (by simp [hink hletter.left]),
        List.dropWhile_cons_of_neg (by simp [hink hletter.right])]
      exact .letter hletter hrest

/-- What is neither blank nor a comma stands on both sides, but for the case of a letter. -/
theorem exists_of_ink {g : Glyph} (hblank : g.isBlank = false) (hcomma : g ≠ .char ',')
    (h : Relaid free (g :: gs) hs) :
    (∃ hs', hs = g :: hs' ∧ Relaid (!g.glues) gs hs') ∨
      ∃ c d hs', g = .char c ∧ hs = .char d :: hs' ∧ SameLetter c d ∧ Relaid true gs hs' := by
  generalize hks : g :: gs = ks at h
  cases h with
  | ends hbs _ =>
      subst hks
      rw [(blanks_cons.1 hbs).1] at hblank
      cases hblank
  | @blanks _ bs _ _ _ hbs hbs' _ _ _ =>
      cases bs with
      | nil =>
          exact absurd rfl hbs'
      | cons b bs =>
          rw [(List.cons.inj hks).1, (blanks_cons.1 hbs).1] at hblank
          cases hblank
  | comma =>
      exact absurd (List.cons.inj hks).1 hcomma
  | same _ _ hrest =>
      obtain ⟨rfl, rfl⟩ := List.cons.inj hks
      exact .inl ⟨_, rfl, hrest⟩
  | letter hsame hrest =>
      obtain ⟨rfl, rfl⟩ := List.cons.inj hks
      exact .inr ⟨_, _, _, rfl, rfl, hsame, hrest⟩

theorem exists_of_comma (h : Relaid free (.char ',' :: gs) hs) :
    ∃ bs cs gs' hs', Blanks bs ∧ Blanks cs ∧ gs = bs ++ gs' ∧ hs = .char ',' :: (cs ++ hs') ∧
      Relaid true gs' hs' := by
  generalize hks : Glyph.char ',' :: gs = ks at h
  cases h with
  | ends hbs _ =>
      subst hks
      exact absurd (blanks_cons.1 hbs).1 (by decide)
  | @blanks _ bs _ _ _ hbs hbs' _ _ _ =>
      cases bs with
      | nil =>
          exact absurd rfl hbs'
      | cons b bs =>
          have hb := (blanks_cons.1 hbs).1
          rw [← (List.cons.inj hks).1] at hb
          exact absurd hb (by decide)
  | comma hbs hcs hrest =>
      obtain ⟨-, rfl⟩ := List.cons.inj hks
      exact ⟨_, _, _, _, hbs, hcs, rfl, rfl, hrest⟩
  | same _ hcomma _ =>
      exact absurd (List.cons.inj hks).1.symm hcomma
  | letter hsame _ =>
      obtain rfl := Glyph.char.inj (List.cons.inj hks).1
      exact absurd hsame.left (by decide)

theorem exists_of_literal {index : Nat} (h : Relaid free (.literal index :: gs) hs) :
    ∃ hs', hs = .literal index :: hs' ∧ Relaid true gs hs' := by
  rcases h.exists_of_ink rfl (by simp) with hsame | ⟨c, d, hs', heq, -⟩
  · exact hsame
  · cases heq

theorem exists_of_solid {c : Char} (hc : isStop c = false) (h : Relaid free (.char c :: gs) hs) :
    ∃ d hs', hs = .char d :: hs' ∧ (c = d ∨ SameLetter c d) ∧ Relaid true gs hs' := by
  have hcomma : Glyph.char c ≠ .char ',' := by
    intro heq
    obtain rfl := Glyph.char.inj heq
    exact absurd hc (by decide)
  rw [isStop, Bool.or_eq_false_iff] at hc
  rcases h.exists_of_ink (g := .char c) hc.1 hcomma with
    ⟨hs', rfl, hrest⟩ | ⟨_, d, hs', heq, rfl, hsame, hrest⟩
  · exact ⟨c, hs', rfl, .inl rfl, hrest.freed⟩
  · obtain rfl := Glyph.char.inj heq
    exact ⟨d, hs', rfl, .inr hsame, hrest⟩

theorem exists_of_sign {c : Char} (hc : isStop c = false) (hsign : Sql.isSign c = true)
    (h : Relaid free (.char c :: gs) hs) : ∃ hs', hs = .char c :: hs' ∧ Relaid true gs hs' := by
  rcases h.exists_of_solid hc with ⟨d, hs', rfl, rfl | hsame, hrest⟩
  · exact ⟨hs', rfl, hrest⟩
  · exact absurd rfl (ne_of_letter hsame.left hsign)

/-- The solid texts in front differ by letters only, and whatever stops them does on both sides. -/
theorem exists_stem (h : Relaid free gs hs) :
    ∃ t t' gs' hs', Stem gs t gs' ∧ Stem hs t' hs' ∧ Respelled free t t' ∧
      ∀ free, Relaid free gs' hs' := by
  induction h with
  | @ends free bs cs hbs hcs =>
      refine ⟨[], [], bs, cs, .nil ?_, .nil ?_, .nil, fun free => .ends hbs hcs⟩
      · exact fun b hb => isSolid_of_isBlank (hbs b (List.mem_of_mem_head? hb))
      · exact fun c hc => isSolid_of_isBlank (hcs c (List.mem_of_mem_head? hc))
  | blanks hbs hbs' hcs hcs' hrest _ =>
      exact ⟨[], [], _, _, stem_of_blanks hbs hbs', stem_of_blanks hcs hcs', .nil,
        fun free => .blanks hbs hbs' hcs hcs' hrest⟩
  | comma hbs hcs hrest _ =>
      refine ⟨[], [], _, _, .nil ?_, .nil ?_, .nil, fun free => .comma hbs hcs hrest⟩
      · simp [Glyph.isSolid, isStop]
      · simp [Glyph.isSolid, isStop]
  | @same free g gs hs hblank hcomma hrest ih =>
      cases hsolid : g.isSolid with
      | false =>
          exact ⟨[], [], g :: gs, g :: hs, .nil (by simpa using hsolid),
            .nil (by simpa using hsolid), .nil, fun free => .same hblank hcomma hrest⟩
      | true =>
          cases g with
          | literal index =>
              cases hsolid
          | char c =>
              have hc : isStop c = false := by simpa [Glyph.isSolid] using hsolid
              rcases ih with ⟨t, t', gs', hs', hstem, hstem', hspell, hany⟩
              exact ⟨c :: t, c :: t', gs', hs', hstem.cons hc, hstem'.cons hc, .same hspell, hany⟩
  | letter hletter _ ih =>
      rcases ih with ⟨t, t', gs', hs', hstem, hstem', hspell, hany⟩
      exact ⟨_ :: t, _ :: t', gs', hs', hstem.cons (isStop_of_letter hletter.left),
        hstem'.cons (isStop_of_letter hletter.right), .letter hletter hspell, hany⟩

/-- Solid texts that differ by letters, before glyphs in another layout. -/
theorem of_respelled {t t' : List Char} (h : Respelled free t t') (ht : Solid t)
    (hrest : ∀ free, Relaid free gs hs) : Relaid free (t.map .char ++ gs) (t'.map .char ++ hs) := by
  induction h with
  | nil =>
      exact hrest _
  | @same free c cs ds _ ih =>
      have hc : isStop c = false := ht c List.mem_cons_self
      have hcomma : Glyph.char c ≠ .char ',' := by
        intro heq
        obtain rfl := Glyph.char.inj heq
        exact absurd hc (by decide)
      rw [isStop, Bool.or_eq_false_iff] at hc
      exact .same hc.1 hcomma (ih ht.tail)
  | letter hletter _ ih =>
      exact .letter hletter (ih ht.tail)

end Relaid

end Layout
end QueryDesigner

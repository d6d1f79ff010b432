import Mathlib
import QueryDesigner.Proofs.Layout.Legible
import QueryDesigner.Proofs.Layout.Relaid

/-!
# One token in another layout

What the lexer cuts off first does not depend on the layout: the same literal, phrase, word, number
or sign comes first, and what is left differs by the layout again.

* `Onward` — what follows on both sides, but for blanks at the start;
* `Relaid.content?`, `literalPiece?` — literals, and those right behind them;
* `Relaid.phraseAfter?` — two words that are one keyword;
* `ReadsAlike`, `Relaid.readsAlike` — the first token, and what follows it.
-/

namespace QueryDesigner
namespace Layout

open Sql (Lexeme Solid Stops isStop isWordPart isNext isNext_eq_true_iff startsName startsComment
  startsMarked)

variable {literals : List (List Char)} {gs hs : List Glyph} {free : Bool}

/-! ## What comes next -/

/-- What no blank and no letter may stand for comes next on both sides. -/
theorem Relaid.isNext_fill (h : Relaid free gs hs) {d : Char} (hblank : Text.isBlank d = false)
    (hletter : d.toNat ∉ keywordCodes) :
    isNext d (fill literals gs) = isNext d (fill literals hs) := by
  have hblanks : ∀ {bs gs : List Glyph}, Blanks bs → bs ≠ [] →
      isNext d (fill literals (bs ++ gs)) = false := by
    intro bs gs hbs hne
    cases bs with
    | nil =>
        exact absurd rfl hne
    | cons b bs =>
        have hb := (blanks_cons.1 hbs).1
        cases b with
        | literal index =>
            cases hb
        | char c =>
            have hne : c ≠ d := by
              rintro rfl
              rw [show Text.isBlank c = true from hb] at hblank
              cases hblank
            simpa [isNext, Glyph.read] using hne
  induction h with
  | @ends free bs cs hbs hcs =>
      have hend : ∀ {bs : List Glyph}, Blanks bs → isNext d (fill literals bs) = false := by
        intro bs hbs
        by_cases hne : bs = []
        · rw [hne]
          rfl
        · rw [← List.append_nil bs]
          exact hblanks hbs hne
      rw [hend hbs, hend hcs]
  | blanks hbs hbs' hcs hcs' _ _ =>
      rw [hblanks hbs hbs', hblanks hcs hcs']
  | comma =>
      rfl
  | @same free g gs hs _ _ _ ih =>
      rw [fill_cons, fill_cons]
      cases g.read literals with
      | nil =>
          exact ih
      | cons c cs =>
          rfl
  | @letter c c' gs hs hsame _ _ =>
      have hne : ∀ {c : Char}, c.toNat ∈ keywordCodes → c ≠ d := by
        rintro c hc rfl
        exact hletter hc
      have hleft : isNext d (fill literals (.char c :: gs)) = false := by
        simpa [isNext, Glyph.read] using hne hsame.left
      have hright : isNext d (fill literals (.char c' :: hs)) = false := by
        simpa [isNext, Glyph.read] using hne hsame.right
      rw [hleft, hright]

/-! ## What follows -/

/-- What follows on both sides is what is left of the glyphs, but for blanks at the start. -/
def Onward (literals : List (List Char)) (gs hs : List Glyph) (rest rest' : List Char) : Prop :=
  ∃ gs' hs', gs' <:+ gs ∧ hs' <:+ hs ∧ Relaid true gs' hs' ∧
    Text.dropBlanks rest = Text.dropBlanks (fill literals gs') ∧
    Text.dropBlanks rest' = Text.dropBlanks (fill literals hs')

theorem Onward.mono {gs' hs' : List Glyph} {rest rest' : List Char}
    (h : Onward literals gs' hs' rest rest') (hgs : gs' <:+ gs) (hhs : hs' <:+ hs) :
    Onward literals gs hs rest rest' := by
  rcases h with ⟨ks, ls, hks, hls, hrelaid, hrest, hrest'⟩
  exact ⟨ks, ls, hks.trans hgs, hls.trans hhs, hrelaid, hrest, hrest'⟩

theorem Relaid.onward (h : Relaid free gs hs) :
    Onward literals gs hs (fill literals gs) (fill literals hs) :=
  ⟨gs, hs, List.suffix_rfl, List.suffix_rfl, h.freed, rfl, rfl⟩

/-! ## Literals -/

theorem not_mem_keywordCodes_of_isQuote {c : Char} (h : isQuote c = true) :
    c.toNat ∉ keywordCodes := by
  rcases isQuote_cases h with rfl | rfl | rfl
  all_goals decide

/-- Without one more quote a literal ends there on both sides. -/
theorem Relaid.content?_of_apart (h : Relaid true gs hs) {quote : Char}
    {body content text rest : List Char} (hquote : isQuote quote = true)
    (hcloses : Closes quote body content) (hnext : isNext quote (fill literals gs) = false)
    (hread : content? quote (body ++ fill literals gs) = some (text, rest)) :
    ∃ rest', content? quote (body ++ fill literals hs) = some (text, rest') ∧
      Onward literals gs hs rest rest' := by
  have hnext' : isNext quote (fill literals hs) = false := by
    rw [← h.isNext_fill (isBlank_eq_false_of_isQuote hquote)
      (not_mem_keywordCodes_of_isQuote hquote), hnext]
  have hne : ∀ {cs : List Char}, isNext quote cs = false → cs.head? ≠ some quote := by
    intro cs hcs heq
    rw [isNext_eq_true_iff.2 heq] at hcs
    cases hcs
  rw [hcloses.apart _ (hne hnext)] at hread
  obtain ⟨rfl, rfl⟩ := Prod.mk.inj (Option.some.inj hread)
  exact ⟨_, hcloses.apart _ (hne hnext'), h.onward⟩

/-- A literal and the ones right behind it are read alike. -/
theorem Relaid.content? (h : Relaid true gs hs) (hgs : Legible literals gs)
    {quote : Char} {body content text rest : List Char}
    (hquote : isQuote quote = true) (hcloses : Closes quote body content)
    (hread : content? quote (body ++ fill literals gs) = some (text, rest)) :
    ∃ rest', Layout.content? quote (body ++ fill literals hs) = some (text, rest') ∧
      Onward literals gs hs rest rest' := by
  induction gs generalizing hs body content text with
  | nil =>
      exact h.content?_of_apart hquote hcloses rfl hread
  | cons g gs ih =>
      cases hnext : isNext quote (fill literals (g :: gs)) with
      | false =>
          exact h.content?_of_apart hquote hcloses hnext hread
      | true =>
          cases g with
          | char c =>
              -- One more quote, but none after it: the literal would not end.
              obtain rfl : c = quote := Option.some.inj (isNext_eq_true_iff.1 hnext)
              have hnone := hcloses.twice (fill literals gs)
              rw [hgs.char hquote] at hnone
              exact absurd (hread.symm.trans hnone) (by simp)
          | literal index =>
              rcases h.exists_of_literal with ⟨hs', rfl, hrest⟩
              rcases hgs.literal with ⟨quote', body', content', -, hcloses', hfill⟩
              rw [hfill] at hnext hread
              obtain rfl : quote' = quote := Option.some.inj (isNext_eq_true_iff.1 hnext)
              rw [hcloses.twice] at hread
              rcases Option.map_eq_some_iff.1 hread with ⟨⟨text', after⟩, hread', heq⟩
              obtain ⟨rfl, rfl⟩ := Prod.mk.inj heq
              rcases ih hrest hgs.tail hcloses' hread' with ⟨rest', hanew, honward⟩
              refine ⟨rest', ?_, honward.mono (List.suffix_cons _ _) (List.suffix_cons _ _)⟩
              rw [hfill, hcloses.twice, hanew]
              rfl

/-- What the lexer makes of the content of a literal. -/
def literalPiece? (token? : List Char → Option Lexeme) (content : Option (List Char × List Char)) :
    Option (Sql.Piece × List Char) :=
  content.bind fun (text, rest) => (token? text).map fun l => (.token l, rest)

theorem literalPiece?_eq_some {token? : List Char → Option Lexeme}
    {content : Option (List Char × List Char)} {l : Lexeme} {rest : List Char} :
    literalPiece? token? content = some (.token l, rest) ↔
      ∃ text, content = some (text, rest) ∧ token? text = some l := by
  simp only [literalPiece?, Option.bind_eq_some_iff, Option.map_eq_some_iff, Prod.exists,
    Prod.mk.injEq, Sql.Piece.token.injEq]
  constructor
  · rintro ⟨text, _, hcontent, _, hl, rfl, rfl⟩
    exact ⟨text, hcontent, hl⟩
  · rintro ⟨text, hcontent, hl⟩
    exact ⟨text, rest, hcontent, l, hl, rfl, rfl⟩

theorem quotedPiece_eq (kind : Sql.TokenKind) (content : Option (List Char × List Char))
    (h : (kind == .number) = false) :
    Sql.quotedPiece kind content h =
      literalPiece? (fun text => some (.of kind (String.ofList text) h)) content := by
  cases content <;> rfl

/-- The number in another base that the content of a literal stands for. -/
def radixToken? (kind : Sql.TokenKind) (letter : Char) (digit : Char → Bool)
    (h : (kind == .number) = false) (digits : List Char) : Option Lexeme :=
  if digits.isEmpty || Text.isRadixNumeral letter digit digits then
    some (.of kind (String.ofList digits) h)
  else none

theorem quotedRadix_eq (kind : Sql.TokenKind) (letter : Char) (digit : Char → Bool)
    (cs : List Char) (h : (kind == .number) = false) :
    Sql.quotedRadix kind letter digit cs h =
      literalPiece? (radixToken? kind letter digit h) (Layout.content? '\'' cs) := by
  rw [content?_text (by decide), Sql.quotedRadix]
  cases Sql.readText? '\'' cs with
  | none =>
      rfl
  | some content =>
      rcases content with ⟨digits, rest⟩
      dsimp only [literalPiece?, radixToken?, Option.bind_some]
      split_ifs <;> rfl

theorem exists_literalPiece? {quote : Char} (hquote : isQuote quote = true) :
    ∃ token?, ∀ cs, Sql.readPiece? (quote :: cs) =
      literalPiece? token? (Layout.content? quote cs) := by
  rcases isQuote_cases hquote with rfl | rfl | rfl
  · exact ⟨_, fun cs => quotedPiece_eq .text _ rfl⟩
  · exact ⟨_, fun cs => quotedPiece_eq .text _ rfl⟩
  · exact ⟨_, fun cs => quotedPiece_eq .name _ rfl⟩

/-- The letters that mark a literal are the same in either case. -/
theorem mem_marks_of_sameLetter {c d : Char} (hsame : c = d ∨ SameLetter c d) :
    ∀ letters ∈ [['n', 'N'], ['x', 'X'], ['b', 'B']], c ∈ letters → d ∈ letters := by
  intro letters hletters hc
  rcases hsame with rfl | hsame
  · exact hc
  · have hd := of_mem_keywordCodes (p := fun d =>
      [['n', 'N'], ['x', 'X'], ['b', 'B']].all fun letters => letters.contains d ||
        letters.all fun c => Text.upperChar c != Text.upperChar d) (by decide +kernel) hsame.right
    have hgroup := List.all_eq_true.1 hd letters hletters
    rw [Bool.or_eq_true, List.contains_iff_mem] at hgroup
    rcases hgroup with hmem | hne
    · exact hmem
    · have hupper := List.all_eq_true.1 hne c hc
      simp [hsame.upper] at hupper

/-- A letter in front of a literal says of what kind it is, in either case. -/
theorem exists_literalPiece?_of_marked {c quote : Char} {cs : List Char}
    (hmarked : startsMarked (c :: quote :: cs) = true) :
    ∃ letters ∈ [['n', 'N'], ['x', 'X'], ['b', 'B']], c ∈ letters ∧
      ∃ token?, ∀ d ∈ letters, ∀ cs, Sql.readPiece? (d :: quote :: cs) =
        literalPiece? token? (Layout.content? quote cs) := by
  have hmark : quote = '\'' ∧ c ∈ ['n', 'N', 'x', 'X', 'b', 'B'] ∨
      quote = '"' ∧ c ∈ ['n', 'N'] := by
    simpa [startsMarked, isNext, and_comm] using hmarked
  have hnational : quote = '\'' ∨ quote = '"' → ∀ d ∈ ['n', 'N'], ∀ cs,
      Sql.readPiece? (d :: quote :: cs) =
        literalPiece? (fun text => some (.of .national (String.ofList text)))
          (Layout.content? quote cs) := by
    intro hquote d hd cs
    simp only [List.mem_cons, List.not_mem_nil, or_false] at hd
    rcases hquote with rfl | rfl <;> rcases hd with rfl | rfl
    all_goals exact quotedPiece_eq .national _ rfl
  have hhex : ∀ d ∈ ['x', 'X'], ∀ cs, Sql.readPiece? (d :: '\'' :: cs) =
      literalPiece? (radixToken? .hex 'x' Sql.isHexDigit rfl) (Layout.content? '\'' cs) := by
    intro d hd cs
    simp only [List.mem_cons, List.not_mem_nil, or_false] at hd
    rcases hd with rfl | rfl
    all_goals exact quotedRadix_eq .hex _ _ _ rfl
  have hbits : ∀ d ∈ ['b', 'B'], ∀ cs, Sql.readPiece? (d :: '\'' :: cs) =
      literalPiece? (radixToken? .bits 'b' Sql.isBit rfl) (Layout.content? '\'' cs) := by
    intro d hd cs
    simp only [List.mem_cons, List.not_mem_nil, or_false] at hd
    rcases hd with rfl | rfl
    all_goals exact quotedRadix_eq .bits _ _ _ rfl
  rcases hmark with ⟨rfl, hc⟩ | ⟨rfl, hc⟩
  · have hgroup : c ∈ ['n', 'N'] ∨ c ∈ ['x', 'X'] ∨ c ∈ ['b', 'B'] := by
      simpa [or_assoc] using hc
    rcases hgroup with hc | hc | hc
    · exact ⟨_, by simp, hc, _, hnational (.inl rfl)⟩
    · exact ⟨_, by simp, hc, _, hhex⟩
    · exact ⟨_, by simp, hc, _, hbits⟩
  · exact ⟨_, by simp, hc, _, hnational (.inr rfl)⟩

/-! ## One token -/

/-- A token on the left is a token on the right but for letter case, and what follows it does. -/
def ReadsAlike (literals : List (List Char)) (gs hs : List Glyph) : Prop :=
  ∀ l rest, Sql.readPiece? (fill literals gs) = some (.token l, rest) →
    ∃ l' rest', Sql.readPiece? (fill literals hs) = some (.token l', rest') ∧
      l.key (startsName (fill literals gs)) = l'.key (startsName (fill literals hs)) ∧
        Onward literals gs hs rest rest'

theorem readsAlike_of_comma {bs cs : List Glyph} (hbs : Blanks bs) (hcs : Blanks cs)
    (hrest : Relaid true gs hs) :
    ReadsAlike literals (.char ',' :: (bs ++ gs)) (.char ',' :: (cs ++ hs)) := by
  intro l rest hread
  have hcomma : ∀ gs, fill literals (.char ',' :: gs) = ',' :: fill literals gs := fun _ => rfl
  have hsuffix : ∀ ps gs : List Glyph, gs <:+ .char ',' :: (ps ++ gs) := fun ps gs =>
    (List.suffix_append ps gs).trans (List.suffix_cons _ _)
  rw [hcomma, Sql.readPiece?_comma] at hread
  cases hread
  exact ⟨_, _, Sql.readPiece?_comma _, rfl, gs, hs, hsuffix bs gs, hsuffix cs hs, hrest,
    dropBlanks_fill_append hbs gs, dropBlanks_fill_append hcs hs⟩

theorem readsAlike_of_literal {index : Nat} (hrest : Relaid true gs hs)
    (hgs : Legible literals (.literal index :: gs)) :
    ReadsAlike literals (.literal index :: gs) (.literal index :: hs) := by
  intro l rest hread
  rcases hgs.literal with ⟨quote, body, content, hquote, hcloses, hfill⟩
  rcases exists_literalPiece? hquote with ⟨token?, hpiece⟩
  rw [hfill, hpiece] at hread
  rcases literalPiece?_eq_some.1 hread with ⟨text, htext, hl⟩
  rcases hrest.content? hgs.tail hquote hcloses htext with ⟨rest', htext', honward⟩
  refine ⟨l, rest', ?_, ?_, honward.mono (List.suffix_cons _ _) (List.suffix_cons _ _)⟩
  · rw [hfill, hpiece, literalPiece?_eq_some]
    exact ⟨text, htext', hl⟩
  · rw [hfill, hfill]
    rfl

theorem readsAlike_of_marked {c d : Char} (hsame : c = d ∨ SameLetter c d)
    (hrest : Relaid true gs hs) (hgs : Legible literals (.char c :: gs))
    (hmarked : startsMarked (c :: fill literals gs) = true) :
    ReadsAlike literals (.char c :: gs) (.char d :: hs) := by
  intro l rest hread
  have hchar : ∀ (c : Char) gs, fill literals (.char c :: gs) = c :: fill literals gs :=
    fun _ _ => rfl
  rw [hchar] at hread
  have hquoted : ∃ quote cs, isQuote quote = true ∧ fill literals gs = quote :: cs := by
    cases hcs : fill literals gs with
    | nil =>
        rw [hcs] at hmarked
        simp [startsMarked, isNext] at hmarked
    | cons quote cs =>
        rw [hcs] at hmarked
        refine ⟨quote, cs, ?_, rfl⟩
        simp only [startsMarked, isNext, List.head?_cons, Option.map_some, Option.getD_some,
          Bool.or_eq_true, Bool.and_eq_true, beq_iff_eq] at hmarked
        rcases hmarked with ⟨-, rfl⟩ | ⟨-, rfl⟩
        · decide
        · decide
  rcases hquoted with ⟨quote, cs, hquote, hcs⟩
  rw [hcs] at hmarked
  rcases exists_literalPiece?_of_marked hmarked with ⟨letters, hletters, hc, token?, hpiece⟩
  have hd := mem_marks_of_sameLetter hsame letters hletters hc
  cases gs with
  | nil =>
      cases hcs
  | cons g gs =>
      cases g with
      | char e =>
          -- A quote that is not closed leaves nothing to read.
          obtain ⟨rfl, rfl⟩ := List.cons.inj hcs
          rw [hchar, hpiece c hc, hgs.tail.char hquote] at hread
          cases hread
      | literal index =>
          rcases hrest.exists_of_literal with ⟨hs', rfl, hrest'⟩
          rcases hgs.tail.literal with ⟨quote', body, content, -, hcloses, hfill⟩
          rw [hfill] at hcs
          obtain ⟨rfl, rfl⟩ := List.cons.inj hcs
          rw [hfill, hpiece c hc] at hread
          rcases literalPiece?_eq_some.1 hread with ⟨text, htext, hl⟩
          rcases hrest'.content? hgs.tail.tail hquote hcloses htext with ⟨rest', htext', honward⟩
          refine ⟨l, rest', ?_, ?_, honward.mono ?_ ?_⟩
          · rw [hchar, hfill, hpiece d hd, literalPiece?_eq_some]
            exact ⟨text, htext', hl⟩
          · have hplain : [['n', 'N'], ['x', 'X'], ['b', 'B']].all (fun letters =>
                letters.all fun c => !(c == '`')) = true := by
              decide
            have hname : ∀ {c : Char}, c ∈ letters → ∀ cs, startsName (c :: cs) = false := by
              intro c hc cs
              simpa [startsName] using
                List.all_eq_true.1 (List.all_eq_true.1 hplain letters hletters) c hc
            rw [hchar, hchar, hname hc, hname hd]
          · exact (List.suffix_cons _ _).trans (List.suffix_cons _ _)
          · exact (List.suffix_cons _ _).trans (List.suffix_cons _ _)

/-! ## Words, numbers and signs -/

/-- What is left of solid texts, and what stops them. -/
theorem onward_of_stems {t t' r r' : List Char} {tail tail' : List Glyph} (hstem : Stem gs t tail)
    (hstem' : Stem hs t' tail') (hr : r <:+ t) (hr' : r' <:+ t') (hspell : Respelled free r r')
    (hany : ∀ free, Relaid free tail tail') :
    Onward literals gs hs (r ++ fill literals tail) (r' ++ fill literals tail') := by
  have hfill : ∀ (r : List Char) tail, r ++ fill literals tail =
      fill literals (r.map .char ++ tail) := by
    intro r tail
    rw [fill_append, fill_map_char]
  have hsuffix : ∀ {r t : List Char} (tail : List Glyph), r <:+ t →
      r.map .char ++ tail <:+ t.map .char ++ tail := by
    rintro r _ tail ⟨taken, rfl⟩
    rw [List.map_append, List.append_assoc]
    exact List.suffix_append _ _
  have hsolid : Solid r := fun c hc => hstem.solid c (hr.subset hc)
  rw [hfill, hfill, hstem.eq, hstem'.eq]
  exact (Relaid.of_respelled hspell hsolid hany).onward.mono (hsuffix _ hr) (hsuffix _ hr')

theorem length_fill_dropBlanks_lt_iff :
    (fill literals (gs.dropWhile Glyph.isBlank)).length < (fill literals gs).length ↔
      ∃ g ∈ gs.head?, g.isBlank = true := by
  cases gs with
  | nil =>
      simp
  | cons g rest =>
      cases hg : g.isBlank with
      | false =>
          simp [List.dropWhile_cons_of_neg, hg]
      | true =>
          refine iff_of_true ?_ ⟨g, rfl, hg⟩
          cases g with
          | literal index =>
              cases hg
          | char c =>
              rcases List.dropWhile_suffix Glyph.isBlank (l := rest) with ⟨taken, htaken⟩
              rw [List.dropWhile_cons_of_pos hg, fill_cons]
              conv_rhs => rw [← htaken]
              rw [fill_append]
              simp [Glyph.read]

/-- Blanks in front of something are blanks in front of it in any layout. -/
theorem Relaid.startsBlank (h : Relaid free gs hs) (hink : gs.dropWhile Glyph.isBlank ≠ [])
    (hblank : ∃ g ∈ gs.head?, g.isBlank = true) : ∃ g ∈ hs.head?, g.isBlank = true := by
  rcases hblank with ⟨g, hg, hblank⟩
  cases h with
  | ends hbs _ =>
      exact absurd (List.dropWhile_eq_nil_iff.2 hbs) hink
  | @blanks _ _ cs _ _ _ _ hcs hcs' _ =>
      cases cs with
      | nil =>
          exact absurd rfl hcs'
      | cons c cs =>
          exact ⟨c, rfl, (blanks_cons.1 hcs).1⟩
  | comma =>
      obtain rfl := Option.some.inj hg
      exact absurd hblank (by decide)
  | same hink' _ _ =>
      obtain rfl := Option.some.inj hg
      rw [hink'] at hblank
      cases hblank
  | letter hsame _ =>
      obtain rfl := Option.some.inj hg
      rw [isBlank_eq_false_of_isLetter (g := .char _) (List.contains_iff_mem.2 hsame.left)] at hblank
      cases hblank

theorem ink_of_phrase {word : String} {rest : List Char} {both : String} {after : List Char}
    (h : Sql.phraseAfter? word rest = some (both, after)) : Text.dropBlanks rest ≠ [] := by
  intro hnil
  have hends : Sql.phrases.all (fun phrase => phrase.toList.getLast? != some ' ') = true := by
    decide +kernel
  simp only [Sql.phraseAfter?, hnil] at h
  split_ifs at h with hphrase
  have hend := List.all_eq_true.1 hends _ (List.contains_iff_mem.1 hphrase.2)
  simp [Text.upper] at hend

/-- Two words that are one keyword are so in any layout. -/
theorem Relaid.phraseAfter? (h : Relaid true gs hs) (hgs : Legible literals gs)
    (hhs : Legible literals hs) {word word' : String} (hword : Text.upper word = Text.upper word')
    {both : String} {after : List Char}
    (hphrase : Sql.phraseAfter? word (fill literals gs) = some (both, after)) :
    ∃ after', Sql.phraseAfter? word' (fill literals hs) = some (both, after') ∧
      Onward literals gs hs after after' := by
  have hink : gs.dropWhile Glyph.isBlank ≠ [] := by
    intro hnil
    refine ink_of_phrase hphrase ?_
    rw [hgs.dropBlanks_fill, hnil, fill_nil]
  rcases h.dropBlanks.exists_stem with ⟨t, t', tail, tail', hstem, hstem', hspell, hany⟩
  rcases hspell.span with ⟨hsecond, _, hleft⟩
  have hread : ∀ {gs : List Glyph} {t : List Char} {tail : List Glyph}, Legible literals gs →
      Stem (gs.dropWhile Glyph.isBlank) t tail → ∀ word,
      Sql.phraseAfter? word (fill literals gs) =
        if (∃ g ∈ gs.head?, g.isBlank = true) ∧ Sql.phrases.contains (Text.upper word ++ " " ++
            Text.upper (String.ofList (t.takeWhile isWordPart))) then
          some (Text.upper word ++ " " ++ Text.upper (String.ofList (t.takeWhile isWordPart)),
            t.dropWhile isWordPart ++ fill literals tail)
        else none := by
    intro gs t tail hlegible hstem word
    have htail : Legible literals tail := by
      refine hlegible.suffix (List.IsSuffix.trans ?_ (List.dropWhile_suffix Glyph.isBlank))
      rw [hstem.eq]
      exact List.suffix_append _ _
    have hstops := htail.stops_fill hstem.stops
    simp only [Sql.phraseAfter?, hlegible.dropBlanks_fill, length_fill_dropBlanks_lt_iff]
    simp only [hstem.eq, fill_append, fill_map_char,
      Sql.takeWhile_append_of_stops (fun _ => Sql.isWordPart_of_isStop) hstops,
      Sql.dropWhile_append_of_stops (fun _ => Sql.isWordPart_of_isStop) hstops]
  rw [hread hgs hstem] at hphrase
  split_ifs at hphrase with hboth
  obtain ⟨rfl, rfl⟩ := Prod.mk.inj (Option.some.inj hphrase)
  refine ⟨t'.dropWhile isWordPart ++ fill literals tail', ?_, ?_⟩
  · rw [hread hhs hstem', ← hword, ← hsecond.upper,
      if_pos ⟨h.startsBlank hink hboth.1, hboth.2⟩]
  · have honward : Onward literals (gs.dropWhile Glyph.isBlank) (hs.dropWhile Glyph.isBlank) _ _ :=
      onward_of_stems hstem hstem' (List.dropWhile_suffix isWordPart)
        (List.dropWhile_suffix isWordPart) hleft hany
    exact honward.mono (List.dropWhile_suffix _) (List.dropWhile_suffix _)

theorem Stem.exists_cons {c : Char} {t : List Char} {tail : List Glyph} (hc : isStop c = false)
    (h : Stem (.char c :: gs) t tail) : ∃ t', t = c :: t' ∧ gs = t'.map .char ++ tail := by
  cases t with
  | nil =>
      have hstop := h.stops (.char c) (by rw [show tail = .char c :: gs from h.eq.symm]; rfl)
      simp [Glyph.isSolid, hc] at hstop
  | cons d t' =>
      obtain ⟨heq, htail⟩ := List.cons.inj h.eq
      obtain rfl := Glyph.char.inj heq
      exact ⟨t', rfl, htail⟩

/-- Signs stay, so comments do not come or go. -/
theorem startsComment_congr {c d : Char} {cs ds : List Char} (hsame : c = d ∨ SameLetter c d)
    (hnext : ∀ e ∈ ['-', '>', '*'], isNext e cs = isNext e ds) :
    startsComment (c :: cs) = startsComment (d :: ds) := by
  rcases hsame with rfl | hsame
  · rw [startsComment, startsComment, hnext '-' (by simp), hnext '>' (by simp),
      hnext '*' (by simp)]
  · have hnone : ∀ {c : Char} {cs : List Char}, c.toNat ∈ keywordCodes →
        startsComment (c :: cs) = false := by
      intro c cs hc
      have hne : ∀ {e : Char}, Sql.isSign e = true → (c == e) = false :=
        fun he => beq_eq_false_iff_ne.2 (ne_of_letter hc he).symm
      rw [startsComment, hne (by decide), hne (by decide), hne (by decide)]
      rfl
    rw [hnone hsame.left, hnone hsame.right]

theorem startsMarked_congr {c d : Char} {cs ds : List Char} (hsame : c = d ∨ SameLetter c d)
    (hnext : ∀ e ∈ ['\'', '"'], isNext e cs = isNext e ds) :
    startsMarked (c :: cs) = startsMarked (d :: ds) := by
  have hgroup : ∀ letters ∈ [['n', 'N'], ['x', 'X'], ['b', 'B']],
      letters.contains c = letters.contains d := by
    intro letters hletters
    have hback : d = c ∨ SameLetter d c := hsame.imp Eq.symm SameLetter.symm
    rw [Bool.eq_iff_iff, List.contains_iff_mem, List.contains_iff_mem]
    exact ⟨mem_marks_of_sameLetter hsame letters hletters,
      mem_marks_of_sameLetter hback letters hletters⟩
  have hall : ∀ c : Char, ['n', 'N', 'x', 'X', 'b', 'B'].contains c =
      (['n', 'N'].contains c || ['x', 'X'].contains c || ['b', 'B'].contains c) := by
    intro c
    simp [Bool.or_assoc]
  rw [startsMarked, startsMarked, hall, hall, hgroup ['n', 'N'] (by simp),
    hgroup ['x', 'X'] (by simp), hgroup ['b', 'B'] (by simp), hnext '\'' (by simp),
    hnext '"' (by simp)]

/-- Stems that are one word are so on both sides. -/
theorem phraseAfter?_eq_none {c d : Char} {t t' : List Char} {free : Bool}
    (hspell : Respelled free (c :: t) (d :: t')) (h : Relaid true gs hs)
    (hgs : Legible literals gs) (hhs : Legible literals hs)
    (hnone : (∀ e ∈ c :: t, isWordPart e = true) → Text.isDigit c = false →
      Sql.phraseAfter? (String.ofList (c :: t)) (fill literals gs) = none)
    (hword : ∀ e ∈ d :: t', isWordPart e = true) (hdigit : Text.isDigit d = false) :
    Sql.phraseAfter? (String.ofList (d :: t')) (fill literals hs) = none := by
  rw [← hspell.isDigit_head_eq] at hdigit
  have hleft := hnone (hspell.symm.isWordPart_of_mem hword) hdigit
  cases hphrase : Sql.phraseAfter? (String.ofList (d :: t')) (fill literals hs) with
  | none =>
      rfl
  | some phrase =>
      rcases h.symm.phraseAfter? hhs hgs hspell.symm.upper hphrase with ⟨_, hright, -⟩
      rw [hleft] at hright
      cases hright

/-- A word, a number or a sign, but for its letters, is cut off on both sides. -/
theorem readsAlike_of_solid {c d : Char} (hc : isStop c = false) (hsame : c = d ∨ SameLetter c d)
    (h : Relaid true (.char c :: gs) (.char d :: hs)) (hrest : Relaid true gs hs)
    (hgs : Legible literals (.char c :: gs)) (hhs : Legible literals (.char d :: hs))
    (hmarked : startsMarked (c :: fill literals gs) = false) :
    ReadsAlike literals (.char c :: gs) (.char d :: hs) := by
  intro l rest hread
  have hchar : ∀ (c : Char) gs, fill literals (.char c :: gs) = c :: fill literals gs :=
    fun _ _ => rfl
  have hname : ∀ {c : Char} (cs : List Char), isStop c = false → startsName (c :: cs) = false := by
    intro c cs hc
    have hne : c ≠ '`' := by
      rintro rfl
      exact absurd hc (by decide)
    simpa [startsName] using hne
  have hd : isStop d = false := by
    rcases hsame with rfl | hsame
    · exact hc
    · exact isStop_of_letter hsame.right
  rw [hchar] at hread
  rw [hchar, hchar, hname _ hc, hname _ hd]
  have hnext : ∀ {e : Char}, Text.isBlank e = false → e.toNat ∉ keywordCodes →
      isNext e (fill literals gs) = isNext e (fill literals hs) := hrest.isNext_fill
  have hcomment : startsComment (c :: fill literals gs) = false := by
    by_contra hcomment
    exact Sql.readPiece?_ne_token_of_startsComment (by simpa using hcomment) l rest hread
  have hcomment' : startsComment (d :: fill literals hs) = false := by
    rw [← hcomment]
    refine (startsComment_congr hsame ?_).symm
    simp only [List.forall_mem_cons, List.not_mem_nil, false_imp_iff, implies_true, and_true]
    exact ⟨hnext (by decide) (by decide), hnext (by decide) (by decide),
      hnext (by decide) (by decide)⟩
  have hmarked' : startsMarked (d :: fill literals hs) = false := by
    rw [← hmarked]
    refine (startsMarked_congr hsame ?_).symm
    simp only [List.forall_mem_cons, List.not_mem_nil, false_imp_iff, implies_true, and_true]
    exact ⟨hnext (by decide) (by decide), hnext (by decide) (by decide)⟩
  rcases h.exists_stem with ⟨t, t', tail, tail', hstem, hstem', hspell, hany⟩
  rcases hstem.exists_cons hc with ⟨t, rfl, rfl⟩
  rcases hstem'.exists_cons hd with ⟨t', rfl, rfl⟩
  have htail : Legible literals tail := hgs.tail.suffix (List.suffix_append _ _)
  have htail' : Legible literals tail' := hhs.tail.suffix (List.suffix_append _ _)
  have hstops := htail.stops_fill hstem.stops
  have hstops' := htail'.stops_fill hstem'.stops
  rw [Sql.readPiece?_of_solid hc hcomment hmarked] at hread
  rw [Sql.readPiece?_of_solid hd hcomment' hmarked']
  rw [fill_append, fill_map_char] at hread ⊢
  by_cases hphrase : (∀ e ∈ c :: t, isWordPart e = true) ∧ Text.isDigit c = false ∧
      ∃ phrase, Sql.phraseAfter? (String.ofList (c :: t)) (fill literals tail) = some phrase
  · rcases hphrase with ⟨hword, hdigit, ⟨both, after⟩, hboth⟩
    rcases (hany true).phraseAfter? htail htail' hspell.upper hboth with ⟨after', hboth', honward⟩
    rw [Sql.solidPiece_phrase hword hdigit hstops hboth] at hread
    cases hread
    rw [Sql.solidPiece_phrase (hspell.isWordPart_of_mem hword) (hspell.isDigit_head_eq ▸ hdigit)
      hstops' hboth']
    refine ⟨_, after', rfl, rfl, honward.mono ?_ ?_⟩
    · exact (List.suffix_append _ _).trans (List.suffix_cons _ _)
    · exact (List.suffix_append _ _).trans (List.suffix_cons _ _)
  · have hnone : (∀ e ∈ c :: t, isWordPart e = true) → Text.isDigit c = false →
        Sql.phraseAfter? (String.ofList (c :: t)) (fill literals tail) = none := by
      intro hword hdigit
      by_contra hsome
      exact hphrase ⟨hword, hdigit, Option.ne_none_iff_exists'.1 hsome⟩
    have hnone' := phraseAfter?_eq_none hspell (hany true) htail htail' hnone
    have hcut := hspell.solidPiece hstem.solid hstem'.solid
    have hsuffix := Sql.solidPiece_suffix c t
    have hsuffix' := Sql.solidPiece_suffix d t'
    rw [Sql.solidPiece_append hstem.solid hstops hnone] at hread
    rw [Sql.solidPiece_append hstem'.solid hstops' hnone']
    generalize Sql.solidPiece c t = cut at hcut hread hsuffix
    generalize Sql.solidPiece d t' = cut' at hcut hsuffix' ⊢
    cases hcut with
    | token hkey hleft =>
        cases hread
        exact ⟨_, _, rfl, hkey, onward_of_stems hstem hstem' hsuffix hsuffix' hleft hany⟩

/-- The first token is the same on both sides. -/
theorem Relaid.readsAlike (h : Relaid true gs hs) (hgs : Legible literals gs)
    (hhs : Legible literals hs) (hink : ∀ g ∈ gs.head?, g.isBlank = false) :
    ReadsAlike literals gs hs := by
  cases gs with
  | nil =>
      intro l rest hread
      cases hread
  | cons g gs =>
      cases g with
      | literal index =>
          rcases h.exists_of_literal with ⟨hs', rfl, hrest⟩
          exact readsAlike_of_literal hrest hgs
      | char c =>
          cases hc : isStop c with
          | false =>
              rcases h.exists_of_solid hc with ⟨d, hs', rfl, hsame, hrest⟩
              cases hmarked : startsMarked (c :: fill literals gs) with
              | true =>
                  exact readsAlike_of_marked hsame hrest hgs hmarked
              | false =>
                  exact readsAlike_of_solid hc hsame h hrest hgs hhs hmarked
          | true =>
              have hblank : Text.isBlank c = false := hink _ rfl
              rw [isStop, hblank, Bool.false_or, List.contains_iff_mem, List.mem_cons] at hc
              rcases hc with rfl | hc
              · rcases h.exists_of_comma with ⟨bs, cs, gs', hs', hbs, hcs, rfl, rfl, hrest⟩
                exact readsAlike_of_comma hbs hcs hrest
              · -- A quote that is not closed leaves nothing to read.
                have hquote : isQuote c = true := by
                  simpa [isQuote, or_assoc] using hc
                rcases exists_literalPiece? hquote with ⟨token?, hpiece⟩
                intro l rest hread
                change Sql.readPiece? (c :: fill literals gs) = _ at hread
                rw [hpiece, hgs.char hquote] at hread
                cases hread

end Layout
end QueryDesigner

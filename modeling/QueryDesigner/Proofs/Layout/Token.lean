import Mathlib
import QueryDesigner.Proofs.Layout.Piece
import QueryDesigner.Proofs.Layout.Stable

/-!
# Tokens of a layout

Laying out a text does not change what the lexer reads in it, if the text has no commands, no
comments but those enclosed in marks, and only literals that the lexer reads to their ends.

* `Relaid.blockComment?` — a comment in another layout;
* `Relaid.reads` — all tokens in another layout;
* `tokens?_format?` — the tokens of a text that is laid out.
-/

namespace QueryDesigner
namespace Layout

open Sql (Reads isNext isStop)

variable {literals : List (List Char)} {gs hs : List Glyph} {free : Bool}

/-! ## Comments -/

theorem blockComment?_cons {c : Char} {cs : List Char} (h : c = '*' → isNext '/' cs = false) :
    Sql.blockComment? (c :: cs) =
      (Sql.blockComment? cs).map fun (text, after) => (c :: text, after) := by
  conv_lhs => unfold Sql.blockComment?
  split
  next heq => cases heq
  next rest heq =>
      obtain ⟨rfl, rfl⟩ := List.cons.inj heq
      exact absurd (h rfl) (by simp [isNext])
  next heq =>
      obtain ⟨rfl, rfl⟩ := List.cons.inj heq
      rfl

theorem blockComment?_blanks {bs : List Glyph} (hbs : Blanks bs) (cs : List Char) :
    Sql.blockComment? (fill literals bs ++ cs) =
      (Sql.blockComment? cs).map fun (text, after) => (fill literals bs ++ text, after) := by
  induction bs with
  | nil =>
      simp
  | cons b bs ih =>
      rw [blanks_cons] at hbs
      cases b with
      | literal index =>
          cases hbs.1
      | char c =>
          have hc : c ≠ '*' := by
            rintro rfl
            exact absurd hbs.1 (by decide)
          have hcons : ∀ cs, fill literals (.char c :: bs) ++ cs = c :: (fill literals bs ++ cs) :=
            fun _ => rfl
          rw [hcons, blockComment?_cons fun h => absurd h hc, ih hbs.2, Option.map_map]
          rfl

theorem isUnquoted_blanks {bs : List Glyph} (hbs : Blanks bs) :
    Sql.isUnquoted (fill literals bs) = true := by
  refine List.all_eq_true.2 fun c hc => ?_
  rcases List.mem_flatMap.1 hc with ⟨b, hb, hread⟩
  have hopen := isOpen_of_isBlank (hbs b hb)
  cases b with
  | literal index =>
      cases hopen
  | char d =>
      obtain rfl : c = d := by simpa [Glyph.read] using hread
      simpa [Glyph.isOpen, isQuote, and_assoc] using hopen

/-- A comment on the left, if no quote is in it, is one on the right, and what follows it does. -/
def CommentEnds (literals : List (List Char)) (gs hs : List Glyph) : Prop :=
  ∀ text rest, Sql.isUnquoted text = true →
    Sql.blockComment? (fill literals gs) = some (text, rest) →
      ∃ text' rest', Sql.blockComment? (fill literals hs) = some (text', rest') ∧
        Sql.isUnquoted text' = true ∧ Onward literals gs hs rest rest'

/-- More of the comment in front makes no difference. -/
theorem CommentEnds.grow (ps qs : List Glyph) (h : CommentEnds literals gs hs)
    (hps : Sql.blockComment? (fill literals (ps ++ gs)) =
      (Sql.blockComment? (fill literals gs)).map
        fun (text, after) => (fill literals ps ++ text, after))
    (hqs : Sql.blockComment? (fill literals (qs ++ hs)) =
      (Sql.blockComment? (fill literals hs)).map
        fun (text, after) => (fill literals qs ++ text, after))
    (hquotes : Sql.isUnquoted (fill literals ps) = true →
      Sql.isUnquoted (fill literals qs) = true) :
    CommentEnds literals (ps ++ gs) (qs ++ hs) := by
  intro text rest htext hread
  rw [hps] at hread
  rcases Option.map_eq_some_iff.1 hread with ⟨⟨text, after⟩, hread', heq⟩
  obtain ⟨rfl, rfl⟩ := Prod.mk.inj heq
  simp only [Sql.isUnquoted, List.all_append, Bool.and_eq_true] at htext
  rcases h text _ htext.2 hread' with ⟨text', rest', hanew, htext', honward⟩
  refine ⟨fill literals qs ++ text', rest', by rw [hqs, hanew]; rfl, ?_,
    honward.mono (List.suffix_append _ _) (List.suffix_append _ _)⟩
  simp only [Sql.isUnquoted, List.all_append, Bool.and_eq_true]
  exact ⟨hquotes htext.1, htext'⟩

theorem CommentEnds.blanks {bs cs : List Glyph} (h : CommentEnds literals gs hs) (hbs : Blanks bs)
    (hcs : Blanks cs) : CommentEnds literals (bs ++ gs) (cs ++ hs) :=
  h.grow bs cs (by rw [fill_append, blockComment?_blanks hbs])
    (by rw [fill_append, blockComment?_blanks hcs]) fun _ => isUnquoted_blanks hcs

theorem CommentEnds.char {c d : Char} (h : CommentEnds literals gs hs)
    (hc : c = '*' → isNext '/' (fill literals gs) = false)
    (hd : d = '*' → isNext '/' (fill literals hs) = false)
    (hquotes : Sql.isUnquoted [c] = true → Sql.isUnquoted [d] = true) :
    CommentEnds literals (.char c :: gs) (.char d :: hs) :=
  h.grow [.char c] [.char d] (blockComment?_cons hc) (blockComment?_cons hd) hquotes

/-- In front of the mark that ends a comment stands the same on both sides. -/
theorem commentEnds_of_mark (hrest : Relaid free gs hs) (hgs : Legible literals gs)
    (hnext : isNext '/' (fill literals gs) = true) :
    CommentEnds literals (.char '*' :: gs) (.char '*' :: hs) := by
  intro text rest _ hread
  rcases List.head?_eq_some_iff.1 (Sql.isNext_eq_true_iff.1 hnext) with ⟨after, hafter⟩
  rcases hgs.exists_char (by decide) hafter with ⟨gs', rfl, rfl⟩
  rcases hrest.exists_of_sign (by decide) (by decide) with ⟨hs', rfl, hrest'⟩
  obtain ⟨rfl, rfl⟩ := Prod.mk.inj (Option.some.inj hread)
  refine ⟨[], fill literals hs', rfl, rfl, hrest'.onward.mono ?_ ?_⟩
  · exact (List.suffix_cons _ _).trans (List.suffix_cons _ _)
  · exact (List.suffix_cons _ _).trans (List.suffix_cons _ _)

/-- A comment between marks, if no quote is in it, ends at the same mark in any layout. -/
theorem Relaid.commentEnds (h : Relaid free gs hs) (hgs : Legible literals gs) :
    CommentEnds literals gs hs := by
  induction h with
  | @ends free bs cs hbs _ =>
      intro text rest _ hread
      rw [← List.append_nil (fill literals bs), blockComment?_blanks hbs] at hread
      cases hread
  | blanks hbs _ hcs _ _ ih =>
      exact (ih (hgs.suffix (List.suffix_append _ _))).blanks hbs hcs
  | comma hbs hcs _ ih =>
      refine CommentEnds.char ?_ (fun h => absurd h (by decide)) (fun h => absurd h (by decide)) id
      exact (ih (hgs.tail.suffix (List.suffix_append _ _))).blanks hbs hcs
  | @same free g gs hs hblank hcomma hrest ih =>
      cases g with
      | literal index =>
          -- The quote of the literal would be in the comment.
          intro text rest htext hread
          rcases hgs.literal with ⟨quote, body, content, hquote, -, hfill⟩
          have hne : quote ≠ '*' := by
            rintro rfl
            exact absurd hquote (by decide)
          rw [hfill, blockComment?_cons fun h => absurd h hne] at hread
          rcases Option.map_eq_some_iff.1 hread with ⟨⟨text, after⟩, -, heq⟩
          obtain ⟨rfl, rfl⟩ := Prod.mk.inj heq
          have hplain := List.all_eq_true.1 htext quote List.mem_cons_self
          rcases isQuote_cases hquote with rfl | rfl | rfl
          all_goals exact absurd hplain (by decide)
      | char c =>
          by_cases hend : c = '*' ∧ isNext '/' (fill literals gs) = true
          · rcases hend with ⟨rfl, hnext⟩
            exact commentEnds_of_mark hrest hgs.tail hnext
          · have hnext : c = '*' → isNext '/' (fill literals gs) = false := by
              intro hc
              simpa using fun hnext => hend ⟨hc, hnext⟩
            have hnext' : c = '*' → isNext '/' (fill literals hs) = false := by
              rwa [← hrest.isNext_fill (by decide) (by decide)]
            exact (ih hgs.tail).char hnext hnext' id
  | @letter c d gs hs hsame _ ih =>
      have hne : ∀ {c : Char}, c.toNat ∈ keywordCodes → c ≠ '*' :=
        fun hc => (ne_of_letter hc (by decide)).symm
      refine (ih hgs.tail).char (fun h => absurd h (hne hsame.left))
        (fun h => absurd h (hne hsame.right)) fun _ => ?_
      have hd : isQuote d = false := by
        by_contra hquote
        exact not_mem_keywordCodes_of_isQuote (by simpa using hquote) hsame.right
      simpa [Sql.isUnquoted, isQuote, and_assoc] using hd

/-! ## All tokens -/

/-- The tokens are the same on both sides. -/
theorem Relaid.reads {cs : List Char} {keys : List (Sql.TokenKind × String)} (h : Relaid free gs hs)
    (hgs : Legible literals gs) (hhs : Legible literals hs)
    (hcs : Text.dropBlanks cs = Text.dropBlanks (fill literals gs)) (hreads : Reads cs keys) :
    Reads (fill literals hs) keys := by
  induction hreads generalizing free gs hs with
  | @nil cs hblank =>
      refine .nil ?_
      rw [hcs, hgs.dropBlanks_fill] at hblank
      have hgs' := (hgs.suffix (List.dropWhile_suffix Glyph.isBlank)).eq_nil hblank
      have hdrop := h.dropBlanks
      rw [hgs'] at hdrop
      have hhs' := List.dropWhile_eq_nil_iff.2 hdrop.symm.blanks_of_nil
      rw [List.dropWhile_idempotent] at hhs'
      rw [hhs.dropBlanks_fill, hhs', fill_nil]
  | @token cs rest l keys hread _ ih =>
      have hgs' := hgs.suffix (List.dropWhile_suffix Glyph.isBlank)
      have hhs' := hhs.suffix (List.dropWhile_suffix Glyph.isBlank)
      have hink : ∀ g ∈ (gs.dropWhile Glyph.isBlank).head?, g.isBlank = false := by
        intro g hg
        rcases List.head?_eq_some_iff.1 hg with ⟨tail, htail⟩
        exact isBlank_eq_false_of_dropBlanks htail
      rw [hcs, hgs.dropBlanks_fill] at hread ⊢
      rcases h.dropBlanks.readsAlike hgs' hhs' hink l rest hread with
        ⟨l', rest', hread', hkey, gs', hs', hsuffix, hsuffix', hrelaid, hrest, hrest'⟩
      rw [← hhs.dropBlanks_fill] at hread' hkey
      rw [hkey]
      exact .token hread' ((ih hrelaid (hgs'.suffix hsuffix) (hhs'.suffix hsuffix') hrest).congr
        hrest'.symm)
  | @comment cs body text rest keys hopen hhint hbody htext _ ih =>
      have hgs' := hgs.suffix (List.dropWhile_suffix Glyph.isBlank)
      have hhs' := hhs.suffix (List.dropWhile_suffix Glyph.isBlank)
      rw [hcs, hgs.dropBlanks_fill] at hopen
      have hdrop := h.dropBlanks
      -- Both marks of the comment stand on the right as well.
      rcases hgs'.exists_char (by decide) hopen with ⟨gs₁, hgs₁, htail⟩
      rw [hgs₁] at hdrop hgs'
      rcases hdrop.exists_of_sign (by decide) (by decide) with ⟨hs₁, hhs₁, hrest₁⟩
      rcases hgs'.tail.exists_char (by decide) htail.symm with ⟨gs₂, rfl, rfl⟩
      rcases hrest₁.exists_of_sign (by decide) (by decide) with ⟨hs₂, rfl, hrest₂⟩
      rw [hhs₁] at hhs'
      rcases hrest₂.commentEnds hgs'.tail.tail text rest htext hbody with
        ⟨text', rest', hbody', htext', gs', hs', hsuffix, hsuffix', hrelaid, hrest, hrest'⟩
      refine .comment ?_ ?_ hbody' htext' ((ih hrelaid
        (hgs'.tail.tail.suffix hsuffix) (hhs'.tail.tail.suffix hsuffix') hrest).congr hrest'.symm)
      · rw [hhs.dropBlanks_fill, hhs₁]
        rfl
      · rwa [← hrest₂.isNext_fill (by decide) (by decide)]

/-! ## All passes -/

section Passes

variable {keys : List (Sql.TokenKind × String)}

theorem Legible.cons_space (h : Legible literals gs) : Legible literals (space :: gs) :=
  ⟨(settled_cons_space gs).2 h.settled, h.whole⟩

/-- The tidy reading tells all tokens. -/
theorem reads_of_tidy_eq (h : tidy (space :: gs) = tidy (space :: hs)) (hgs : Legible literals gs)
    (hhs : Legible literals hs) (hreads : Reads (fill literals gs) keys) :
    Reads (fill literals hs) keys := by
  have hspace : ∀ gs, Text.dropBlanks (fill literals (space :: gs)) =
      Text.dropBlanks (fill literals gs) :=
    dropBlanks_fill_append (blanks_singleton isBlank_space)
  have htidy : Legible literals (tidy (space :: gs)) :=
    ⟨(alike_tidy _).settled.2 hgs.cons_space.settled, hgs.whole⟩
  have hleft : Reads (fill literals (tidy (space :: gs))) keys :=
    (relaid_tidy true _).reads hgs.cons_space htidy (hspace gs).symm hreads
  rw [h] at hleft htidy
  exact ((relaid_tidy true _).symm.reads htidy hhs.cons_space rfl hleft).congr (hspace hs)

/-- The passes keep all tokens. -/
theorem reads_layOut (hmark : .char rangeAnd ∉ gs) (hgs : Legible literals gs)
    (hreads : Reads (fill literals gs) keys) : Reads (fill literals (layOut gs)) keys := by
  have hsqueezed : Legible literals (squeezed gs) :=
    ⟨(settled_squeezed gs).2 hgs.settled, hgs.whole⟩
  have hcapital : Legible literals (upperKeywords (squeezed gs)) :=
    ⟨(alike_upperKeywords _).settled.2 hsqueezed.settled, hgs.whole⟩
  have hlaid : Legible literals (layOut gs) := ⟨(settled_layOut hmark).2 hgs.settled, hgs.whole⟩
  have hfirst := reads_of_tidy_eq (tidy_squeezed gs).symm hgs hsqueezed hreads
  have hkeywords := (relaid_upperKeywords _).reads hsqueezed hcapital rfl hfirst
  exact reads_of_tidy_eq (tidy_layOut_of_not_mem hmark).symm hcapital hlaid hkeywords

end Passes

/-! ## Statements -/

theorem exists_reads_shown {sql : String} {keys : List (Sql.TokenKind × String)}
    (hnull : '\x00' ∉ sql.toList) (hmark : rangeAnd ∉ sql.toList)
    (hliterals : ∀ text ∈ (protect sql.toList).2, isWhole text = true)
    (hreads : Reads sql.toList keys) :
    ∃ shown, format? sql = some shown ∧ Reads shown.toList keys := by
  by_cases hink : ∃ c ∈ sql.toList, Text.isBlank c = false
  · have h : Presentable sql := ⟨hnull, hmark, hink⟩
    rcases h.exists_shown with ⟨shown, hformat, hprotect⟩
    rcases protect_spec sql.toList with ⟨hfill, hsettled, -⟩
    rw [← hfill] at hreads
    have hlaid := reads_layOut h.not_mem_protect ⟨hsettled, hliterals⟩ hreads
    have hshown := (protect_spec shown.toList).1
    rw [hprotect] at hshown
    simp only at hshown
    rw [hshown] at hlaid
    exact ⟨shown, hformat, hlaid⟩
  · have hblank : ∀ c ∈ sql.toList, Text.isBlank c = true := fun c hc => by
      simpa using fun hc' => hink ⟨c, hc, hc'⟩
    exact ⟨"", format?_of_blank hink, hreads.congr (List.dropWhile_eq_nil_iff.2 hblank)⟩

/-- Laying out a text keeps its tokens, but for the letter case of what stands without quotes, if it
has no commands, no comments but those enclosed in marks, and only literals that the lexer reads to
their ends. -/
theorem tokens?_format? {sql : String} {cuts : List Sql.Cut} {tokens : List Sql.Token}
    (hnull : '\x00' ∉ sql.toList) (hmark : rangeAnd ∉ sql.toList)
    (hcuts : Sql.cuts? sql.toList = some cuts) (htokens : Sql.tokens? sql = some tokens)
    (hcomments : ∀ cut ∈ cuts, cut.isSpared sql.toList = true)
    (hcommands : Sql.opensCommand true tokens = false)
    (hliterals : ∀ text ∈ (protect sql.toList).2, isWhole text = true) :
    ∃ shown shownTokens, format? sql = some shown ∧ Sql.tokens? shown = some shownTokens ∧
      shownTokens.map (Sql.Token.key shown.toList) = tokens.map (Sql.Token.key sql.toList) := by
  rcases Sql.reads_of_tokens? hcuts htokens hcomments hcommands with ⟨keys, hreads, hkeys⟩
  rcases exists_reads_shown hnull hmark hliterals hreads with ⟨shown, hformat, hreads'⟩
  rcases hreads'.exists_tokens hkeys hcommands with ⟨shownTokens, hshown, hsame⟩
  exact ⟨shown, shownTokens, hformat, hshown, hsame⟩

theorem tokens?_format?_of_escape_and_comment :
    ∃ cuts tokens,
      (Sql.cuts? "select 'it''s  \\n', b /* c */ from t group  by b".toList = some cuts ∧
        Sql.tokens? "select 'it''s  \\n', b /* c */ from t group  by b" = some tokens) ∧
      ∃ shown shownTokens,
        format? "select 'it''s  \\n', b /* c */ from t group  by b" = some shown ∧
          Sql.tokens? shown = some shownTokens ∧
            shownTokens.map (Sql.Token.key shown.toList) = tokens.map
              (Sql.Token.key "select 'it''s  \\n', b /* c */ from t group  by b".toList) := by
  have hcuts : (Sql.cuts? "select 'it''s  \\n', b /* c */ from t group  by b".toList).any
      (fun cuts => cuts.all (Sql.Cut.isSpared
        "select 'it''s  \\n', b /* c */ from t group  by b".toList)) = true := by
    decide +kernel
  have htokens : (Sql.tokens? "select 'it''s  \\n', b /* c */ from t group  by b").any
      (fun tokens => !Sql.opensCommand true tokens) = true := by
    decide +kernel
  rcases (Option.any_eq_true _ _).1 hcuts with ⟨cuts, hcuts, hcomments⟩
  rcases (Option.any_eq_true _ _).1 htokens with ⟨tokens, htokens, hcommands⟩
  exact ⟨cuts, tokens, ⟨hcuts, htokens⟩,
    tokens?_format? (by decide) (by decide) hcuts htokens (List.all_eq_true.1 hcomments)
      (by simpa using hcommands) (by decide +kernel)⟩

end Layout
end QueryDesigner

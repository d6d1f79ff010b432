import QueryDesigner.Proofs.Sql.Lexer
import QueryDesigner.Proofs.Text.LetterCase

/-!
# Where tokens stand

* `Cut.Stands`, `Token.Stands` — a cut or a token is what the source has at its place;
* `Lexeme.StartsAs` — with which character words, phrases and signs start;
* `stands_of_mem_tokens` — the words and signs of a text stand where they say;
* `getElem?_start_of_mark` — at the place of a comma or a parenthesis the text has just that
  character.
-/

namespace QueryDesigner
namespace Sql

/-- The piece of a cut is what the source is cut into at its place. -/
def Cut.Stands (source : List Char) (cut : Cut) : Prop :=
  ∃ rest, readPiece? (source.drop cut.start) = some (cut.piece, rest)

/-- What the grammar takes for a word or a sign is what the source is cut into at its place. -/
def Token.Stands (source : List Char) (t : Token) : Prop :=
  t.keyword ≠ "" → ∃ rest, readPiece? (source.drop t.start) = some (.token t.toLexeme, rest)

/-! ## Places -/

section Places

variable {source : List Char}

theorem stands_of_cutsInto {start : Nat} {cs : List Char} {cuts : List Cut}
    (h : CutsInto start cs cuts) (hsource : source.drop start = cs) :
    ∀ cut ∈ cuts, cut.Stands source := by
  induction h with
  | nil => simp
  | @cons start cs rest piece cuts hread _ ih =>
      intro cut hcut
      rcases List.mem_cons.1 hcut with rfl | hcut
      · exact ⟨rest, by rw [hsource, hread]⟩
      · exact ih (by rw [← List.drop_drop, hsource, drop_of_readPiece? hread]) cut hcut

/-- A word after an at sign is a name and no keyword; any other token is what was cut off. -/
theorem lexemeAfter_cases (previous : List Token) (l : Lexeme) :
    lexemeAfter previous l = l ∨ (lexemeAfter previous l).kind = .variable := by
  unfold lexemeAfter
  split
  · split_ifs
    · exact .inr rfl
    · exact .inl rfl
  · exact .inl rfl

theorem stands_add {a : Attaching} {cut : Cut} (ha : ∀ t ∈ a.tokens, t.Stands source)
    (hcut : cut.Stands source) : ∀ t ∈ (a.add cut).tokens, t.Stands source := by
  rcases hcut with ⟨rest, hread⟩
  unfold Attaching.add
  split
  · exact ha
  · rename_i l hpiece
    rw [hpiece] at hread
    intro t ht
    rcases List.mem_cons.1 ht with rfl | ht
    · intro hkeyword
      rcases lexemeAfter_cases a.tokens l with hsame | hvariable
      · exact ⟨rest, by rw [hsame]; exact hread⟩
      · simp [Token.keyword, hvariable] at hkeyword
    · exact ha t ht
  · -- a comment changes no token but in what stands beside it
    split
    · rename_i hnil
      simp [hnil]
    · rename_i t earlier htokens
      rw [htokens] at ha
      split_ifs
      · intro t' ht'
        rcases List.mem_cons.1 ht' with rfl | ht'
        · exact fun hkeyword => absurd rfl hkeyword
        · rw [htokens] at ht'
          exact ha t' ht'
      · intro t' ht'
        rcases List.mem_cons.1 ht' with rfl | ht'
        · exact ha t List.mem_cons_self
        · exact ha t' (List.mem_cons_of_mem t ht')
      · rw [htokens]
        exact ha

theorem stands_withComments {cuts : List Cut} (h : ∀ cut ∈ cuts, cut.Stands source) :
    ∀ t ∈ withComments cuts, t.Stands source := by
  have hfold : ∀ a : Attaching, (∀ t ∈ a.tokens, t.Stands source) →
      ∀ t ∈ (cuts.foldl Attaching.add a).tokens, t.Stands source := by
    induction cuts with
    | nil =>
        exact fun a ha => ha
    | cons cut cuts ih =>
        exact fun a ha => ih (fun c hc => h c (List.mem_cons_of_mem cut hc)) _
          (stands_add ha (h cut List.mem_cons_self))
  have htokens := hfold {} (by simp)
  intro t ht
  unfold withComments Attaching.finish at ht
  split at ht
  · cases ht
  · rename_i last earlier hsplit
    rw [hsplit] at htokens
    rw [List.mem_reverse] at ht
    rcases List.mem_cons.1 ht with rfl | ht
    · exact htokens last List.mem_cons_self
    · exact htokens t (List.mem_cons_of_mem last ht)

/-- Of a command some tokens are left, and the text behind them is no keyword. -/
theorem stands_withCommands {tokens : List Token} (state : CommandState)
    (h : ∀ t ∈ tokens, t.Stands source) :
    ∀ t ∈ withCommands source state tokens, t.Stands source := by
  have hrest : ∀ (t : Token) (rest : List Token), ∀ r ∈ commandRest source t rest,
      r.Stands source := by
    intro t rest r hr
    unfold commandRest at hr
    dsimp only at hr
    split_ifs at hr
    · cases hr
    · obtain rfl := List.mem_singleton.1 hr
      exact fun hkeyword => absurd rfl hkeyword
  induction tokens generalizing state with
  | nil =>
      cases state <;> simp [withCommands]
  | cons t rest ih =>
      have hfirst := h t List.mem_cons_self
      have hlater := fun state => ih state fun t' ht' => h t' (List.mem_cons_of_mem t ht')
      have hcons : ∀ state, ∀ t' ∈ t :: withCommands source state rest, t'.Stands source := by
        intro state t' ht'
        rcases List.mem_cons.1 ht' with rfl | ht'
        · exact hfirst
        · exact hlater state t' ht'
      cases state with
      | skipping =>
          rw [withCommands]
          split_ifs
          · exact hcons _
          · exact hlater _
      | atStart =>
          rw [withCommands]
          split_ifs
          all_goals try exact hcons _
          all_goals
            intro t' ht'
            rcases List.mem_cons.1 ht' with rfl | ht'
            · exact hfirst
            · rcases List.mem_append.1 ht' with ht' | ht'
              · exact hrest t rest t' ht'
              · exact hlater _ t' ht'
      | inside =>
          rw [withCommands]
          exact hcons _

/-- The words and the signs of a text stand where they say. -/
theorem stands_of_mem_tokens {s : String} {tokens : List Token} (h : tokens? s = some tokens) :
    ∀ t ∈ tokens, t.Stands s.toList := by
  rcases Option.map_eq_some_iff.1 h with ⟨cuts, hcuts, rfl⟩
  have hstands := stands_of_cutsInto (cuts?_eq_some_iff.1 hcuts) rfl
  exact stands_withCommands _ (stands_withComments hstands)

end Places

/-! ## Starts -/

/-- The signs by which lists of values are put together. -/
def listMarks : List Char := ['(', ')', ',']

/-- How a word, a phrase or a sign starts that is the first piece of a text. -/
structure Lexeme.StartsAs (cs : List Char) (l : Lexeme) : Prop where
  word : l.kind = .word → ∃ c tail, c ∉ listMarks ∧ l.text = String.ofList (c :: tail)
  phrase : l.kind = .phrase → l.text ∈ phrases
  sign : l.kind = .sign → l.text ∈ longSigns ∨ ∃ c, cs.head? = some c ∧ l.text = String.ofList [c]

/-- The token that a cut takes from a text, if it takes one, starts as the text does. -/
def TakesStart (cs : List Char) (cut : Option (Piece × List Char)) : Prop :=
  ∀ l rest, cut = some (.token l, rest) → l.StartsAs cs

/-- The kinds of tokens of which keywords are made. -/
def TokenKind.isPlain : TokenKind → Bool
  | .word | .phrase | .sign => true
  | _ => false

section Starts

variable {cs ds : List Char} {kind : TokenKind} {letter : Char} {digit : Char → Bool}

/-- Quoted text, names and numbers are no keywords. -/
theorem Lexeme.StartsAs.of_quoted {l : Lexeme} (h : l.kind.isPlain = false) : l.StartsAs cs := by
  constructor <;> intro hkind <;> rw [hkind] at h <;> cases h

theorem Lexeme.StartsAs.of_word {l : Lexeme} (hkind : l.kind = .word)
    (h : ∃ c tail, c ∉ listMarks ∧ l.text = String.ofList (c :: tail)) : l.StartsAs cs := by
  constructor <;> intro hother
  · exact h
  · cases hkind.symm.trans hother
  · cases hkind.symm.trans hother

theorem Lexeme.StartsAs.of_phrase {l : Lexeme} (hkind : l.kind = .phrase)
    (h : l.text ∈ phrases) : l.StartsAs cs := by
  constructor <;> intro hother
  · cases hkind.symm.trans hother
  · exact h
  · cases hkind.symm.trans hother

theorem Lexeme.StartsAs.of_sign {l : Lexeme} (hkind : l.kind = .sign)
    (h : l.text ∈ longSigns ∨ ∃ c, cs.head? = some c ∧ l.text = String.ofList [c]) :
    l.StartsAs cs := by
  constructor <;> intro hother
  · cases hkind.symm.trans hother
  · cases hkind.symm.trans hother
  · exact h

theorem takesStart_none : TakesStart cs none := by
  intro l rest h
  cases h

theorem takesStart_lineComment : TakesStart cs (some (lineComment ds)) := by
  intro l rest h
  cases h

theorem takesStart_commentPiece {isHint : Bool} {content : Option (List Char × List Char)} :
    TakesStart cs (commentPiece isHint content) := by
  intro l rest h
  rcases Option.map_eq_some_iff.1 h with ⟨_, _, heq⟩
  cases heq

theorem takesStart_quotedPiece {content : Option (List Char × List Char)}
    (hnumber : (kind == .number) = false) (hkind : kind.isPlain = false) :
    TakesStart cs (quotedPiece kind content hnumber) := by
  intro l rest h
  rcases Option.map_eq_some_iff.1 h with ⟨_, _, heq⟩
  cases heq
  exact .of_quoted hkind

theorem takesStart_quotedRadix (hnumber : (kind == .number) = false)
    (hkind : kind.isPlain = false) :
    TakesStart cs (quotedRadix kind letter digit ds hnumber) := by
  intro l rest h
  unfold quotedRadix at h
  split at h
  · split_ifs at h
    cases h
    exact .of_quoted hkind
  · cases h

theorem takesStart_readRadix {mark : Char} (hnumber : (kind == .number) = false)
    (hkind : kind.isPlain = false) :
    TakesStart cs (some (readRadix kind letter mark digit ds hnumber)) := by
  intro l rest h
  unfold readRadix at h
  dsimp only at h
  split at h
  · cases h
    exact .of_quoted hkind
  · cases h
    exact .of_quoted rfl

theorem takesStart_readSign (c : Char) : TakesStart (c :: cs) (some (readSign c cs)) := by
  intro l rest h
  unfold readSign at h
  split at h
  · rename_i sign hfind
    cases h
    exact .of_sign rfl (.inl (List.mem_of_find?_eq_some hfind))
  · cases h
    exact .of_sign rfl (.inr ⟨c, rfl, rfl⟩)

theorem takesStart_readNumber {c : Char} (hc : Text.isDigit c = true) :
    TakesStart (c :: cs) (some (readNumber c hc cs)) := by
  intro l rest h
  unfold readNumber at h
  dsimp only at h
  split at h
  · cases h
    refine .of_word rfl ⟨c, _, fun hmark => ?_, rfl⟩
    have hmarks : listMarks.all (fun d => !Text.isDigit d) = true := by decide +kernel
    simpa [hc] using List.all_eq_true.1 hmarks c hmark
  · cases h
    exact .of_quoted rfl

theorem takesStart_readWord {c : Char} (hblank : Text.isBlank c = false)
    (hsign : isSign c = false) : TakesStart (c :: cs) (some (readWord (c :: cs))) := by
  intro l rest h
  unfold readWord at h
  dsimp only at h
  split at h
  · rename_i hphrase
    cases h
    exact .of_phrase rfl (List.contains_iff_mem.1 hphrase.2)
  · cases h
    refine .of_word rfl ⟨c, cs.takeWhile isWordPart, fun hmark => ?_, ?_⟩
    · have hmarks : listMarks.all isSign = true := by decide
      simpa [hsign] using List.all_eq_true.1 hmarks c hmark
    · rw [List.takeWhile_cons_of_pos (by simp [isWordPart, hblank, hsign])]
      rfl

theorem takesStart_readPiece? (cs : List Char) : TakesStart cs (readPiece? cs) := by
  unfold readPiece?
  split
  · exact takesStart_none
  · exact takesStart_lineComment
  · exact takesStart_readSign _
  · exact takesStart_lineComment
  · exact takesStart_commentPiece
  · exact takesStart_commentPiece
  · exact takesStart_quotedPiece _ rfl
  · exact takesStart_quotedPiece _ rfl
  · exact takesStart_quotedPiece _ rfl
  · exact takesStart_quotedPiece _ rfl
  · exact takesStart_quotedPiece _ rfl
  · exact takesStart_quotedPiece _ rfl
  · exact takesStart_quotedPiece _ rfl
  · exact takesStart_quotedRadix _ rfl
  · exact takesStart_quotedRadix _ rfl
  · exact takesStart_quotedRadix _ rfl
  · exact takesStart_quotedRadix _ rfl
  · exact takesStart_readRadix _ rfl
  · exact takesStart_readRadix _ rfl
  · exact takesStart_readRadix _ rfl
  · exact takesStart_readRadix _ rfl
  · split_ifs with hblank hdigit hsign
    · intro l rest h
      cases h
    · exact takesStart_readNumber hdigit
    · exact takesStart_readSign _
    · exact takesStart_readWord (by simpa using hblank) (by simpa using hsign)

/-- Only a comma or a parenthesis is taken for one. -/
theorem head?_of_keyword_eq_mark {t : Token} {c : Char} {rest : List Char} (hc : c ∈ listMarks)
    (hread : readPiece? cs = some (.token t.toLexeme, rest))
    (hkeyword : t.keyword = String.ofList [c]) : cs.head? = some c := by
  have hstart := takesStart_readPiece? cs t.toLexeme rest hread
  have hcode : listMarks.all (fun d => 0 < d.toNat && d.toNat < 65 &&
      !phrases.contains (String.ofList [d]) && !longSigns.contains (String.ofList [d])) = true := by
    decide +kernel
  have hmark := List.all_eq_true.1 hcode c hc
  simp only [Bool.and_eq_true, Bool.not_eq_true', decide_eq_true_eq, List.contains_eq_mem,
    decide_eq_false_iff_not] at hmark
  rcases hmark with ⟨⟨hupper, hphrase⟩, hlong⟩
  unfold Token.keyword at hkeyword
  split at hkeyword
  · rename_i hword
    rcases hstart.word hword with ⟨d, tail, hd, htext⟩
    rw [htext] at hkeyword
    exact absurd hc (Text.eq_of_upper_eq_sign hupper hkeyword ▸ hd)
  · rename_i hkind
    exact absurd (hkeyword ▸ hstart.phrase hkind) hphrase
  · rename_i hkind
    rcases hstart.sign hkind with hsign | ⟨d, hhead, htext⟩
    · exact absurd (hkeyword ▸ hsign) hlong
    · rw [htext] at hkeyword
      have hchars := congrArg String.toList hkeyword
      simp only [String.toList_ofList, List.cons.injEq, and_true] at hchars
      rw [hhead, hchars]
  · exact absurd (congrArg String.toList hkeyword) (by simp)

end Starts

/-- At the place of a comma or a parenthesis the text has just that character. -/
theorem getElem?_start_of_mark {s : String} {tokens : List Token} {t : Token} {c : Char}
    (h : tokens? s = some tokens) (ht : t ∈ tokens) (hc : c ∈ listMarks)
    (hkeyword : t.keyword = String.ofList [c]) : s.toList[t.start]? = some c := by
  have hne : t.keyword ≠ "" := by
    rw [hkeyword]
    exact fun heq => absurd (congrArg String.toList heq) (by simp)
  rcases stands_of_mem_tokens h t ht hne with ⟨rest, hread⟩
  rw [← List.head?_drop]
  exact head?_of_keyword_eq_mark hc hread hkeyword

end Sql
end QueryDesigner

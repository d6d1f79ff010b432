import Mathlib
import QueryDesigner.Sql.Lexer

/-!
# What the lexer cuts off

* `leaves_readPiece?` — every cut takes at least one character and leaves the end of the text, so
  the cuts of a text never run out of steps;
* `CutsInto` — all cuts of a text with their places;
* `Lexes` — tokens that stand one right after the other, and what follows them;
* `tokens?_of_lexes` — a text that is a row of calm tokens has just these tokens.
-/

namespace QueryDesigner
namespace Sql

/-! ## Every cut takes something -/

/-- What is left after a cut, if there is one, is the end of the given text. -/
def LeavesEnd (cs : List Char) (cut : Option (α × List Char)) : Prop :=
  ∀ content rest, cut = some (content, rest) → rest <:+ cs

namespace LeavesEnd

variable {cs ds : List Char} {cut : Option (α × List Char)}

theorem none : LeavesEnd cs (Option.none : Option (α × List Char)) := by
  intro content rest h
  cases h

theorem some {cut : α × List Char} (hend : cut.2 <:+ cs) : LeavesEnd cs (Option.some cut) := by
  intro content rest h
  obtain rfl := Option.some.inj h
  exact hend

theorem mono (h : LeavesEnd cs cut) (hend : cs <:+ ds) : LeavesEnd ds cut :=
  fun content rest heq => (h content rest heq).trans hend

theorem cons {c : Char} (h : LeavesEnd cs cut) : LeavesEnd (c :: cs) cut :=
  h.mono (List.suffix_cons c cs)

theorem map (f : α × List Char → β × List Char) (hf : ∀ p, (f p).2 = p.2)
    (h : LeavesEnd cs cut) : LeavesEnd cs (cut.map f) := by
  intro content rest heq
  rcases Option.map_eq_some_iff.1 heq with ⟨p, hp, hfp⟩
  have hrest : p.2 = rest := by rw [← hf p, hfp]
  exact hrest ▸ h p.1 p.2 hp

end LeavesEnd

section End

open LeavesEnd

variable {cs : List Char}

theorem leaves_readText? (quote : Char) (cs : List Char) :
    LeavesEnd cs (readText? quote cs) := by
  fun_induction readText? quote cs with
  | case1 => exact .none
  | case2 c cs =>
      rename_i content ih
      exact ih.cons.cons.map _ fun _ => rfl
  | case3 cs _ ih => exact ih.cons.cons.map _ fun _ => rfl
  | case4 c cs => exact .some (List.suffix_cons _ _)
  | case5 => exact .some List.nil_suffix
  | case6 c cs _ _ ih => exact ih.cons.map _ fun _ => rfl

theorem leaves_readName? (cs : List Char) : LeavesEnd cs (readName? cs) := by
  fun_induction readName? cs with
  | case1 => exact .none
  | case2 cs ih => exact ih.cons.cons.map _ fun _ => rfl
  | case3 cs => exact .some (List.suffix_cons _ _)
  | case4 c cs _ _ ih => exact ih.cons.map _ fun _ => rfl

theorem leaves_blockComment? (cs : List Char) : LeavesEnd cs (blockComment? cs) := by
  fun_induction blockComment? cs with
  | case1 => exact .none
  | case2 cs => exact .some ((List.suffix_cons _ _).trans (List.suffix_cons _ _))
  | case3 c cs _ ih => exact ih.cons.map _ fun _ => rfl

theorem numberTail_suffix (p : NumberPart) (cs : List Char) : (numberTail p cs).2 <:+ cs := by
  fun_induction numberTail p cs with
  | case1 => exact List.suffix_rfl
  | case2 _ c cs _ _ ih => exact ih.trans (List.suffix_cons _ _)
  | case3 => exact List.suffix_rfl

theorem readSign_suffix (c : Char) : (readSign c cs).2 <:+ cs := by
  unfold readSign
  split
  next sign hsign =>
      -- a longer sign has at least the character that is read first
      have hpos : ∀ s ∈ longSigns, 0 < s.toList.length := by decide
      rcases Nat.exists_eq_succ_of_ne_zero (hpos sign (List.mem_of_find?_eq_some hsign)).ne' with
        ⟨n, hn⟩
      rw [hn]
      exact List.drop_suffix n cs
  next => exact List.suffix_rfl

theorem readWord_suffix : (readWord cs).2 <:+ cs.dropWhile isWordPart := by
  unfold readWord
  dsimp only
  split
  · exact (List.dropWhile_suffix _).trans (List.dropWhile_suffix _)
  · exact List.suffix_rfl

theorem readNumber_suffix (c : Char) (hc : Text.isDigit c = true) :
    (readNumber c hc cs).2 <:+ cs := by
  unfold readNumber
  dsimp only
  split
  · exact (List.dropWhile_suffix _).trans (numberTail_suffix _ _)
  · exact numberTail_suffix _ _

variable {kind : TokenKind} {letter : Char} {digit : Char → Bool}

theorem readRadix_suffix {mark : Char} (h : (kind == .number) = false) :
    (readRadix kind letter mark digit cs h).2 <:+ cs := by
  unfold readRadix
  dsimp only
  split <;> exact List.dropWhile_suffix _

theorem leaves_quotedRadix (h : (kind == .number) = false) :
    LeavesEnd cs (quotedRadix kind letter digit cs h) := by
  unfold quotedRadix
  have hread := leaves_readText? '\'' cs
  split
  next digits rest heq =>
      split
      · exact .some (hread digits rest heq)
      · exact .none
  next => exact .none

theorem leaves_quotedText (quote : Char) (h : (kind == .number) = false) :
    LeavesEnd cs (quotedPiece kind (readText? quote cs) h) :=
  (leaves_readText? quote cs).map _ fun _ => rfl

theorem leaves_comment (isHint : Bool) :
    LeavesEnd cs (commentPiece isHint (blockComment? cs)) :=
  (leaves_blockComment? cs).map _ fun _ => rfl

theorem leaves_lineComment : LeavesEnd cs (some (lineComment cs)) :=
  .some (List.dropWhile_suffix _)

/-- A word has at least one letter: it starts with what is neither a blank nor a sign. -/
theorem leaves_readWord {c : Char} (hblank : Text.isBlank c = false) (hsign : isSign c = false) :
    LeavesEnd cs (some (readWord (c :: cs))) := by
  refine .some (readWord_suffix.trans ?_)
  rw [List.dropWhile_cons_of_pos (by simp [isWordPart, hblank, hsign])]
  exact List.dropWhile_suffix _

theorem leaves_readPiece? (cs : List Char) : LeavesEnd cs.tail (readPiece? cs) := by
  unfold readPiece?
  split
  · exact .none
  · exact leaves_lineComment.cons
  · exact .some (readSign_suffix _)
  · exact leaves_lineComment
  · exact (leaves_comment true).cons.cons
  · exact (leaves_comment false).cons
  · exact leaves_quotedText _ _
  · exact leaves_quotedText _ _
  · exact (leaves_readName? _).map _ fun _ => rfl
  · exact (leaves_quotedText _ _).cons
  · exact (leaves_quotedText _ _).cons
  · exact (leaves_quotedText _ _).cons
  · exact (leaves_quotedText _ _).cons
  · exact (leaves_quotedRadix _).cons
  · exact (leaves_quotedRadix _).cons
  · exact (leaves_quotedRadix _).cons
  · exact (leaves_quotedRadix _).cons
  · exact (LeavesEnd.some (readRadix_suffix _)).cons
  · exact (LeavesEnd.some (readRadix_suffix _)).cons
  · exact (LeavesEnd.some (readRadix_suffix _)).cons
  · exact (LeavesEnd.some (readRadix_suffix _)).cons
  · split_ifs with hblank hdigit hsign
    · exact .some (List.dropWhile_suffix _)
    · exact .some (readNumber_suffix _ hdigit)
    · exact .some (readSign_suffix _)
    · exact leaves_readWord (by simpa using hblank) (by simpa using hsign)

theorem length_lt_of_readPiece? {piece : Piece} {cs rest : List Char}
    (h : readPiece? cs = some (piece, rest)) : rest.length < cs.length := by
  have hend := leaves_readPiece? cs piece rest h
  cases cs with
  | nil => cases h
  | cons c cs => exact Nat.lt_succ_of_le hend.length_le

end End

/-- What is left after a piece starts where the piece stops. -/
theorem drop_of_readPiece? {piece : Piece} {cs rest : List Char}
    (h : readPiece? cs = some (piece, rest)) : cs.drop (cs.length - rest.length) = rest := by
  rcases (leaves_readPiece? cs piece rest h).trans (List.tail_suffix cs) with ⟨taken, rfl⟩
  simp

/-! ## All cuts -/

/-- The cuts of a whole text that starts at the given place. -/
inductive CutsInto : Nat → List Char → List Cut → Prop where
  | nil (start : Nat) : CutsInto start [] []
  | cons {start : Nat} {cs rest : List Char} {piece : Piece} {cuts : List Cut} :
      readPiece? cs = some (piece, rest) →
        CutsInto (start + (cs.length - rest.length)) rest cuts →
          CutsInto start cs (⟨piece, start, start + (cs.length - rest.length)⟩ :: cuts)

theorem CutsInto.append (start : Nat) (taken : List Char) {rest : List Char} {piece : Piece}
    {cuts : List Cut} (hread : readPiece? (taken ++ rest) = some (piece, rest))
    (hrest : CutsInto (start + taken.length) rest cuts) :
    CutsInto start (taken ++ rest) (⟨piece, start, start + taken.length⟩ :: cuts) := by
  have hlength : (taken ++ rest).length - rest.length = taken.length := by simp
  rw [← hlength] at hrest ⊢
  exact .cons hread hrest

/-- There are always steps enough. -/
theorem cutsFrom?_eq_some_iff {steps start : Nat} {cs : List Char} {cuts : List Cut}
    (hsteps : cs.length ≤ steps) :
    cutsFrom? steps start cs = some cuts ↔ CutsInto start cs cuts := by
  constructor
  · intro h
    fun_induction cutsFrom? steps start cs generalizing cuts with
    | case1 =>
        obtain rfl := Option.some.inj h
        exact .nil _
    | case2 => cases h
    | case3 => cases h
    | case4 steps start c cs piece rest hread =>
        rename_i ih
        rcases Option.map_eq_some_iff.1 h with ⟨later, hlater, rfl⟩
        have hlt := length_lt_of_readPiece? hread
        simp only [List.length_cons] at hsteps hlt
        exact .cons hread (ih (by omega) hlater)
  · intro h
    induction h generalizing steps with
    | nil =>
        unfold cutsFrom?
        rfl
    | @cons start cs rest piece cuts hread _ ih =>
        have hlt := length_lt_of_readPiece? hread
        match cs, steps, hsteps, hlt with
        | c :: cs, steps + 1, hsteps, hlt =>
            simp only [List.length_cons] at hsteps hlt
            rw [cutsFrom?, hread]
            dsimp only
            rw [ih (by omega)]
            rfl

theorem cuts?_eq_some_iff {cs : List Char} {cuts : List Cut} :
    cuts? cs = some cuts ↔ CutsInto 0 cs cuts := cutsFrom?_eq_some_iff (le_refl _)

/-! ## Rows of tokens -/

/-- Tokens at the start of a text, one right after the other, and what follows them. -/
inductive Lexes : List Char → List Lexeme → List Char → Prop where
  | nil (cs : List Char) : Lexes cs [] cs
  | cons {cs rest after : List Char} {l : Lexeme} {ls : List Lexeme} :
      readPiece? cs = some (.token l, rest) → Lexes rest ls after → Lexes cs (l :: ls) after

/-- A text, a number, or a sign: what is on its own whatever stands before it, and starts no
statement that is not looked into. -/
def Lexeme.IsCalm (l : Lexeme) : Prop :=
  l.kind = .text ∨ l.kind = .number ∨ l.kind = .sign ∧ commandWords.contains l.text = false

/-- The cuts of a row of tokens that fills a text. -/
theorem Lexes.cutsInto {cs rest : List Char} {lexemes : List Lexeme} (h : Lexes cs lexemes rest) :
    rest = [] → ∀ start, ∃ cuts, CutsInto start cs cuts ∧
      cuts.map Cut.piece = lexemes.map Piece.token := by
  induction h with
  | nil cs =>
      rintro rfl start
      exact ⟨[], .nil start, rfl⟩
  | cons hread _ ih =>
      intro hafter start
      rcases ih hafter _ with ⟨cuts, hcuts, hpieces⟩
      exact ⟨_, .cons hread hcuts, by rw [List.map_cons, List.map_cons, hpieces]⟩

/-- What is no word is taken as it is, whatever stands before it. -/
theorem lexemeAfter_of_ne_word {l : Lexeme} (previous : List Token) (h : l.kind ≠ .word) :
    lexemeAfter previous l = l := by
  unfold lexemeAfter
  split
  next hkind => exact absurd hkind h
  next => rfl

theorem Lexeme.IsCalm.ne_word {l : Lexeme} (h : l.IsCalm) : l.kind ≠ .word := by
  rcases h with h | h | ⟨h, -⟩ <;> rw [h] <;> decide

theorem Lexeme.IsCalm.not_command {t : Token} (h : t.toLexeme.IsCalm) :
    commandWords.contains t.keyword = false := by
  rcases h with h | h | ⟨h, hsign⟩
  · simp [Token.keyword, h]; decide
  · simp [Token.keyword, h]; decide
  · simpa [Token.keyword, h] using hsign

/-- Without comments and words, one token comes from one cut. -/
theorem foldl_add_of_pieces {cuts : List Cut} {lexemes : List Lexeme}
    (hpieces : cuts.map Cut.piece = lexemes.map Piece.token)
    (hwords : ∀ l ∈ lexemes, l.kind ≠ .word) (a : Attaching) (ha : a.pending = []) :
    (cuts.foldl Attaching.add a).pending = [] ∧
      (cuts.foldl Attaching.add a).tokens.map Token.toLexeme =
        lexemes.reverse ++ a.tokens.map Token.toLexeme := by
  induction cuts generalizing lexemes a with
  | nil =>
      obtain rfl : lexemes = [] := by simpa using hpieces.symm
      exact ⟨ha, rfl⟩
  | cons cut cuts ih =>
      rcases lexemes with _ | ⟨l, ls⟩
      · cases hpieces
      · simp only [List.map_cons, List.cons.injEq] at hpieces
        rcases hpieces with ⟨hpiece, hrest⟩
        have hkind := lexemeAfter_of_ne_word a.tokens (hwords l List.mem_cons_self)
        have hadd : a.add cut = ⟨⟨l, cut.start, cut.stop, a.pending⟩ :: a.tokens, [], true⟩ := by
          simp only [Attaching.add, hpiece, hkind]
        rcases ih hrest (fun l' hl' => hwords l' (List.mem_cons_of_mem l hl')) (a.add cut)
          (by rw [hadd]) with ⟨hpending, htokens⟩
        refine ⟨hpending, ?_⟩
        rw [List.foldl_cons, htokens, hadd]
        simp

/-- No token of a calm row is part of a command. -/
theorem withCommands_of_calm (source : List Char) {tokens : List Token}
    (hcalm : ∀ t ∈ tokens, t.toLexeme.IsCalm) (state : CommandState) (hstate : state ≠ .skipping) :
    withCommands source state tokens = tokens := by
  induction tokens generalizing state with
  | nil => cases state <;> rfl
  | cons t rest ih =>
      have hrest := ih fun t' ht' => hcalm t' (List.mem_cons_of_mem t ht')
      have hnext : (if precedesStatement t then CommandState.atStart else .inside) ≠ .skipping := by
        split <;> decide
      cases state with
      | atStart =>
          have hplain := (hcalm t List.mem_cons_self).not_command
          have hkeyword : ¬ (commandWords.contains t.keyword = true ∧ source[t.stop]? ≠ some ';') :=
            fun h => Bool.false_ne_true (hplain.symm.trans h.1)
          rw [withCommands, if_neg hkeyword, hrest _ hnext]
      | inside => rw [withCommands, hrest _ hnext]
      | skipping => exact absurd rfl hstate

theorem tokens?_of_lexes {s : String} {lexemes : List Lexeme} (h : Lexes s.toList lexemes [])
    (hcalm : ∀ l ∈ lexemes, l.IsCalm) :
    (tokens? s).map (List.map Token.toLexeme) = some lexemes := by
  rcases h.cutsInto rfl 0 with ⟨cuts, hcuts, hpieces⟩
  rcases foldl_add_of_pieces hpieces (fun l hl => (hcalm l hl).ne_word) {} rfl with
    ⟨hpending, htokens⟩
  have hlexemes : (withComments cuts).map Token.toLexeme = lexemes := by
    rw [withComments, Attaching.finish]
    split
    next hnil =>
        rw [hnil] at htokens
        simpa using htokens.symm
    next t earlier hcons =>
        rw [hcons] at htokens
        rw [List.map_reverse, List.map_cons]
        rw [List.map_cons] at htokens
        rw [htokens]
        simp
  have hcommands : withCommands s.toList .atStart (withComments cuts) = withComments cuts := by
    refine withCommands_of_calm _ (fun t ht => hcalm _ ?_) _ (by decide)
    exact hlexemes ▸ List.mem_map_of_mem ht
  rw [tokens?, cuts?_eq_some_iff.2 hcuts, Option.map_some, Option.map_some, hcommands, hlexemes]

end Sql
end QueryDesigner

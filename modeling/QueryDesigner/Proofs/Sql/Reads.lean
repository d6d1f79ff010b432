import Mathlib
import QueryDesigner.Proofs.Sql.Stem

/-!
# Tokens without their places

The tokens of a text, but for where they stand and for the letter case of what stands without
quotes.

* `Lexeme.key`, `Token.key` — what a token is in that reading;
* `Reads` — the tokens of a text one after the other, blanks and enclosed comments between them;
* `reads_of_cutsInto`, `Reads.exists_cuts` — they are what the text is cut into;
* `resolved`, `keys_withComments` — comments change nothing, and at signs make variables of words;
* `opensCommand`, `withCommands_eq_self` — statements that are looked into;
* `Reads.tokens?`, `reads_of_tokens?` — the tokens of a text are those that it reads as.
-/

namespace QueryDesigner
namespace Sql

/-! ## Keys -/

/-- What a token is but for the letter case of words, and of names without quotes. -/
def Lexeme.key (quoted : Bool) (l : Lexeme) : TokenKind × String :=
  match l.kind with
  | .word => (.word, Text.upper l.text)
  | .variable => (.variable, Text.upper l.text)
  | .name => (.name, if quoted then l.text else Text.upper l.text)
  | kind => (kind, l.text)

theorem Lexeme.key_word {s t : String} (h : Text.upper s = Text.upper t) :
    (Lexeme.of .word s).key false = (Lexeme.of .word t).key false :=
  congrArg (TokenKind.word, ·) h

theorem Lexeme.key_name {s t : String} (h : Text.upper s = Text.upper t) :
    (Lexeme.of .name s).key false = (Lexeme.of .name t).key false :=
  congrArg (TokenKind.name, ·) h

/-- Whether a text starts with a name between backquotes. -/
def startsName (cs : List Char) : Bool := cs.head? == some '`'

/-- What a token of a source is but for the letter case of what stands without quotes. -/
def Token.key (source : List Char) (t : Token) : TokenKind × String :=
  t.toLexeme.key (startsName (source.drop t.start))

/-- The word or the sign that the grammar sees. -/
def keywordOf (key : TokenKind × String) : String :=
  match key.1 with
  | .word | .phrase | .sign => key.2
  | _ => ""

theorem Token.keyword_eq (source : List Char) (t : Token) :
    t.keyword = keywordOf (t.key source) := by
  unfold Token.keyword Token.key Lexeme.key
  cases t.kind <;> rfl

/-! ## Reading -/

/-- A text without quotes. -/
def isUnquoted (cs : List Char) : Bool := cs.all fun c => !(['\'', '"', '`'].contains c)

/-- The tokens that a text reads as, with blanks between them, and comments that are enclosed in
marks, hold no quote and give no advice. -/
inductive Reads : List Char → List (TokenKind × String) → Prop where
  | nil {cs : List Char} : Text.dropBlanks cs = [] → Reads cs []
  | token {cs rest : List Char} {l : Lexeme} {keys : List (TokenKind × String)} :
      readPiece? (Text.dropBlanks cs) = some (.token l, rest) → Reads rest keys →
        Reads cs (l.key (startsName (Text.dropBlanks cs)) :: keys)
  | comment {cs body text rest : List Char} {keys : List (TokenKind × String)} :
      Text.dropBlanks cs = '/' :: '*' :: body → isNext '+' body = false →
        blockComment? body = some (text, rest) → isUnquoted text = true → Reads rest keys →
          Reads cs keys

/-- Blanks at the start make no difference. -/
theorem Reads.congr {cs ds : List Char} {keys : List (TokenKind × String)}
    (h : Text.dropBlanks cs = Text.dropBlanks ds) (hreads : Reads cs keys) : Reads ds keys := by
  cases hreads with
  | nil hblank =>
      exact .nil (h ▸ hblank)
  | token hread hrest =>
      rw [h] at hread ⊢
      exact .token hread hrest
  | comment hstart hhint hbody htext hrest =>
      exact .comment (h ▸ hstart) hhint hbody htext hrest

theorem dropBlanks_dropBlanks (cs : List Char) :
    Text.dropBlanks (Text.dropBlanks cs) = Text.dropBlanks cs :=
  List.dropWhile_idempotent _ cs

theorem dropBlanks_cons_of_ink {c : Char} (hc : Text.isBlank c = false) (cs : List Char) :
    Text.dropBlanks (c :: cs) = c :: cs := List.dropWhile_cons_of_neg (by simp [hc])

/-! ## Cuts -/

/-- Blanks, a token, or a comment that is enclosed in marks, holds no quote and gives no advice. -/
def Cut.isSpared (source : List Char) (cut : Cut) : Bool :=
  match cut.piece with
  | .comment text isHint =>
    !isHint && source[cut.start]? == some '/' && isUnquoted text.toList
  | _ => true

/-- The token that was cut off. -/
def Cut.key? (source : List Char) (cut : Cut) : Option (TokenKind × String) :=
  match cut.piece with
  | .token l => some (l.key (startsName (source.drop cut.start)))
  | _ => none

section Cuts

variable {source cs rest : List Char} {keys : List (TokenKind × String)} {cuts : List Cut}

theorem readPiece?_of_isBlank {c : Char} (hc : Text.isBlank c = true) (cs : List Char) :
    ∃ hasBreak, readPiece? (c :: cs) = some (.blank hasBreak, Text.dropBlanks cs) := by
  have hne : ∀ d, Text.isBlank d = false → c ≠ d := by
    rintro d hd rfl
    rw [hc] at hd
    cases hd
  have hmarks : c ∉ marks := by
    have hall : marks.all (fun d => !Text.isBlank d) = true := by decide
    exact fun hmem => hne c (by simpa using List.all_eq_true.1 hall c hmem) rfl
  rw [readPiece?_of_plain hmarks (fun heq => absurd heq (hne '-' (by decide)))
    (fun heq => absurd heq (hne '0' (by decide))), if_pos hc]
  exact ⟨_, rfl⟩

/-- Only what starts with a blank is cut off as blanks. -/
theorem isBlank_of_readPiece? {c : Char} {hasBreak : Bool}
    (h : readPiece? (c :: cs) = some (.blank hasBreak, rest)) : Text.isBlank c = true := by
  unfold readPiece? at h
  split at h
  case h_1 heq => cases heq
  case h_2 | h_4 => cases h
  case h_3 tail heq =>
      rcases exists_token_readSign '#' ('>' :: tail) with ⟨l, after, htoken⟩
      rw [htoken] at h
      cases h
  case h_5 | h_6 | h_7 | h_8 | h_9 | h_10 | h_11 | h_12 | h_13 =>
      rcases Option.map_eq_some_iff.1 h with ⟨_, _, hpiece⟩
      cases hpiece
  case h_14 | h_15 | h_16 | h_17 =>
      unfold quotedRadix at h
      split at h
      · split_ifs at h
        cases h
      · cases h
  case h_18 | h_19 | h_20 | h_21 =>
      unfold readRadix at h
      dsimp only at h
      split_ifs at h
      all_goals cases h
  case h_22 heq =>
      obtain ⟨rfl, rfl⟩ := List.cons.inj heq
      split_ifs at h with hblank hdigit
      · exact hblank
      · rcases exists_token_readNumber hdigit cs with ⟨l, after, htoken⟩
        rw [htoken] at h
        cases h
      · rcases exists_token_readSign c cs with ⟨l, after, htoken⟩
        rw [htoken] at h
        cases h
      · rcases exists_token_readWord (c :: cs) with ⟨l, after, htoken⟩
        rw [htoken] at h
        cases h

theorem drop_stop {source cs rest : List Char} {start : Nat} {piece : Piece}
    (hsource : source.drop start = cs) (hread : readPiece? cs = some (piece, rest)) :
    source.drop (start + (cs.length - rest.length)) = rest := by
  rw [← List.drop_drop, hsource, drop_of_readPiece? hread]

theorem readPiece?_comment {body : List Char} (h : isNext '+' body = false) :
    readPiece? ('/' :: '*' :: body) = commentPiece false (blockComment? body) := by
  unfold readPiece?
  split
  case h_5 rest heq =>
      obtain ⟨-, -, rfl⟩ : '/' = '/' ∧ '*' = '*' ∧ body = '+' :: rest := by simpa using heq
      exact absurd h (by simp [isNext])
  case h_6 heq =>
      obtain ⟨-, rfl⟩ := List.cons.inj (List.cons.inj heq).2
      rfl
  case h_22 hnot _ _ _ _ _ _ _ _ _ _ _ _ _ _ _ heq =>
      obtain ⟨rfl, rfl⟩ := List.cons.inj heq
      exact absurd rfl (hnot body rfl)
  all_goals
    rename_i heq
    cases heq

/-- A comment that starts with a slash is enclosed in marks. -/
theorem blockComment?_of_readPiece? {tail : List Char} {text : String}
    (h : readPiece? ('/' :: tail) = some (.comment text false, rest)) :
    ∃ body, tail = '*' :: body ∧ isNext '+' body = false ∧
      blockComment? body = some (text.toList, rest) := by
  unfold readPiece? at h
  split at h
  case h_5 =>
      rcases Option.map_eq_some_iff.1 h with ⟨_, _, heq⟩
      cases heq
  case h_6 body hhint heq =>
      obtain ⟨-, rfl⟩ := List.cons.inj heq
      refine ⟨body, rfl, ?_, ?_⟩
      · cases body with
        | nil =>
            rfl
        | cons c body =>
            have hc : c ≠ '+' := by
              rintro rfl
              exact hhint body rfl
            simpa [isNext] using hc
      · rcases Option.map_eq_some_iff.1 h with ⟨⟨text', rest'⟩, hbody, hpiece⟩
        cases hpiece
        rw [hbody, String.toList_ofList]
  case h_22 heq =>
      obtain ⟨rfl, rfl⟩ := List.cons.inj heq
      rcases exists_token_readSign '/' tail with ⟨l, after, htoken⟩
      rw [if_neg (by decide), dif_neg (by decide +kernel), if_pos (by decide), htoken] at h
      cases h
  all_goals
    rename_i heq
    cases heq

/-- A text that is cut into tokens, blanks and enclosed comments reads as the tokens. -/
theorem reads_of_cutsInto {start : Nat} (h : CutsInto start cs cuts)
    (hsource : source.drop start = cs) (hspared : ∀ cut ∈ cuts, cut.isSpared source = true) :
    Reads cs (cuts.filterMap (Cut.key? source)) := by
  induction h with
  | nil =>
      exact .nil rfl
  | @cons start cs rest piece cuts hread _ ih =>
      have hrest := ih (drop_stop hsource hread) fun cut hcut =>
        hspared cut (List.mem_cons_of_mem _ hcut)
      cases cs with
      | nil =>
          cases hread
      | cons c tail =>
          cases piece with
          | blank hasBreak =>
              have hc := isBlank_of_readPiece? hread
              rcases readPiece?_of_isBlank hc tail with ⟨_, hblank⟩
              obtain rfl : rest = Text.dropBlanks tail := by
                rw [hblank] at hread
                exact (Prod.mk.inj (Option.some.inj hread)).2.symm
              refine hrest.congr ?_
              rw [dropBlanks_dropBlanks, Text.dropBlanks, Text.dropBlanks,
                List.dropWhile_cons_of_pos hc]
          | token l =>
              have hc : Text.isBlank c = false := by
                by_contra hc
                rcases readPiece?_of_isBlank (by simpa using hc) tail with ⟨_, hblank⟩
                rw [hblank] at hread
                cases hread
              have hdrop := dropBlanks_cons_of_ink hc tail
              have hread' : readPiece? (Text.dropBlanks (c :: tail)) = some (.token l, rest) := by
                rw [hdrop, hread]
              have htoken := Reads.token hread' hrest
              rw [hdrop] at htoken
              simpa only [List.filterMap_cons, Cut.key?, hsource] using htoken
          | comment text isHint =>
              have hcut := hspared _ List.mem_cons_self
              simp only [Cut.isSpared, Bool.and_eq_true, Bool.not_eq_true', beq_iff_eq,
                ← List.head?_drop, hsource, List.head?_cons, Option.some.injEq] at hcut
              rcases hcut with ⟨⟨rfl, rfl⟩, htext⟩
              rcases blockComment?_of_readPiece? hread with ⟨body, rfl, hhint, hbody⟩
              exact .comment (dropBlanks_cons_of_ink (by decide) _) hhint hbody htext hrest

/-- Blanks in front of what is cut are one more cut. -/
theorem exists_cuts_of_dropBlanks {start : Nat} (hsource : source.drop start = cs)
    (h : ∀ start, source.drop start = Text.dropBlanks cs → ∃ cuts,
      CutsInto start (Text.dropBlanks cs) cuts ∧ (∀ cut ∈ cuts, cut.isSpared source = true) ∧
        cuts.filterMap (Cut.key? source) = keys) :
    ∃ cuts, CutsInto start cs cuts ∧ (∀ cut ∈ cuts, cut.isSpared source = true) ∧
      cuts.filterMap (Cut.key? source) = keys := by
  cases cs with
  | nil =>
      exact h start hsource
  | cons c tail =>
      cases hc : Text.isBlank c with
      | false =>
          rw [dropBlanks_cons_of_ink hc] at h
          exact h start hsource
      | true =>
          have hdrop : Text.dropBlanks (c :: tail) = Text.dropBlanks tail :=
            List.dropWhile_cons_of_pos hc
          rcases readPiece?_of_isBlank hc tail with ⟨hasBreak, hblank⟩
          rw [hdrop] at h
          rcases h _ (drop_stop hsource hblank) with ⟨cuts, hcuts, hspared, hkeys⟩
          exact ⟨_, .cons hblank hcuts, List.forall_mem_cons.2 ⟨rfl, hspared⟩, hkeys⟩

/-- A text is cut into the tokens that it reads as, blanks and enclosed comments. -/
theorem Reads.exists_cuts (h : Reads cs keys) {start : Nat} (hsource : source.drop start = cs) :
    ∃ cuts, CutsInto start cs cuts ∧ (∀ cut ∈ cuts, cut.isSpared source = true) ∧
      cuts.filterMap (Cut.key? source) = keys := by
  induction h generalizing start with
  | nil hblank =>
      refine exists_cuts_of_dropBlanks hsource fun start _ => ⟨[], ?_, by simp, rfl⟩
      rw [hblank]
      exact .nil start
  | token hread _ ih =>
      refine exists_cuts_of_dropBlanks hsource fun start hstart => ?_
      rcases ih (drop_stop hstart hread) with ⟨cuts, hcuts, hspared, rfl⟩
      refine ⟨_, .cons hread hcuts, List.forall_mem_cons.2 ⟨rfl, hspared⟩, ?_⟩
      rw [List.filterMap_cons, Cut.key?, hstart]
  | @comment cs body text rest keys hopen hhint hbody htext _ ih =>
      refine exists_cuts_of_dropBlanks hsource fun start hstart => ?_
      have hread : readPiece? (Text.dropBlanks cs) =
          some (.comment (String.ofList text) false, rest) := by
        rw [hopen, readPiece?_comment hhint, hbody]
        rfl
      rcases ih (drop_stop hstart hread) with ⟨cuts, hcuts, hspared, rfl⟩
      refine ⟨_, .cons hread hcuts, List.forall_mem_cons.2 ⟨?_, hspared⟩, rfl⟩
      simp [Cut.isSpared, ← List.head?_drop, hstart, hopen, htext]

end Cuts

/-! ## Comments beside tokens -/

/-- The tokens with words after at signs as variables.  The flag says whether an at sign stands in
front. -/
def resolved : Bool → List (TokenKind × String) → List (TokenKind × String)
  | _, [] => []
  | afterSign, (kind, text) :: rest =>
    let key := (if afterSign ∧ kind = .word then .variable else kind, text)
    key :: resolved (keywordOf key == "@") rest

/-- Whether the latest token is an at sign. -/
def endsWithSign (tokens : List Token) : Bool := (tokens.head?.map fun t => t.is "@").getD false

section Attaching

variable {source : List Char}

theorem key_lexemeAfter (previous : List Token) (l : Lexeme) (quoted : Bool) :
    (lexemeAfter previous l).key quoted =
      (if endsWithSign previous ∧ (l.key quoted).1 = .word then .variable else (l.key quoted).1,
        (l.key quoted).2) := by
  have hkind : (l.key quoted).1 = l.kind := by
    unfold Lexeme.key
    cases l.kind <;> rfl
  rw [hkind]
  by_cases hvariable : endsWithSign previous = true ∧ l.kind = .word
  · rcases hvariable with ⟨hends, hword⟩
    cases previous with
    | nil =>
        cases hends
    | cons t earlier =>
        have hsign : t.is "@" = true := hends
        rw [if_pos ⟨hends, hword⟩]
        simp [lexemeAfter, Lexeme.key, Lexeme.of, hword, hsign]
  · have hsame : lexemeAfter previous l = l := by
      by_cases hword : l.kind = .word
      · cases previous with
        | nil =>
            rfl
        | cons t earlier =>
            have hsign : ¬ t.is "@" = true := fun hsign => hvariable ⟨hsign, hword⟩
            simp only [lexemeAfter, hword, if_neg hsign]
      · exact lexemeAfter_of_ne_word previous hword
    rw [if_neg hvariable, hsame, ← hkind]

theorem endsWithSign_eq (source : List Char) (tokens : List Token) :
    endsWithSign tokens = ((tokens.map (Token.key source)).head?.map
      fun key => keywordOf key == "@").getD false := by
  cases tokens with
  | nil =>
      rfl
  | cons t earlier =>
      simp [endsWithSign, Token.is, ← Token.keyword_eq]

/-- An enclosed comment adds no token. -/
theorem keys_add_of_comment (a : Attaching) {cut : Cut} {text : String}
    (hpiece : cut.piece = .comment text false) :
    (a.add cut).tokens.map (Token.key source) = a.tokens.map (Token.key source) := by
  simp only [Attaching.add, hpiece, Bool.false_and]
  cases htokens : a.tokens with
  | nil =>
      rfl
  | cons t earlier =>
      dsimp only
      rw [if_neg (by decide)]
      split_ifs
      · rfl
      · rfl

theorem keys_foldl_add {cuts : List Cut} (hspared : ∀ cut ∈ cuts, cut.isSpared source = true)
    (a : Attaching) :
    (cuts.foldl Attaching.add a).tokens.map (Token.key source) =
      (resolved (endsWithSign a.tokens) (cuts.filterMap (Cut.key? source))).reverse ++
        a.tokens.map (Token.key source) := by
  induction cuts generalizing a with
  | nil =>
      rfl
  | cons cut cuts ih =>
      rw [List.forall_mem_cons] at hspared
      rw [List.foldl_cons, ih hspared.2, List.filterMap_cons]
      cases hpiece : cut.piece with
      | blank hasBreak =>
          have htokens : (a.add cut).tokens = a.tokens := by simp only [Attaching.add, hpiece]
          simp only [Cut.key?, hpiece, htokens]
      | comment text isHint =>
          obtain rfl : isHint = false := by
            have hcut := hspared.1
            simp only [Cut.isSpared, hpiece, Bool.and_eq_true, Bool.not_eq_true'] at hcut
            exact hcut.1.1
          have hkeys : (a.add cut).tokens.map (Token.key source) = a.tokens.map (Token.key source) :=
            keys_add_of_comment a hpiece
          rw [endsWithSign_eq source, hkeys, ← endsWithSign_eq]
          simp only [Cut.key?, hpiece]
      | token l =>
          have htokens : (a.add cut).tokens =
              ⟨lexemeAfter a.tokens l, cut.start, cut.stop, a.pending⟩ :: a.tokens := by
            simp only [Attaching.add, hpiece]
          have hkey := key_lexemeAfter a.tokens l (startsName (source.drop cut.start))
          rw [endsWithSign_eq source, htokens, List.map_cons, List.head?_cons,
            Option.map_some, Option.getD_some, Token.key, hkey]
          simp only [Cut.key?, hpiece, resolved, List.reverse_cons, List.append_assoc,
            List.singleton_append]

theorem keys_finish (a : Attaching) :
    a.finish.map (Token.key source) = (a.tokens.map (Token.key source)).reverse := by
  unfold Attaching.finish
  cases a.tokens with
  | nil =>
      rfl
  | cons t earlier =>
      rw [List.map_reverse]
      rfl

theorem keys_withComments {cuts : List Cut} (hspared : ∀ cut ∈ cuts, cut.isSpared source = true) :
    (withComments cuts).map (Token.key source) =
      resolved false (cuts.filterMap (Cut.key? source)) := by
  rw [withComments, keys_finish, keys_foldl_add hspared]
  simp [endsWithSign]

end Attaching

/-! ## Commands -/

/-- Whether a statement starts with the word of a command.  The flag says whether one starts in
front. -/
def opensCommand : Bool → List Token → Bool
  | _, [] => false
  | start, t :: rest =>
    start && commandWords.contains t.keyword || opensCommand (precedesStatement t) rest

theorem opensCommand_congr {source source' : List Char} {tokens tokens' : List Token}
    (h : tokens.map (Token.key source) = tokens'.map (Token.key source')) (start : Bool) :
    opensCommand start tokens = opensCommand start tokens' := by
  induction tokens generalizing tokens' start with
  | nil =>
      rw [List.map_nil, eq_comm, List.map_eq_nil_iff] at h
      rw [h]
  | cons t rest ih =>
      cases tokens' with
      | nil =>
          cases h
      | cons t' rest' =>
          rcases List.cons.inj h with ⟨hkey, hrest⟩
          have hkeyword : t.keyword = t'.keyword := by
            rw [t.keyword_eq source, t'.keyword_eq source', hkey]
          simp only [opensCommand, precedesStatement, hkeyword, ih hrest]

section Commands

variable {source : List Char} {tokens : List Token} {state : CommandState}

theorem precedes_ne_skipping (t : Token) :
    (if precedesStatement t then CommandState.atStart else .inside) ≠ .skipping := by
  split_ifs <;> decide

theorem precedes_eq_atStart (t : Token) :
    ((if precedesStatement t then CommandState.atStart else .inside) == .atStart) =
      precedesStatement t := by
  cases precedesStatement t <;> rfl

/-- Without commands every statement is looked into. -/
theorem withCommands_eq_self (hstate : state ≠ .skipping)
    (h : opensCommand (state == .atStart) tokens = false) :
    withCommands source state tokens = tokens := by
  induction tokens generalizing state with
  | nil =>
      cases state <;> rfl
  | cons t rest ih =>
      rw [opensCommand, Bool.or_eq_false_iff, ← precedes_eq_atStart] at h
      have hrest := ih (precedes_ne_skipping t) h.2
      cases state with
      | atStart =>
          have hplain : commandWords.contains t.keyword = false := h.1
          rw [withCommands, if_neg fun h => Bool.false_ne_true (hplain.symm.trans h.1), hrest]
      | inside =>
          rw [withCommands, hrest]
      | skipping =>
          exact absurd rfl hstate

/-- The word of a command is kept. -/
theorem opensCommand_of_withCommands (hstate : state ≠ .skipping)
    (h : opensCommand (state == .atStart) (withCommands source state tokens) = false) :
    opensCommand (state == .atStart) tokens = false := by
  induction tokens generalizing state with
  | nil =>
      rfl
  | cons t rest ih =>
      have hrest := ih (precedes_ne_skipping t)
      rw [precedes_eq_atStart] at hrest
      cases state with
      | atStart =>
          rw [withCommands] at h
          by_cases hcommand : commandWords.contains t.keyword ∧ source[t.stop]? ≠ some ';'
          · rw [if_pos hcommand, opensCommand, hcommand.1] at h
            cases h
          · rw [if_neg hcommand, opensCommand, Bool.or_eq_false_iff] at h
            rw [opensCommand, Bool.or_eq_false_iff]
            exact ⟨h.1, hrest h.2⟩
      | inside =>
          rw [withCommands, opensCommand, Bool.or_eq_false_iff] at h
          rw [opensCommand, Bool.or_eq_false_iff]
          exact ⟨h.1, hrest h.2⟩
      | skipping =>
          exact absurd rfl hstate

end Commands

/-! ## The tokens of a text -/

/-- A text without commands has the tokens that it reads as. -/
theorem Reads.exists_tokens {s : String} {keys : List (TokenKind × String)}
    (h : Reads s.toList keys) {source : List Char} {tokens : List Token}
    (htokens : tokens.map (Token.key source) = resolved false keys)
    (hcommands : opensCommand true tokens = false) :
    ∃ tokens', tokens? s = some tokens' ∧
      tokens'.map (Token.key s.toList) = tokens.map (Token.key source) := by
  rcases h.exists_cuts List.drop_zero with ⟨cuts, hcuts, hspared, rfl⟩
  have hkeys : (withComments cuts).map (Token.key s.toList) = tokens.map (Token.key source) := by
    rw [keys_withComments hspared, htokens]
  have hself : withCommands s.toList .atStart (withComments cuts) = withComments cuts :=
    withCommands_eq_self (by decide) ((opensCommand_congr hkeys true).trans hcommands)
  refine ⟨withComments cuts, ?_, hkeys⟩
  rw [tokens?, cuts?_eq_some_iff.2 hcuts, Option.map_some, hself]

/-- If a text has no commands and no comments but enclosed ones, it reads as its tokens. -/
theorem reads_of_tokens? {s : String} {cuts : List Cut} {tokens : List Token}
    (hcuts : cuts? s.toList = some cuts) (htokens : tokens? s = some tokens)
    (hspared : ∀ cut ∈ cuts, cut.isSpared s.toList = true)
    (hcommands : opensCommand true tokens = false) :
    ∃ keys, Reads s.toList keys ∧ tokens.map (Token.key s.toList) = resolved false keys := by
  refine ⟨cuts.filterMap (Cut.key? s.toList),
    reads_of_cutsInto (cuts?_eq_some_iff.1 hcuts) rfl hspared, ?_⟩
  rw [tokens?, hcuts, Option.map_some] at htokens
  obtain rfl := Option.some.inj htokens
  have hself : withCommands s.toList .atStart (withComments cuts) = withComments cuts :=
    withCommands_eq_self (by decide) (opensCommand_of_withCommands (by decide) hcommands)
  rw [hself, keys_withComments hspared]

end Sql
end QueryDesigner

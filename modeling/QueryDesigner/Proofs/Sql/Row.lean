import Mathlib
import QueryDesigner.Proofs.Sql.Lexer
import QueryDesigner.Proofs.Sql.Reads
import QueryDesigner.Sql.Parser.Statement

/-!
# Texts as rows of tokens

* `Spells` — a text starts with the given tokens, with blanks between them;
* `Row` — tokens by what they are, wherever they stand, none of them with comments;
* `Lexeme.IsQuiet` — what does not change how the next token is taken;
* `exists_row_of_spells` — the tokens of a text are those that it spells;
* `splitStatements_of_row` — without a semicolon in between they are one statement.
-/

namespace QueryDesigner
namespace Sql

/-- A text starts with the given tokens, with blanks before and between them. -/
inductive Spells : List Char → List Lexeme → List Char → Prop where
  | nil (cs : List Char) : Spells cs [] cs
  | blank {cs rest after : List Char} {hasBreak : Bool} {ls : List Lexeme} :
      readPiece? cs = some (.blank hasBreak, rest) → Spells rest ls after → Spells cs ls after
  | cons {cs rest after : List Char} {l : Lexeme} {ls : List Lexeme} :
      readPiece? cs = some (.token l, rest) → Spells rest ls after → Spells cs (l :: ls) after

theorem Spells.append {cs mid after : List Char} {ls ms : List Lexeme} (h : Spells cs ls mid)
    (hmid : Spells mid ms after) : Spells cs (ls ++ ms) after := by
  induction h with
  | nil cs => exact hmid
  | blank hread _ ih => exact .blank hread (ih hmid)
  | cons hread _ ih => exact .cons hread (ih hmid)

theorem Lexes.spells {cs after : List Char} {ls : List Lexeme} (h : Lexes cs ls after) :
    Spells cs ls after := by
  induction h with
  | nil cs => exact .nil cs
  | cons hread _ ih => exact .cons hread ih

/-- A blank in front of a text that starts without one. -/
theorem Spells.after_blank {c : Char} {cs after : List Char} {ls : List Lexeme}
    (hc : Text.isBlank c = true) (hcs : ∀ d ∈ cs.head?, Text.isBlank d = false)
    (h : Spells cs ls after) : Spells (c :: cs) ls after := by
  obtain ⟨hasBreak, hread⟩ := readPiece?_of_isBlank hc cs
  have hdrop : Text.dropBlanks cs = cs := by
    cases cs with
    | nil => rfl
    | cons d cs => exact dropBlanks_cons_of_ink (hcs d rfl) cs
  rw [hdrop] at hread
  exact .blank hread h

/-! ## Tokens by what they are -/

/-- The word or the sign that the grammar sees in a token of that content. -/
def Lexeme.keyword (l : Lexeme) : String :=
  match l.kind with
  | .word => Text.upper l.text
  | .phrase => l.text
  | .sign => l.text
  | _ => ""

theorem Token.keyword_eq_keyword (t : Token) : t.keyword = t.toLexeme.keyword := by
  unfold Token.keyword Lexeme.keyword
  cases t.kind <;> rfl

theorem Token.keyword_mk (l : Lexeme) (start stop : Nat) (comments : List String) :
    Token.keyword ⟨l, start, stop, comments⟩ = l.keyword := Token.keyword_eq_keyword _

/-- Tokens by what they are, wherever they stand.  None of them has comments. -/
inductive Row : List Token → List Lexeme → Prop where
  | nil : Row [] []
  | cons {ts : List Token} {ls : List Lexeme} (l : Lexeme) (start stop : Nat) :
      Row ts ls → Row (⟨l, start, stop, []⟩ :: ts) (l :: ls)

namespace Row

variable {ts us : List Token} {ls ms : List Lexeme} {l : Lexeme}

theorem map_eq (h : Row ts ls) : ts.map Token.toLexeme = ls := by
  induction h with
  | nil => rfl
  | cons l _ _ _ ih => rw [List.map_cons, ih]

theorem length_eq (h : Row ts ls) : ts.length = ls.length := by
  rw [← h.map_eq, List.length_map]

theorem append (h : Row ts ls) (h' : Row us ms) : Row (ts ++ us) (ls ++ ms) := by
  induction h with
  | nil => exact h'
  | cons l a b _ ih => exact .cons l a b ih

theorem of_append : ∀ {ts : List Token} {ls ms : List Lexeme}, Row ts (ls ++ ms) →
    ∃ us vs, ts = us ++ vs ∧ Row us ls ∧ Row vs ms
  | ts, [], ms, h => ⟨[], ts, rfl, .nil, h⟩
  | _, l :: ls, ms, .cons _ a b h => by
      obtain ⟨us, vs, rfl, hus, hvs⟩ := of_append h
      exact ⟨_ :: us, vs, rfl, .cons l a b hus, hvs⟩

/-- Tokens without comments are a row of what they are. -/
theorem of_map (h : ts.map Token.toLexeme = ls) (hcomments : ∀ t ∈ ts, t.comments = []) :
    Row ts ls := by
  subst h
  induction ts with
  | nil => exact .nil
  | cons t ts ih =>
      obtain ⟨l, a, b, comments⟩ := t
      obtain rfl : comments = [] := hcomments _ List.mem_cons_self
      exact .cons l a b (ih fun t ht => hcomments t (List.mem_cons_of_mem _ ht))

end Row

/-! ## Texts without comments -/

/-- The token that a piece is. -/
def Piece.token? : Piece → Option Lexeme
  | .token l => some l
  | _ => none

def Piece.isComment : Piece → Bool
  | .comment .. => true
  | _ => false

/-- The cuts of a text that tokens and blanks fill. -/
theorem Spells.cutsInto {cs rest : List Char} {ls : List Lexeme} (h : Spells cs ls rest) :
    rest = [] → ∀ start, ∃ cuts, CutsInto start cs cuts ∧
      cuts.filterMap (fun cut => cut.piece.token?) = ls ∧
        ∀ cut ∈ cuts, cut.piece.isComment = false := by
  induction h with
  | nil cs =>
      rintro rfl start
      exact ⟨[], .nil start, rfl, by simp⟩
  | blank hread _ ih =>
      intro hrest start
      obtain ⟨cuts, hcuts, htokens, hnone⟩ := ih hrest _
      exact ⟨_, .cons hread hcuts, htokens, List.forall_mem_cons.2 ⟨rfl, hnone⟩⟩
  | cons hread _ ih =>
      intro hrest start
      obtain ⟨cuts, hcuts, htokens, hnone⟩ := ih hrest _
      refine ⟨_, .cons hread hcuts, ?_, List.forall_mem_cons.2 ⟨rfl, hnone⟩⟩
      rw [← htokens]
      rfl

/-- A token after which the next one is taken as it is: no word after it names a variable, and no
statement starts after it. -/
def Lexeme.IsQuiet (l : Lexeme) : Prop := l.keyword ∉ ["@", ";", "BEGIN", "START"]

instance (l : Lexeme) : Decidable l.IsQuiet := inferInstanceAs (Decidable (_ ∉ _))

/-- Whether the tokens read so far, the latest first, leave the next one as it is. -/
def QuietSoFar (tokens : List Token) : Prop := ∀ t ∈ tokens.head?, t.toLexeme.IsQuiet

theorem lexemeAfter_of_quiet {tokens : List Token} (h : QuietSoFar tokens) (l : Lexeme) :
    lexemeAfter tokens l = l := by
  unfold lexemeAfter
  split
  next t earlier _ =>
      have ht : t.toLexeme.IsQuiet := h t rfl
      have hat : t.is "@" = false := by
        rw [Token.is, t.keyword_eq_keyword, beq_eq_false_iff_ne]
        exact fun heq => ht (by simp [heq])
      rw [hat]
      rfl
  next => rfl

/-- Without comments every token keeps its content and gets no comments. -/
theorem foldl_add_of_quiet {cuts : List Cut} (hnone : ∀ cut ∈ cuts, cut.piece.isComment = false)
    {ls : List Lexeme} (htokens : cuts.filterMap (fun cut => cut.piece.token?) = ls)
    (hquiet : ∀ l ∈ ls.dropLast, l.IsQuiet) (a : Attaching) (earlier : List Lexeme)
    (hsofar : ls ≠ [] → QuietSoFar a.tokens) (hpending : a.pending = [])
    (hrow : Row a.tokens earlier) :
    (cuts.foldl Attaching.add a).pending = [] ∧
      Row (cuts.foldl Attaching.add a).tokens (ls.reverse ++ earlier) := by
  induction cuts generalizing a ls earlier with
  | nil =>
      subst htokens
      exact ⟨hpending, hrow⟩
  | cons cut cuts ih =>
      obtain ⟨hcut, hcuts⟩ := List.forall_mem_cons.1 hnone
      rw [List.foldl_cons]
      cases hpiece : cut.piece with
      | blank hasBreak =>
          rw [List.filterMap_cons_none (by rw [hpiece]; rfl)] at htokens
          have hadd : a.add cut = { a with sameLine := a.sameLine && !hasBreak } := by
            rw [Attaching.add, hpiece]
          rw [hadd]
          exact ih hcuts htokens hquiet _ earlier hsofar hpending hrow
      | comment text isHint =>
          rw [hpiece] at hcut
          cases hcut
      | token l =>
          rw [List.filterMap_cons_some (b := l) (by rw [hpiece]; rfl)] at htokens
          subst htokens
          have hl := lexemeAfter_of_quiet (hsofar (List.cons_ne_nil _ _)) l
          have hadd : a.add cut = ⟨⟨l, cut.start, cut.stop, []⟩ :: a.tokens, [], true⟩ := by
            simp only [Attaching.add, hpiece, hl, hpending]
          have hrest := ih hcuts rfl
            (fun m hm => hquiet m (by
              rw [List.dropLast_cons_of_ne_nil (List.ne_nil_of_mem (List.mem_of_mem_dropLast hm))]
              exact List.mem_cons_of_mem _ hm))
            (a.add cut) (l :: earlier)
            (fun hne t ht => by
              rw [hadd] at ht
              obtain rfl : (⟨l, cut.start, cut.stop, []⟩ : Token) = t := by simpa using ht
              exact hquiet l (by rw [List.dropLast_cons_of_ne_nil hne]; exact List.mem_cons_self))
            (by rw [hadd]) (by rw [hadd]; exact .cons l _ _ hrow)
          rw [List.reverse_cons, List.append_assoc, List.singleton_append]
          exact hrest

theorem row_reverse {ts : List Token} {ls : List Lexeme} (h : Row ts ls) :
    Row ts.reverse ls.reverse := by
  induction h with
  | nil => exact .nil
  | cons l a b _ ih =>
      rw [List.reverse_cons, List.reverse_cons]
      exact ih.append (.cons l a b .nil)

theorem row_withComments {cuts : List Cut} (hnone : ∀ cut ∈ cuts, cut.piece.isComment = false)
    {ls : List Lexeme} (htokens : cuts.filterMap (fun cut => cut.piece.token?) = ls)
    (hquiet : ∀ l ∈ ls.dropLast, l.IsQuiet) : Row (withComments cuts) ls := by
  obtain ⟨hpending, hrow⟩ := foldl_add_of_quiet hnone htokens hquiet {} []
    (fun _ t ht => by cases ht) rfl .nil
  rw [List.append_nil] at hrow
  rw [withComments, Attaching.finish]
  split
  next hnil =>
      rw [hnil] at hrow
      have hempty : ls.reverse = [] := by simpa using hrow.map_eq.symm
      rw [List.reverse_eq_nil_iff.1 hempty]
      exact .nil
  next t earlier hcons =>
      have ht : ({ t with comments := t.comments ++ (cuts.foldl Attaching.add {}).pending } : Token) =
          t := by
        rw [hpending, List.append_nil]
      rw [ht, ← hcons, ← List.reverse_reverse ls]
      exact row_reverse hrow

/-- After quiet tokens no statement starts that is not looked into. -/
theorem opensCommand_of_quiet {ts : List Token} {ls : List Lexeme} (hrow : Row ts ls)
    (hquiet : ∀ l ∈ ls.dropLast, l.IsQuiet) (start : Bool)
    (hfirst : start = true → ∀ l ∈ ls.head?, l.keyword ∉ commandWords) :
    opensCommand start ts = false := by
  induction hrow generalizing start with
  | nil => rfl
  | @cons ts ls l a b hrow ih =>
      rw [opensCommand, Bool.or_eq_false_iff]
      constructor
      · cases start with
        | false => rfl
        | true =>
            have hl := hfirst rfl l rfl
            rw [Token.keyword_eq_keyword]
            simpa using hl
      · refine ih (fun m hm => hquiet m ?_) _ ?_
        · rw [List.dropLast_cons_of_ne_nil (List.ne_nil_of_mem (List.mem_of_mem_dropLast hm))]
          exact List.mem_cons_of_mem _ hm
        · intro hprecedes m hm
          have hne : ls ≠ [] := by
            rintro rfl
            cases hm
          have hl := hquiet l (by
            rw [List.dropLast_cons_of_ne_nil hne]
            exact List.mem_cons_self)
          rw [precedesStatement, List.contains_iff_mem, Token.keyword_eq_keyword] at hprecedes
          exact absurd (List.mem_cons_of_mem "@" hprecedes) hl

/-- The tokens of a text are those that it spells, if all but the last are quiet and the first one
starts no command. -/
theorem exists_row_of_spells {s : String} {ls : List Lexeme} (h : Spells s.toList ls [])
    (hquiet : ∀ l ∈ ls.dropLast, l.IsQuiet) (hfirst : ∀ l ∈ ls.head?, l.keyword ∉ commandWords) :
    ∃ ts, tokens? s = some ts ∧ Row ts ls := by
  obtain ⟨cuts, hcuts, htokens, hnone⟩ := h.cutsInto rfl 0
  have hrow := row_withComments hnone htokens hquiet
  refine ⟨withComments cuts, ?_, hrow⟩
  rw [tokens?, cuts?_eq_some_iff.2 hcuts, Option.map_some,
    withCommands_eq_self (by decide) (opensCommand_of_quiet hrow hquiet _ fun _ => hfirst)]

/-- A semicolon at the end of a row without one belongs to no statement. -/
theorem splitStatements_of_row {ts : List Token} {ls : List Lexeme}
    (hquiet : ∀ l ∈ ls, l.IsQuiet) (h : Row ts (ls ++ [.of .sign ";"])) :
    ∃ us, splitStatements ts = [us] ∧ Row us ls := by
  induction ls generalizing ts with
  | nil =>
      cases h with
      | cons _ a b h =>
          cases h
          exact ⟨[], rfl, .nil⟩
  | cons l ls ih =>
      obtain ⟨hl, hls⟩ := List.forall_mem_cons.1 hquiet
      cases h with
      | cons _ a b h =>
          obtain ⟨us, hsplit, hus⟩ := ih hls h
          refine ⟨_ :: us, ?_, .cons l a b hus⟩
          have hne : Token.is ⟨l, a, b, []⟩ ";" = false := by
            rw [Token.is, Token.keyword_eq_keyword, beq_eq_false_iff_ne]
            exact fun heq => hl (by simp [heq])
          cases ls <;> cases h <;> simp [splitStatements, hne, hsplit]

end Sql
end QueryDesigner

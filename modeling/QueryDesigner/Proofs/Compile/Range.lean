import QueryDesigner.Proofs.Compile.Quotes
import QueryDesigner.Proofs.Sql.Literal
import QueryDesigner.Proofs.Sql.Place

/-!
# Two bounds in one value

* `AndBetweenBlanks`, `hasAnd_eq_true_iff` — the form that is written as it stands;
* `HasOpenComma`, `isSome_separator?_iff` — the form that is split at a comma;
* `formatRange_quoted` — quoted bounds are split at the comma between them, whatever they hold;
* `Separable`, `formatRange_bare_iff` — bounds without a comma that are put together without quotes,
  and when they are found again.
-/

namespace QueryDesigner

open Sql (Token Lexeme Piece tokens?)

/-! ## The word between the bounds -/

/-- A blank, `AND` in any letter case, and a blank. -/
def IsSpacedAnd (cs : List Char) : Prop :=
  ∃ x a n d y, cs = [x, a, n, d, y] ∧ Text.isBlank x = true ∧ (a = 'A' ∨ a = 'a') ∧
    (n = 'N' ∨ n = 'n') ∧ (d = 'D' ∨ d = 'd') ∧ Text.isBlank y = true

/-- `AND` in any letter case stands between blanks. -/
def AndBetweenBlanks (cs : List Char) : Prop := ∃ word, IsSpacedAnd word ∧ word <:+: cs

theorem startsWithAnd_eq_true_iff (cs : List Char) :
    startsWithAnd cs = true ↔ ∃ word, IsSpacedAnd word ∧ word <+: cs := by
  constructor
  · intro h
    unfold startsWithAnd at h
    split at h
    · rename_i x a n d y rest
      simp only [Bool.and_eq_true, Bool.or_eq_true, beq_iff_eq] at h
      rcases h with ⟨⟨⟨⟨hx, ha⟩, hn⟩, hd⟩, hy⟩
      exact ⟨_, ⟨x, a, n, d, y, rfl, hx, ha, hn, hd, hy⟩, List.prefix_append _ rest⟩
    · cases h
  · rintro ⟨_, ⟨x, a, n, d, y, rfl, hx, ha, hn, hd, hy⟩, rest, rfl⟩
    simp [startsWithAnd, hx, ha, hn, hd, hy]

theorem hasAnd_eq_true_iff (cs : List Char) : hasAnd cs = true ↔ AndBetweenBlanks cs := by
  induction cs with
  | nil =>
      have hnone : ¬ AndBetweenBlanks [] := by
        rintro ⟨_, ⟨x, a, n, d, y, rfl, -⟩, hnil⟩
        cases List.infix_nil.1 hnil
      exact iff_of_false Bool.false_ne_true hnone
  | cons c rest ih =>
      rw [hasAnd, Bool.or_eq_true, startsWithAnd_eq_true_iff, ih]
      simp only [AndBetweenBlanks, List.infix_cons_iff, and_or_left, exists_or]

/-! ## The comma between the bounds -/

/-- How many more parentheses are opened than closed. -/
def openParens (tokens : List Token) : Int :=
  tokens.countP (·.is "(") - tokens.countP (·.is ")")

/-- One of the tokens is this comma, and outside parentheses, given how many are open before all of
them. -/
def IsOpenComma (depth : Int) (tokens : List Token) (comma : Token) : Prop :=
  comma.is "," = true ∧
    ∃ before after, tokens = before ++ comma :: after ∧ depth + openParens before = 0

/-- A text that has no tokens, or a comma outside parentheses among them. -/
def HasOpenComma (s : String) : Prop :=
  ∀ tokens, tokens? s = some tokens → ∃ comma, IsOpenComma 0 tokens comma

section Comma

variable {depth : Int} {tokens rest : List Token} {t comma : Token} {s : String} {n : Nat}

theorem is_eq_false_of_is {a b : String} (h : t.is a = true) (hne : a ≠ b) : t.is b = false := by
  rw [Token.is, beq_iff_eq] at h
  simp [Token.is, h, hne]

theorem openParens_singleton (t : Token) :
    openParens [t] = if t.is "(" then 1 else if t.is ")" then -1 else 0 := by
  unfold openParens
  split_ifs with hopens hcloses
  · simp [hopens, is_eq_false_of_is hopens (b := ")") (by decide)]
  · simp [hopens, hcloses]
  · simp [hopens, hcloses]

theorem IsOpenComma.mem (h : IsOpenComma depth tokens comma) : comma ∈ tokens := by
  rcases h.2 with ⟨before, after, rfl, -⟩
  simp

theorem isOpenComma_cons_iff :
    IsOpenComma depth (t :: rest) comma ↔
      (t = comma ∧ comma.is "," = true ∧ depth = 0) ∨
        IsOpenComma (depth + openParens [t]) rest comma := by
  have hcons : ∀ before, openParens (t :: before) = openParens [t] + openParens before := by
    intro before
    simp only [openParens, List.countP_cons, List.countP_nil]
    push_cast
    omega
  constructor
  · rintro ⟨hcomma, before, after, hsplit, hdepth⟩
    rcases List.cons_eq_append_iff.1 hsplit with ⟨rfl, hhead⟩ | ⟨before, rfl, rfl⟩
    · exact .inl ⟨(List.cons.inj hhead).1.symm, hcomma, by simpa [openParens] using hdepth⟩
    · rw [hcons] at hdepth
      exact .inr ⟨hcomma, before, after, rfl, by omega⟩
  · rintro (⟨rfl, hcomma, rfl⟩ | ⟨hcomma, before, after, rfl, hdepth⟩)
    · exact ⟨hcomma, [], rest, rfl, rfl⟩
    · exact ⟨hcomma, t :: before, after, rfl, by rw [hcons]; omega⟩

/-- A comma outside parentheses ends the search, and any other token sets how many are open. -/
theorem commaPlace?_cons (depth : Int) (t : Token) (rest : List Token) :
    commaPlace? depth (t :: rest) =
      if t.is "," ∧ depth = 0 then some t.start else commaPlace? (depth + openParens [t]) rest := by
  rw [commaPlace?, openParens_singleton]
  split_ifs with hopens hcomma hcloses hcomma hcomma
  · exact absurd hcomma.1 (by simp [is_eq_false_of_is hopens (b := ",") (by decide)])
  · rfl
  · exact absurd hcomma.1 (by simp [is_eq_false_of_is hcloses (b := ",") (by decide)])
  · rfl
  · rfl
  · rw [add_zero]

theorem exists_isOpenComma_of_commaPlace? (h : commaPlace? depth tokens = some n) :
    ∃ comma, IsOpenComma depth tokens comma ∧ comma.start = n := by
  induction tokens generalizing depth with
  | nil =>
      cases h
  | cons t rest ih =>
      rw [commaPlace?_cons] at h
      split_ifs at h with hcomma
      · exact ⟨t, isOpenComma_cons_iff.2 (.inl ⟨rfl, hcomma⟩), Option.some.inj h⟩
      · rcases ih h with ⟨comma, hlater, hstart⟩
        exact ⟨comma, isOpenComma_cons_iff.2 (.inr hlater), hstart⟩

theorem isSome_commaPlace?_of_isOpenComma (h : IsOpenComma depth tokens comma) :
    (commaPlace? depth tokens).isSome = true := by
  induction tokens generalizing depth with
  | nil =>
      exact absurd h.mem List.not_mem_nil
  | cons t rest ih =>
      rw [commaPlace?_cons]
      split_ifs with hfirst
      · rfl
      · refine ih ((isOpenComma_cons_iff.1 h).resolve_left ?_)
        rintro ⟨rfl, hcomma⟩
        exact hfirst hcomma

theorem getElem?_of_separator? (h : separator? s = some n) : s.toList[n]? = some ',' := by
  unfold separator? at h
  split at h
  · rename_i tokens htokens
    rcases exists_isOpenComma_of_commaPlace? h with ⟨comma, hopen, rfl⟩
    refine Sql.getElem?_start_of_mark htokens hopen.mem (by decide) ?_
    rw [← beq_iff_eq, ← Token.is]
    exact hopen.1
  · rcases List.findIdx?_eq_some_iff_getElem.1 h with ⟨hn, hcomma, -⟩
    rw [List.getElem?_eq_getElem hn, beq_iff_eq.1 hcomma]

theorem isSome_separator?_iff (hcomma : ',' ∈ s.toList) :
    (separator? s).isSome = true ↔ HasOpenComma s := by
  unfold separator? HasOpenComma
  cases htokens : tokens? s with
  | none =>
      refine iff_of_true ?_ fun tokens h => absurd h (by simp)
      rw [List.findIdx?_isSome]
      exact List.any_eq_true.2 ⟨',', hcomma, rfl⟩
  | some tokens =>
      constructor
      · intro hplace tokens' htokens'
        obtain rfl := Option.some.inj htokens'
        rcases Option.isSome_iff_exists.1 hplace with ⟨n, hn⟩
        rcases exists_isOpenComma_of_commaPlace? hn with ⟨comma, hopen, -⟩
        exact ⟨comma, hopen⟩
      · intro hopen
        rcases hopen tokens rfl with ⟨comma, hcomma⟩
        exact isSome_commaPlace?_of_isOpenComma hcomma

end Comma

/-! ## Bounds in quotes -/

section Quoted

variable {a b cs : List Char}

theorem readPiece?_space (hcs : ∀ c ∈ cs.head?, Text.isBlank c = false) :
    Sql.readPiece? (' ' :: cs) = some (.blank false, cs) := by
  have htake : cs.takeWhile Text.isBlank = [] ∧ cs.dropWhile Text.isBlank = cs := by
    cases cs with
    | nil =>
        exact ⟨rfl, rfl⟩
    | cons c rest =>
        have hc : Text.isBlank c = false := hcs c rfl
        simp [hc]
  rw [Sql.readPiece?_of_plain (by decide) (fun h => absurd h (by decide))
      (fun h => absurd h (by decide)), if_pos (by decide), htake.1, htake.2]
  rfl

theorem readPiece?_quoteValue (ha : '\\' ∉ a) (cs : List Char) (hcs : cs.head? ≠ some '\'') :
    Sql.readPiece? (quoteValue a ++ cs) = some (.token (.of .text (String.ofList a)), cs) := by
  have hread := Sql.readPiece?_text ha hcs
  simpa [quoteValue] using hread

theorem cutsInto_quoteValue (start : Nat) (ha : '\\' ∉ a) :
    Sql.CutsInto start (quoteValue a)
      [⟨.token (.of .text (String.ofList a)), start, start + (quoteValue a).length⟩] := by
  have hcuts := Sql.CutsInto.append start _ (readPiece?_quoteValue ha [] (by simp)) (.nil _)
  rwa [List.append_nil] at hcuts

/-- Each bound is one token, whatever it holds. -/
theorem tokens?_quoted (ha : '\\' ∉ a) (hb : '\\' ∉ b) :
    ∃ first comma second,
      tokens? (String.ofList (quoteValue a ++ ',' :: ' ' :: quoteValue b)) =
          some [first, comma, second] ∧
        first.toLexeme = .of .text (String.ofList a) ∧ comma.toLexeme = .of .sign "," ∧
          comma.start = (quoteValue a).length ∧ second.toLexeme = .of .text (String.ofList b) := by
  -- four cuts: the first bound, the comma, the blank after it and the second bound
  have hcuts := Sql.CutsInto.append 0 _ (readPiece?_quoteValue ha _ (by simp))
    (.append _ [','] (Sql.readPiece?_comma _)
      (.append _ [' '] (readPiece?_space (flush_quoteValue b).head)
        (cutsInto_quoteValue _ hb)))
  rw [← Sql.cuts?_eq_some_iff, Nat.zero_add] at hcuts
  refine ⟨⟨.of .text (String.ofList a), 0, (quoteValue a).length, []⟩,
    ⟨.of .sign ",", (quoteValue a).length, (quoteValue a).length + 1, []⟩,
    ⟨.of .text (String.ofList b), (quoteValue a).length + 1 + 1,
      (quoteValue a).length + 1 + 1 + (quoteValue b).length, []⟩, ?_, rfl, rfl, rfl, rfl⟩
  rw [tokens?, String.toList_ofList]
  -- no comment stands beside them, and none of them starts a command
  refine (congrArg (Option.map _) hcuts).trans (congrArg some ?_)
  refine Sql.withCommands_of_calm _ ?_ .atStart (by decide)
  have hcomma : Sql.commandWords.contains "," = false := by decide
  change ∀ t ∈ [_, _, _], Lexeme.IsCalm (Token.toLexeme t)
  simp only [List.forall_mem_cons, List.not_mem_nil, false_implies, implies_true, and_true]
  exact ⟨.inl rfl, .inr (.inr ⟨rfl, hcomma⟩), .inl rfl⟩

/-- Each bound is cut off as one text, and the comma between them stands outside both. -/
theorem separator?_quoted (ha : '\\' ∉ a) (hb : '\\' ∉ b) :
    separator? (String.ofList (quoteValue a ++ ',' :: ' ' :: quoteValue b)) =
      some (quoteValue a).length := by
  rcases tokens?_quoted ha hb with ⟨first, comma, second, htokens, hfirst, hcomma, hstart, -⟩
  have hplain : openParens [first] = 0 ∧ ¬ (first.is "," = true ∧ (0 : Int) = 0) := by
    simp [openParens_singleton, Token.is, Token.keyword, hfirst, Lexeme.of]
  have hsign : comma.is "," = true := by
    simp [Token.is, Token.keyword, hcomma, Lexeme.of]
  rw [separator?, htokens]
  dsimp only
  rw [commaPlace?_cons, if_neg hplain.2, hplain.1, add_zero, commaPlace?_cons, if_pos ⟨hsign, rfl⟩,
    hstart]

end Quoted

/-! ## Bounds as they are written -/

section Written

variable {low high : String}

theorem formatBound_quoteValue (s : String) :
    formatBound (String.ofList (quoteValue s.toList)) = formatValue s := by
  rw [formatBound, stripQuotes_quoteValue]

theorem formatBound_space_append (s : String) : formatBound (" " ++ s) = formatBound s := by
  have hblanks := stripQuotes_between_blanks " " s ""
    (List.all_eq_true.1 (by decide)) (List.all_eq_true.1 (by decide))
  rw [String.append_empty] at hblanks
  rw [formatBound, hblanks, formatBound]

theorem toList_range (low high : String) :
    (low ++ ", " ++ high).toList = low.toList ++ ',' :: ' ' :: high.toList := by
  rw [String.toList_append, String.toList_append, List.append_assoc]
  rfl

theorem comma_mem_range (low high : String) : ',' ∈ (low ++ ", " ++ high).toList := by
  rw [toList_range]
  exact List.mem_append_right _ List.mem_cons_self

/-- If the comma between the bounds is found, each of them is written on its own. -/
theorem formatRange_of_separator? (hand : ¬ AndBetweenBlanks (low ++ ", " ++ high).toList)
    (hplace : separator? (low ++ ", " ++ high) = some low.toList.length) :
    formatRange (low ++ ", " ++ high) = formatBound low ++ " AND " ++ formatBound high := by
  have hsplit : splitRange (low ++ ", " ++ high) = some (low, " " ++ high) := by
    have hhigh : String.ofList (' ' :: high.toList) = " " ++ high := by
      rw [← String.toList_inj, String.toList_ofList, String.toList_append]
      rfl
    rw [splitRange, hplace, Option.map_some, toList_range, List.take_left, ← hhigh,
      ← List.drop_drop, List.drop_left, String.ofList_toList]
    rfl
  rw [← hasAnd_eq_true_iff] at hand
  rw [formatRange, if_neg hand, hsplit]
  dsimp only
  rw [formatBound_space_append]

/-- Quoted bounds are split at the comma between them, whatever stands in the quotes. -/
theorem formatRange_quoted (a b : String) :
    '\\' ∉ a.toList → '\\' ∉ b.toList →
      ¬ AndBetweenBlanks (quoteValue a.toList ++ ", ".toList ++ quoteValue b.toList) →
        formatRange (String.ofList (quoteValue a.toList ++ ", ".toList ++ quoteValue b.toList)) =
          formatValue a ++ " AND " ++ formatValue b := by
  intro ha hb hand
  have hvalue : quoteValue a.toList ++ ", ".toList ++ quoteValue b.toList =
      quoteValue a.toList ++ ',' :: ' ' :: quoteValue b.toList := List.append_assoc _ _ _
  have hrange : String.ofList (quoteValue a.toList ++ ", ".toList ++ quoteValue b.toList) =
      String.ofList (quoteValue a.toList) ++ ", " ++ String.ofList (quoteValue b.toList) := by
    rw [← String.toList_inj, toList_range, hvalue]
    simp only [String.toList_ofList]
  have hplace := separator?_quoted ha hb
  rw [← hvalue, hrange] at hplace
  rw [hrange, formatRange_of_separator?, formatBound_quoteValue, formatBound_quoteValue]
  · rw [← hrange, String.toList_ofList]
    exact hand
  · rw [hplace, String.toList_ofList]

/-- Commas, quotes, parentheses, comment marks and a line break in the quotes split nothing. -/
theorem formatRange_quoted_of_signs :
    '\\' ∉ "1, 'a' (".toList ∧ '\\' ∉ "--and\n, #)".toList ∧
      ¬ AndBetweenBlanks "'1, ''a'' (', '--and\n, #)'".toList ∧
        formatRange "'1, ''a'' (', '--and\n, #)'" = "'1, ''a'' (' AND '--and\n, #)'" := by
  have hfirst : '\\' ∉ "1, 'a' (".toList := by decide
  have hsecond : '\\' ∉ "--and\n, #)".toList := by decide
  have hand : ¬ AndBetweenBlanks "'1, ''a'' (', '--and\n, #)'".toList := by
    rw [← hasAnd_eq_true_iff]
    decide +kernel
  have hchars : quoteValue "1, 'a' (".toList ++ ", ".toList ++ quoteValue "--and\n, #)".toList =
      "'1, ''a'' (', '--and\n, #)'".toList := by
    decide +kernel
  have hvalues : formatValue "1, 'a' (" ++ " AND " ++ formatValue "--and\n, #)" =
      "'1, ''a'' (' AND '--and\n, #)'" := by
    decide +kernel
  have hrange := formatRange_quoted "1, 'a' (" "--and\n, #)" hfirst hsecond (hchars ▸ hand)
  rw [hchars, hvalues, String.ofList_toList] at hrange
  exact ⟨hfirst, hsecond, hand, hrange⟩

end Written

/-! ## Bounds put together without quotes -/

/-- Two bounds that are found again in the text that is made of them without quotes. -/
structure Separable (low high : String) : Prop where
  noAnd : ¬ AndBetweenBlanks (low ++ ", " ++ high).toList
  openComma : HasOpenComma (low ++ ", " ++ high)
  low : IsBare low
  high : IsBare high

section Bare

variable {low high : String}

/-- A text with one comma has it at one place. -/
theorem eq_length_of_getElem? {front back : List Char} {n : Nat} (hfront : ',' ∉ front)
    (hback : ',' ∉ back) (h : (front ++ ',' :: back)[n]? = some ',') : n = front.length := by
  rcases lt_trichotomy n front.length with hn | hn | hn
  · rw [List.getElem?_append_left hn] at h
    exact absurd (List.mem_of_getElem? h) hfront
  · exact hn
  · rw [List.getElem?_append_right hn.le, List.getElem?_cons,
      if_neg (Nat.sub_ne_zero_of_lt hn)] at h
    exact absurd (List.mem_of_getElem? h) hback

theorem separator?_bare (hlow : ',' ∉ low.toList) (hhigh : ',' ∉ high.toList)
    (hopen : HasOpenComma (low ++ ", " ++ high)) :
    separator? (low ++ ", " ++ high) = some low.toList.length := by
  have hsome := (isSome_separator?_iff (comma_mem_range low high)).2 hopen
  rcases Option.isSome_iff_exists.1 hsome with ⟨n, hn⟩
  have hplace := getElem?_of_separator? hn
  rw [toList_range] at hplace
  rw [hn, eq_length_of_getElem? hlow (by simpa using hhigh) hplace]

/-- Stripping makes no bound longer, so none can make up for another. -/
theorem formatBound_eq_of_append_eq
    (h : formatBound low ++ " AND " ++ formatBound high =
      formatValue low ++ " AND " ++ formatValue high) :
    formatBound low = formatValue low ∧ formatBound high = formatValue high := by
  have hchars := congrArg String.toList h
  simp only [String.toList_append, List.append_assoc] at hchars
  have hlength := congrArg List.length hchars
  simp only [List.length_append] at hlength
  have hlow := length_formatBound_le low
  have hhigh := length_formatBound_le high
  rcases List.append_inj hchars (by omega) with ⟨hfirst, hrest⟩
  exact ⟨String.toList_inj.1 hfirst, String.toList_inj.1 (List.append_cancel_left hrest)⟩

/-- Bounds without a comma are written as two values just if they can be told apart again. -/
theorem formatRange_bare_iff (hlow : ',' ∉ low.toList) (hhigh : ',' ∉ high.toList) :
    formatRange (low ++ ", " ++ high) = formatValue low ++ " AND " ++ formatValue high ↔
      Separable low high := by
  have hcomma := comma_mem_range low high
  have hnone : ',' ∉ (formatValue low ++ " AND " ++ formatValue high).toList := by
    simp only [String.toList_append, List.mem_append,
      mem_formatValue_iff (c := ',') (by decide) (by decide), not_or]
    exact ⟨⟨hlow, by decide⟩, hhigh⟩
  constructor
  · intro h
    -- in every other form the comma between the bounds would still be there
    have hand : ¬ AndBetweenBlanks (low ++ ", " ++ high).toList := by
      intro hand
      rw [formatRange, if_pos ((hasAnd_eq_true_iff _).2 hand)] at h
      exact hnone (h ▸ (Text.mem_trim_iff (by decide)).2 hcomma)
    have hopen : HasOpenComma (low ++ ", " ++ high) := by
      by_contra hclosed
      rw [← isSome_separator?_iff hcomma, Option.not_isSome_iff_eq_none] at hclosed
      rw [formatRange, if_neg (by rwa [hasAnd_eq_true_iff]), splitRange, hclosed] at h
      exact hnone (h ▸ (mem_formatValue_iff (by decide) (by decide)).2 hcomma)
    rw [formatRange_of_separator? hand (separator?_bare hlow hhigh hopen)] at h
    rcases formatBound_eq_of_append_eq h with ⟨hfirst, hsecond⟩
    exact ⟨hand, hopen, (formatBound_eq_formatValue_iff low).1 hfirst,
      (formatBound_eq_formatValue_iff high).1 hsecond⟩
  · rintro ⟨hand, hopen, hfirst, hsecond⟩
    rw [formatRange_of_separator? hand (separator?_bare hlow hhigh hopen),
      (formatBound_eq_formatValue_iff low).2 hfirst,
      (formatBound_eq_formatValue_iff high).2 hsecond]

end Bare

end QueryDesigner

import Mathlib
import QueryDesigner.Proofs.Compile.Quotes
import QueryDesigner.Proofs.Sql.Literal
import QueryDesigner.Proofs.Sql.Name
import QueryDesigner.Proofs.Sql.Row

/-!
# Spelling words, signs and constants

* `Ends` — what stands after names and constants in the statement of a query;
* `spells_keyword`, `spells_name`, `spells_phrase` — words;
* `spells_sign`, `spells_comparison` — signs;
* `spells_writeText`, `spells_numeral` — constants.
-/

namespace QueryDesigner
namespace Sql

variable {c : Char} {w : String} {cs rest after : List Char} {ls : List Lexeme}

/-! ## What follows -/

/-- The characters of the next word, if the next token is one. -/
def wordAhead (rest : List Char) : List Char := (Text.dropBlanks rest).takeWhile isWordPart

/-- The words that stand after names and constants.  No word stands before a sign. -/
def followers : List String :=
  ["", "AS", "FROM", "INNER", "LEFT", "RIGHT", "ON", "WHERE", "AND", "LIKE", "NOT", "IN", "BETWEEN",
    "IS", "GROUP", "ORDER", "ASC", "DESC", "LIMIT", "OFFSET"]

/-- What may stand after a name or a constant. -/
structure Ends (rest : List Char) : Prop where
  head : EndsNumber rest
  ahead : String.ofList (wordAhead rest) ∈ followers

theorem isWordPart_of_endsNumber (h : EndsNumber rest) : ∀ c ∈ rest.head?, isWordPart c = false := by
  intro c hc
  rcases h c hc with hblank | hmark
  · simp [isWordPart, hblank]
  · have hall : [';', ',', ')'].all (fun c => !isWordPart c) = true := by decide
    simpa using List.all_eq_true.1 hall c hmark

theorem notQuote_of_endsNumber (h : EndsNumber rest) :
    ∀ c ∈ rest.head?, c ∉ ['\'', '"', '`', '.'] := by
  intro c hc hquote
  have hall : ['\'', '"', '`', '.'].all (fun c => !Text.isBlank c && !([';', ',', ')'].contains c)) =
      true := by decide
  have hnot := List.all_eq_true.1 hall c hquote
  simp only [Bool.and_eq_true, Bool.not_eq_true', List.contains_eq_mem,
    decide_eq_false_iff_not] at hnot
  rcases h c hc with hblank | hmark
  · rw [hblank] at hnot
    exact Bool.noConfusion hnot.1
  · exact hnot.2 hmark

theorem endsNumber_of_blank (hc : Text.isBlank c = true) : EndsNumber (c :: rest) := by
  rintro d hd
  obtain rfl := Option.some.inj hd
  exact .inl hc

theorem endsNumber_of_mark (hc : c ∈ [';', ',', ')']) : EndsNumber (c :: rest) := by
  rintro d hd
  obtain rfl := Option.some.inj hd
  exact .inr hc

theorem takeWhile_plain (hw : ∀ d ∈ cs, isWordPart d = true)
    (hrest : ∀ d ∈ rest.head?, isWordPart d = false) : (cs ++ rest).takeWhile isWordPart = cs := by
  rw [List.takeWhile_append_of_pos hw]
  cases rest with
  | nil => simp
  | cons d rest => rw [List.takeWhile_cons_of_neg (by simp [hrest d rfl]), List.append_nil]

theorem dropWhile_plain (hw : ∀ d ∈ cs, isWordPart d = true)
    (hrest : ∀ d ∈ rest.head?, isWordPart d = false) : (cs ++ rest).dropWhile isWordPart = rest := by
  rw [List.dropWhile_append_of_pos hw]
  cases rest with
  | nil => rfl
  | cons d rest => rw [List.dropWhile_cons_of_neg (by simp [hrest d rfl])]

namespace Ends

theorem of_mark (hc : c ∈ [';', ',', ')']) (rest : List Char) : Ends (c :: rest) where
  head := endsNumber_of_mark hc
  ahead := by
    have hall : [';', ',', ')'].all (fun c => !Text.isBlank c && !isWordPart c) = true := by decide
    have hnot := List.all_eq_true.1 hall c hc
    simp only [Bool.and_eq_true, Bool.not_eq_true'] at hnot
    rw [wordAhead, dropBlanks_cons_of_ink hnot.1, List.takeWhile_cons_of_neg (by simp [hnot.2])]
    decide

/-- A blank and then a sign. -/
theorem of_sign {b : Char} (hb : Text.isBlank b = true) (hc : isSign c = true)
    (rest : List Char) : Ends (b :: c :: rest) where
  head := endsNumber_of_blank hb
  ahead := by
    have hblank : Text.isBlank c = false := by
      rw [isSign, List.contains_iff_mem] at hc
      have hall : ∀ cs : List Char, cs.all (fun d => !Text.isBlank d) = true → c ∈ cs →
          Text.isBlank c = false := fun cs hcs hmem => by simpa using List.all_eq_true.1 hcs c hmem
      exact hall _ (by decide) hc
    have hdrop : Text.dropBlanks (b :: c :: rest) = c :: rest := by
      rw [Text.dropBlanks, List.dropWhile_cons_of_pos hb]
      exact dropBlanks_cons_of_ink hblank rest
    rw [wordAhead, hdrop, List.takeWhile_cons_of_neg (by simp [isWordPart, hc])]
    decide

/-- A blank and then one of the words that stand after names. -/
theorem of_word {b : Char} (hb : Text.isBlank b = true) (hw : isPlain w = true)
    (hmem : w ∈ followers) (hrest : ∀ c ∈ rest.head?, isWordPart c = false) :
    Ends (b :: (w.toList ++ rest)) where
  head := endsNumber_of_blank hb
  ahead := by
    obtain ⟨c, cs, hcs, -, hall⟩ := exists_cons_of_isPlain hw
    have hdrop : Text.dropBlanks (b :: (w.toList ++ rest)) = w.toList ++ rest := by
      rw [Text.dropBlanks, List.dropWhile_cons_of_pos hb, hcs, List.cons_append]
      exact dropBlanks_cons_of_ink (isBlank_of_isPlainChar (hall c List.mem_cons_self)) _
    rw [wordAhead, hdrop, takeWhile_plain (isWordPart_of_isPlain hw) hrest, String.ofList_toList]
    exact hmem

end Ends

/-! ## Words -/

/-- A plain word is read as a word, if no quote follows. -/
theorem readPiece?_plain (hw : isPlain w = true) (hquote : ∀ d ∈ rest.head?, d ∉ ['\'', '"']) :
    readPiece? (w.toList ++ rest) = some (readWord (w.toList ++ rest)) := by
  obtain ⟨c, cs, hcs, halpha, hall⟩ := exists_cons_of_isPlain hw
  obtain ⟨hc, hrest⟩ := List.forall_mem_cons.1 hall
  have hnext : ∀ d ∈ ['\'', '"'], isNext d (cs ++ rest) = false := by
    intro d hd
    rw [← Bool.not_eq_true, isNext_eq_true_iff]
    intro hhead
    cases cs with
    | nil => exact hquote d hhead hd
    | cons e es =>
        obtain rfl := Option.some.inj hhead
        exact notMem_of_isPlainChar (hrest e List.mem_cons_self) (by decide) hd
  have hstop : isStop c = false := by
    rw [isStop, isBlank_of_isPlainChar hc, Bool.false_or, ← Bool.not_eq_true, List.contains_iff_mem]
    exact notMem_of_isPlainChar hc (by decide)
  have hne : ∀ d, isPlainChar d = false → (c == d) = false := by
    intro d hd
    rw [beq_eq_false_iff_ne]
    rintro rfl
    rw [hc] at hd
    cases hd
  have hcomment : startsComment (c :: (cs ++ rest)) = false := by
    rw [startsComment, hne '-' (by decide), hne '#' (by decide), hne '/' (by decide)]
    rfl
  have hmarked : startsMarked (c :: (cs ++ rest)) = false := by
    rw [startsMarked, hnext '\'' (by simp), hnext '"' (by simp), Bool.and_false, Bool.and_false]
    rfl
  have hzero : c ≠ '0' := by
    rintro rfl
    cases halpha
  rw [hcs, List.cons_append, readPiece?_of_solid hstop hcomment hmarked,
    solidPiece_of_ne fun h => absurd h hzero, dif_neg (by simp [isDigit_of_isAlpha halpha]),
    if_neg (by simp [isSign_of_isPlainChar hc])]

/-- A plain word is one token, if no quote follows and it makes no phrase with the next word. -/
theorem readPiece?_word (hw : isPlain w = true) (hpart : ∀ d ∈ rest.head?, isWordPart d = false)
    (hquote : ∀ d ∈ rest.head?, d ∉ ['\'', '"']) (hphrase : phraseAfter? w rest = none) :
    readPiece? (w.toList ++ rest) = some (.token (.of .word w), rest) := by
  have hparts := isWordPart_of_isPlain hw
  rw [readPiece?_plain hw hquote, readWord_eq, takeWhile_plain hparts hpart,
    dropWhile_plain hparts hpart, String.ofList_toList, hphrase]

theorem phraseAfter?_eq_none
    (h : Text.upper w ++ " " ++ Text.upper (String.ofList (wordAhead rest)) ∉ phrases) :
    phraseAfter? w rest = none := by
  rw [phraseAfter?, if_neg]
  rintro ⟨-, hmem⟩
  exact h (List.contains_iff_mem.1 hmem)

/-- Whether a word may be the first one of a phrase. -/
def startsPhrase (w : String) : Bool :=
  phrases.any fun p => (Text.upper w ++ " ").toList.isPrefixOf p.toList

theorem phraseAfter?_of_not_startsPhrase (h : startsPhrase w = false) (rest : List Char) :
    phraseAfter? w rest = none := by
  refine phraseAfter?_eq_none fun hmem => ?_
  rw [startsPhrase, List.any_eq_false] at h
  refine h _ hmem ?_
  rw [List.isPrefixOf_iff_prefix]
  exact ⟨(Text.upper (String.ofList (wordAhead rest))).toList, by simp⟩

/-- The words of statements of queries that are on their own. -/
def plainKeywords : List String :=
  ["SELECT", "FROM", "AS", "INNER", "LEFT", "RIGHT", "JOIN", "ON", "WHERE", "AND", "LIKE", "NOT",
    "IN", "BETWEEN", "IS", "NULL", "ASC", "DESC", "LIMIT", "OFFSET"]

theorem isPlain_of_mem_plainKeywords (hw : w ∈ plainKeywords) : isPlain w = true := by
  have hall : plainKeywords.all isPlain = true := by decide +kernel
  exact List.all_eq_true.1 hall w hw

theorem spells_keyword (hw : w ∈ plainKeywords) (hrest : EndsNumber rest) :
    Spells (w.toList ++ rest) [.of .word w] rest := by
  have hall : plainKeywords.all (fun w => !startsPhrase w) = true := by decide +kernel
  have hphrase : startsPhrase w = false := by simpa using List.all_eq_true.1 hall w hw
  have hread := readPiece?_word (isPlain_of_mem_plainKeywords hw) (isWordPart_of_endsNumber hrest)
    (fun d hd hquote => notQuote_of_endsNumber hrest d hd (List.mem_append_left ['`', '.'] hquote))
    (phraseAfter?_of_not_startsPhrase hphrase rest)
  exact .cons hread (.nil rest)

/-- No name makes a phrase with a word that stands after names: only `SOUNDS` would. -/
theorem phraseAfter?_of_ends (hw : IsName w) (hrest : String.ofList (wordAhead rest) ∈ followers) :
    phraseAfter? w rest = none := by
  refine phraseAfter?_eq_none fun hmem => ?_
  have hupper : followers.all (fun f => Text.upper f == f) = true := by decide +kernel
  have hcapital := beq_iff_eq.1 (List.all_eq_true.1 hupper _ hrest)
  generalize String.ofList (wordAhead rest) = f at hrest hmem hcapital
  rw [hcapital] at hmem
  have hall : phrases.all (fun p => followers.all fun f =>
      !((" " ++ f).toList.isSuffixOf p.toList) || p == "SOUNDS LIKE" && f == "LIKE") = true := by
    decide +kernel
  have hpair := List.all_eq_true.1 (List.all_eq_true.1 hall _ hmem) f hrest
  have hsuffix : (" " ++ f).toList.isSuffixOf (Text.upper w ++ " " ++ f).toList = true :=
    List.isSuffixOf_iff_suffix.2 ⟨(Text.upper w).toList, by simp⟩
  rw [hsuffix, Bool.not_true, Bool.false_or, Bool.and_eq_true, beq_iff_eq, beq_iff_eq] at hpair
  obtain ⟨hphrase, rfl⟩ := hpair
  have hsounds : Text.upper w ++ " LIKE" = "SOUNDS" ++ " LIKE" := by
    rw [String.append_assoc] at hphrase
    exact hphrase
  have hchars := congrArg String.toList hsounds
  rw [String.toList_append, String.toList_append] at hchars
  exact hw.upper_ne (by decide +kernel) (String.toList_inj.1 (List.append_cancel_right hchars))

theorem spells_name (hw : IsName w) (hrest : Ends rest) :
    Spells (w.toList ++ rest) [.of .word w] rest := by
  have hread := readPiece?_word hw.plain (isWordPart_of_endsNumber hrest.head)
    (fun d hd hquote => notQuote_of_endsNumber hrest.head d hd
      (List.mem_append_left ['`', '.'] hquote))
    (phraseAfter?_of_ends hw hrest.ahead)
  exact .cons hread (.nil rest)

/-- A name before a point. -/
theorem spells_name_point (hw : IsName w) (rest : List Char) :
    Spells (w.toList ++ '.' :: rest) [.of .word w] ('.' :: rest) := by
  have hink : ∀ c ∈ ('.' :: rest).head?, Text.isBlank c = false := by
    rintro c hc
    obtain rfl := Option.some.inj hc
    decide
  exact .cons (readPiece?_word hw.plain (by simp [isWordPart, isSign]) (by simp)
    (phraseAfter?_of_ink hink)) (.nil _)

/-- Two words that are one keyword. -/
theorem spells_phrase {v : String} (hw : isPlain w = true) (hv : isPlain v = true)
    (hmem : Text.upper w ++ " " ++ Text.upper v ∈ phrases)
    (hrest : ∀ d ∈ rest.head?, isWordPart d = false) :
    Spells (w.toList ++ ' ' :: (v.toList ++ rest))
      [.of .phrase (Text.upper w ++ " " ++ Text.upper v)] rest := by
  have hparts := isWordPart_of_isPlain hw
  have hvparts := isWordPart_of_isPlain hv
  have hblank : ∀ d ∈ (' ' :: (v.toList ++ rest)).head?, isWordPart d = false := by
    simp [isWordPart, Text.isBlank, Text.isWhiteSpace]
  have hdrop : Text.dropBlanks (' ' :: (v.toList ++ rest)) = v.toList ++ rest := by
    obtain ⟨c, cs, hcs, -, hall⟩ := exists_cons_of_isPlain hv
    rw [Text.dropBlanks, List.dropWhile_cons_of_pos (by decide), hcs, List.cons_append]
    exact dropBlanks_cons_of_ink (isBlank_of_isPlainChar (hall c List.mem_cons_self)) _
  have hphrase : phraseAfter? w (' ' :: (v.toList ++ rest)) =
      some (Text.upper w ++ " " ++ Text.upper v, rest) := by
    rw [phraseAfter?, hdrop, takeWhile_plain hvparts hrest, String.ofList_toList,
      dropWhile_plain hvparts hrest, if_pos ⟨by simp, List.contains_iff_mem.2 hmem⟩]
  refine .cons ?_ (.nil rest)
  rw [readPiece?_plain hw (by simp), readWord_eq, takeWhile_plain hparts hblank,
    dropWhile_plain hparts hblank, String.ofList_toList, hphrase]

/-! ## Signs -/

/-- The signs of statements of queries with which no longer one starts. -/
def shortSigns : List Char := ['(', ')', ',', ';', '*', '.']

theorem spells_sign (hc : c ∈ shortSigns) (rest : List Char) :
    Spells (c :: rest) [.of .sign (String.ofList [c])] rest := by
  have hall : shortSigns.all (fun c => !marks.contains c && c != '0' && c != '-' &&
      !Text.isBlank c && !Text.isDigit c && isSign c &&
        longSigns.all fun s => s.toList.head? != some c && s != "") = true := by decide +kernel
  have hplain := List.all_eq_true.1 hall c hc
  simp only [Bool.and_eq_true, Bool.not_eq_true', bne_iff_ne, ne_eq, List.contains_eq_mem,
    decide_eq_false_iff_not] at hplain
  obtain ⟨⟨⟨⟨⟨⟨hmarks, hzero⟩, hdash⟩, hblank⟩, hdigit⟩, hsign⟩, hlong⟩ := hplain
  have hshort : longSigns.find? (fun s => s.toList.isPrefixOf (c :: rest)) = none := by
    rw [List.find?_eq_none]
    intro s hs hprefix
    have hhead := List.all_eq_true.1 hlong s hs
    simp only [Bool.and_eq_true, bne_iff_ne, ne_eq] at hhead
    rw [List.isPrefixOf_iff_prefix] at hprefix
    cases hchars : s.toList with
    | nil => exact hhead.2 (String.toList_eq_nil_iff.1 hchars)
    | cons d ds =>
        rw [hchars] at hprefix hhead
        exact hhead.1 (by rw [(List.cons_prefix_cons.1 hprefix).1]; rfl)
  refine .cons ?_ (.nil rest)
  rw [readPiece?_of_plain hmarks (fun h => absurd h hdash) (fun h => absurd h hzero),
    if_neg (by simp [hblank]), dif_neg (by simp [hdigit]), if_pos hsign, readSign, hshort]

/-- The signs of comparisons. -/
def comparisonSigns : List String := ["=", "!=", "<", "<=", ">", ">="]

theorem spells_comparison {s : String} (hs : s ∈ comparisonSigns) (rest : List Char) :
    Spells (s.toList ++ ' ' :: rest) [.of .sign s] (' ' :: rest) := by
  have hplain : ∀ c ∈ ['=', '!', '<', '>'], ∀ cs, readPiece? (c :: cs) = some (readSign c cs) := by
    intro c hc cs
    have hall : ['=', '!', '<', '>'].all (fun c => !marks.contains c && c != '0' && c != '-' &&
        !Text.isBlank c && !Text.isDigit c && isSign c) = true := by decide +kernel
    have hplain := List.all_eq_true.1 hall c hc
    simp only [Bool.and_eq_true, Bool.not_eq_true', bne_iff_ne, ne_eq, List.contains_eq_mem,
      decide_eq_false_iff_not] at hplain
    obtain ⟨⟨⟨⟨⟨hmarks, hzero⟩, hdash⟩, hblank⟩, hdigit⟩, hsign⟩ := hplain
    rw [readPiece?_of_plain hmarks (fun h => absurd h hdash) (fun h => absurd h hzero),
      if_neg (by simp [hblank]), dif_neg (by simp [hdigit]), if_pos hsign]
  refine .cons ?_ (.nil _)
  simp only [comparisonSigns, List.mem_cons, List.not_mem_nil, or_false] at hs
  rcases hs with rfl | rfl | rfl | rfl | rfl | rfl <;>
    simp [hplain, readSign, longSigns, List.isPrefixOf]

/-! ## Constants -/

theorem readText?_escape {quote e : Char} (he : escaped? e = some c) (rest : List Char) :
    readText? quote ('\\' :: e :: rest) =
      (readText? quote rest).map fun (text, after) => (c :: text, after) := by
  rw [readText?, he]
  rfl

/-- The characters that stand for one character of a text literal. -/
def written (c : Char) : List Char :=
  match escapeOf? c with
  | some e => ['\\', e]
  | none => [c]

theorem writeText_eq (cs : List Char) :
    writeText cs = '\'' :: ((doubled '\'' cs).flatMap written ++ ['\'']) := rfl

/-- A written text is read as it was. -/
theorem readText?_written (cs : List Char) (hrest : rest.head? ≠ some '\'') :
    readText? '\'' ((doubled '\'' cs).flatMap written ++ '\'' :: rest) = some (cs, rest) := by
  induction cs with
  | nil => exact readText?_closing (by decide) hrest
  | cons c cs ih =>
      rw [doubled_cons, List.flatMap_append, List.append_assoc]
      by_cases hquote : c = '\''
      · subst hquote
        have hwritten : List.flatMap written (if '\'' = '\'' then ['\'', '\''] else ['\'']) =
            ['\'', '\''] := rfl
        rw [hwritten, List.cons_append, List.cons_append, List.nil_append,
          readText?_twice (by decide), ih]
        rfl
      · rw [if_neg hquote, List.flatMap_singleton, written]
        cases hescape : escapeOf? c with
        | some e =>
            rw [List.cons_append, List.cons_append, List.nil_append,
              readText?_escape (escaped?_escapeOf? hescape), ih]
            rfl
        | none =>
            have hplain : c ≠ '\\' := by
              rintro rfl
              cases hescape
            rw [List.singleton_append, readText?_cons_of_ne hplain hquote, ih]
            rfl

theorem spells_writeText (cs : List Char) (hrest : EndsNumber rest) :
    Spells (writeText cs ++ rest) [.of .text (String.ofList cs)] rest := by
  have hquote : rest.head? ≠ some '\'' := fun hhead => notQuote_of_endsNumber hrest _ hhead (by simp)
  refine .cons ?_ (.nil rest)
  rw [writeText_eq, List.cons_append, List.append_assoc, List.singleton_append, readPiece?_quote,
    readText?_written cs hquote]
  rfl

/-- The token of a number. -/
def Numeral.lexeme (n : Numeral) : Lexeme := ⟨.number, n.text, fun _ => n.startsWithDigit⟩

/-- The numerals that are read as one number: with an optional point and an optional exponent, and
no blank at the end. -/
structure Numeral.IsWhole (n : Numeral) : Prop where
  numeral : Text.isNumeral n.text = true
  flush : Text.Flush n.text.toList

theorem Numeral.exists_cons (n : Numeral) :
    ∃ d tail, n.text.toList = d :: tail ∧ Text.isDigit d = true := by
  have hstart := n.startsWithDigit
  rw [Text.startsWithDigit] at hstart
  cases hchars : n.text.toList with
  | nil => simp [hchars] at hstart
  | cons d tail => exact ⟨d, tail, rfl, by simpa [hchars] using hstart⟩

/-- The signs before a number and the point in it are no digits. -/
theorem isDigit_eq_false_of_sign (hc : c ∈ ['+', '-', '.']) : Text.isDigit c = false := by
  have hall : ['+', '-', '.'].all (fun c => !Text.isDigit c) = true := by decide +kernel
  simpa using List.all_eq_true.1 hall c hc

theorem spells_numeral {n : Numeral} (hn : n.IsWhole) (hrest : EndsNumber rest) :
    Spells (n.text.toList ++ rest) [n.lexeme] rest := by
  obtain ⟨d, tail, hchars, hdigit⟩ := n.exists_cons
  obtain ⟨lexemes, ⟨sign, point, number, hsign, hpoint, hkind, hsplit, rfl⟩, hlexes⟩ :=
    exists_lexes_numeral hn.numeral hn.flush.not_lineBreak_suffix
  have hplus : Text.isDigit '+' = false := isDigit_eq_false_of_sign (by decide)
  have hminus : Text.isDigit '-' = false := isDigit_eq_false_of_sign (by decide)
  have hdot : Text.isDigit '.' = false := isDigit_eq_false_of_sign (by decide)
  have hbare : sign = [] ∧ point = [] := by
    rw [hchars] at hsplit
    rcases hsign with rfl | rfl | rfl <;> rcases hpoint with rfl | rfl <;>
      simp only [List.nil_append, List.cons_append, List.cons.injEq] at hsplit
    · exact ⟨rfl, rfl⟩
    all_goals
      rw [hsplit.1] at hdigit
      simp_all
  obtain ⟨rfl, rfl⟩ := hbare
  have hnumber : number = n.lexeme := by
    obtain ⟨kind, text, starts⟩ := number
    obtain rfl : kind = .number := hkind
    obtain rfl : text = n.text := String.toList_inj.1 hsplit.symm
    rfl
  rw [hnumber] at hlexes
  exact (hlexes rest hrest).spells

end Sql
end QueryDesigner

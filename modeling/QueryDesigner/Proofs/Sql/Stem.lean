import Mathlib
import QueryDesigner.Proofs.Sql.Literal

/-!
# Where words, numbers and signs end

Before a blank, a comma or a quote every word, number and sign comes to its end.  So what is cut off
before such a character does not depend on what follows it, but for the two words of a phrase.

* `isStop`, `Solid`, `Stops` — those characters, and texts that hold none or start with one;
* `numberTail_append`, `readNumber_append`, `readSign_append`, `readRadix_append` — each cut by
  itself;
* `phraseAfter?`, `readWord_eq` — the second word of a phrase;
* `solidPiece`, `readPiece?_of_solid` — the cut of a word, a number or a sign, and when it is made;
* `solidPiece_append`, `solidPiece_phrase` — that cut before a stop.
-/

namespace QueryDesigner
namespace Sql

/-- A character before which every word, number and sign ends. -/
def isStop (c : Char) : Bool := Text.isBlank c || [',', '\'', '"', '`'].contains c

/-- A text without such characters. -/
def Solid (cs : List Char) : Prop := ∀ c ∈ cs, isStop c = false

/-- A text that starts with such a character, or that is empty. -/
def Stops (cs : List Char) : Prop := ∀ c ∈ cs.head?, isStop c = true

theorem stops_nil : Stops [] := by
  intro c hc
  cases hc

theorem Solid.tail {c : Char} {cs : List Char} (h : Solid (c :: cs)) : Solid cs :=
  fun d hd => h d (List.mem_cons_of_mem c hd)

/-! ## Stops -/

section IsStop

variable {c : Char}

/-- What holds of no blank, no comma and no quote holds of no stop. -/
theorem eq_false_of_isStop {p : Char → Bool} (hblank : ∀ c, Text.isBlank c = true → p c = false)
    (hothers : [',', '\'', '"', '`'].all (fun c => !p c) = true) (h : isStop c = true) :
    p c = false := by
  rw [isStop, Bool.or_eq_true, List.contains_iff_mem] at h
  rcases h with h | h
  · exact hblank c h
  · simpa using List.all_eq_true.1 hothers c h

theorem isWordPart_of_isStop (h : isStop c = true) : isWordPart c = false :=
  eq_false_of_isStop (fun c hc => by simp [isWordPart, hc]) (by decide) h

theorem isDigit_of_isStop (h : isStop c = true) : Text.isDigit c = false :=
  eq_false_of_isStop (fun c hc => Text.isDigit_eq_false_of_isBlank hc) (by decide +kernel) h

theorem isLetter_of_isStop (h : isStop c = true) : Text.isLetter c = false :=
  eq_false_of_isStop (fun c hc => Text.isLetter_eq_false_of_isBlank hc) (by decide +kernel) h

theorem ne_of_isStop (h : isStop c = true) {d : Char} (hd : isStop d = false) : c ≠ d := by
  rintro rfl
  rw [h] at hd
  cases hd

end IsStop

section Span

variable {p : Char → Bool} {t rest : List Char}

theorem takeWhile_append_of_stops (hp : ∀ c, isStop c = true → p c = false) (hrest : Stops rest) :
    (t ++ rest).takeWhile p = t.takeWhile p := by
  have hnone : rest.takeWhile p = [] := by
    cases rest with
    | nil =>
        rfl
    | cons c cs =>
        exact List.takeWhile_cons_of_neg (by simp [hp c (hrest c rfl)])
  rw [List.takeWhile_append, hnone, List.append_nil]
  split_ifs with hall
  · exact ((List.takeWhile_prefix p).eq_of_length hall).symm
  · rfl

theorem dropWhile_append_of_stops (hp : ∀ c, isStop c = true → p c = false) (hrest : Stops rest) :
    (t ++ rest).dropWhile p = t.dropWhile p ++ rest := by
  rw [List.dropWhile_append]
  split_ifs with hempty
  · rw [List.isEmpty_iff.1 hempty, List.nil_append]
    cases rest with
    | nil =>
        rfl
    | cons c cs =>
        rw [List.dropWhile_cons_of_neg (by simp [hp c (hrest c rfl)])]
  · rfl

end Span

/-! ## Numbers -/

section Numbers

variable {t rest : List Char}

theorem head?_append_of_stops {p : Char → Bool} (hp : ∀ c, isStop c = true → p c = false)
    (hrest : Stops rest) :
    ((t ++ rest).head?.map p).getD false = (t.head?.map p).getD false := by
  cases t with
  | cons c cs =>
      rfl
  | nil =>
      cases rest with
      | nil =>
          rfl
      | cons c cs =>
          simp [hp c (hrest c rfl)]

theorem next?_append (hrest : Stops rest) (p : NumberPart) (c : Char) :
    p.next? c (t ++ rest) = p.next? c t := by
  have hhead := head?_append_of_stops (t := t) (fun c hc => isDigit_of_isStop hc) hrest
  rw [NumberPart.next?, NumberPart.next?, hhead]

theorem next?_of_isStop {c : Char} (hc : isStop c = true) (p : NumberPart) (cs : List Char) :
    p.next? c cs = none := by
  have hne : ∀ d, isStop d = false → c ≠ d := fun d hd => ne_of_isStop hc hd
  simp [NumberPart.next?, isDigit_of_isStop hc, hne '.' (by decide), hne '-' (by decide),
    hne '+' (by decide), hne 'e' (by decide), hne 'E' (by decide)]

theorem numberTail_append (hrest : Stops rest) (p : NumberPart) :
    numberTail p (t ++ rest) = ((numberTail p t).1, (numberTail p t).2 ++ rest) := by
  induction t generalizing p with
  | nil =>
      refine numberTail_stop fun c cs heq => next?_of_isStop (hrest c ?_) p cs
      rw [List.nil_append] at heq
      simp [heq]
  | cons c t ih =>
      rw [List.cons_append, numberTail, next?_append hrest, numberTail]
      cases p.next? c t with
      | none =>
          rfl
      | some q =>
          simp only [ih q]

theorem readNumber_append (hrest : Stops rest) {c : Char} (hc : Text.isDigit c = true) :
    readNumber c hc (t ++ rest) = ((readNumber c hc t).1, (readNumber c hc t).2 ++ rest) := by
  have hname : ∀ d, isStop d = true → (Text.isLetter d || d == '_') = false := by
    intro d hd
    simp [isLetter_of_isStop hd, ne_of_isStop hd (d := '_') (by decide)]
  simp only [readNumber, numberTail_append hrest, head?_append_of_stops hname hrest,
    takeWhile_append_of_stops (fun _ => isWordPart_of_isStop) hrest,
    dropWhile_append_of_stops (fun _ => isWordPart_of_isStop) hrest]
  split_ifs <;> rfl

theorem readRadix_append (hrest : Stops rest) (kind : TokenKind) (letter mark : Char)
    (digit : Char → Bool) (h : (kind == .number) = false) :
    readRadix kind letter mark digit (t ++ rest) h =
      ((readRadix kind letter mark digit t h).1,
        (readRadix kind letter mark digit t h).2 ++ rest) := by
  simp only [readRadix, takeWhile_append_of_stops (fun _ => isWordPart_of_isStop) hrest,
    dropWhile_append_of_stops (fun _ => isWordPart_of_isStop) hrest]
  split_ifs <;> rfl

end Numbers

/-! ## Signs -/

section Signs

variable {t rest : List Char}

theorem isPrefixOf_append (hrest : Stops rest) {sign : List Char} (hsign : Solid sign) :
    sign.isPrefixOf (t ++ rest) = sign.isPrefixOf t := by
  induction sign generalizing t with
  | nil =>
      simp
  | cons s sign ih =>
      cases t with
      | nil =>
          cases rest with
          | nil =>
              rfl
          | cons c cs =>
              have hne : (s == c) = false := by
                rw [beq_eq_false_iff_ne]
                exact (ne_of_isStop (hrest c rfl) (hsign s List.mem_cons_self)).symm
              simp [List.isPrefixOf, hne]
      | cons c t =>
          simp only [List.cons_append, List.isPrefixOf, ih hsign.tail]

theorem solid_of_mem_longSigns {sign : String} (h : sign ∈ longSigns) : Solid sign.toList := by
  have hall : ∀ sign ∈ longSigns, sign.toList.all (fun c => !isStop c) = true := by
    decide +kernel
  intro c hc
  simpa using List.all_eq_true.1 (hall sign h) c hc

theorem readSign_append (hrest : Stops rest) (c : Char) :
    readSign c (t ++ rest) = ((readSign c t).1, (readSign c t).2 ++ rest) := by
  have hfind : longSigns.find? (fun s => s.toList.isPrefixOf (c :: (t ++ rest))) =
      longSigns.find? fun s => s.toList.isPrefixOf (c :: t) := by
    refine List.find?_congr fun s hs => ?_
    rw [← List.cons_append, isPrefixOf_append hrest (solid_of_mem_longSigns hs)]
  rw [readSign, hfind, readSign]
  cases hsign : longSigns.find? fun s => s.toList.isPrefixOf (c :: t) with
  | none =>
      rfl
  | some sign =>
      have hfits : sign.toList.isPrefixOf (c :: t) = true := by simpa using List.find?_some hsign
      have hprefix := List.isPrefixOf_iff_prefix.1 hfits
      simp only [← List.cons_append]
      rw [List.drop_append_of_le_length hprefix.length_le]

end Signs

/-! ## Words -/

/-- The phrase that a word makes with the next one, and what follows. -/
def phraseAfter? (word : String) (rest : List Char) : Option (String × List Char) :=
  let next := Text.dropBlanks rest
  let both := Text.upper word ++ " " ++ Text.upper (String.ofList (next.takeWhile isWordPart))
  if next.length < rest.length ∧ phrases.contains both then some (both, next.dropWhile isWordPart)
  else none

theorem readWord_eq (cs : List Char) :
    readWord cs =
      match phraseAfter? (String.ofList (cs.takeWhile isWordPart)) (cs.dropWhile isWordPart) with
      | some (both, after) => (.token (.of .phrase both), after)
      | none =>
        (.token (.of .word (String.ofList (cs.takeWhile isWordPart))), cs.dropWhile isWordPart) := by
  simp only [readWord, phraseAfter?]
  split_ifs <;> rfl

/-- No phrase without a blank. -/
theorem phraseAfter?_of_ink {word : String} {rest : List Char}
    (h : ∀ c ∈ rest.head?, Text.isBlank c = false) : phraseAfter? word rest = none := by
  have hdrop : Text.dropBlanks rest = rest := by
    cases rest with
    | nil =>
        rfl
    | cons c cs =>
        exact List.dropWhile_cons_of_neg (by simp [h c rfl])
  simp [phraseAfter?, hdrop]

/-! ## Cuts -/

def isNext (c : Char) (cs : List Char) : Bool := (cs.head?.map (· == c)).getD false

theorem isNext_eq_true_iff {c : Char} {cs : List Char} :
    isNext c cs = true ↔ cs.head? = some c := by
  cases cs with
  | nil =>
      simp [isNext]
  | cons d ds =>
      simp [isNext]

/-- Whether a text starts with a comment. -/
def startsComment : List Char → Bool
  | [] => false
  | c :: rest =>
    c == '-' && isNext '-' rest || c == '#' && !isNext '>' rest || c == '/' && isNext '*' rest

/-- Whether a text starts with a letter and the quote of a text that the letter marks. -/
def startsMarked : List Char → Bool
  | [] => false
  | c :: rest =>
    ['n', 'N', 'x', 'X', 'b', 'B'].contains c && isNext '\'' rest ||
      ['n', 'N'].contains c && isNext '"' rest

/-- The word, number or sign that a text starts with, and what follows. -/
def solidPiece (c : Char) (cs : List Char) : Piece × List Char :=
  match c, cs with
  | '0', 'x' :: rest => readRadix .hex 'x' 'x' isHexDigit rest
  | '0', 'X' :: rest => readRadix .hex 'x' 'X' isHexDigit rest
  | '0', 'b' :: rest => readRadix .bits 'b' 'b' isBit rest
  | '0', 'B' :: rest => readRadix .bits 'b' 'B' isBit rest
  | c, cs =>
    if h : Text.isDigit c = true then readNumber c h cs
    else if isSign c then readSign c cs
    else readWord (c :: cs)

theorem exists_token_readSign (c : Char) (cs : List Char) :
    ∃ l rest, readSign c cs = (.token l, rest) := by
  unfold readSign
  split
  · exact ⟨_, _, rfl⟩
  · exact ⟨_, _, rfl⟩

theorem exists_token_readNumber {c : Char} (hc : Text.isDigit c = true) (cs : List Char) :
    ∃ l rest, readNumber c hc cs = (.token l, rest) := by
  simp only [readNumber]
  split_ifs
  · exact ⟨_, _, rfl⟩
  · exact ⟨_, _, rfl⟩

theorem exists_token_readWord (cs : List Char) : ∃ l rest, readWord cs = (.token l, rest) := by
  simp only [readWord]
  split_ifs
  · exact ⟨_, _, rfl⟩
  · exact ⟨_, _, rfl⟩

theorem solidPiece_suffix (c : Char) (cs : List Char) : (solidPiece c cs).2 <:+ c :: cs := by
  unfold solidPiece
  split
  case h_5 =>
      split_ifs with hdigit
      · exact (readNumber_suffix _ hdigit).trans (List.suffix_cons _ _)
      · exact (readSign_suffix _).trans (List.suffix_cons _ _)
      · exact readWord_suffix.trans (List.dropWhile_suffix _)
  all_goals
    exact (readRadix_suffix _).trans ((List.suffix_cons _ _).trans (List.suffix_cons _ _))

theorem readPiece?_of_solid {c : Char} {cs : List Char} (hc : isStop c = false)
    (hcomment : startsComment (c :: cs) = false) (hmarked : startsMarked (c :: cs) = false) :
    readPiece? (c :: cs) = some (solidPiece c cs) := by
  have hblank : Text.isBlank c = false := by
    rw [isStop, Bool.or_eq_false_iff] at hc
    exact hc.1
  unfold readPiece?
  split
  case h_1 heq => cases heq
  case h_2 heq | h_5 heq | h_6 heq =>
      obtain ⟨rfl, rfl⟩ := List.cons.inj heq
      exact absurd hcomment (by simp [startsComment, isNext])
  case h_3 heq =>
      obtain ⟨rfl, rfl⟩ := List.cons.inj heq
      rw [solidPiece, dif_neg (by decide +kernel), if_pos (by decide)]
      all_goals simp
  case h_4 hnot heq =>
      obtain ⟨rfl, rfl⟩ := List.cons.inj heq
      cases cs with
      | nil =>
          exact absurd hcomment (by simp [startsComment, isNext])
      | cons d rest =>
          obtain rfl : d = '>' := by simpa [startsComment, isNext] using hcomment
          exact absurd rfl (hnot rest)
  case h_7 heq | h_8 heq | h_9 heq =>
      obtain ⟨rfl, rfl⟩ := List.cons.inj heq
      exact absurd hc (by decide)
  case h_10 heq | h_11 heq | h_12 heq | h_13 heq | h_14 heq | h_15 heq | h_16 heq | h_17 heq =>
      obtain ⟨rfl, rfl⟩ := List.cons.inj heq
      exact absurd hmarked (by simp [startsMarked, isNext])
  case h_18 heq | h_19 heq | h_20 heq | h_21 heq =>
      obtain ⟨rfl, rfl⟩ := List.cons.inj heq
      rfl
  case h_22 hx hX hb hB heq =>
      obtain ⟨rfl, rfl⟩ := List.cons.inj heq
      rw [if_neg (by simp [hblank]), solidPiece]
      · split_ifs <;> rfl
      all_goals assumption

/-- A comment is no token. -/
theorem readPiece?_ne_token_of_startsComment {cs : List Char} (h : startsComment cs = true)
    (l : Lexeme) (rest : List Char) : readPiece? cs ≠ some (.token l, rest) := by
  intro hread
  unfold readPiece? at hread
  split at hread
  case h_2 | h_4 => cases hread
  case h_5 | h_6 =>
      rcases Option.map_eq_some_iff.1 hread with ⟨_, _, hpiece⟩
      cases hpiece
  case h_22 c tail hdash _ hhash _ hmark _ _ _ _ _ _ _ _ _ _ _ _ _ _ _ =>
      have htail : ∀ {d : Char}, isNext d tail = true → ∃ after, tail = d :: after :=
        fun hnext => List.head?_eq_some_iff.1 (isNext_eq_true_iff.1 hnext)
      simp only [startsComment, Bool.or_eq_true, Bool.and_eq_true, beq_iff_eq] at h
      rcases h with (⟨hc, hnext⟩ | ⟨hc, -⟩) | ⟨hc, hnext⟩
      · rcases htail hnext with ⟨after, rfl⟩
        exact hdash after hc rfl
      · exact hhash hc
      · rcases htail hnext with ⟨after, rfl⟩
        exact hmark after hc rfl
  all_goals simp [startsComment, isNext] at h

theorem solidPiece_of_ne {c : Char} {cs : List Char}
    (h : c = '0' → ∀ m ∈ cs.head?, m ∉ ['x', 'X', 'b', 'B']) :
    solidPiece c cs =
      if h : Text.isDigit c = true then readNumber c h cs
      else if isSign c then readSign c cs
      else readWord (c :: cs) := by
  have hne : ∀ m ∈ ['x', 'X', 'b', 'B'], ∀ rest, c = '0' → cs = m :: rest → False := by
    rintro m hm rest hc rfl
    exact h hc m rfl hm
  rw [solidPiece]
  · exact hne 'x' (by simp)
  · exact hne 'X' (by simp)
  · exact hne 'b' (by simp)
  · exact hne 'B' (by simp)

section Append

variable {c : Char} {t rest : List Char}

/-- A word before a stop: perhaps a phrase comes of it. -/
theorem readWord_append (hsolid : Solid t) (hrest : Stops rest)
    (hphrase : (∀ d ∈ t, isWordPart d = true) → phraseAfter? (String.ofList t) rest = none) :
    readWord (t ++ rest) =
      (.token (.of .word (String.ofList (t.takeWhile isWordPart))),
        t.dropWhile isWordPart ++ rest) := by
  have hnone : phraseAfter? (String.ofList (t.takeWhile isWordPart))
      (t.dropWhile isWordPart ++ rest) = none := by
    cases hdrop : t.dropWhile isWordPart with
    | nil =>
        have hall : ∀ d ∈ t, isWordPart d = true := List.dropWhile_eq_nil_iff.1 hdrop
        rw [List.takeWhile_eq_self_iff.2 hall, List.nil_append]
        exact hphrase hall
    | cons d ds =>
        refine phraseAfter?_of_ink fun e he => ?_
        obtain rfl : d = e := Option.some.inj he
        have hmem : d ∈ t :=
          (List.dropWhile_suffix isWordPart).subset (hdrop ▸ List.mem_cons_self)
        have hd := hsolid d hmem
        rw [isStop, Bool.or_eq_false_iff] at hd
        exact hd.1
  rw [readWord_eq, takeWhile_append_of_stops (fun _ => isWordPart_of_isStop) hrest,
    dropWhile_append_of_stops (fun _ => isWordPart_of_isStop) hrest, hnone]

/-- What is cut off before a stop does not depend on what follows it, but for the second word of a
phrase. -/
theorem solidPiece_append (hsolid : Solid (c :: t)) (hrest : Stops rest)
    (hphrase : (∀ d ∈ c :: t, isWordPart d = true) → Text.isDigit c = false →
      phraseAfter? (String.ofList (c :: t)) rest = none) :
    solidPiece c (t ++ rest) = ((solidPiece c t).1, (solidPiece c t).2 ++ rest) := by
  by_cases hradix : c = '0' ∧ ∃ m ∈ ['x', 'X', 'b', 'B'], ∃ t', t = m :: t'
  · rcases hradix with ⟨rfl, m, hm, t', rfl⟩
    simp only [List.mem_cons, List.not_mem_nil, or_false] at hm
    rcases hm with rfl | rfl | rfl | rfl
    all_goals exact readRadix_append hrest _ _ _ _ _
  · have hhead : c = '0' → ∀ m ∈ t.head?, m ∉ ['x', 'X', 'b', 'B'] := by
      rintro rfl m hm hmem
      rcases List.head?_eq_some_iff.1 hm with ⟨t', rfl⟩
      exact hradix ⟨rfl, m, hmem, t', rfl⟩
    have hhead' : c = '0' → ∀ m ∈ (t ++ rest).head?, m ∉ ['x', 'X', 'b', 'B'] := by
      intro hc m hm hmem
      cases t with
      | cons d t =>
          exact hhead hc m hm hmem
      | nil =>
          have hletters : ['x', 'X', 'b', 'B'].all (fun m => !isStop m) = true := by decide
          have hnot := List.all_eq_true.1 hletters m hmem
          rw [hrest m hm] at hnot
          cases hnot
    rw [solidPiece_of_ne hhead, solidPiece_of_ne hhead']
    by_cases hdigit : Text.isDigit c = true
    · rw [dif_pos hdigit, dif_pos hdigit, readNumber_append hrest]
    · rw [dif_neg hdigit, dif_neg hdigit]
      split_ifs with hsign
      · exact readSign_append hrest c
      · have hphrase' := fun h => hphrase h (by simpa using hdigit)
        rw [← List.cons_append, readWord_append hsolid hrest hphrase']
        have halone := readWord_append hsolid stops_nil fun _ => phraseAfter?_of_ink (by simp)
        rw [List.append_nil, List.append_nil] at halone
        rw [halone]

/-- A word before a stop with which it makes a phrase. -/
theorem solidPiece_phrase (hword : ∀ d ∈ c :: t, isWordPart d = true)
    (hdigit : Text.isDigit c = false) (hrest : Stops rest) {both : String} {after : List Char}
    (hphrase : phraseAfter? (String.ofList (c :: t)) rest = some (both, after)) :
    solidPiece c (t ++ rest) = (.token (.of .phrase both), after) := by
  have hzero : c ≠ '0' := by
    rintro rfl
    exact absurd hdigit (by decide +kernel)
  have hsign : isSign c = false := by
    have hc := hword c List.mem_cons_self
    simp only [isWordPart, Bool.and_eq_true, Bool.not_eq_true'] at hc
    exact hc.2
  rw [solidPiece_of_ne fun h => absurd h hzero, dif_neg (by simp [hdigit]), if_neg (by simp [hsign]),
    readWord_eq, ← List.cons_append,
    takeWhile_append_of_stops (fun _ => isWordPart_of_isStop) hrest,
    dropWhile_append_of_stops (fun _ => isWordPart_of_isStop) hrest,
    List.takeWhile_eq_self_iff.2 hword, List.dropWhile_eq_nil_iff.2 hword, List.nil_append, hphrase]

end Append

end Sql
end QueryDesigner

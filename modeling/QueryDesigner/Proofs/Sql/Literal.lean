import Mathlib
import QueryDesigner.Proofs.Sql.Lexer
import QueryDesigner.Proofs.Text.Digit

/-!
# Literals at the start of a text

* `EndsLiteral`, `EndsNumber` — what may follow a literal without being taken for a part of it;
* `lexes_text` — a text with doubled quotes is one token with just that text as its content;
* `numberTail_of_exponentTail`, `numberTail_of_numeral` — the digits of a numeral are read in one go;
* `lexes_number`, `lexes_numeral` — a numeral is a number after an optional sign and point.
-/

namespace QueryDesigner
namespace Sql

/-- Nothing follows, or a blank or the end of a statement. -/
def EndsLiteral (rest : List Char) : Prop :=
  ∀ c, rest.head? = some c → Text.isBlank c = true ∨ c = ';'

theorem endsLiteral_nil : EndsLiteral [] := by
  intro c hc
  cases hc

/-- Nothing follows, or a blank, the end of a statement, a comma or a closing parenthesis. -/
def EndsNumber (rest : List Char) : Prop :=
  ∀ c, rest.head? = some c → Text.isBlank c = true ∨ c ∈ [';', ',', ')']

theorem EndsLiteral.endsNumber {rest : List Char} (h : EndsLiteral rest) : EndsNumber rest :=
  fun c hc => (h c hc).imp_right fun heq => by simp [heq]

/-! ## Text -/

section ReadText

variable {quote c : Char} {rest : List Char}

theorem readText?_cons_of_ne (hc : c ≠ '\\') (hquote : c ≠ quote) :
    readText? quote (c :: rest) =
      (readText? quote rest).map fun (text, after) => (c :: text, after) := by
  conv_lhs => unfold readText?
  split
  next heq => cases heq
  next heq => exact absurd (List.cons.inj heq).1 hc
  next heq =>
      obtain ⟨rfl, rfl⟩ := List.cons.inj heq
      rw [if_neg hquote]

theorem readText?_twice (hquote : quote ≠ '\\') :
    readText? quote (quote :: quote :: rest) =
      (readText? quote rest).map fun (text, after) => (quote :: text, after) := by
  conv_lhs => unfold readText?
  split
  next heq => cases heq
  next heq => exact absurd (List.cons.inj heq).1 hquote
  next heq =>
      obtain ⟨rfl, rfl⟩ := List.cons.inj heq
      simp only [if_true]

theorem readText?_closing (hquote : quote ≠ '\\') (hrest : rest.head? ≠ some quote) :
    readText? quote (quote :: rest) = some ([], rest) := by
  unfold readText?
  split
  next heq => cases heq
  next heq => exact absurd (List.cons.inj heq).1 hquote
  next heq =>
      obtain ⟨rfl, rfl⟩ := List.cons.inj heq
      cases rest with
      | nil => rw [if_pos rfl]
      | cons d rest =>
          have hd : d ≠ quote := by simpa using hrest
          rw [if_pos rfl]
          simp only [if_neg hd]

/-- A quote in the text is written twice, so the first single one closes the literal.  A backslash
would take the next character with it. -/
theorem readText?_doubled {cs : List Char} (hquote : quote ≠ '\\') (hplain : '\\' ∉ cs)
    (hrest : rest.head? ≠ some quote) :
    readText? quote (doubled quote cs ++ quote :: rest) = some (cs, rest) := by
  induction cs with
  | nil => exact readText?_closing hquote hrest
  | cons c cs ih =>
      have hc : c ≠ '\\' := fun heq => hplain (heq ▸ List.mem_cons_self)
      have hread := ih fun hmem => hplain (List.mem_cons_of_mem c hmem)
      by_cases hsame : c = quote
      · subst hsame
        have hcons : doubled c (c :: cs) = c :: c :: doubled c cs := by simp [doubled]
        rw [hcons, List.cons_append, List.cons_append, readText?_twice hquote, hread]
        rfl
      · have hcons : doubled quote (c :: cs) = c :: doubled quote cs := by simp [doubled, hsame]
        rw [hcons, List.cons_append, readText?_cons_of_ne hc hsame, hread]
        rfl

end ReadText

theorem readPiece?_quote (cs : List Char) :
    readPiece? ('\'' :: cs) = quotedPiece .text (readText? '\'' cs) := by
  unfold readPiece?
  rfl

theorem readPiece?_text {cs rest : List Char} (hplain : '\\' ∉ cs)
    (hrest : rest.head? ≠ some '\'') :
    readPiece? ('\'' :: (doubled '\'' cs ++ '\'' :: rest)) =
      some (.token (.of .text (String.ofList cs)), rest) := by
  rw [readPiece?_quote, readText?_doubled (by decide) hplain hrest]
  rfl

theorem lexes_text {cs rest : List Char} (hplain : '\\' ∉ cs) (hrest : rest.head? ≠ some '\'') :
    Lexes ('\'' :: (doubled '\'' cs ++ '\'' :: rest)) [.of .text (String.ofList cs)] rest :=
  .cons (readPiece?_text hplain hrest) (.nil rest)

/-! ## Numbers -/

section Number

variable {c : Char} {cs ds rest : List Char} {p : NumberPart}

theorem numberTail_cons {q : NumberPart} (h : p.next? c rest = some q) :
    numberTail p (c :: rest) = (c :: (numberTail q rest).1, (numberTail q rest).2) := by
  rw [numberTail, h]

theorem numberTail_stop (h : ∀ c cs, rest = c :: cs → p.next? c cs = none) :
    numberTail p rest = ([], rest) := by
  cases rest with
  | nil => rfl
  | cons c cs => rw [numberTail, h c cs rfl]

theorem next?_of_isDigit (h : Text.isDigit c = true) : p.next? c rest = some p := by
  rw [NumberPart.next?, if_pos h]

theorem numberTail_digits (h : ∀ d ∈ ds, Text.isDigit d = true) :
    numberTail p (ds ++ cs) = (ds ++ (numberTail p cs).1, (numberTail p cs).2) := by
  induction ds with
  | nil => rfl
  | cons d ds ih =>
      rw [List.cons_append, numberTail_cons (next?_of_isDigit (h d List.mem_cons_self)),
        ih fun d' hd' => h d' (List.mem_cons_of_mem d hd')]
      rfl

/-- A number stops where a literal may end. -/
theorem numberTail_of_endsNumber (h : EndsNumber rest) : numberTail p rest = ([], rest) := by
  refine numberTail_stop fun c cs heq => ?_
  have hstops : ∀ c, c ≠ '.' → c ≠ '-' → c ≠ '+' → c ≠ 'e' → c ≠ 'E' → Text.isDigit c = false →
      p.next? c cs = none := by
    intro c hpoint hminus hplus he hE hdigit
    simp [NumberPart.next?, hdigit, hpoint, hminus, hplus, he, hE]
  rcases h c (by rw [heq, List.head?_cons]) with hblank | hmark
  · have hne : ∀ d : Char, Text.isBlank d = false → c ≠ d := by
      rintro d hd rfl
      rw [hblank] at hd
      cases hd
    exact hstops c (hne _ (by decide)) (hne _ (by decide)) (hne _ (by decide)) (hne _ (by decide))
      (hne _ (by decide)) (Text.isDigit_eq_false_of_isBlank hblank)
  · have hall : [';', ',', ')'].all (fun c => c != '.' && c != '-' && c != '+' && c != 'e' &&
        c != 'E' && !Text.isDigit c) = true := by decide +kernel
    have hc := List.all_eq_true.1 hall c hmark
    simp only [Bool.and_eq_true, Bool.not_eq_true', bne_iff_ne, ne_eq] at hc
    obtain ⟨⟨⟨⟨⟨hpoint, hminus⟩, hplus⟩, he⟩, hE⟩, hdigit⟩ := hc
    exact hstops c hpoint hminus hplus he hE hdigit

/-- Without a line break at the end nothing is left. -/
theorem eq_nil_of_isAtEnd (hlast : ¬ ['\n'] <:+ cs) (h : Text.isAtEnd cs = true) : cs = [] := by
  simp only [Text.isAtEnd, Bool.or_eq_true, beq_iff_eq] at h
  rcases h with rfl | rfl
  · rfl
  · exact absurd List.suffix_rfl hlast

theorem exists_dropSign (cs : List Char) :
    ∃ sign, (sign = [] ∨ sign = ['+'] ∨ sign = ['-']) ∧ cs = sign ++ Text.dropSign cs := by
  unfold Text.dropSign
  split
  next rest => exact ⟨['+'], by simp, rfl⟩
  next rest => exact ⟨['-'], by simp, rfl⟩
  next => exact ⟨[], by simp, rfl⟩

theorem forall_takeWhile_isDigit (cs : List Char) :
    ∀ d ∈ cs.takeWhile Text.isDecimal, Text.isDigit d = true :=
  fun _ hd => Text.isDigit_of_isDecimal (List.mem_takeWhile_imp hd)

/-- The letter of an exponent, its sign and its digits continue the number; a sign does so only
where a digit follows. -/
theorem numberTail_of_exponentTail {point : Bool} (hcs : Text.isExponentTail cs = true)
    (hlast : ¬ ['\n'] <:+ cs) (hrest : EndsNumber rest) :
    numberTail { point } (cs ++ rest) = (cs, rest) := by
  cases cs with
  | nil => exact numberTail_of_endsNumber hrest
  | cons e cs =>
      by_cases he : e = 'e' ∨ e = 'E'
      · simp only [Text.isExponentTail, if_pos he, Bool.and_eq_true, Bool.not_eq_true',
          List.isEmpty_eq_false_iff] at hcs
        rcases exists_dropSign cs with ⟨sign, hsign, hsplit⟩
        rcases hcs with ⟨hne, hend⟩
        generalize Text.dropSign cs = digits at hsplit hne hend
        have hdrop : digits.dropWhile Text.isDecimal = [] := by
          refine eq_nil_of_isAtEnd (fun hsuffix => hlast ?_) hend
          rw [hsplit]
          exact hsuffix.trans ((List.dropWhile_suffix _).trans
            ((List.suffix_append sign digits).trans (List.suffix_cons e _)))
        have hdigits : digits.takeWhile Text.isDecimal = digits := by
          have happend := List.takeWhile_append_dropWhile (p := Text.isDecimal) (l := digits)
          rwa [hdrop, List.append_nil] at happend
        have hall : ∀ d ∈ digits, Text.isDigit d = true :=
          hdigits ▸ forall_takeWhile_isDigit digits
        have hread : ∀ q, numberTail q (digits ++ rest) = (digits, rest) := by
          intro q
          rw [numberTail_digits hall, numberTail_of_endsNumber hrest, List.append_nil]
        have hletter : NumberPart.next? { point } e (cs ++ rest) =
            some { point, exponent := true } := by
          rcases he with rfl | rfl <;> simp [NumberPart.next?] <;> decide +kernel
        rw [List.cons_append, numberTail_cons hletter, hsplit, List.append_assoc]
        rcases hsign with rfl | hsign
        · rw [List.nil_append, List.nil_append, hread]
        · have hdigit : ((digits ++ rest).head?.map Text.isDigit).getD false = true := by
            cases digits with
            | nil => exact absurd rfl hne
            | cons d ds => simp [hall d List.mem_cons_self]
          rcases hsign with rfl | rfl
          · have hplus : NumberPart.next? { point, exponent := true } '+' (digits ++ rest) =
                some { point, exponent := true, signed := true } := by
              rw [NumberPart.next?, if_neg (by decide +kernel), if_neg (by simp), if_pos (by simp),
                if_pos hdigit]
            rw [List.singleton_append, numberTail_cons hplus, hread]
            rfl
          · have hminus : NumberPart.next? { point, exponent := true } '-' (digits ++ rest) =
                some { point, exponent := true, signed := true } := by
              rw [NumberPart.next?, if_neg (by decide +kernel), if_neg (by simp), if_pos (by simp),
                if_pos hdigit]
            rw [List.singleton_append, numberTail_cons hminus, hread]
            rfl
      · rw [Text.isExponentTail, if_neg he] at hcs
        cases eq_nil_of_isAtEnd hlast hcs

/-- A numeral is a digit and what continues it, perhaps with a point before them. -/
theorem exists_digit_of_isUnsignedNumeral (hcs : Text.isUnsignedNumeral cs = true)
    (hlast : ¬ ['\n'] <:+ cs) :
    ∃ point d tail, (point = [] ∨ point = ['.']) ∧ cs = point ++ d :: tail ∧
      Text.isDigit d = true ∧
        ∀ rest, EndsNumber rest → numberTail {} (tail ++ rest) = (tail, rest) := by
  have hsplit := List.takeWhile_append_dropWhile (p := Text.isDecimal) (l := cs)
  have hwhole := forall_takeWhile_isDigit cs
  have hsuffix := List.dropWhile_suffix (l := cs) Text.isDecimal
  unfold Text.isUnsignedNumeral at hcs
  generalize cs.takeWhile Text.isDecimal = whole at hsplit hwhole hcs
  generalize cs.dropWhile Text.isDecimal = after at hsplit hsuffix hcs
  subst hsplit
  have hafter : ∀ more, more <:+ after → ¬ ['\n'] <:+ more :=
    fun more hmore hbreak => hlast (hbreak.trans (hmore.trans hsuffix))
  dsimp only at hcs
  split at hcs
  next fraction =>
      -- the digits come after the point only
      have hparts := List.takeWhile_append_dropWhile (p := Text.isDecimal) (l := fraction)
      have hfraction := forall_takeWhile_isDigit fraction
      have htail := hafter (fraction.dropWhile Text.isDecimal)
        ((List.dropWhile_suffix _).trans (List.suffix_cons _ _))
      generalize fraction.takeWhile Text.isDecimal = digits at hparts hfraction hcs
      generalize fraction.dropWhile Text.isDecimal = exponent at hparts htail hcs
      subst hparts
      simp only [Bool.and_eq_true, Bool.not_eq_true', List.isEmpty_eq_false_iff] at hcs
      rcases digits with _ | ⟨d, ds⟩
      · exact absurd rfl hcs.1
      · refine ⟨['.'], d, ds ++ exponent, .inr rfl, rfl, hfraction d List.mem_cons_self, ?_⟩
        intro rest hrest
        rw [List.append_assoc, numberTail_digits fun d' hd' => hfraction d' (.tail d hd'),
          numberTail_of_exponentTail hcs.2 htail hrest]
  next => cases hcs
  next d ds fraction =>
      have hparts := List.takeWhile_append_dropWhile (p := Text.isDecimal) (l := fraction)
      have hfraction := forall_takeWhile_isDigit fraction
      have htail := hafter (fraction.dropWhile Text.isDecimal)
        ((List.dropWhile_suffix _).trans (List.suffix_cons _ _))
      generalize fraction.takeWhile Text.isDecimal = digits at hparts hfraction
      generalize fraction.dropWhile Text.isDecimal = exponent at hparts htail hcs
      subst hparts
      refine ⟨[], d, ds ++ '.' :: (digits ++ exponent), .inl rfl, rfl,
        hwhole d List.mem_cons_self, ?_⟩
      intro rest hrest
      have hpoint : NumberPart.next? {} '.' (digits ++ (exponent ++ rest)) =
          some { point := true } := by
        rw [NumberPart.next?, if_neg (by decide +kernel), if_pos (by simp)]
      rw [List.append_assoc, numberTail_digits fun d' hd' => hwhole d' (.tail d hd'),
        List.cons_append, List.append_assoc, numberTail_cons hpoint, numberTail_digits hfraction,
        numberTail_of_exponentTail hcs htail hrest]
  next d ds _ =>
      refine ⟨[], d, ds ++ after, .inl rfl, rfl, hwhole d List.mem_cons_self, ?_⟩
      intro rest hrest
      rw [List.append_assoc, numberTail_digits fun d' hd' => hwhole d' (.tail d hd'),
        numberTail_of_exponentTail hcs (hafter after List.suffix_rfl) hrest]

end Number

/-! ## Numbers as tokens -/

section Lexes

variable {c d : Char} {tail cs rest : List Char}

/-- The characters with which something else than a word, a number or a sign may start. -/
def marks : List Char := ['#', '/', '\'', '"', '`', 'n', 'N', 'x', 'X', 'b', 'B']

/-- Besides those, a second dash makes a comment, and a letter after a zero marks another base. -/
theorem readPiece?_of_plain (hc : c ∉ marks) (hcomment : c = '-' → cs.head? ≠ some '-')
    (hradix : c = '0' → ∀ m, cs.head? = some m → m ∉ ['x', 'X', 'b', 'B']) :
    readPiece? (c :: cs) =
      if Text.isBlank c then
        some (.blank ((c :: cs.takeWhile Text.isBlank).any isLineEnd), cs.dropWhile Text.isBlank)
      else if h : Text.isDigit c = true then some (readNumber c h cs)
      else if isSign c then some (readSign c cs)
      else some (readWord (c :: cs)) := by
  unfold readPiece?
  split
  case h_22 heq =>
      obtain ⟨rfl, rfl⟩ := List.cons.inj heq
      rfl
  case h_1 heq => cases heq
  case h_2 heq =>
      obtain ⟨rfl, rfl⟩ := List.cons.inj heq
      exact absurd rfl (hcomment rfl)
  case h_18 heq | h_19 heq | h_20 heq | h_21 heq =>
      obtain ⟨rfl, rfl⟩ := List.cons.inj heq
      exact absurd (by simp) (hradix rfl _ rfl)
  all_goals
    rename_i heq
    exact absurd (by rw [(List.cons.inj heq).1]; decide) hc

theorem readPiece?_comma (cs : List Char) :
    readPiece? (',' :: cs) = some (.token (.of .sign ","), cs) := by
  have hshort : longSigns.find? (fun s => s.toList.isPrefixOf (',' :: cs)) = none := by
    simp [longSigns, List.isPrefixOf]
  rw [readPiece?_of_plain (by decide) (fun h => absurd h (by decide))
      (fun h => absurd h (by decide)), if_neg (by decide), dif_neg (by decide +kernel),
    if_pos (by decide), readSign, hshort]

theorem readPiece?_of_isDigit (hd : Text.isDigit d = true)
    (hradix : ∀ m, cs.head? = some m → m ∉ ['x', 'X', 'b', 'B']) :
    readPiece? (d :: cs) = some (readNumber d hd cs) := by
  have hne : ∀ c, Text.isDigit c = false → d ≠ c := by
    rintro c hc rfl
    rw [hd] at hc
    cases hc
  have hmarks : ∀ c ∈ marks, Text.isDigit c = false := by
    have hall : marks.all (fun c => !Text.isDigit c) = true := by decide +kernel
    simpa [List.all_eq_true] using hall
  rw [readPiece?_of_plain (fun hmem => hne d (hmarks d hmem) rfl)
      (fun hdash => absurd hdash (hne '-' (by decide +kernel))) (fun _ => hradix),
    if_neg (by simp [Text.isBlank_eq_false_of_isDigit hd]), dif_pos hd]

/-- A sign of a number, or the point in front of its digits. -/
theorem readPiece?_of_sign (hc : c ∈ ['+', '-', '.']) (hd : Text.isDigit d = true ∨ d = '.') :
    readPiece? (c :: d :: cs) = some (.token (.of .sign (String.ofList [c])), d :: cs) := by
  have hnext : d ∉ ['-', '>', '|'] := by
    rintro hmem
    rcases hd with hd | rfl
    · have hsigns : ['-', '>', '|'].all (fun c => !Text.isDigit c) = true := by decide +kernel
      have hnot := List.all_eq_true.1 hsigns d hmem
      rw [hd] at hnot
      cases hnot
    · revert hmem
      decide
  have hplain : c ∉ marks ∧ c ≠ '0' ∧ Text.isBlank c = false ∧ Text.isDigit c = false ∧
      isSign c = true := by
    have hall : ['+', '-', '.'].all (fun c => !marks.contains c && c != '0' && !Text.isBlank c &&
        !Text.isDigit c && isSign c) = true := by decide +kernel
    have hsign := List.all_eq_true.1 hall c hc
    simpa [and_assoc] using hsign
  rcases hplain with ⟨hmarks, hzero, hblank, hdigit, hsign⟩
  rw [readPiece?_of_plain hmarks (fun _ heq => hnext (by simp_all)) (fun h => absurd h hzero),
    if_neg (by simp [hblank]), dif_neg (by simp [hdigit]), if_pos hsign]
  -- the longer signs that start with one of these go on with another sign
  have hshort : longSigns.find? (fun s => s.toList.isPrefixOf (c :: d :: cs)) = none := by
    have hne : ∀ m ∈ ['-', '>', '|'], (m == d) = false := by
      intro m hm
      rw [beq_eq_false_iff_ne]
      rintro rfl
      exact hnext hm
    simp only [List.mem_cons, List.not_mem_nil, or_false] at hc
    rcases hc with rfl | rfl | rfl <;>
      simp [longSigns, List.isPrefixOf, hne '-' (by simp), hne '>' (by simp), hne '|' (by simp)]
  rw [readSign, hshort]

/-- The lexeme of a number by its characters. -/
def Lexeme.number (d : Char) (tail : List Char) (hd : Text.isDigit d = true) : Lexeme :=
  ⟨.number, String.ofList (d :: tail), fun _ => by simp [Text.startsWithDigit, hd]⟩

theorem lexes_number (hd : Text.isDigit d = true)
    (htail : numberTail {} (tail ++ rest) = (tail, rest)) (hrest : EndsNumber rest) :
    Lexes (d :: (tail ++ rest)) [.number d tail hd] rest := by
  have hradix : ∀ m, (tail ++ rest).head? = some m → m ∉ ['x', 'X', 'b', 'B'] := by
    intro m hm hradix
    rcases hcs : tail ++ rest with _ | ⟨m', cs⟩ <;> rw [hcs] at hm htail
    · cases hm
    · obtain rfl := Option.some.inj hm
      -- the number stops at the letter, with which no rest may start
      have hall : ['x', 'X', 'b', 'B'].all (fun c => !Text.isDigit c && !Text.isBlank c && c != '.' &&
          c != '-' && c != '+' && c != 'e' && c != 'E' && !([';', ',', ')'].contains c)) = true := by
        decide +kernel
      have hletter := List.all_eq_true.1 hall m' hradix
      simp only [Bool.and_eq_true, Bool.not_eq_true', bne_iff_ne, ne_eq, List.contains_eq_mem,
        decide_eq_false_iff_not] at hletter
      rcases hletter with ⟨⟨⟨⟨⟨⟨⟨hdigit, hblank⟩, hpoint⟩, hminus⟩, hplus⟩, he⟩, hE⟩, hend⟩
      have hnone : NumberPart.next? {} m' cs = none := by
        simp [NumberPart.next?, hdigit, hpoint, hminus, hplus, he, hE]
      rw [numberTail, hnone] at htail
      obtain ⟨-, rfl⟩ := Prod.mk.inj htail
      rcases hrest m' rfl with h | h
      · rw [hblank] at h
        cases h
      · exact hend h
  have hword : ¬ ((rest.head?.map fun c => Text.isLetter c || c == '_').getD false = true) := by
    cases hhead : rest.head? with
    | none => simp
    | some c =>
        rcases hrest c hhead with hblank | hmark
        · have hunder : c ≠ '_' := by
            rintro rfl
            revert hblank
            decide
          simp [Text.isLetter_eq_false_of_isBlank hblank, hunder]
        · have hall : [';', ',', ')'].all (fun c => !(Text.isLetter c || c == '_')) = true := by
            decide +kernel
          simpa using List.all_eq_true.1 hall c hmark
  refine .cons ?_ (.nil rest)
  rw [readPiece?_of_isDigit hd hradix, readNumber]
  simp only [htail, if_neg hword]
  rfl

theorem Lexes.sign {lexemes : List Lexeme} (hc : c ∈ ['+', '-', '.'])
    (hd : Text.isDigit d = true ∨ d = '.') (h : Lexes (d :: cs) lexemes rest) :
    Lexes (c :: d :: cs) (.of .sign (String.ofList [c]) :: lexemes) rest :=
  .cons (readPiece?_of_sign hc hd) h

/-- The tokens of a numeral: a number, perhaps after a sign, and after the point if that comes before
all digits. -/
def IsNumeralRow (cs : List Char) (lexemes : List Lexeme) : Prop :=
  ∃ (sign point : List Char) (number : Lexeme),
    (sign = [] ∨ sign = ['+'] ∨ sign = ['-']) ∧ (point = [] ∨ point = ['.']) ∧
      number.kind = .number ∧ cs = sign ++ point ++ number.text.toList ∧
        lexemes = (sign ++ point).map (fun c => .of .sign (String.ofList [c])) ++ [number]

theorem exists_lexes_numeral (hcs : Text.isUnsignedNumeral (Text.dropSign cs) = true)
    (hlast : ¬ ['\n'] <:+ cs) :
    ∃ lexemes, IsNumeralRow cs lexemes ∧
      ∀ rest, EndsNumber rest → Lexes (cs ++ rest) lexemes rest := by
  rcases exists_dropSign cs with ⟨sign, hsign, hsplit⟩
  have hsuffix : Text.dropSign cs <:+ cs := ⟨sign, hsplit.symm⟩
  rcases exists_digit_of_isUnsignedNumeral hcs fun hbreak => hlast (hbreak.trans hsuffix) with
    ⟨point, d, tail, hpoint, hdigits, hd, htail⟩
  rw [hdigits] at hsplit
  refine ⟨_, ⟨sign, point, .number d tail hd, hsign, hpoint, rfl, ?_, rfl⟩, fun rest hrest => ?_⟩
  · simp [hsplit, Lexeme.number]
  · have hnumber := lexes_number hd (htail rest hrest) hrest
    have hpointed := hnumber.sign (c := '.') (by simp) (.inl hd)
    rw [hsplit]
    rcases hpoint with rfl | rfl
    · rcases hsign with rfl | rfl | rfl
      · simpa using hnumber
      · simpa using hnumber.sign (c := '+') (by simp) (.inl hd)
      · simpa using hnumber.sign (c := '-') (by simp) (.inl hd)
    · rcases hsign with rfl | rfl | rfl
      · simpa using hpointed
      · simpa using hpointed.sign (c := '+') (by simp) (.inr rfl)
      · simpa using hpointed.sign (c := '-') (by simp) (.inr rfl)

end Lexes

end Sql
end QueryDesigner

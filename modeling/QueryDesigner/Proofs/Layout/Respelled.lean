import Mathlib
import QueryDesigner.Proofs.Layout.Capital
import QueryDesigner.Proofs.Sql.Reads
import QueryDesigner.Proofs.Text.Trim

/-!
# Tokens in other letters

Where words change their letter case, the lexer cuts off the same words, numbers and signs, if the
letters inside numbers stay as they are.

* `SameLetter`, `Respelled` — texts that differ by the case of letters, none of them behind a digit;
* `Respelled.numberTail`, `Respelled.readSign`, `Respelled.readRadix` — each cut by itself;
* `Respelled.solidPiece` — every cut of a solid text.
-/

namespace QueryDesigner
namespace Layout

open Sql (Solid Lexeme isStop isWordPart isSign)

/-! ## Letters -/

/-- Two letters of keywords, the same but for their case. -/
structure SameLetter (c d : Char) : Prop where
  left : c.toNat ∈ keywordCodes
  right : d.toNat ∈ keywordCodes
  upper : Text.upperChar c = Text.upperChar d

theorem SameLetter.symm {c d : Char} (h : SameLetter c d) : SameLetter d c :=
  ⟨h.right, h.left, h.upper.symm⟩

section Letters

variable {c : Char}

theorem isStop_of_letter (h : c.toNat ∈ keywordCodes) : isStop c = false := by
  simpa using of_mem_keywordCodes (p := fun c => !isStop c) (by decide +kernel) h

theorem isDigit_of_letter (h : c.toNat ∈ keywordCodes) : Text.isDigit c = false := by
  simpa using of_mem_keywordCodes (p := fun c => !Text.isDigit c) (by decide +kernel) h

theorem isSign_of_letter (h : c.toNat ∈ keywordCodes) : isSign c = false := by
  simpa using of_mem_keywordCodes (p := fun c => !isSign c) (by decide +kernel) h

theorem isWordPart_of_letter (h : c.toNat ∈ keywordCodes) : isWordPart c = true :=
  of_mem_keywordCodes (by decide +kernel) h

theorem isNameStart_of_letter (h : c.toNat ∈ keywordCodes) :
    (Text.isLetter c || c == '_') = true :=
  of_mem_keywordCodes (p := fun c => Text.isLetter c || c == '_') (by decide +kernel) h

theorem ne_of_letter (h : c.toNat ∈ keywordCodes) {d : Char} (hd : isSign d = true) : d ≠ c := by
  rintro rfl
  rw [isSign_of_letter h] at hd
  cases hd

end Letters

/-! ## Respelled texts -/

/-- A character behind which no word starts. -/
def glues (c : Char) : Bool := Text.isWordChar c || c == '.'

/-- A text and the same text with other letters.  Only words change that start where they may: not
right behind a word character or a point. -/
inductive Respelled : Bool → List Char → List Char → Prop where
  | nil {free : Bool} : Respelled free [] []
  | same {free : Bool} {c : Char} {cs ds : List Char} :
      Respelled (!glues c) cs ds → Respelled free (c :: cs) (c :: ds)
  | letter {c d : Char} {cs ds : List Char} :
      SameLetter c d → Respelled true cs ds → Respelled true (c :: cs) (d :: ds)

/-- Two cuts of one token but for letter case, and what follows it. -/
inductive SameCut : Sql.Piece × List Char → Sql.Piece × List Char → Prop where
  | token {l l' : Lexeme} {free : Bool} {rest rest' : List Char} :
      l.key false = l'.key false → Respelled free rest rest' →
        SameCut (.token l, rest) (.token l', rest')

theorem upper_append {cs ds : List Char}
    (h : Text.upper (String.ofList cs) = Text.upper (String.ofList ds)) (ps : List Char) :
    Text.upper (String.ofList (ps ++ cs)) = Text.upper (String.ofList (ps ++ ds)) := by
  simp only [Text.upper, String.toList_ofList, String.ofList_inj] at h
  simp only [Text.upper, String.toList_ofList, List.flatMap_append, h]

namespace Respelled

variable {free : Bool} {cs ds : List Char}

theorem symm (h : Respelled free cs ds) : Respelled free ds cs := by
  induction h with
  | nil =>
      exact .nil
  | same _ ih =>
      exact .same ih
  | letter hletter _ ih =>
      exact .letter hletter.symm ih

theorem upper (h : Respelled free cs ds) :
    Text.upper (String.ofList cs) = Text.upper (String.ofList ds) := by
  simp only [Text.upper, String.toList_ofList, String.ofList_inj]
  induction h with
  | nil =>
      rfl
  | same _ ih =>
      rw [List.flatMap_cons, List.flatMap_cons, ih]
  | letter hletter _ ih =>
      rw [List.flatMap_cons, List.flatMap_cons, hletter.upper, ih]

/-- A reading that takes all letters for one sees the same first character. -/
theorem head?_congr {p : Char → Bool} {b : Bool} (hp : ∀ c : Char, c.toNat ∈ keywordCodes → p c = b)
    (h : Respelled free cs ds) : (cs.head?.map p).getD false = (ds.head?.map p).getD false := by
  cases h with
  | nil =>
      rfl
  | same _ =>
      rfl
  | letter hletter _ =>
      simp [hp _ hletter.left, hp _ hletter.right]

/-- A text of word characters that does not start freely is the same text. -/
theorem eq_of_glued (h : Respelled free cs ds) (hfree : free = false)
    (hglues : ∀ c ∈ cs, glues c = true) : cs = ds := by
  induction h with
  | nil =>
      rfl
  | @same _ c _ _ _ ih =>
      have hc := hglues c List.mem_cons_self
      rw [ih (by rw [hc]; rfl) fun d hd => hglues d (List.mem_cons_of_mem c hd)]
  | letter _ _ _ =>
      cases hfree

/-- The word at the start, and what follows it. -/
theorem span (h : Respelled free cs ds) :
    Respelled free (cs.takeWhile isWordPart) (ds.takeWhile isWordPart) ∧
      ∃ free', Respelled free' (cs.dropWhile isWordPart) (ds.dropWhile isWordPart) := by
  induction h with
  | nil =>
      exact ⟨.nil, true, .nil⟩
  | @same free c cs ds hrest ih =>
      cases hc : isWordPart c with
      | false =>
          rw [List.takeWhile_cons_of_neg (by simp [hc]), List.takeWhile_cons_of_neg (by simp [hc]),
            List.dropWhile_cons_of_neg (by simp [hc]), List.dropWhile_cons_of_neg (by simp [hc])]
          exact ⟨.nil, free, .same hrest⟩
      | true =>
          rw [List.takeWhile_cons_of_pos hc, List.takeWhile_cons_of_pos hc,
            List.dropWhile_cons_of_pos hc, List.dropWhile_cons_of_pos hc]
          exact ⟨.same ih.1, ih.2⟩
  | letter hletter _ ih =>
      have hc := isWordPart_of_letter hletter.left
      have hd := isWordPart_of_letter hletter.right
      rw [List.takeWhile_cons_of_pos hc, List.takeWhile_cons_of_pos hd,
        List.dropWhile_cons_of_pos hc, List.dropWhile_cons_of_pos hd]
      exact ⟨.letter hletter ih.1, ih.2⟩

theorem drop (h : Respelled free cs ds) (n : Nat) :
    ∃ free', Respelled free' (cs.drop n) (ds.drop n) := by
  induction h generalizing n with
  | nil =>
      exact ⟨true, by rw [List.drop_nil]; exact .nil⟩
  | @same free c cs ds hrest ih =>
      cases n with
      | zero =>
          exact ⟨free, .same hrest⟩
      | succ n =>
          exact ih n
  | letter hletter hrest ih =>
      cases n with
      | zero =>
          exact ⟨true, .letter hletter hrest⟩
      | succ n =>
          exact ih n

theorem isWordPart_of_mem (h : Respelled free cs ds) (hcs : ∀ c ∈ cs, isWordPart c = true) :
    ∀ d ∈ ds, isWordPart d = true := by
  induction h with
  | nil =>
      exact hcs
  | same _ ih =>
      rw [List.forall_mem_cons] at hcs ⊢
      exact ⟨hcs.1, ih hcs.2⟩
  | letter hletter _ ih =>
      rw [List.forall_mem_cons] at hcs ⊢
      exact ⟨isWordPart_of_letter hletter.right, ih hcs.2⟩

theorem isDigit_head_eq {c d : Char} (h : Respelled free (c :: cs) (d :: ds)) :
    Text.isDigit c = Text.isDigit d :=
  h.head?_congr (p := Text.isDigit) fun _ => isDigit_of_letter

/-! ## Signs -/

theorem isPrefixOf_congr (h : Respelled free cs ds) {sign : List Char}
    (hsign : ∀ c ∈ sign, isSign c = true) : sign.isPrefixOf cs = sign.isPrefixOf ds := by
  induction h generalizing sign with
  | nil =>
      rfl
  | same _ ih =>
      cases sign with
      | nil =>
          rfl
      | cons s sign =>
          simp only [List.isPrefixOf, ih fun c hc => hsign c (List.mem_cons_of_mem s hc)]
  | @letter c d _ _ hletter _ _ =>
      cases sign with
      | nil =>
          rfl
      | cons s sign =>
          have hs := hsign s List.mem_cons_self
          have hc : (s == c) = false := beq_eq_false_iff_ne.2 (ne_of_letter hletter.left hs)
          have hd : (s == d) = false := beq_eq_false_iff_ne.2 (ne_of_letter hletter.right hs)
          rw [List.isPrefixOf, List.isPrefixOf, hc, hd, Bool.false_and, Bool.false_and]

theorem isSign_of_mem_longSigns {sign : String} (h : sign ∈ Sql.longSigns) :
    ∀ c ∈ sign.toList, isSign c = true := by
  have hall : Sql.longSigns.all (fun sign => sign.toList.all isSign) = true := by
    decide +kernel
  exact fun c hc => List.all_eq_true.1 (List.all_eq_true.1 hall sign h) c hc

theorem readSign {c : Char} (h : Respelled (!glues c) cs ds) :
    SameCut (Sql.readSign c cs) (Sql.readSign c ds) := by
  have hwhole : Respelled true (c :: cs) (c :: ds) := .same h
  have hfind : Sql.longSigns.find? (fun s => s.toList.isPrefixOf (c :: cs)) =
      Sql.longSigns.find? fun s => s.toList.isPrefixOf (c :: ds) :=
    List.find?_congr fun s hs => hwhole.isPrefixOf_congr (isSign_of_mem_longSigns hs)
  rw [Sql.readSign, Sql.readSign, hfind]
  cases Sql.longSigns.find? fun s => s.toList.isPrefixOf (c :: ds) with
  | none =>
      exact .token rfl h
  | some sign =>
      rcases hwhole.drop sign.toList.length with ⟨_, hrest⟩
      exact .token rfl hrest

/-! ## Numbers -/

theorem next?_congr (h : Respelled free cs ds) (p : Sql.NumberPart) (c : Char) :
    p.next? c cs = p.next? c ds := by
  have hhead := h.head?_congr (p := Text.isDigit) fun _ => isDigit_of_letter
  rw [Sql.NumberPart.next?, Sql.NumberPart.next?, hhead]

/-- Behind what continues a number no word starts, unless it is a sign, which a digit follows. -/
theorem glues_of_next? {p q : Sql.NumberPart} {c : Char} {cs : List Char}
    (h : p.next? c cs = some q) :
    glues c = true ∨ (cs.head?.map Text.isDigit).getD false = true := by
  have hletter : ∀ c : Char, c = 'e' ∨ c = 'E' → glues c = true := by
    rintro c (rfl | rfl) <;> decide
  rw [Sql.NumberPart.next?] at h
  split_ifs at h with hdigit hpoint hsign hnext hexponent
  · exact .inl (by rw [glues, Text.isWordChar_of_isDigit hdigit, Bool.true_or])
  · exact .inl (by rw [glues, hpoint.1]; decide)
  · exact .inr hnext
  · exact .inl (hletter c hexponent.1)

/-- The letter of an exponent stands behind a digit or a point, so it stays as it is. -/
theorem numberTail (h : Respelled free cs ds) (p : Sql.NumberPart)
    (hfree : free = false ∨ (cs.head?.map Text.isDigit).getD false = true) :
    (Sql.numberTail p cs).1 = (Sql.numberTail p ds).1 ∧
      ∃ free', Respelled free' (Sql.numberTail p cs).2 (Sql.numberTail p ds).2 := by
  induction h generalizing p with
  | nil =>
      exact ⟨rfl, true, .nil⟩
  | @same free c cs ds hrest ih =>
      rw [Sql.numberTail, Sql.numberTail, ← next?_congr hrest]
      cases hnext : p.next? c cs with
      | none =>
          exact ⟨rfl, free, .same hrest⟩
      | some q =>
          have hglued : (!glues c) = false ∨ (cs.head?.map Text.isDigit).getD false = true :=
            (glues_of_next? hnext).imp (fun hc => by rw [hc]; rfl) id
          rcases ih q hglued with ⟨htaken, hleft⟩
          exact ⟨congrArg (c :: ·) htaken, hleft⟩
  | letter hletter _ _ =>
      rcases hfree with hfree | hdigit
      · cases hfree
      · simp [isDigit_of_letter hletter.left] at hdigit

theorem readNumber {c : Char} (hc : Text.isDigit c = true) (h : Respelled false cs ds) :
    SameCut (Sql.readNumber c hc cs) (Sql.readNumber c hc ds) := by
  rcases h.numberTail {} (.inl rfl) with ⟨htaken, _, hleft⟩
  have hname := hleft.head?_congr (p := fun d => Text.isLetter d || d == '_')
    fun _ => isNameStart_of_letter
  rcases hleft.span with ⟨hword, _, hrest⟩
  simp only [Sql.readNumber, ← hname, ← htaken]
  split_ifs
  · exact .token (Lexeme.key_word (upper_append hword.upper _)) hrest
  · exact .token rfl hleft

end Respelled

/-! ## Numbers in another base -/

theorem of_joinedDigits? {digit : Char → Bool} {cs digits : List Char}
    (h : Text.joinedDigits? digit cs = some digits) : ∀ c ∈ cs, digit c = true ∨ c = '_' := by
  fun_induction Text.joinedDigits? digit cs generalizing digits with
  | case1 =>
      simp
  | case2 c hc =>
      simp [hc]
  | case3 =>
      cases h
  | case4 c rest hc ih =>
      rcases Option.map_eq_some_iff.1 h with ⟨_, hrest, _⟩
      simpa [hc] using ih hrest
  | case5 =>
      cases h
  | case6 c rest _ _ hc ih =>
      rcases Option.map_eq_some_iff.1 h with ⟨_, hrest, _⟩
      rw [List.forall_mem_cons]
      exact ⟨.inl hc, ih hrest⟩
  | case7 =>
      cases h

/-- The digits of a number in another base, with underscores between them. -/
theorem of_isRadixNumeral {letter mark : Char} {digit : Char → Bool} {cs : List Char}
    (hmark : mark.toLower = letter) (hblank : Text.isBlank mark = false)
    (hcs : ∀ c ∈ cs, isWordPart c = true)
    (h : Text.isRadixNumeral letter digit ('0' :: mark :: cs) = true) :
    ∀ c ∈ cs, digit c = true ∨ c = '_' := by
  have hink : ∀ c ∈ '0' :: mark :: cs, Text.isBlank c = false := by
    intro c hc
    rcases List.mem_cons.1 hc with rfl | hc
    · decide
    · rcases List.mem_cons.1 hc with rfl | hc
      · exact hblank
      · have hpart := hcs c hc
        simp only [isWordPart, Bool.and_eq_true, Bool.not_eq_true'] at hpart
        exact hpart.1
  have hflush : Text.Flush ('0' :: mark :: cs) :=
    ⟨fun c hc => hink c (List.mem_of_mem_head? hc), fun c hc => hink c (List.mem_of_getLast? hc)⟩
  rw [Text.isRadixNumeral, Text.trimChars_eq_self hflush] at h
  rcases Option.isSome_iff_exists.1 h with ⟨digits, hdigits⟩
  have hall := of_joinedDigits? hdigits
  have hsign : Text.dropSign ('0' :: mark :: cs) = '0' :: mark :: cs := rfl
  rw [hsign] at hall
  unfold Text.dropRadixMark at hall
  split at hall
  · rename_i heq
    rcases List.cons.inj heq with ⟨-, heq⟩
    rcases List.cons.inj heq with ⟨rfl, rfl⟩
    rw [if_pos hmark] at hall
    simpa using hall
  · rename_i heq
    rcases List.cons.inj heq with ⟨-, heq⟩
    rcases List.cons.inj heq with ⟨rfl, rfl⟩
    rwa [if_pos hmark] at hall
  · rename_i hne
    exact absurd rfl (hne mark cs)

theorem isWordChar_of_isBit (c : Char) (h : Sql.isBit c = true) : Text.isWordChar c = true := by
  simp only [Sql.isBit, Bool.or_eq_true, beq_iff_eq] at h
  rcases h with rfl | rfl
  · decide
  · decide

theorem isWordChar_of_isHexDigit (c : Char) (h : Sql.isHexDigit c = true) :
    Text.isWordChar c = true := by
  have hrange : 48 ≤ c.toNat ∧ c.toNat ≤ 57 ∨ 97 ≤ c.toNat ∧ c.toNat ≤ 102 ∨
      65 ≤ c.toNat ∧ c.toNat ≤ 70 := by
    simp only [Sql.isHexDigit, Char.isDigit, Bool.or_eq_true, Bool.and_eq_true, decide_eq_true_eq,
      Char.le_def, ge_iff_le, UInt32.le_iff_toNat_le, or_assoc] at h
    exact h
  have hascii : c.toNat < 128 := by omega
  simp only [Text.isWordChar, Text.isLetter, if_pos hascii, Bool.or_eq_true, Bool.and_eq_true,
    decide_eq_true_eq]
  omega

theorem Respelled.readRadix {cs ds : List Char} (h : Respelled false cs ds) {kind : Sql.TokenKind}
    {letter mark : Char} {digit : Char → Bool} (hkind : (kind == .number) = false)
    (hmark : mark.toLower = letter) (hblank : Text.isBlank mark = false)
    (hdigit : ∀ c, digit c = true → Text.isWordChar c = true) :
    SameCut (Sql.readRadix kind letter mark digit cs hkind)
      (Sql.readRadix kind letter mark digit ds hkind) := by
  rcases h.span with ⟨hword, _, hrest⟩
  have hparts : ∀ cs : List Char, ∀ c ∈ cs.takeWhile isWordPart, isWordPart c = true :=
    fun _ _ hc => List.mem_takeWhile_imp hc
  -- Digits do not change, so the word is a number on both sides or on none.
  have hsame : ∀ {cs ds : List Char}, Respelled false cs ds → (∀ c ∈ cs, isWordPart c = true) →
      Text.isRadixNumeral letter digit ('0' :: mark :: cs) = true → cs = ds := by
    intro cs ds h hcs hnumeral
    refine h.eq_of_glued rfl fun c hc => ?_
    rcases of_isRadixNumeral hmark hblank hcs hnumeral c hc with hc | rfl
    · rw [glues, hdigit c hc, Bool.true_or]
    · decide
  by_cases hnumeral :
      Text.isRadixNumeral letter digit ('0' :: mark :: cs.takeWhile isWordPart) = true
  · have heq := hsame hword (hparts cs) hnumeral
    have hnumeral' := heq ▸ hnumeral
    simp only [Sql.readRadix, if_pos hnumeral, if_pos hnumeral']
    rw [heq]
    exact .token rfl hrest
  · have hnumeral' : ¬ Text.isRadixNumeral letter digit
        ('0' :: mark :: ds.takeWhile isWordPart) = true := by
      intro hds
      exact hnumeral ((hsame hword.symm (hparts ds) hds) ▸ hds)
    simp only [Sql.readRadix, if_neg hnumeral, if_neg hnumeral']
    exact .token (Lexeme.key_name (upper_append hword.upper ['0', mark])) hrest

/-! ## Every cut -/

theorem Respelled.readWord {free : Bool} {cs ds : List Char} (h : Respelled free cs ds)
    (hcs : Solid cs) (hds : Solid ds) : SameCut (Sql.readWord cs) (Sql.readWord ds) := by
  have halone : ∀ {cs : List Char}, Solid cs → Sql.readWord cs =
      (.token (.of .word (String.ofList (cs.takeWhile isWordPart))), cs.dropWhile isWordPart) := by
    intro cs hcs
    simpa using Sql.readWord_append hcs Sql.stops_nil fun _ => Sql.phraseAfter?_of_ink (by simp)
  rcases h.span with ⟨hword, _, hrest⟩
  rw [halone hcs, halone hds]
  exact .token (Lexeme.key_word hword.upper) hrest

/-- Where no word starts the next character stays. -/
theorem Respelled.exists_tail {c : Char} {cs ds : List Char} (h : Respelled false (c :: cs) ds) :
    ∃ ds', ds = c :: ds' ∧ Respelled (!glues c) cs ds' := by
  cases h with
  | same hrest =>
      exact ⟨_, rfl, hrest⟩

theorem Respelled.head?_eq {cs ds : List Char} (h : Respelled false cs ds) :
    cs.head? = ds.head? := by
  cases h with
  | nil =>
      rfl
  | same _ =>
      rfl

/-- Solid texts that differ by letters are cut in the same way. -/
theorem Respelled.solidPiece {free : Bool} {c d : Char} {cs ds : List Char}
    (h : Respelled free (c :: cs) (d :: ds)) (hcs : Solid (c :: cs)) (hds : Solid (d :: ds)) :
    SameCut (Sql.solidPiece c cs) (Sql.solidPiece d ds) := by
  have hwords := h.readWord hcs hds
  cases h with
  | letter hletter hrest =>
      have hplain : ∀ {c : Char} {cs : List Char}, c.toNat ∈ keywordCodes →
          Sql.solidPiece c cs = Sql.readWord (c :: cs) := by
        intro c cs hc
        have hdigit := isDigit_of_letter hc
        have hzero : c ≠ '0' := by
          rintro rfl
          exact absurd hdigit (by decide +kernel)
        rw [Sql.solidPiece_of_ne fun h => absurd h hzero, dif_neg (by simp [hdigit]),
          if_neg (by simp [isSign_of_letter hc])]
      rwa [hplain hletter.left, hplain hletter.right]
  | same hrest =>
      have hfree : Text.isDigit c = true → Respelled false cs ds := by
        intro hdigit
        have hglues : glues c = true := by
          rw [glues, Text.isWordChar_of_isDigit hdigit, Bool.true_or]
        rwa [hglues] at hrest
      by_cases hradix : c = '0' ∧ ∃ m ∈ ['x', 'X', 'b', 'B'], cs.head? = some m
      · rcases hradix with ⟨rfl, m, hm, hhead⟩
        rcases List.head?_eq_some_iff.1 hhead with ⟨tail, rfl⟩
        rcases (hfree (by decide +kernel)).exists_tail with ⟨tail', rfl, htail⟩
        simp only [List.mem_cons, List.not_mem_nil, or_false] at hm
        rcases hm with rfl | rfl | rfl | rfl
        · exact htail.readRadix rfl (by decide) (by decide) isWordChar_of_isHexDigit
        · exact htail.readRadix rfl (by decide) (by decide) isWordChar_of_isHexDigit
        · exact htail.readRadix rfl (by decide) (by decide) isWordChar_of_isBit
        · exact htail.readRadix rfl (by decide) (by decide) isWordChar_of_isBit
      · have hhead : c = '0' → ∀ m ∈ cs.head?, m ∉ ['x', 'X', 'b', 'B'] :=
          fun hc m hm hmem => hradix ⟨hc, m, hmem, hm⟩
        have hhead' : c = '0' → ∀ m ∈ ds.head?, m ∉ ['x', 'X', 'b', 'B'] := by
          intro hc
          rw [← (hfree (by rw [hc]; decide +kernel)).head?_eq]
          exact hhead hc
        rw [Sql.solidPiece_of_ne hhead, Sql.solidPiece_of_ne hhead']
        split_ifs with hdigit
        · exact (hfree hdigit).readNumber hdigit
        · exact hrest.readSign
        · exact hwords

end Layout
end QueryDesigner

import Mathlib
import QueryDesigner.Proofs.Parser.Step
import QueryDesigner.Proofs.Sql.Spelling

/-!
# Texts that are put together from words

* `IsSpelled` — a text that is read as given tokens wherever an end follows;
* `Follows` — a text that makes an end of the blank before it;
* `IsSpelled.joined`, `IsSpelled.after_keyword` — two such texts with a blank between them;
* `IsSpelled.commaList` — such texts with commas between them.
-/

namespace QueryDesigner
namespace Sql

open QueryDesigner.Sql.Parser

variable {s t w : String} {ls ms : List Lexeme} {rest : List Char} {b c : Char}

/-- The text starts with a character that is no blank. -/
def HasInk (s : String) : Prop := ∃ c cs, s.toList = c :: cs ∧ Text.isBlank c = false

/-- Before an end, the text is read as the tokens.  It starts with no blank. -/
structure IsSpelled (s : String) (ls : List Lexeme) : Prop where
  ink : HasInk s
  spells : ∀ rest, Ends rest → Spells (s.toList ++ rest) ls rest

/-- After a blank, the text ends what stands before the blank. -/
def Follows (s : String) : Prop :=
  ∀ b, Text.isBlank b = true → ∀ rest, EndsNumber rest → Ends (b :: (s.toList ++ rest))

/-! ## Starts of texts -/

theorem HasInk.append (hs : HasInk s) (t : String) : HasInk (s ++ t) := by
  obtain ⟨c, cs, hchars, hc⟩ := hs
  exact ⟨c, cs ++ t.toList, by rw [String.toList_append, hchars, List.cons_append], hc⟩

theorem hasInk_of_isPlain (hw : isPlain w = true) : HasInk w := by
  obtain ⟨c, cs, hchars, -, hall⟩ := exists_cons_of_isPlain hw
  exact ⟨c, cs, hchars, isBlank_of_isPlainChar (hall c List.mem_cons_self)⟩

theorem exists_of_mem_comparisonSigns (hs : s ∈ comparisonSigns) :
    ∃ c cs, s.toList = c :: cs ∧ isSign c = true ∧ Text.isBlank c = false := by
  have hall : comparisonSigns.all (fun s => s.toList.head?.any fun c =>
      isSign c && !Text.isBlank c) = true := by decide +kernel
  have hfirst := List.all_eq_true.1 hall s hs
  cases hchars : s.toList with
  | nil => simp [hchars] at hfirst
  | cons c cs => exact ⟨c, cs, rfl, by simpa [hchars] using hfirst⟩

/-! ## Words that follow -/

theorem follows_word (hw : w ∈ plainKeywords) (hmem : w ∈ followers) : Follows w :=
  fun _ hb _ hrest =>
    .of_word hb (isPlain_of_mem_plainKeywords hw) hmem (isWordPart_of_endsNumber hrest)

/-- A text that starts with a word and a blank follows as the word does. -/
theorem follows_words (hw : isPlain w = true) (hmem : w ∈ followers) (t : String) :
    Follows (w ++ (" " ++ t)) := by
  intro b hb rest _
  have hstart : ((w ++ (" " ++ t)).toList ++ rest) = w.toList ++ ' ' :: (t.toList ++ rest) := by
    simp
  rw [hstart]
  refine .of_word hb hw hmem fun c hc => ?_
  obtain rfl := Option.some.inj hc
  decide +kernel

/-- A comparison sign follows. -/
theorem follows_comparison (hs : s ∈ comparisonSigns) (t : String) : Follows (s ++ t) := by
  intro b hb rest _
  obtain ⟨c, cs, hchars, hsign, -⟩ := exists_of_mem_comparisonSigns hs
  rw [String.toList_append, hchars, List.cons_append, List.cons_append]
  exact .of_sign hb hsign _

/-! ## Texts -/

namespace IsSpelled

/-- A blank before the text is skipped. -/
theorem after_blank (hs : IsSpelled s ls) (hb : Text.isBlank b = true) (hrest : Ends rest) :
    Spells (b :: (s.toList ++ rest)) ls rest := by
  obtain ⟨c, cs, hchars, hc⟩ := hs.ink
  refine .after_blank hb (fun d hd => ?_) (hs.spells rest hrest)
  rw [hchars] at hd
  obtain rfl := Option.some.inj hd
  exact hc

theorem keyword (hw : w ∈ plainKeywords) : IsSpelled w [.of .word w] where
  ink := hasInk_of_isPlain (isPlain_of_mem_plainKeywords hw)
  spells _ hrest := spells_keyword hw hrest.head

theorem name (hw : IsName w) : IsSpelled w [.of .word w] where
  ink := hasInk_of_isPlain hw.plain
  spells _ hrest := spells_name hw hrest

/-- A name, a point, and what stands after the point. -/
theorem after_point (hw : IsName w) (ht : IsSpelled t ms) :
    IsSpelled (w ++ ("." ++ t)) (.of .word w :: .of .sign "." :: ms) where
  ink := (name hw).ink.append _
  spells rest hrest := by
    have hchars : (w ++ ("." ++ t)).toList ++ rest = w.toList ++ '.' :: (t.toList ++ rest) := by
      simp
    rw [hchars]
    exact (spells_name_point hw _).append
      ((spells_sign (by decide) _).append (ht.spells rest hrest))

/-- Two texts with a blank between them, which may be a line break. -/
theorem joined {g : String} (hg : g.toList = [b]) (hb : Text.isBlank b = true)
    (hs : IsSpelled s ls) (ht : IsSpelled t ms) (hfollows : Follows t) :
    IsSpelled (s ++ (g ++ t)) (ls ++ ms) where
  ink := hs.ink.append _
  spells rest hrest := by
    have hchars : (s ++ (g ++ t)).toList ++ rest = s.toList ++ b :: (t.toList ++ rest) := by
      simp [hg]
    rw [hchars]
    exact (hs.spells _ (hfollows b hb rest hrest.head)).append (ht.after_blank hb hrest)

theorem spaced (hs : IsSpelled s ls) (ht : IsSpelled t ms) (hfollows : Follows t) :
    IsSpelled (s ++ (" " ++ t)) (ls ++ ms) := joined rfl (by decide) hs ht hfollows

/-- After a keyword anything may stand. -/
theorem after_keyword (hw : w ∈ plainKeywords) (ht : IsSpelled t ms) :
    IsSpelled (w ++ (" " ++ t)) (.of .word w :: ms) where
  ink := (keyword hw).ink.append _
  spells rest hrest := by
    have hchars : (w ++ (" " ++ t)).toList ++ rest = w.toList ++ ' ' :: (t.toList ++ rest) := by
      simp
    rw [hchars]
    exact (spells_keyword hw (endsNumber_of_blank (by decide))).append
      (ht.after_blank (by decide) hrest)

/-- After two words that are one keyword anything may stand, too. -/
theorem after_phrase {v : String} (hw : isPlain w = true) (hv : isPlain v = true)
    (hmem : Text.upper w ++ " " ++ Text.upper v ∈ phrases) (ht : IsSpelled t ms) :
    IsSpelled (w ++ (" " ++ (v ++ (" " ++ t))))
      (.of .phrase (Text.upper w ++ " " ++ Text.upper v) :: ms) where
  ink := (hasInk_of_isPlain hw).append _
  spells rest hrest := by
    have hchars : (w ++ (" " ++ (v ++ (" " ++ t)))).toList ++ rest =
        w.toList ++ ' ' :: (v.toList ++ ' ' :: (t.toList ++ rest)) := by
      simp
    rw [hchars]
    refine (spells_phrase hw hv hmem fun c hc => ?_).append (ht.after_blank (by decide) hrest)
    obtain rfl := Option.some.inj hc
    decide +kernel

/-- After a comparison sign anything may stand as well. -/
theorem after_comparison (hs : s ∈ comparisonSigns) (ht : IsSpelled t ms) :
    IsSpelled (s ++ (" " ++ t)) (.of .sign s :: ms) where
  ink := by
    obtain ⟨c, cs, hchars, -, hink⟩ := exists_of_mem_comparisonSigns hs
    exact HasInk.append ⟨c, cs, hchars, hink⟩ _
  spells rest hrest := by
    have hchars : (s ++ (" " ++ t)).toList ++ rest = s.toList ++ ' ' :: (t.toList ++ rest) := by
      simp
    rw [hchars]
    exact (spells_comparison hs _).append (ht.after_blank (by decide) hrest)

/-- Texts with commas between them. -/
theorem commaList {α : Type} {text : α → String} {lexemes : α → List Lexeme} {xs : List α}
    (h : ∀ x ∈ xs, IsSpelled (text x) (lexemes x)) (hne : xs ≠ []) :
    IsSpelled (String.intercalate ", " (xs.map text)) (separated (xs.map lexemes)) := by
  induction xs with
  | nil => exact absurd rfl hne
  | cons x xs ih =>
      obtain ⟨hx, hxs⟩ := List.forall_mem_cons.1 h
      cases xs with
      | nil => simpa [separated] using hx
      | cons y ys =>
          have hmore := ih hxs (List.cons_ne_nil y ys)
          have htext : String.intercalate ", " ((x :: y :: ys).map text) =
              text x ++ (", " ++ String.intercalate ", " ((y :: ys).map text)) := by
            rw [List.map_cons, List.map_cons, String.intercalate_cons_cons, String.append_assoc]
          have hrow : separated ((x :: y :: ys).map lexemes) =
              lexemes x ++ .of .sign "," :: separated ((y :: ys).map lexemes) := rfl
          rw [htext, hrow]
          refine ⟨hx.ink.append _, fun rest hrest => ?_⟩
          have hchars : (text x ++ (", " ++ String.intercalate ", " ((y :: ys).map text))).toList ++
              rest = (text x).toList ++
                ',' :: ' ' :: ((String.intercalate ", " ((y :: ys).map text)).toList ++ rest) := by
            simp
          rw [hchars]
          exact (hx.spells _ (.of_mark (by decide) _)).append
            ((spells_sign (by decide) _).append (hmore.after_blank (by decide) hrest))

end IsSpelled

end Sql
end QueryDesigner

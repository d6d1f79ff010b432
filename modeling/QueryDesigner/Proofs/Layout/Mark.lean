import Mathlib
import QueryDesigner.Proofs.Layout.Capital
import QueryDesigner.Proofs.Layout.Comma
import QueryDesigner.Proofs.Layout.Cosmetic

/-!
# Marks of literals

While the passes run, a literal stands in the text as its number between two null characters.  What
is put back in the end is what those marks name.

* `marksAfter`, `marks` — the marks of a text, character by character;
* `marks_of_mark?`, `restoreFrom?_eq_none_iff` — they are the marks that literals are put back for;
* `Faint`, `lenient_marksAfter` — no blank and no letter is part of a mark;
* `marks_layOut` — the passes neither make a mark nor lose one;
* `marks_spell` — the marks are those of the literals, unless a digit follows a null character;
* `format?_eq_none_iff` — there is no layout just where a mark names no literal.
-/

namespace QueryDesigner
namespace Layout

/-! ## Marks, character by character -/

/-- The numbers of the marks of a text, from left to right.  A null character and digits may have
been read before. -/
def marksAfter : Option (List Char) → List Char → List Nat
  | _, [] => []
  | none, c :: cs => if c = '\x00' then marksAfter (some []) cs else marksAfter none cs
  | some ds, c :: cs =>
    if c = '\x00' then
      if ds = [] then marksAfter (some []) cs else Text.decimalNumber ds :: marksAfter none cs
    else if Text.isDecimal c then marksAfter (some (ds ++ [c])) cs
    else marksAfter none cs

/-- The numbers of the marks of a text. -/
def marks (cs : List Char) : List Nat := marksAfter none cs

/-- A character that is no part of a mark. -/
def Faint (c : Char) : Prop := c ≠ '\x00' ∧ Text.isDecimal c = false

section Marks

variable {c : Char} {cs ds : List Char}

theorem marksAfter_faint (hc : Faint c) (pending : Option (List Char)) (cs : List Char) :
    marksAfter pending (c :: cs) = marks cs := by
  cases pending with
  | none =>
      rw [marksAfter, if_neg hc.1, marks]
  | some ds =>
      rw [marksAfter, if_neg hc.1, if_neg (by simp [hc.2]), marks]

theorem marksAfter_null_cons (cs : List Char) : marks ('\x00' :: cs) = marksAfter (some []) cs := by
  rw [marks, marksAfter, if_pos rfl]

/-- Digits outside of a mark are passed over. -/
theorem marks_cons_of_ne (hc : c ≠ '\x00') (cs : List Char) : marks (c :: cs) = marks cs := by
  rw [marks, marksAfter, if_neg hc, marks]

theorem null_not_decimal : Text.isDecimal '\x00' = false := by decide

theorem ne_null_of_isDecimal (hc : Text.isDecimal c = true) : c ≠ '\x00' := by
  rintro rfl
  rw [null_not_decimal] at hc
  cases hc

theorem marks_digits (hds : ∀ d ∈ ds, Text.isDecimal d = true) (cs : List Char) :
    marks (ds ++ cs) = marks cs := by
  induction ds with
  | nil =>
      rfl
  | cons d rest ih =>
      rw [List.cons_append, marks_cons_of_ne (ne_null_of_isDecimal (hds d (by simp)))]
      exact ih fun e he => hds e (List.mem_cons_of_mem d he)

theorem marksAfter_digits (read : List Char) (hds : ∀ d ∈ ds, Text.isDecimal d = true)
    (cs : List Char) : marksAfter (some read) (ds ++ cs) = marksAfter (some (read ++ ds)) cs := by
  induction ds generalizing read with
  | nil =>
      rw [List.nil_append, List.append_nil]
  | cons d rest ih =>
      have hd := hds d (by simp)
      rw [List.cons_append, marksAfter, if_neg (ne_null_of_isDecimal hd), if_pos hd,
        ih _ fun e he => hds e (List.mem_cons_of_mem d he), List.append_assoc,
        List.singleton_append]

/-- A null character that no digit follows is no start of a mark. -/
theorem marksAfter_start (hcs : ∀ c ∈ cs.head?, Text.isDecimal c = false) :
    marksAfter (some []) cs = marks cs := by
  cases cs with
  | nil =>
      rfl
  | cons c rest =>
      by_cases hc : c = '\x00'
      · rw [hc, marksAfter, if_pos rfl, if_pos rfl, marksAfter_null_cons]
      · rw [marksAfter_faint ⟨hc, hcs c rfl⟩, marks_cons_of_ne hc]

theorem head?_dropDecimals (cs : List Char) :
    ∀ c ∈ (cs.dropWhile Text.isDecimal).head?, Text.isDecimal c = false := by
  intro c hc
  have hnot := List.head?_dropWhile_not Text.isDecimal cs
  rw [Option.mem_def.1 hc] at hnot
  exact hnot

/-- A mark is read where one is put back for, and nowhere else. -/
theorem marks_of_mark? (cs : List Char) :
    marks cs = match mark? cs with
      | some (index, after) => index :: marks after
      | none => marks cs.tail := by
  cases cs with
  | nil =>
      rfl
  | cons c rest =>
      by_cases hc : c = '\x00'
      · subst hc
        have hdigits : ∀ d ∈ rest.takeWhile Text.isDecimal, Text.isDecimal d = true :=
          fun _ hd => List.mem_takeWhile_imp hd
        have hafter := head?_dropDecimals rest
        have hsplit := List.takeWhile_append_dropWhile (p := Text.isDecimal) (l := rest)
        rw [marksAfter_null_cons, mark?, List.tail_cons]
        generalize rest.takeWhile Text.isDecimal = ds at hdigits hsplit
        generalize rest.dropWhile Text.isDecimal = after at hafter hsplit
        subst hsplit
        cases ds with
        | nil =>
            exact marksAfter_start hafter
        | cons d ds =>
            rw [marksAfter_digits [] hdigits, marks_digits hdigits, List.nil_append]
            cases after with
            | nil =>
                rfl
            | cons a after =>
                by_cases ha : a = '\x00'
                · subst ha
                  rw [marksAfter, if_pos rfl, if_neg (by simp)]
                  rfl
                · rw [marksAfter_faint ⟨ha, hafter a rfl⟩, marks_cons_of_ne ha]
                  simp [ha]
      · rw [mark?_cons_of_ne hc, marks_cons_of_ne hc]
        rfl

theorem length_lt_of_mark? {index : Nat} {after : List Char} (h : mark? cs = some (index, after)) :
    after.length < cs.length := by
  unfold mark? at h
  split at h
  · rename_i rest
    split at h
    · rename_i d ds tail hdigits hdrop
      rcases Prod.mk.inj (Option.some.inj h) with ⟨-, rfl⟩
      have hsuffix := (List.dropWhile_suffix Text.isDecimal (l := rest)).length_le
      rw [hdrop, List.length_cons] at hsuffix
      rw [List.length_cons]
      omega
    · cases h
  · cases h

/-- Literals cannot be put back just where a mark names none. -/
theorem restoreFrom?_eq_none_iff {literals : List (List Char)} {steps : Nat}
    (hsteps : cs.length ≤ steps) :
    restoreFrom? literals steps cs = none ↔ ∃ index ∈ marks cs, literals.length ≤ index := by
  induction steps generalizing cs with
  | zero =>
      obtain rfl : cs = [] := List.eq_nil_of_length_eq_zero (Nat.le_zero.1 hsteps)
      simp [restoreFrom?, marks, marksAfter]
  | succ steps ih =>
      cases cs with
      | nil =>
          simp [restoreFrom?, marks, marksAfter]
      | cons c rest =>
          have hmarks := marks_of_mark? (c :: rest)
          rw [restoreFrom?]
          cases hmark : mark? (c :: rest) with
          | none =>
              rw [hmark] at hmarks
              simp only [hmarks, List.tail_cons, Option.map_eq_none_iff]
              exact ih (by simpa using hsteps)
          | some result =>
              rcases result with ⟨index, after⟩
              have hafter : after.length ≤ steps := by
                have hlength := length_lt_of_mark? hmark
                rw [List.length_cons] at hlength hsteps
                omega
              rw [hmark] at hmarks
              simp only [hmarks, List.exists_mem_cons_iff]
              cases hget : literals[index]? with
              | none =>
                  simp [List.getElem?_eq_none_iff.1 hget]
              | some text =>
                  have hlt := (List.getElem?_eq_some_iff.1 hget).1
                  simp only [Option.map_eq_none_iff, ih hafter, not_le.2 hlt, false_or]

end Marks

/-! ## The passes -/

theorem faint_of_isBlank {c : Char} (hc : Text.isBlank c = true) : Faint c := by
  have hcodes : Text.blankCodes.all (fun n =>
      Char.ofNat n != '\x00' && !Text.isDecimal (Char.ofNat n)) = true := by
    decide +kernel
  have hfaint := List.all_eq_true.1 hcodes c.toNat (Text.toNat_mem_blankCodes hc)
  rw [Char.ofNat_toNat] at hfaint
  simpa [Faint] using hfaint

theorem faint_of_mem_keywordCodes {c : Char} (hc : c.toNat ∈ keywordCodes) : Faint c := by
  have hfaint := of_mem_keywordCodes (p := fun c => c != '\x00' && !Text.isDecimal c)
    (by decide +kernel) hc
  simpa [Faint] using hfaint

section Passes

variable {gs hs : List Glyph}

theorem spell_cons (g : Glyph) (gs : List Glyph) : spell (g :: gs) = g.spell ++ spell gs :=
  List.flatMap_cons

theorem spell_append (gs hs : List Glyph) : spell (gs ++ hs) = spell gs ++ spell hs :=
  List.flatMap_append

theorem marksAfter_append_congr {cs ds : List Char}
    (h : ∀ pending, marksAfter pending cs = marksAfter pending ds) (read : List Char)
    (pending : Option (List Char)) :
    marksAfter pending (read ++ cs) = marksAfter pending (read ++ ds) := by
  induction read generalizing pending with
  | nil =>
      exact h pending
  | cons c rest ih =>
      cases pending with
      | none =>
          simp only [List.cons_append, marksAfter, ih]
      | some digits =>
          simp only [List.cons_append, marksAfter, ih]

theorem marksAfter_faints {read : List Char} (hread : ∀ c ∈ read, Faint c) (hne : read ≠ [])
    (pending : Option (List Char)) (cs : List Char) :
    marksAfter pending (read ++ cs) = marks cs := by
  induction read generalizing pending with
  | nil =>
      exact absurd rfl hne
  | cons c rest ih =>
      rw [List.cons_append, marksAfter_faint (hread c (by simp))]
      by_cases hrest : rest = []
      · rw [hrest, List.nil_append]
      · exact ih (fun d hd => hread d (List.mem_cons_of_mem c hd)) hrest none

theorem marksAfter_blanks {bs : List Glyph} (hbs : Blanks bs) (hne : bs ≠ [])
    (pending : Option (List Char)) (gs : List Glyph) :
    marksAfter pending (spell (bs ++ gs)) = marks (spell gs) := by
  have hspell : ∀ b ∈ bs, ∃ c, b.spell = [c] ∧ Faint c := by
    intro b hb
    have hblank := hbs b hb
    cases b with
    | literal index =>
        cases hblank
    | char c =>
        exact ⟨c, rfl, faint_of_isBlank hblank⟩
  rw [spell_append]
  refine marksAfter_faints ?_ ?_ pending _
  · intro c hc
    rcases List.mem_flatMap.1 hc with ⟨b, hb, hmem⟩
    rcases hspell b hb with ⟨d, heq, hd⟩
    rw [heq, List.mem_singleton] at hmem
    rwa [hmem]
  · rcases List.exists_cons_of_ne_nil hne with ⟨b, rest, rfl⟩
    rcases hspell b (by simp) with ⟨c, heq, -⟩
    simp [spell_cons, heq]

/-- Blanks are no part of a mark, and neither are commas. -/
theorem lenient_marksAfter :
    Lenient fun gs => fun pending : Option (List Char) => marksAfter pending (spell gs) where
  cons := by
    intro g gs hs h
    funext pending
    rw [spell_cons, spell_cons]
    exact marksAfter_append_congr (congrFun h) _ pending
  blanks := by
    intro bs cs hbs hbs' hcs hcs' gs
    funext pending
    rw [marksAfter_blanks hbs hbs', marksAfter_blanks hcs hcs']
  comma := by
    intro bs hbs gs
    funext pending
    have hcomma : ∀ gs, marksAfter pending (spell (.char ',' :: gs)) = marks (spell gs) := by
      intro gs
      exact marksAfter_faint ⟨by decide, by decide⟩ pending (spell gs)
    rw [hcomma, hcomma]
    by_cases hne : bs = []
    · rw [hne, List.nil_append]
    · exact marksAfter_blanks hbs hne none gs

theorem marksAfter_of_blanks {bs : List Glyph} (hbs : Blanks bs) (pending : Option (List Char)) :
    marksAfter pending (spell bs) = [] := by
  by_cases hne : bs = []
  · rw [hne]
    cases pending <;> rfl
  · rw [← List.append_nil bs, marksAfter_blanks hbs hne]
    rfl

theorem marks_tidy (gs : List Glyph) : marks (spell (tidy gs)) = marks (spell gs) := by
  refine congrFun (lenient_marksAfter.tidy ?_ gs) none
  intro bs hbs
  funext pending
  rw [marksAfter_of_blanks hbs, marksAfter_of_blanks blanks_nil]

/-- The mark of a range and its AND are no part of a mark of a literal. -/
theorem marks_unmarked (gs : List Glyph) : marks (spell (unmarked gs)) = marks (spell gs) := by
  have hand : ∀ c ∈ ['A', 'N', 'D'], Faint c := by
    simp only [List.forall_mem_cons]
    exact ⟨faint_of_mem_keywordCodes (by decide), faint_of_mem_keywordCodes (by decide),
      faint_of_mem_keywordCodes (by decide), by simp⟩
  have hpending : ∀ pending, marksAfter pending (spell (unmarked gs)) =
      marksAfter pending (spell gs) := by
    induction gs with
    | nil =>
        exact fun _ => rfl
    | cons g rest ih =>
        intro pending
        have hcons : unmarked (g :: rest) = unmarked [g] ++ unmarked rest :=
          unmarked_append [g] rest
        rw [hcons, spell_append, spell_cons]
        by_cases hg : g = .char rangeAnd
        · have hspell : spell (unmarked [g]) = ['A', 'N', 'D'] := by
            rw [hg]
            decide
          rw [hspell, hg]
          calc
            marksAfter pending (['A', 'N', 'D'] ++ spell (unmarked rest))
                = marks (spell (unmarked rest)) :=
                  marksAfter_faints hand (by decide) pending _
            _ = marks (spell rest) := ih none
            _ = marksAfter pending (rangeAnd :: spell rest) :=
                  (marksAfter_faint ⟨by decide, by decide⟩ pending _).symm
        · have hsame : unmarked [g] = [g] := unmarked_of_not_mem (by simpa using Ne.symm hg)
          rw [hsame, spell_cons, List.append_assoc]
          exact marksAfter_append_congr ih _ pending
  exact hpending none

theorem marks_recased (h : Recased gs hs) : marks (spell gs) = marks (spell hs) := by
  have hpending : ∀ pending, marksAfter pending (spell gs) = marksAfter pending (spell hs) := by
    induction h with
    | nil =>
        exact fun _ => rfl
    | @cons g k gs hs halter _ ih =>
        intro pending
        rw [spell_cons, spell_cons]
        rcases halter with rfl | ⟨hg, hk⟩
        · exact marksAfter_append_congr ih _ pending
        · rcases exists_char_of_isLetter hg with ⟨c, rfl, hc⟩
          rcases exists_char_of_isLetter hk with ⟨d, rfl, hd⟩
          calc
            marksAfter pending (c :: spell gs) = marks (spell gs) :=
              marksAfter_faint (faint_of_mem_keywordCodes hc) pending _
            _ = marks (spell hs) := ih none
            _ = marksAfter pending (d :: spell hs) :=
              (marksAfter_faint (faint_of_mem_keywordCodes hd) pending _).symm
  exact hpending none

/-- The passes neither make a mark nor lose one. -/
theorem marks_layOut (gs : List Glyph) : marks (spell (layOut gs)) = marks (spell gs) := by
  have hspace : ∀ gs, marks (spell (space :: gs)) = marks (spell gs) := fun gs =>
    marksAfter_faint ⟨by decide, by decide⟩ none (spell gs)
  calc
    marks (spell (layOut gs))
        = marks (spell (space :: unmarked (upperKeywords (squeezed gs)))) := by
          rw [← hspace, ← marks_tidy, tidy_layOut_unmarked, marks_tidy]
    _ = marks (spell (upperKeywords (squeezed gs))) := by rw [hspace, marks_unmarked]
    _ = marks (spell (squeezed gs)) := (marks_recased (recased_upperKeywords _)).symm
    _ = marks (spell gs) := by rw [← hspace, ← marks_tidy, tidy_squeezed, marks_tidy, hspace]

end Passes

/-! ## Statements -/

namespace Glyph

def isDecimal : Glyph → Bool
  | char c => Text.isDecimal c
  | literal _ => false

end Glyph

def startsDecimal (gs : List Glyph) : Bool := (gs.head?.map Glyph.isDecimal).getD false

/-- Outside of literals no decimal digit directly follows a null character, so nothing there starts
like the spelling of a literal. -/
abbrev Unspelled : List Glyph → Prop := After (.char '\x00') fun rest => startsDecimal rest = false

/-- The marks are those of the literals, each of them once. -/
theorem marks_spell {gs : List Glyph} (h : Unspelled gs) : marks (spell gs) = indexes gs := by
  induction gs with
  | nil =>
      rfl
  | cons g rest ih =>
      rcases after_cons.1 h with ⟨hfirst, hrest⟩
      rw [spell_cons]
      cases g with
      | literal index =>
          rw [marks_of_mark?, mark?_spell]
          simp only [ih hrest, indexes, List.filterMap_cons, Glyph.index?]
      | char c =>
          have hindexes : indexes (.char c :: rest) = indexes rest := rfl
          rw [Glyph.spell, List.singleton_append, hindexes, ← ih hrest]
          by_cases hc : c = '\x00'
          · subst hc
            rw [marksAfter_null_cons]
            refine marksAfter_start fun c hc => ?_
            cases rest with
            | nil =>
                cases hc
            | cons k tail =>
                have hk : k.isDecimal = false := hfirst rfl
                cases k with
                | literal index =>
                    obtain rfl : '\x00' = c := Option.some.inj hc
                    exact null_not_decimal
                | char d =>
                    obtain rfl : d = c := Option.some.inj hc
                    exact hk
          · exact marks_cons_of_ne hc _

theorem blanks_protect {sql : String} (h : Text.trim sql = "") : Blanks (protect sql.toList).1 := by
  rcases protect_spec sql.toList with ⟨hfill, hsettled, -⟩
  intro g hg
  by_contra hblank
  rcases hsettled.exists_ink hg (by simpa using hblank) with ⟨c, hc, hink⟩
  rw [hfill, ← Text.mem_trim_iff hink, h] at hc
  cases hc

/-- Literals are put back for the marks that stood in the text before it was laid out.  There is no
layout just where one of them names no literal.  If no text looks like a mark, those are the numbers
of the literals, each of them once and in order. -/
theorem format?_eq_none_iff (sql : String) :
    marks (spell (layOut (protect sql.toList).1)) = marks (spell (protect sql.toList).1) ∧
      (format? sql = none ↔ ∃ index ∈ marks (spell (protect sql.toList).1),
        (protect sql.toList).2.length ≤ index) ∧
      (Unspelled (protect sql.toList).1 →
        marks (spell (layOut (protect sql.toList).1)) = List.range (protect sql.toList).2.length ∧
          ∃ shown, format? sql = some shown) := by
  have hlaid := marks_layOut (protect sql.toList).1
  have hnone : format? sql = none ↔ ∃ index ∈ marks (spell (protect sql.toList).1),
      (protect sql.toList).2.length ≤ index := by
    by_cases hblank : Text.trim sql = ""
    · have hmarks : marks (spell (protect sql.toList).1) = [] :=
        marksAfter_of_blanks (blanks_protect hblank) none
      simp [format?, if_pos hblank, hmarks]
    · rw [format?, if_neg hblank]
      simp only [Option.map_eq_none_iff]
      rw [restore?, restoreFrom?_eq_none_iff le_rfl, hlaid]
  refine ⟨hlaid, hnone, fun hunspelled => ?_⟩
  have hrange := (marks_spell hunspelled).trans (protect_spec sql.toList).2.2
  refine ⟨hlaid.trans hrange, Option.ne_none_iff_exists'.1 fun hformat => ?_⟩
  rcases hnone.1 hformat with ⟨index, hmem, hle⟩
  rw [hrange] at hmem
  exact absurd hle (not_le.2 (List.mem_range.1 hmem))

theorem format?_eq_none_iff_of_null_before_blank :
    Unspelled (protect "select \x00 5, '\x005\x00'".toList).1 ∧
      marks (spell (layOut (protect "select \x00 5, '\x005\x00'".toList).1)) =
        List.range (protect "select \x00 5, '\x005\x00'".toList).2.length ∧
      ∃ shown, format? "select \x00 5, '\x005\x00'" = some shown :=
  have h : Unspelled (protect "select \x00 5, '\x005\x00'".toList).1 := by decide +kernel
  ⟨h, (format?_eq_none_iff "select \x00 5, '\x005\x00'").2.2 h⟩

/-- A number between null characters is taken for a literal that is not there. -/
example : format? "\x005\x00" = none := by decide +kernel

end Layout
end QueryDesigner

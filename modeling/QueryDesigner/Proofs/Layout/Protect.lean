import Mathlib
import QueryDesigner.Proofs.Layout.Quote
import QueryDesigner.Proofs.Text.Digit

/-!
# Literals set apart and put back

* `fill` — a text with its literals put back;
* `Settled` — glyphs of which no quote starts a literal and each literal ends where it should;
* `protect_spec` — the glyphs of a text are settled, number its literals in order, and give the text
  back;
* `protect_fill` — glyphs of that kind are found again in their text;
* `restore?_spell` — putting literals back in place of their marks fills them in.
-/

namespace QueryDesigner
namespace Layout

variable {literals : List (List Char)}

/-! ## Filling in -/

namespace Glyph

/-- The text that a glyph stands for. -/
def read (literals : List (List Char)) : Glyph → List Char
  | char c => [c]
  | literal index => (literals[index]?).getD []

def index? : Glyph → Option Nat
  | char _ => none
  | literal index => some index

end Glyph

/-- The text that glyphs stand for. -/
def fill (literals : List (List Char)) (gs : List Glyph) : List Char :=
  gs.flatMap (Glyph.read literals)

/-- The numbers of the literals among some glyphs. -/
def indexes (gs : List Glyph) : List Nat := gs.filterMap Glyph.index?

@[simp] theorem fill_nil : fill literals [] = [] := rfl

@[simp] theorem fill_cons (g : Glyph) (gs : List Glyph) :
    fill literals (g :: gs) = g.read literals ++ fill literals gs := List.flatMap_cons

theorem indexes_append (gs hs : List Glyph) : indexes (gs ++ hs) = indexes gs ++ indexes hs :=
  List.filterMap_append

/-! ## Settled glyphs -/

/-- A character starts no literal before a text, and a literal ends there. -/
def Stands (literals : List (List Char)) (g : Glyph) (cs : List Char) : Prop :=
  match g with
  | .char c => literal? (c :: cs) = none
  | .literal index => ∃ text, literals[index]? = some text ∧ literal? (text ++ cs) = some (text, cs)

/-- Every glyph stands before the text of those after it. -/
inductive Settled (literals : List (List Char)) : List Glyph → Prop where
  | nil : Settled literals []
  | cons {g : Glyph} {rest : List Glyph} (stands : Stands literals g (fill literals rest))
      (settled : Settled literals rest) : Settled literals (g :: rest)

theorem settled_cons_iff {g : Glyph} {rest : List Glyph} :
    Settled literals (g :: rest) ↔ Stands literals g (fill literals rest) ∧ Settled literals rest :=
  ⟨fun | .cons stands settled => ⟨stands, settled⟩, fun h => .cons h.1 h.2⟩

theorem Stands.congr {g : Glyph} {cs ds : List Char} (h : SameQuotes cs ds) :
    Stands literals g cs ↔ Stands literals g ds := by
  cases g with
  | char c =>
      exact h.literal?_cons c
  | literal index =>
      exact exists_congr fun text => and_congr_right fun _ => h.literal?_append

/-- The glyphs of a text are settled, number its literals from the given number on, and give the
text back. -/
theorem protectFrom_spec (index steps : Nat) (cs : List Char) (hsteps : cs.length ≤ steps)
    (hliterals : literals.drop index = (protectFrom index steps cs).2) :
    fill literals (protectFrom index steps cs).1 = cs ∧
      Settled literals (protectFrom index steps cs).1 ∧
      indexes (protectFrom index steps cs).1 =
        List.range' index (protectFrom index steps cs).2.length := by
  induction steps generalizing index cs with
  | zero =>
      obtain rfl : cs = [] := List.eq_nil_of_length_eq_zero (Nat.le_zero.1 hsteps)
      exact ⟨rfl, .nil, rfl⟩
  | succ steps ih =>
      cases cs with
      | nil =>
          exact ⟨rfl, .nil, rfl⟩
      | cons c rest =>
          rw [protectFrom] at hliterals ⊢
          cases hliteral : literal? (c :: rest) with
          | none =>
              rw [hliteral] at hliterals
              rcases ih index rest (by simpa using hsteps) hliterals with ⟨hfill, hsettled, hindexes⟩
              refine ⟨?_, .cons ?_ hsettled, hindexes⟩
              · simp only [fill_cons, hfill]
                rfl
              · simpa only [Stands, hfill] using hliteral
          | some result =>
              rcases result with ⟨text, after⟩
              rw [hliteral] at hliterals
              have hsplit := (literal?_eq_some hliteral).1
              have hlength : after.length ≤ steps := by
                have hlength := length_lt_of_literal? hliteral
                omega
              have hget : literals[index]? = some text := by
                rw [← List.head?_drop, hliterals, List.head?_cons]
              have hdrop : literals.drop (index + 1) = (protectFrom (index + 1) steps after).2 := by
                rw [← List.tail_drop, hliterals, List.tail_cons]
              rcases ih (index + 1) after hlength hdrop with ⟨hfill, hsettled, hindexes⟩
              -- The literal takes the next number, and the others go on from there.
              refine ⟨?_, .cons ⟨text, hget, ?_⟩ hsettled, ?_⟩
              · simp only [fill_cons, hfill, Glyph.read, hget, Option.getD_some, hsplit]
              · simp only [hfill]
                rw [← hsplit, hliteral]
              · simp only [indexes, List.filterMap_cons, Glyph.index?, List.length_cons]
                rw [← indexes, hindexes, List.range'_succ]

theorem protect_spec (cs : List Char) :
    fill (protect cs).2 (protect cs).1 = cs ∧ Settled (protect cs).2 (protect cs).1 ∧
      indexes (protect cs).1 = List.range (protect cs).2.length := by
  rw [List.range_eq_range']
  exact protectFrom_spec 0 cs.length cs le_rfl rfl

/-- Settled glyphs that number the literals in order are found again in their text. -/
theorem protectFrom_fill {gs : List Glyph} (index steps : Nat) (hsettled : Settled literals gs)
    (hindexes : indexes gs = List.range' index (literals.length - index))
    (hsteps : (fill literals gs).length ≤ steps) :
    protectFrom index steps (fill literals gs) = (gs, literals.drop index) := by
  induction gs generalizing index steps with
  | nil =>
      have hempty : literals.drop index = [] := by
        rw [List.drop_eq_nil_iff]
        have hlength := congrArg List.length hindexes
        simp only [indexes, List.filterMap_nil, List.length_nil, List.length_range'] at hlength
        omega
      rw [fill_nil, protectFrom, hempty]
  | cons g rest ih =>
      rcases settled_cons_iff.1 hsettled with ⟨hstands, hrest⟩
      cases g with
      | char c =>
          have hfill : fill literals (.char c :: rest) = c :: fill literals rest := rfl
          rw [hfill] at hsteps ⊢
          cases steps with
          | zero =>
              cases hsteps
          | succ steps =>
              have hliteral : literal? (c :: fill literals rest) = none := hstands
              rw [protectFrom, hliteral]
              simp only [ih index steps hrest hindexes (by simpa using hsteps)]
      | literal number =>
          rcases hstands with ⟨text, hget, hliteral⟩
          rcases literal?_eq_some hliteral with ⟨-, quote, body, -, htext, -⟩
          have hfill : fill literals (.literal number :: rest) = text ++ fill literals rest := by
            simp [Glyph.read, hget]
          rw [hfill] at hsteps ⊢
          have hnumber : number :: indexes rest =
              List.range' index (literals.length - index) := by
            rw [← hindexes, indexes, indexes, List.filterMap_cons, Glyph.index?]
          -- The numbers come in order, so this literal has the first one that is left.
          have hlt : index < literals.length := by
            by_contra hge
            rw [Nat.sub_eq_zero_of_le (by omega), List.range'_zero] at hnumber
            cases hnumber
          rw [show literals.length - index = literals.length - (index + 1) + 1 by omega,
            List.range'_succ, List.cons.injEq] at hnumber
          rcases hnumber with ⟨rfl, hnumbers⟩
          have hdrop : literals.drop number = text :: literals.drop (number + 1) := by
            rw [List.drop_eq_getElem_cons hlt, (List.getElem_eq_iff hlt).2 hget]
          subst htext
          cases steps with
          | zero =>
              cases hsteps
          | succ steps =>
              have hlength : (fill literals rest).length ≤ steps := by
                simp only [List.cons_append, List.length_cons, List.length_append] at hsteps
                omega
              rw [List.cons_append] at hliteral ⊢
              rw [protectFrom, hliteral]
              simp only [ih (number + 1) steps hrest hnumbers hlength, hdrop]

theorem protect_fill {gs : List Glyph} (hsettled : Settled literals gs)
    (hindexes : indexes gs = List.range literals.length) :
    protect (fill literals gs) = (gs, literals) := by
  rw [List.range_eq_range'] at hindexes
  exact protectFrom_fill 0 _ hsettled hindexes le_rfl

/-! ## Marks -/

theorem mark?_cons_of_ne {c : Char} (hc : c ≠ '\x00') (cs : List Char) : mark? (c :: cs) = none := by
  unfold mark?
  split
  · rename_i heq
    exact absurd (List.cons.inj heq).1 hc
  · rfl

/-- A mark is read as the number that it was written for. -/
theorem mark?_spell (index : Nat) (cs : List Char) :
    mark? ((Glyph.literal index).spell ++ cs) = some (index, cs) := by
  have hdigits : ∀ c ∈ Nat.toDigits 10 index, Text.isDecimal c = true := fun _ hc =>
    Text.isDecimal_of_mem_toDigits hc
  have hnull : Text.isDecimal '\x00' = false := by decide
  have hspell : (Glyph.literal index).spell ++ cs =
      '\x00' :: (Nat.toDigits 10 index ++ '\x00' :: cs) := by
    simp [Glyph.spell]
  have htake : (Nat.toDigits 10 index ++ '\x00' :: cs).takeWhile Text.isDecimal =
      Nat.toDigits 10 index := by
    rw [List.takeWhile_append_of_pos hdigits, List.takeWhile_cons_of_neg (by simp [hnull]),
      List.append_nil]
  have hdrop : (Nat.toDigits 10 index ++ '\x00' :: cs).dropWhile Text.isDecimal = '\x00' :: cs := by
    rw [List.dropWhile_append_of_pos hdigits, List.dropWhile_cons_of_neg (by simp [hnull])]
  have hnumber := Text.decimalNumber_toDigits index
  rw [hspell, mark?, htake, hdrop]
  cases hwritten : Nat.toDigits 10 index with
  | nil =>
      exact absurd hwritten Nat.toDigits_ne_nil
  | cons d ds =>
      rw [hwritten] at hnumber
      simp only [hnumber]

theorem restoreFrom?_spell {gs : List Glyph} (steps : Nat) (hnull : .char '\x00' ∉ gs)
    (hindexes : ∀ index ∈ indexes gs, index < literals.length)
    (hsteps : (spell gs).length ≤ steps) :
    restoreFrom? literals steps (spell gs) = some (fill literals gs) := by
  induction gs generalizing steps with
  | nil =>
      cases steps <;> rfl
  | cons g rest ih =>
      have hspell : spell (g :: rest) = g.spell ++ spell rest := List.flatMap_cons
      rw [List.mem_cons, not_or] at hnull
      rw [hspell] at hsteps ⊢
      have hpositive : 0 < g.spell.length := by
        cases g <;> simp [Glyph.spell]
      rw [List.length_append] at hsteps
      cases steps with
      | zero =>
          omega
      | succ steps =>
          have hrest : (spell rest).length ≤ steps := by omega
          cases g with
          | char c =>
              have hc : c ≠ '\x00' := fun h => hnull.1 (h ▸ rfl)
              have hmark : mark? (c :: spell rest) = none := mark?_cons_of_ne hc _
              rw [Glyph.spell, List.singleton_append, restoreFrom?, hmark]
              simp only [ih steps hnull.2 hindexes hrest, Option.map_some, fill_cons, Glyph.read,
                List.singleton_append]
          | literal index =>
              have hlt : index < literals.length := hindexes index (by simp [indexes, Glyph.index?])
              have hmark := mark?_spell index (spell rest)
              have hothers : ∀ i ∈ indexes rest, i < literals.length := fun i hi =>
                hindexes i (by
                  rw [indexes, List.filterMap_cons, Glyph.index?]
                  exact List.mem_cons_of_mem _ hi)
              rw [Glyph.spell, List.cons_append, List.cons_append] at hmark ⊢
              rw [restoreFrom?, hmark]
              simp only [List.getElem?_eq_getElem hlt, ih steps hnull.2 hothers hrest,
                Option.map_some, fill_cons, Glyph.read, Option.getD_some]

theorem restore?_spell {gs : List Glyph} (hnull : .char '\x00' ∉ gs)
    (hindexes : ∀ index ∈ indexes gs, index < literals.length) :
    restore? literals (spell gs) = some (fill literals gs) :=
  restoreFrom?_spell _ hnull hindexes le_rfl

end Layout
end QueryDesigner

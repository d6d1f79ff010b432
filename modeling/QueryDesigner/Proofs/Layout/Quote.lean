import Mathlib
import QueryDesigner.Layout.Glyph

/-!
# Where a quoted literal ends

A literal ends at a quote that is not doubled.  So whether a text starts with a certain literal
depends on what follows it, but only on two facts about that: which quotes it holds, and whether it
starts with a quote that is closed later.

* `Apart` — a text does not start with a quote that is closed in it;
* `quotedEnd?_eq_none_iff`, `quotedEnd?_eq_some`, `quotedEnd?_append` — where there is an end, and
  that it stays the end before any text that stands apart;
* `literal?_eq_none_iff`, `literal?_eq_some` — which texts start with a literal, and with which one;
* `SameQuotes`, `SameQuotes.literal?_append` — texts before which the same literals end.
-/

namespace QueryDesigner
namespace Layout

def isQuote (c : Char) : Bool := c == '\'' || c == '"' || c == '`'

theorem isQuote_cases {c : Char} (h : isQuote c = true) : c = '\'' ∨ c = '"' ∨ c = '`' := by
  simpa only [isQuote, Bool.or_eq_true, beq_iff_eq, or_assoc] using h

/-- A text that does not start with a quote that is closed in it. -/
def Apart (quote : Char) (cs : List Char) : Prop := ∀ rest, cs = quote :: rest → quote ∉ rest

/-! ## The scanners -/

section Scanners

variable {quote : Char} {cs text after : List Char}

theorem apart_nil : Apart quote [] := by
  intro rest h
  cases h

theorem apart_cons_of_ne {c : Char} (h : c ≠ quote) : Apart quote (c :: cs) := by
  intro rest heq
  exact absurd (List.cons.inj heq).1 h

theorem apart_cons_self : Apart quote (quote :: cs) ↔ quote ∉ cs :=
  ⟨fun h => h cs rfl, fun h _ heq => (List.cons.inj heq).2 ▸ h⟩

theorem quotedEnd?_cons_of_ne {c : Char} (hc : c ≠ quote) :
    quotedEnd? quote (c :: cs) =
      (quotedEnd? quote cs).map fun (text, after) => (c :: text, after) := by
  rw [quotedEnd?.eq_def]
  simp [hc]

theorem quotedEnd?_eq_none_iff : quotedEnd? quote cs = none ↔ quote ∉ cs := by
  fun_induction quotedEnd? quote cs with
  | case1 =>
      simp
  | case2 =>
      simp
  | case3 =>
      simp
  | case4 =>
      simp
  | case5 =>
      simp
  | case6 c rest hc ih =>
      simp [ih, Ne.symm hc]

/-- A literal that was found is all of its text, and what follows it stands apart. -/
theorem quotedEnd?_eq_some (h : quotedEnd? quote cs = some (text, after)) :
    cs = text ++ after ∧ Apart quote after ∧ quotedEnd? quote text = some (text, []) := by
  fun_induction quotedEnd? quote cs generalizing text after with
  | case1 =>
      cases h
  | case2 =>
      cases h
      exact ⟨rfl, apart_nil, by simp [quotedEnd?]⟩
  | case3 rest text' after' hrest ih =>
      cases h
      rcases ih hrest with ⟨rfl, hafter, hclosed⟩
      exact ⟨rfl, hafter, by simp [quotedEnd?, hclosed]⟩
  | case4 rest hrest ih =>
      cases h
      exact ⟨rfl, apart_cons_self.2 (quotedEnd?_eq_none_iff.1 hrest), by simp [quotedEnd?]⟩
  | case5 d rest hd =>
      cases h
      exact ⟨rfl, apart_cons_of_ne hd, by simp [quotedEnd?]⟩
  | case6 c rest hc ih =>
      rcases Option.map_eq_some_iff.1 h with ⟨⟨text', after'⟩, hrest, heq⟩
      cases heq
      rcases ih hrest with ⟨rfl, hafter, hclosed⟩
      exact ⟨rfl, hafter, by simp [quotedEnd?_cons_of_ne hc, hclosed]⟩

/-- A literal ends at its last quote before any text that stands apart. -/
theorem quotedEnd?_append (h : quotedEnd? quote text = some (text, []))
    (hafter : Apart quote after) : quotedEnd? quote (text ++ after) = some (text, after) := by
  fun_induction quotedEnd? quote text with
  | case1 =>
      cases h
  | case2 =>
      -- The closing quote: one more after it would double it, if a third one closed the literal.
      cases after with
      | nil =>
          simp [quotedEnd?]
      | cons d rest =>
          by_cases hd : d = quote
          · subst hd
            simp [quotedEnd?, quotedEnd?_eq_none_iff.2 (apart_cons_self.1 hafter)]
          · simp [quotedEnd?, hd]
  | case3 rest text' after' hrest ih =>
      cases h
      simp [quotedEnd?, ih hrest]
  | case4 rest hrest ih =>
      cases h
  | case5 d rest hd =>
      cases h
  | case6 c rest hc ih =>
      rcases Option.map_eq_some_iff.1 h with ⟨⟨text', after'⟩, hrest, heq⟩
      cases heq
      simp [quotedEnd?_cons_of_ne hc, ih hrest]

theorem nameEnd?_eq_none_iff : nameEnd? cs = none ↔ '`' ∉ cs := by
  fun_induction nameEnd? cs with
  | case1 =>
      simp
  | case2 =>
      simp
  | case3 c rest hc ih =>
      simp [ih, Ne.symm hc]

/-- A name in backquotes ends there whatever follows. -/
theorem nameEnd?_eq_some (h : nameEnd? cs = some (text, after)) :
    cs = text ++ after ∧ ∀ other, nameEnd? (text ++ other) = some (text, other) := by
  fun_induction nameEnd? cs generalizing text after with
  | case1 =>
      cases h
  | case2 =>
      cases h
      exact ⟨rfl, fun other => by simp [nameEnd?]⟩
  | case3 c rest hc ih =>
      rcases Option.map_eq_some_iff.1 h with ⟨⟨text', after'⟩, hrest, heq⟩
      cases heq
      rcases ih hrest with ⟨rfl, hother⟩
      exact ⟨rfl, fun other => by simp [nameEnd?, hc, hother]⟩

end Scanners

/-! ## Literals -/

section Literals

variable {cs text after : List Char}

theorem literal?_cons_of_not_quote {c : Char} (hc : isQuote c = false) (cs : List Char) :
    literal? (c :: cs) = none := by
  simp only [isQuote, Bool.or_eq_false_iff, beq_eq_false_iff_ne] at hc
  simp [literal?, hc]

/-- A quote starts a literal if it is closed somewhere. -/
theorem literal?_eq_none_iff {c : Char} (hc : isQuote c = true) :
    literal? (c :: cs) = none ↔ c ∉ cs := by
  rcases isQuote_cases hc with rfl | rfl | rfl
  · simp [literal?, quotedEnd?_eq_none_iff]
  · simp [literal?, quotedEnd?_eq_none_iff]
  · simp [literal?, nameEnd?_eq_none_iff]

/-- A text that starts with a literal is split by it.  The same literal starts any other text in
which something follows that stands apart. -/
theorem literal?_eq_some (h : literal? cs = some (text, after)) :
    cs = text ++ after ∧ ∃ quote body, isQuote quote = true ∧ text = quote :: body ∧
      ∀ other, (Apart quote after → Apart quote other) →
        literal? (text ++ other) = some (text, other) := by
  cases cs with
  | nil =>
      cases h
  | cons c rest =>
      have hquote : isQuote c = true := by
        by_contra hc
        rw [literal?_cons_of_not_quote (by simpa using hc)] at h
        cases h
      rcases Option.map_eq_some_iff.1 h with ⟨⟨body, after'⟩, hend, heq⟩
      cases heq
      by_cases hname : c = '`'
      · subst hname
        rcases nameEnd?_eq_some (by simpa using hend) with ⟨rfl, hother⟩
        exact ⟨rfl, '`', body, hquote, rfl, fun other _ => by simp [literal?, hother]⟩
      · have hmarks : c = '\'' ∨ c = '"' := by
          simpa [isQuote, hname] using hquote
        rw [if_neg hname, if_pos hmarks] at hend
        rcases quotedEnd?_eq_some hend with ⟨rfl, hafter, hclosed⟩
        refine ⟨rfl, c, body, hquote, rfl, fun other hother => ?_⟩
        simp [literal?, hname, hmarks, quotedEnd?_append hclosed (hother hafter)]

theorem length_lt_of_literal? (h : literal? cs = some (text, after)) :
    after.length < cs.length := by
  rcases literal?_eq_some h with ⟨rfl, quote, body, -, rfl, -⟩
  simp only [List.cons_append, List.length_cons, List.length_append]
  omega

end Literals

/-! ## Texts before which the same literals end -/

structure SameQuotes (cs ds : List Char) : Prop where
  mem : ∀ quote, isQuote quote = true → (quote ∈ cs ↔ quote ∈ ds)
  apart : ∀ quote, isQuote quote = true → (Apart quote cs ↔ Apart quote ds)

namespace SameQuotes

variable {cs ds text : List Char}

theorem symm (h : SameQuotes cs ds) : SameQuotes ds cs where
  mem quote hquote := (h.mem quote hquote).symm
  apart quote hquote := (h.apart quote hquote).symm

theorem cons (c : Char) (h : SameQuotes cs ds) : SameQuotes (c :: cs) (c :: ds) where
  mem := by
    intro quote hquote
    rw [List.mem_cons, List.mem_cons, h.mem quote hquote]
  apart := by
    intro quote hquote
    by_cases hc : c = quote
    · subst hc
      rw [apart_cons_self, apart_cons_self, h.mem c hquote]
    · exact iff_of_true (apart_cons_of_ne hc) (apart_cons_of_ne hc)

theorem append (text : List Char) (h : SameQuotes cs ds) :
    SameQuotes (text ++ cs) (text ++ ds) := by
  induction text with
  | nil =>
      exact h
  | cons c rest ih =>
      exact ih.cons c

/-- A character that starts no literal still starts none. -/
theorem literal?_cons (h : SameQuotes cs ds) (c : Char) :
    literal? (c :: cs) = none ↔ literal? (c :: ds) = none := by
  cases hc : isQuote c with
  | false =>
      rw [literal?_cons_of_not_quote hc, literal?_cons_of_not_quote hc]
  | true =>
      rw [literal?_eq_none_iff hc, literal?_eq_none_iff hc, h.mem c hc]

/-- A literal that ends there still ends there. -/
theorem literal?_append (h : SameQuotes cs ds) :
    literal? (text ++ cs) = some (text, cs) ↔ literal? (text ++ ds) = some (text, ds) := by
  have himp : ∀ {cs ds : List Char}, SameQuotes cs ds →
      literal? (text ++ cs) = some (text, cs) → literal? (text ++ ds) = some (text, ds) := by
    intro cs ds h hcs
    rcases literal?_eq_some hcs with ⟨-, quote, body, hquote, -, hother⟩
    exact hother ds (h.apart quote hquote).1
  exact ⟨himp h, himp h.symm⟩

end SameQuotes

end Layout
end QueryDesigner

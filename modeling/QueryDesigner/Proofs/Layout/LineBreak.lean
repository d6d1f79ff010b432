import Mathlib
import QueryDesigner.Proofs.Layout.Stable

/-!
# Where lists break

The pass for commas does not count parentheses, it looks for the next one only.  At the top that is
never a closing one, so every comma there breaks the line.  Inside parentheses a comma breaks it if
others are opened before those are closed.

* `depth`, `Balanced` — how many parentheses are open, and glyphs that close all that they open;
* `closesNext_eq_false_of_depth`, `closesNext_eq_false_iff_of_depth` — the next parenthesis, seen from
  a depth;
* `balanced_layOut` — the passes leave the parentheses as they are;
* `Broken`, `afterCommas_broken` — what is said after each comma in the end;
* `format?_breaks_after_commas` — where commas break the line.
-/

namespace QueryDesigner
namespace Layout

variable {gs hs : List Glyph}

/-! ## Parentheses -/

namespace Glyph

def isParenthesis (g : Glyph) : Bool := g == char '(' || g == char ')'

end Glyph

/-- How many more parentheses are opened than closed. -/
def depth (gs : List Glyph) : Int := (gs.count (.char '(') : Int) - gs.count (.char ')')

/-- Every parenthesis is closed, and none before it is opened. -/
structure Balanced (gs : List Glyph) : Prop where
  total : depth gs = 0
  nonneg : ∀ ps, ps <+: gs → 0 ≤ depth ps

instance : DecidablePred Balanced := fun gs =>
  decidable_of_iff (depth gs = 0 ∧ ∀ ps ∈ gs.inits, 0 ≤ depth ps) <| by
    simp only [List.mem_inits]
    exact ⟨fun h => ⟨h.1, h.2⟩, fun h => ⟨h.total, h.nonneg⟩⟩

theorem depth_append (gs hs : List Glyph) : depth (gs ++ hs) = depth gs + depth hs := by
  rw [depth, depth, depth, List.count_append, List.count_append]
  omega

/-- Whether the next parenthesis is an opening one. -/
def opensNext (gs : List Glyph) : Bool := gs.find? Glyph.isParenthesis == some (.char '(')

theorem closesNext_eq (gs : List Glyph) :
    closesNext gs = (gs.find? Glyph.isParenthesis == some (.char ')')) := rfl

theorem depth_eq_zero (h : ∀ g ∈ gs, g.isParenthesis = false) : depth gs = 0 := by
  have hcount : ∀ {g : Glyph}, g.isParenthesis = true → gs.count g = 0 := by
    intro g hg
    rw [List.count_eq_zero]
    intro hmem
    rw [h g hmem] at hg
    cases hg
  rw [depth, hcount (by decide), hcount (by decide)]
  rfl

section Next

variable {before after : List Glyph}

/-- At the top nothing is left to be closed. -/
theorem closesNext_eq_false_of_depth (h : Balanced (before ++ .char ',' :: after))
    (hdepth : depth before = 0) : closesNext after = false := by
  rw [closesNext_eq, beq_eq_false_iff_ne]
  intro hfind
  rcases List.find?_eq_some_iff_append.1 hfind with ⟨-, mid, tail, rfl, hmid⟩
  have hclosed := h.nonneg (before ++ .char ',' :: (mid ++ [.char ')'])) ⟨tail, by simp⟩
  have hflat : depth mid = 0 := depth_eq_zero fun g hg => by simpa using hmid g hg
  have hcomma : depth [.char ','] = 0 := by decide
  have hclose : depth [.char ')'] = -1 := by decide
  rw [← List.singleton_append, depth_append, depth_append, depth_append, hdepth, hflat, hcomma,
    hclose] at hclosed
  omega

/-- Inside parentheses another one follows, since they are closed. -/
theorem closesNext_eq_false_iff_of_depth (h : Balanced (before ++ .char ',' :: after))
    (hdepth : 0 < depth before) : closesNext after = false ↔ opensNext after = true := by
  rw [closesNext_eq, opensNext]
  cases hfind : after.find? Glyph.isParenthesis with
  | none =>
      -- Nothing would close what is open.
      have hflat : depth after = 0 := depth_eq_zero fun g hg => by
        simpa using List.find?_eq_none.1 hfind g hg
      have hcomma : depth [.char ','] = 0 := by decide
      have htotal := h.total
      rw [← List.singleton_append, depth_append, depth_append, hflat, hcomma] at htotal
      omega
  | some g =>
      have hg : g.isParenthesis = true := List.find?_some hfind
      simp only [Glyph.isParenthesis, Bool.or_eq_true, beq_iff_eq] at hg
      rcases hg with rfl | rfl
      · decide
      · decide

end Next

/-! ## The passes -/

/-- The parentheses among some glyphs. -/
def parentheses (gs : List Glyph) : List Glyph := gs.filter Glyph.isParenthesis

theorem depth_parentheses (gs : List Glyph) : depth (parentheses gs) = depth gs := by
  rw [depth, depth, parentheses, List.count_filter (by decide), List.count_filter (by decide)]

theorem parentheses_ink (gs : List Glyph) : parentheses (ink gs) = parentheses gs := by
  rw [parentheses, parentheses, ink, List.filter_filter]
  refine List.filter_congr fun g _ => ?_
  cases hg : g.isParenthesis with
  | false =>
      rfl
  | true =>
      have hblank : g.isBlank = false := by
        by_contra hblank
        have hnone := isParenthesis_eq_false_of_isBlank g (by simpa using hblank)
        exact absurd hg (by simpa [Glyph.isParenthesis] using hnone)
      rw [hblank]
      rfl

/-- Letters are no parentheses. -/
theorem Recased.parentheses_eq (h : Recased gs hs) : parentheses gs = parentheses hs := by
  have hletter : ∀ {g : Glyph}, g.isLetter = true → g.isParenthesis = false := fun hg => by
    simpa using of_isLetter (p := fun g => !g.isParenthesis) (by decide +kernel) hg
  induction h with
  | nil =>
      rfl
  | cons halter _ ih =>
      rw [parentheses, parentheses, List.filter_cons, List.filter_cons, ← parentheses, ih,
        ← parentheses]
      rcases halter with rfl | ⟨hg, hk⟩
      · rfl
      · rw [if_neg (by simp [hletter hg]), if_neg (by simp [hletter hk])]

theorem parentheses_layOut (hmark : .char rangeAnd ∉ gs) :
    parentheses (layOut gs) = parentheses gs := by
  rw [← parentheses_ink, ink_layOut hmark, parentheses_ink,
    ← (recased_upperKeywords _).parentheses_eq, ← parentheses_ink, ink_squeezed, parentheses_ink]

/-- Parentheses are all that counts. -/
theorem Balanced.congr (h : Balanced gs) (heq : parentheses hs = parentheses gs) : Balanced hs where
  total := by rw [← depth_parentheses, heq, depth_parentheses, h.total]
  nonneg := by
    rintro ps ⟨rest, rfl⟩
    rw [parentheses, parentheses, List.filter_append, eq_comm, List.filter_eq_append_iff] at heq
    rcases heq with ⟨ps', rest', rfl, hps, -⟩
    rw [← depth_parentheses, parentheses, ← hps, ← parentheses, depth_parentheses]
    exact h.nonneg ps' (List.prefix_append ps' rest')

theorem balanced_layOut (hmark : .char rangeAnd ∉ gs) (h : Balanced gs) : Balanced (layOut gs) :=
  h.congr (parentheses_layOut hmark)

/-! ## Commas -/

/-- No line break comes first, unless it stands before a clause. -/
def Unbroken (gs : List Glyph) : Prop := gs.head? = some (.char '\n') → startsClause gs = true

/-- A line break comes first just where the next parenthesis is not a closing one, unless a clause
follows or nothing does. -/
def Broken (gs : List Glyph) : Prop :=
  gs ≠ [] → startsClause gs = false →
    (gs.head? = some (.char '\n') ↔ closesNext gs = false)

theorem startsClause_congr (h : tidy gs = tidy hs) : startsClause gs = startsClause hs := by
  rw [← startsClause_tidy, h, startsClause_tidy]

theorem tolerant_unbroken : Tolerant Unbroken where
  cursory := by
    rintro gs hs hread (rfl | hhead) hgs
    · intro hbreak
      cases hbreak
    · rw [Unbroken, hhead, ← startsClause_congr hread]
      exact hgs
  clause := fun _ hclause _ => hclause

theorem tolerant_broken : Tolerant Broken where
  cursory := by
    rintro gs hs hread (rfl | hhead) hgs hne hclause
    · exact absurd rfl hne
    · rw [hhead, ← closesNext_congr hread]
      refine hgs ?_ ((startsClause_congr hread).trans hclause)
      rintro rfl
      exact hne (List.head?_eq_none_iff.1 hhead)
  clause := by
    intro g gs _ hclause _ hnone
    rw [hclause] at hnone
    cases hnone

/-- Squeezed glyphs hold no line break. -/
theorem Single.not_mem_lineBreak (h : Single gs) : .char '\n' ∉ gs := by
  induction gs with
  | nil =>
      simp
  | cons g rest ih =>
      rw [List.mem_cons, not_or]
      refine ⟨?_, ih h.2⟩
      rintro rfl
      exact absurd (h.1 (by decide)).1 (by decide)

theorem afterCommas_broken (hmark : .char rangeAnd ∉ gs) : AfterCommas Broken (layOut gs) := by
  have hsingle : Single (upperKeywords (squeezed gs)) := by
    refine Single.recased ?_ (recased_upperKeywords _)
    rw [squeezed_eq_single]
    exact single_single _
  refine afterCommas_layOut tolerant_unbroken tolerant_broken ?_ ?_
    (not_mem_upperKeywords_squeezed (by decide) (by decide) hmark) ?_
  · intro gs hcloses _ _
    have hnext : closesNext (.char '\n' :: gs) = closesNext gs :=
      closesNext_blanks (blanks_singleton (by decide)) gs
    rw [hnext, hcloses]
    simp
  · intro gs hcloses hunbroken _ hclause
    rw [hcloses]
    refine iff_of_false (fun hbreak => ?_) (by simp)
    rw [hunbroken hbreak] at hclause
    cases hclause
  · intro after hafter hbreak
    refine absurd (hafter.subset (List.mem_cons_of_mem _ ?_)) hsingle.not_mem_lineBreak
    exact List.mem_of_mem_head? hbreak

/-- A comma that is in no literal, that no clause follows, and that is not the last character breaks
the line at the top.  Inside parentheses it does so just where others are opened before those are
closed. -/
theorem format?_breaks_after_commas {sql : String} (h : Presentable sql)
    (hbalanced : Balanced (protect sql.toList).1) :
    ∃ shown, format? sql = some shown ∧
      ∀ before after, (protect shown.toList).1 = before ++ .char ',' :: after → after ≠ [] →
        startsClause after = false →
          (depth before = 0 → after.head? = some (.char '\n')) ∧
          (0 < depth before → (after.head? = some (.char '\n') ↔ opensNext after = true)) := by
  rcases h.exists_shown with ⟨shown, hformat, hprotect⟩
  refine ⟨shown, hformat, fun before after hsplit hne hclause => ?_⟩
  rw [hprotect] at hsplit
  have hlaid := balanced_layOut h.not_mem_protect hbalanced
  have hcommas := afterCommas_broken h.not_mem_protect
  simp only at hsplit
  rw [hsplit] at hlaid hcommas
  have hbroken := hcommas after (List.suffix_append _ _) hne hclause
  refine ⟨fun hdepth => hbroken.2 (closesNext_eq_false_of_depth hlaid hdepth), fun hdepth => ?_⟩
  rw [hbroken, closesNext_eq_false_iff_of_depth hlaid hdepth]

theorem format?_breaks_after_commas_of_nested_calls :
    (Presentable "select f(a, g(b)), c from t" ∧
      Balanced (protect "select f(a, g(b)), c from t".toList).1) ∧
    ∃ shown, format? "select f(a, g(b)), c from t" = some shown ∧
      ∀ before after, (protect shown.toList).1 = before ++ .char ',' :: after → after ≠ [] →
        startsClause after = false →
          (depth before = 0 → after.head? = some (.char '\n')) ∧
          (0 < depth before → (after.head? = some (.char '\n') ↔ opensNext after = true)) :=
  have h : Presentable "select f(a, g(b)), c from t" :=
    ⟨by decide, by decide, 's', by decide, by decide⟩
  have hbalanced : Balanced (protect "select f(a, g(b)), c from t".toList).1 := by decide +kernel
  ⟨⟨h, hbalanced⟩, format?_breaks_after_commas h hbalanced⟩

end Layout
end QueryDesigner

import QueryDesigner.Decompile.Tables

/-!
# The predicates that AND ties together

* `Sql.Expr.AndLeaves` — the leaves of a tree of ANDs, from left to right, whatever parentheses and
  comments stand around its parts;
* `Sql.Expr.andLeaves_iff` — the reader finds exactly these;
* `Sql.Expr.conjuncts_ne_nil` — there is always one.
-/

namespace QueryDesigner
namespace Sql
namespace Expr

/-- The leaves of a tree of ANDs, from left to right.  Parentheses are looked through, and so are
comments, except those that stand right after a leaf. -/
inductive AndLeaves : Expr → List Expr → Prop where
  | both {left right : Expr} {xs ys : List Expr} :
      AndLeaves left xs → AndLeaves right ys → AndLeaves (.binary .and left right) (xs ++ ys)
  | paren {e : Expr} {xs : List Expr} : AndLeaves e xs → AndLeaves (.paren e) xs
  | commentsBefore {comments : List String} {e : Expr} {xs : List Expr} :
      AndLeaves e xs → AndLeaves (.commented true comments e) xs
  | commentsAfter {comments : List String} {e : Expr} {xs : List Expr} :
      e.isParen = true ∨ e.isAnd = true → AndLeaves e xs →
        AndLeaves (.commented false comments e) xs
  | leaf {e : Expr} :
      e.isParen = false → e.isAnd = false → (∀ comments x, e ≠ .commented true comments x) →
        AndLeaves e [e]

theorem conjuncts_of_leaf {e : Expr} :
    e.isParen = false → e.isAnd = false → (∀ comments x, e ≠ .commented true comments x) →
      e.conjuncts = [e] := by
  intro hparen hand hbefore
  fun_cases conjuncts e with
  | case1 left right =>
      simp [isAnd, bare] at hand
  | case2 e =>
      simp [isParen, bare] at hparen
  | case3 comments e =>
      exact absurd rfl (hbefore comments e)
  | case4 comments e hgroup =>
      have hbare : (Expr.commented false comments e).bare = e.bare := rfl
      simp only [isParen, isAnd, hbare] at hparen hand hgroup
      simp [hparen, hand] at hgroup
  | case5 comments e hleaf =>
      rfl
  | case6 hand hparen hbefore hafter =>
      rfl

theorem andLeaves_conjuncts (e : Expr) : AndLeaves e e.conjuncts := by
  fun_induction conjuncts e with
  | case1 left right ihl ihr =>
      exact .both ihl ihr
  | case2 e ih =>
      exact .paren ih
  | case3 comments e ih =>
      exact .commentsBefore ih
  | case4 comments e h ih =>
      exact .commentsAfter (by simpa using h) ih
  | case5 comments e h =>
      rw [Bool.or_eq_true, not_or, Bool.not_eq_true, Bool.not_eq_true] at h
      exact .leaf h.1 h.2 (by simp)
  | case6 e hand hparen hbefore hafter =>
      have hbare : e.bare = e := by
        cases e with
        | commented isLeading comments e =>
            cases isLeading with
            | true =>
                exact absurd rfl (hbefore comments e)
            | false =>
                exact absurd rfl (hafter comments e)
        | _ =>
            rfl
      refine .leaf ?_ ?_ fun comments x h => hbefore comments x h
      · unfold isParen
        rw [hbare]
        split
        · exact absurd rfl (hparen _)
        · rfl
      · unfold isAnd
        rw [hbare]
        split
        · exact absurd rfl (hand _ _)
        · rfl

/-- The reader finds the leaves of the tree, and nothing else. -/
theorem andLeaves_iff {e : Expr} {leaves : List Expr} :
    AndLeaves e leaves ↔ leaves = e.conjuncts := by
  constructor
  · intro h
    induction h with
    | both _ _ ihl ihr =>
        rw [conjuncts, ← ihl, ← ihr]
    | paren _ ih =>
        rw [conjuncts, ← ih]
    | commentsBefore _ ih =>
        rw [conjuncts, ← ih]
    | commentsAfter hgroup _ ih =>
        rw [conjuncts, if_pos (by simpa using hgroup), ← ih]
    | leaf hparen hand hbefore =>
        rw [conjuncts_of_leaf hparen hand hbefore]
  · intro h
    exact h ▸ andLeaves_conjuncts e

theorem AndLeaves.ne_nil {e : Expr} {leaves : List Expr} (h : AndLeaves e leaves) :
    leaves ≠ [] := by
  induction h with
  | both _ _ ihl _ =>
      exact List.append_ne_nil_of_left_ne_nil ihl _
  | paren _ ih =>
      exact ih
  | commentsBefore _ ih =>
      exact ih
  | commentsAfter _ _ ih =>
      exact ih
  | leaf _ _ _ =>
      exact List.cons_ne_nil _ _

theorem conjuncts_ne_nil (e : Expr) : e.conjuncts ≠ [] := (andLeaves_conjuncts e).ne_nil

end Expr
end Sql
end QueryDesigner

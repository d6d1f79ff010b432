import QueryDesigner.Proofs.Query.Selections
import QueryDesigner.Suggestion

/-!
# Each join once

Which candidates are fresh depends on the joins that are known and on the candidates before them.

* `Join.ends_eq_ends_iff` — joins have the same ends if they tie the same two columns, in whichever
  order;
* `Join.ends_rekey_eq_iff` — a change of keys that merges no two of them tells joins apart as
  before;
* `Suggestion.map_ends_fresh` — the ends of fresh candidates are those of all candidates, each once;
* `Suggestion.fresh_cons`, `Suggestion.fresh_append` — more known joins take out the candidates with
  their own ends, and no other ones;
* `Suggestion.fresh_map` — a change of all joins that tells them apart as before can be made before
  or after.
-/

namespace QueryDesigner

/-! ## The ends of a join -/

/-- Ends are ordered like words: by table key, then by column. -/
theorem JoinEnd.before_iff {a b : JoinEnd} : a.before b = true ↔ toLex a < toLex b := by
  simp [before, Prod.Lex.toLex_lt_toLex]

namespace Join

variable {i j : Join} {old new : String} {keys : List String}

/-- The left column of a join as it tells joins apart: without regard to letter case. -/
def leftEnd (j : Join) : JoinEnd := (j.leftTable, Text.lower j.leftColumn)

/-- The right column of a join as it tells joins apart. -/
def rightEnd (j : Join) : JoinEnd := (j.rightTable, Text.lower j.rightColumn)

theorem ends_eq (j : Join) :
    j.ends =
      if j.leftEnd = j.rightEnd then [j.leftEnd]
      else if j.leftEnd.before j.rightEnd then [j.leftEnd, j.rightEnd]
      else [j.rightEnd, j.leftEnd] := rfl

theorem mem_ends {e : JoinEnd} : e ∈ j.ends ↔ e ∈ s(j.leftEnd, j.rightEnd) := by
  rw [ends_eq, Sym2.mem_iff]
  split_ifs with hsame
  · simp [hsame]
  · simp
  · simp [or_comm]

/-- A join that is written the other way round has the same ends. -/
theorem ends_eq_of_swap (hleft : i.leftEnd = j.rightEnd) (hright : i.rightEnd = j.leftEnd) :
    i.ends = j.ends := by
  rw [ends_eq, ends_eq, hleft, hright]
  by_cases hsame : j.leftEnd = j.rightEnd
  · rw [if_pos hsame.symm, if_pos hsame, hsame]
  · rw [if_neg (Ne.symm hsame), if_neg hsame]
    -- One of the two comes before the other, and not the other way round.
    rcases lt_or_gt_of_ne (toLex.injective.ne hsame) with hlt | hgt
    · rw [if_pos (JoinEnd.before_iff.2 hlt), if_neg (mt JoinEnd.before_iff.1 hlt.asymm)]
    · rw [if_pos (JoinEnd.before_iff.2 hgt), if_neg (mt JoinEnd.before_iff.1 hgt.asymm)]

/-- Joins have the same ends if they tie the same two columns, in whichever order. -/
theorem ends_eq_ends_iff :
    i.ends = j.ends ↔ s(i.leftEnd, i.rightEnd) = s(j.leftEnd, j.rightEnd) := by
  constructor
  · intro h
    refine Sym2.ext fun e => ?_
    rw [← mem_ends, ← mem_ends, h]
  · intro h
    rcases Sym2.eq_iff.1 h with ⟨hleft, hright⟩ | ⟨hleft, hright⟩
    · rw [ends_eq, ends_eq, hleft, hright]
    · exact ends_eq_of_swap hleft hright

/-- A change of keys that merges no two of them tells joins apart as before. -/
theorem ends_rekey_eq_iff
    (hinj : ∀ a ∈ keys, ∀ b ∈ keys,
      (if a = old then new else a) = (if b = old then new else b) → a = b)
    (hi : i.leftTable ∈ keys ∧ i.rightTable ∈ keys)
    (hj : j.leftTable ∈ keys ∧ j.rightTable ∈ keys) :
    (i.rekey old new).ends = (j.rekey old new).ends ↔ i.ends = j.ends := by
  have hkey : ∀ a ∈ keys, ∀ b ∈ keys,
      ((if a = old then new else a) = (if b = old then new else b) ↔ a = b) :=
    fun a ha b hb => ⟨hinj a ha b hb, fun h => by rw [h]⟩
  simp only [ends_eq_ends_iff, Sym2.eq_iff, leftEnd, rightEnd, rekey, Prod.mk.injEq,
    hkey _ hi.1 _ hj.1, hkey _ hi.1 _ hj.2, hkey _ hi.2 _ hj.1, hkey _ hi.2 _ hj.2]

end Join

/-! ## Fresh candidates -/

namespace Suggestion

variable {known known' : List (List JoinEnd)}

/-- The ends of fresh candidates are those of all candidates without the known ones, each once. -/
theorem map_ends_fresh (known : List (List JoinEnd)) (js : List Join) :
    (fresh known js).map Join.ends = dedupFrom known (js.map Join.ends) := by
  induction js generalizing known with
  | nil =>
      rfl
  | cons j rest ih =>
      by_cases hj : j.ends ∈ known <;> simp [fresh, dedupFrom, hj, ih]

theorem nodup_ends_fresh (known : List (List JoinEnd)) (js : List Join) :
    ((fresh known js).map Join.ends).Nodup := by
  rw [map_ends_fresh]
  exact dedupFrom_nodup _ _

theorem mem_ends_fresh {js : List Join} {ends : List JoinEnd} :
    ends ∈ (fresh known js).map Join.ends ↔ ends ∉ known ∧ ends ∈ js.map Join.ends := by
  rw [map_ends_fresh, mem_dedupFrom, and_comm]

theorem fresh_sublist (known : List (List JoinEnd)) (js : List Join) :
    (fresh known js).Sublist js := by
  induction js generalizing known with
  | nil =>
      exact .slnil
  | cons j rest ih =>
      rw [fresh]
      split_ifs
      · exact (ih known).cons j
      · exact (ih (j.ends :: known)).cons_cons j

/-- The known joins count as a set. -/
theorem fresh_congr (h : ∀ ends, ends ∈ known ↔ ends ∈ known') (js : List Join) :
    fresh known js = fresh known' js := by
  induction js generalizing known known' with
  | nil =>
      rfl
  | cons j rest ih =>
      have hrest : ∀ ends, ends ∈ j.ends :: known ↔ ends ∈ j.ends :: known' := by
        intro ends
        rw [List.mem_cons, List.mem_cons, h]
      by_cases hj : j.ends ∈ known
      · simp [fresh, hj, (h _).1 hj, ih h]
      · have hj' : j.ends ∉ known' := fun hmem => hj ((h _).2 hmem)
        simp [fresh, hj, hj', ih hrest]

/-- One more known join takes out the candidate with its ends, and neither puts another one in its
place nor changes which one stands for other ends. -/
theorem fresh_cons (known : List (List JoinEnd)) (ends : List JoinEnd) (js : List Join) :
    fresh (ends :: known) js = (fresh known js).filter fun j => j.ends ≠ ends := by
  induction js generalizing known with
  | nil =>
      rfl
  | cons j rest ih =>
      by_cases hj : j.ends ∈ known
      · simp [fresh, hj, ih]
      · by_cases hends : j.ends = ends
        · subst hends
          -- Candidates after it are fresh only if they have other ends, so that nothing goes.
          have hlater : ∀ i ∈ fresh (j.ends :: known) rest, i.ends ≠ j.ends := by
            intro i hi heq
            have hnew := (mem_ends_fresh.1 (List.mem_map_of_mem (f := Join.ends) hi)).1
            exact hnew (heq ▸ List.mem_cons_self)
          have hkept : (fresh (j.ends :: known) rest).filter (fun i => i.ends ≠ j.ends) =
              fresh (j.ends :: known) rest :=
            List.filter_eq_self.2 fun i hi => by simpa using hlater i hi
          simp only [fresh, hj, List.contains_iff_mem, List.mem_cons_self, if_true, if_false]
          rw [List.filter_cons_of_neg (by simp), hkept]
        · have hswap : ∀ e, e ∈ j.ends :: ends :: known ↔ e ∈ ends :: j.ends :: known := by
            intro e
            simp only [List.mem_cons, or_left_comm]
          have hnew : j.ends ∉ ends :: known := by simp [hends, hj]
          calc
            fresh (ends :: known) (j :: rest)
                = j :: fresh (j.ends :: ends :: known) rest := by simp [fresh, hends, hj]
            _ = j :: fresh (ends :: j.ends :: known) rest := by rw [fresh_congr hswap]
            _ = j :: (fresh (j.ends :: known) rest).filter (fun i => i.ends ≠ ends) := by rw [ih]
            _ = (fresh known (j :: rest)).filter (fun i => i.ends ≠ ends) := by
                  simp [fresh, hends, hj]

theorem fresh_append (known more : List (List JoinEnd)) (js : List Join) :
    fresh (known ++ more) js = (fresh known js).filter fun j => j.ends ∉ more := by
  induction more generalizing known with
  | nil =>
      simp
  | cons ends rest ih =>
      have hmove : ∀ e, e ∈ known ++ ends :: rest ↔ e ∈ (ends :: known) ++ rest := by
        intro e
        simp only [List.mem_append, List.mem_cons, or_left_comm, or_assoc]
      rw [fresh_congr hmove, ih, fresh_cons, List.filter_filter]
      refine List.filter_congr fun j _ => ?_
      simp [Bool.and_comm]

/-- A change of all joins that tells them apart as before can be made before or after. -/
theorem fresh_map {P : Join → Prop} {f : Join → Join}
    (hf : ∀ i j, P i → P j → ((f i).ends = (f j).ends ↔ i.ends = j.ends)) {known js : List Join}
    (hknown : ∀ i ∈ known, P i) (hjs : ∀ j ∈ js, P j) :
    fresh ((known.map f).map Join.ends) (js.map f) =
      (fresh (known.map Join.ends) js).map f := by
  induction js generalizing known with
  | nil =>
      rfl
  | cons j rest ih =>
      rcases List.forall_mem_cons.1 hjs with ⟨hj, hrest⟩
      have hsame : (f j).ends ∈ (known.map f).map Join.ends ↔ j.ends ∈ known.map Join.ends := by
        simp only [List.mem_map, exists_exists_and_eq_and]
        exact exists_congr fun i => and_congr_right fun hi => hf i j (hknown i hi) hj
      by_cases hthere : j.ends ∈ known.map Join.ends
      · have hthere' := hsame.2 hthere
        simp only [List.map_cons, fresh, List.contains_iff_mem, hthere, hthere', if_true]
        exact ih hknown hrest
      · have hnew := mt hsame.1 hthere
        -- From here on the candidate is one of the known joins.
        have hlater := ih (List.forall_mem_cons.2 ⟨hj, hknown⟩) hrest
        simp only [List.map_cons, fresh, List.contains_iff_mem, hthere, hnew, if_false] at hlater ⊢
        rw [hlater]

end Suggestion

end QueryDesigner

import QueryDesigner.Proofs.Canvas.WellFormed
import QueryDesigner.Proofs.Suggestion.Candidate

/-!
# Suggestions that are accepted

* `Edit.run_addJoin_of_sides`, `Edit.run_addJoins` — joins between tables of the query come in;
* `Suggestion.suggestJoins_withJoins` — more joins take out the suggestions with their ends;
* `Canvas.suggestions_after_joins` — a suggestion can be accepted, and what is suggested after any
  of them is the others, in the same order.

A join that comes in may be one that was not suggested, or one that is written the other way round.
Then it is its ends that count.
-/

namespace QueryDesigner

namespace Edit

/-- A join between tables of the query comes in at the end. -/
theorem run_addJoin_of_sides {j : Join} {c : Canvas} (hleft : j.leftTable ∈ c.query.tableKeys)
    (hright : j.rightTable ∈ c.query.tableKeys) :
    (addJoin j).run c =
      .ok j { c with query := { c.query with joins := c.query.joins ++ [j] } } := by
  rcases Option.isSome_iff_exists.1 (Query.hasTable_iff.2 hleft) with ⟨left, hl⟩
  rcases Option.isSome_iff_exists.1 (Query.hasTable_iff.2 hright) with ⟨right, hr⟩
  rw [run_addJoin, run_requireEnds, hl, hr]

/-- Joins between tables of the query come in one after the other. -/
theorem run_addJoins {js : List Join} {c : Canvas}
    (hjs : ∀ j ∈ js, j.leftTable ∈ c.query.tableKeys ∧ j.rightTable ∈ c.query.tableKeys) :
    (js.mapM addJoin).run c =
      .ok js { c with query := { c.query with joins := c.query.joins ++ js } } := by
  induction js generalizing c with
  | nil =>
      simp
  | cons j rest ih =>
      rcases List.forall_mem_cons.1 hjs with ⟨hj, hrest⟩
      let d : Canvas := { c with query := { c.query with joins := c.query.joins ++ [j] } }
      have hfirst : (addJoin j).run c = .ok j d := run_addJoin_of_sides hj.1 hj.2
      -- The tables are the same after the first join, so that the other ones come in as well.
      have hlater := ih (c := d) hrest
      rw [List.mapM_cons, EStateM.run_bind, hfirst]
      simp [hlater, d]

/-- A join that comes in is put at the end. -/
theorem of_run_addJoin {i j : Join} {c c' : Canvas} (hrun : (addJoin j).run c = .ok i c') :
    c' = { c with query := { c.query with joins := c.query.joins ++ [j] } } := by
  rw [run_addJoin] at hrun
  split at hrun
  · exact (EStateM.Result.ok.inj hrun).2.symm
  · cases hrun

end Edit

namespace Suggestion

variable {catalog : Catalog} {q : Query}

/-- More joins take out the suggestions with their ends. -/
theorem suggestJoins_withJoins (catalog : Catalog) (q : Query) (js : List Join) :
    suggestJoins catalog { q with joins := q.joins ++ js } =
      (suggestJoins catalog q).filter fun i => i.ends ∉ js.map Join.ends := by
  rw [suggestJoins_eq, suggestJoins_eq, List.map_append, fresh_append]

/-- Suggestions end in tables of the query. -/
theorem sides_of_mem_suggestJoins {j : Join} (h : j ∈ suggestJoins catalog q) :
    j.leftTable ∈ q.tableKeys ∧ j.rightTable ∈ q.tableKeys :=
  sides_of_mem_candidatesOf ((fresh_sublist _ _).subset h)

/-- A suggestion is told from the other ones by its ends. -/
theorem ends_mem_iff {i : Join} {js : List Join} (hi : i ∈ suggestJoins catalog q)
    (hjs : js ⊆ suggestJoins catalog q) : i.ends ∈ js.map Join.ends ↔ i ∈ js := by
  constructor
  · intro h
    rcases List.mem_map.1 h with ⟨j, hj, hends⟩
    obtain rfl : j = i :=
      List.inj_on_of_nodup_map (nodup_ends_suggestJoins catalog q) (hjs hj) hi hends
    exact hj
  · exact List.mem_map_of_mem

end Suggestion

namespace Canvas

open Suggestion

/-- A join that is accepted takes out the suggestion with its ends.  The other suggestions stay as
they are, in their order.  Each suggestion is accepted itself, and so are any of them one after the
other, in whichever order.  After them the other ones are suggested, in the same order, and none if
all have been accepted. -/
theorem suggestions_after_joins (catalog : Catalog) (c : Canvas) :
    (∀ j c', (Edit.addJoin j).run c = .ok j c' →
      suggestJoins catalog c'.query =
        (suggestJoins catalog c.query).filter fun i => i.ends ≠ j.ends) ∧
    (∀ j ∈ suggestJoins catalog c.query, ∃ c', (Edit.addJoin j).run c = .ok j c') ∧
    ∀ js ⊆ suggestJoins catalog c.query,
      ∃ c', (js.mapM Edit.addJoin).run c = .ok js c' ∧
        suggestJoins catalog c'.query = (suggestJoins catalog c.query).filter (· ∉ js) ∧
        (suggestJoins catalog c.query ⊆ js → suggestJoins catalog c'.query = []) := by
  refine ⟨fun j c' hrun => ?_, fun j hj => ?_, fun js hjs => ?_⟩
  · rw [Edit.of_run_addJoin hrun, suggestJoins_withJoins]
    simp
  · have hsides := sides_of_mem_suggestJoins hj
    exact ⟨_, Edit.run_addJoin_of_sides hsides.1 hsides.2⟩
  · have hothers : suggestJoins catalog { c.query with joins := c.query.joins ++ js } =
        (suggestJoins catalog c.query).filter (· ∉ js) := by
      rw [suggestJoins_withJoins]
      refine List.filter_congr fun i hi => ?_
      simp only [ends_mem_iff hi hjs]
    refine ⟨_, Edit.run_addJoins fun j hj => sides_of_mem_suggestJoins (hjs hj), hothers, ?_⟩
    intro hall
    rw [hothers, List.filter_eq_nil_iff]
    intro i hi
    simpa using hall hi

/-- Two columns of the items refer to the two key columns of the orders.  The join that is accepted
first is written the other way round and in other letters than the suggestion that it takes out. -/
theorem suggestions_after_joins_of_composite_key :
    let catalog : Catalog :=
      { tables :=
          [{ name := "orders", columns := [{ name := "shop" }, { name := "no" }]
             primaryKey := ["shop", "no"] },
           { name := "items"
             columns :=
               [{ name := "shop", foreignKey := some ⟨"orders", "shop"⟩ },
                { name := "order_no", foreignKey := some ⟨"orders", "no"⟩ }] }] }
    let c : Canvas := { query := { tables := [⟨"orders", some "o", 0⟩, ⟨"items", none, 1⟩] } }
    let byShop : Join := ⟨.inner, "items", "shop", "o", "shop"⟩
    let byNumber : Join := ⟨.inner, "items", "order_no", "o", "no"⟩
    let mirrored : Join := ⟨.left, "o", "NO", "items", "Order_No"⟩
    suggestJoins catalog c.query = [byShop, byNumber] ∧
      (∃ c', (Edit.addJoin mirrored).run c = .ok mirrored c' ∧
        suggestJoins catalog c'.query = [byShop]) ∧
      ∃ c', ([byNumber, byShop].mapM Edit.addJoin).run c = .ok [byNumber, byShop] c' ∧
        suggestJoins catalog c'.query = [] := by
  intro catalog c byShop byNumber mirrored
  have hboth : suggestJoins catalog c.query = [byShop, byNumber] := by decide +kernel
  rcases suggestions_after_joins catalog c with ⟨hone, _, hmany⟩
  refine ⟨hboth, ?_, ?_⟩
  · have hrun : ∃ c', (Edit.addJoin mirrored).run c = .ok mirrored c' := ⟨_, rfl⟩
    rcases hrun with ⟨c', hrun⟩
    refine ⟨c', hrun, ?_⟩
    rw [hone mirrored c' hrun, hboth]
    decide +kernel
  · rw [hboth] at hmany
    rcases hmany [byNumber, byShop] (by simp) with ⟨c', hrun, _, hnone⟩
    exact ⟨c', hrun, hnone (by simp)⟩

end Canvas

end QueryDesigner

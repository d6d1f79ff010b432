import QueryDesigner.Proofs.Canvas.Step

/-!
# No edit leaves a reference dangling

* `Query.Anchored` — every reference that names a table names one of the query;
* `Canvas.Step.anchored` — the step lemma: a step keeps references anchored if those that it hands
  over are;
* `Canvas.HandsOverAnchored`, `Canvas.anchored_afterAll` — the run lemma;
* `Canvas.forgets_of_removeTable` — a table that is removed takes along all that refers to it.

A reference is a text, and a rename or a removal matches it by its beginning.  Where one key is the
beginning of another it may be meant for either; it is anchored all the same.
-/

namespace QueryDesigner

namespace Query

/-- Every reference that names a table names one of the query. -/
def Anchored (q : Query) : Prop := ∀ r ∈ q.references, Reference.Anchored q.tableKeys r

namespace Anchored

variable {q r : Query}

theorem empty : ({} : Query).Anchored := by simp [Anchored, references]

/-- The keys decide, and not the tables behind them. -/
theorem of_subset (h : q.Anchored) (hkeys : q.tableKeys ⊆ r.tableKeys)
    (hreferences : r.references = q.references) : r.Anchored := by
  intro ref href
  exact (h ref (hreferences ▸ href)).mono hkeys

theorem withoutTable (h : q.Anchored) (key : String) : (q.withoutTable key).Anchored := by
  intro ref href
  rw [references_withoutTable, List.mem_filter] at href
  refine (h ref href.1).of_not_refersTo (by simpa using href.2) ?_
  intro k hk hne
  rw [tableKeys_withoutTable]
  exact List.mem_filter.2 ⟨hk, by simpa using hne⟩

theorem renamed {old new : String} {aliasName : Option String} {table : TableRef} :
    q.Anchored → q.findTable? old = some table →
      ({ table with aliasName } : TableRef).key = new → (q.renamed old new aliasName).Anchored := by
  intro h hfind hkey ref href
  rcases mem_tableKeys_renamed hfind hkey with ⟨hnew, hothers⟩
  rw [references_renamed] at href
  rcases List.mem_map.1 href with ⟨before, hbefore, rfl⟩
  exact (h before hbefore).requalify hnew hothers

end Anchored

end Query

namespace Canvas

variable {c c' : Canvas}

/-! ## Steps -/

/-- A step keeps references anchored, provided that those that it hands over are without a table or
name a table that is there at that moment. -/
theorem Step.anchored {given : List String} (h : c.Step given c') :
    (∀ r ∈ given, Reference.Anchored c.query.tableKeys r) → c.query.Keyed → c.query.Anchored →
      c'.query.Anchored := by
  intro hgiven hkeyed hc
  cases h with
  | stays =>
      exact hc
  | tableIn _ =>
      exact hc.of_subset (Query.tableKeys_withTable c.query _ ▸ List.subset_append_left _ _) rfl
  | toggledIn _ _ =>
      exact hc.of_subset (Query.tableKeys_withTable c.query _ ▸ List.subset_append_left _ _) rfl
  | tableOut key =>
      exact hc.withoutTable key
  | aliased hfind hsame =>
      exact hc.of_subset (Query.tableKeys_withAlias hfind hsame ▸ List.Subset.refl _) rfl
  | renamed hfind _ hnew =>
      exact hc.renamed hfind hnew
  | @reordered keys hperm =>
      have hkeys : (c.query.inOrder keys).tableKeys = keys :=
        (hkeyed.distinct.tables_inOrder hperm).1
      have hsubset : c.query.tableKeys ⊆ (c.query.inOrder keys).tableKeys := by
        rw [hkeys]
        exact hperm.symm.subset
      exact hc.of_subset hsubset rfl
  | selected s _ =>
      exact hc.of_subset (List.Subset.refl _) rfl
  | allSelected s =>
      exact hc.of_subset (Query.tableKeys_withEverySelection c.query s ▸ List.Subset.refl _)
        (Query.references_withEverySelection c.query s)
  | joined _ =>
      exact hc
  | referred htables _ _ hreferences =>
      intro r hr
      rw [Query.tableKeys, htables]
      exact (hreferences r hr).elim (hc r) (hgiven r)
  | cleared =>
      exact .empty

/-! ## Runs -/

/-- Every reference that is handed over in a run is, at that moment, without a table or names a
table that is there. -/
def HandsOverAnchored (c : Canvas) : List Event → Prop
  | [] => True
  | e :: rest =>
    (∀ r ∈ e.given, Reference.Anchored c.query.tableKeys r) ∧ (c.after e).HandsOverAnchored rest

instance decidableHandsOverAnchored :
    (c : Canvas) → (events : List Event) → Decidable (c.HandsOverAnchored events)
  | _, [] => .isTrue trivial
  | c, e :: rest =>
    have := decidableHandsOverAnchored (c.after e) rest
    inferInstanceAs (Decidable (_ ∧ (c.after e).HandsOverAnchored rest))

theorem anchored_after {e : Event} :
    (∀ r ∈ e.given, Reference.Anchored c.query.tableKeys r) → c.query.Keyed → c.query.Anchored →
      (c.after e).query.Anchored := by
  intro hgiven hkeyed hc
  cases e with
  | mutate m =>
      exact (m.step c).anchored hgiven hkeyed hc
  | attach catalog =>
      exact hc

theorem anchored_afterAll {events : List Event} (n : Nat) :
    c.HandsOverAnchored events → c.query.Keyed → c.query.Anchored →
      (c.afterAll (events.take n)).query.Anchored := by
  intro hevents hkeyed hc
  induction events generalizing c n with
  | nil =>
      simpa [afterAll] using hc
  | cons e rest ih =>
      cases n with
      | zero =>
          exact hc
      | succ n =>
          exact ih n hevents.2 (keyed_after e hkeyed) (anchored_after hevents.1 hkeyed hc)

theorem forgets_of_removeTable {key : String} :
    (Mutation.removeTable key).edit.run c = .ok () c' → c'.query.Forgets key := by
  intro hrun
  rw [Mutation.edit, Edit.run_removeTable] at hrun
  split at hrun
  · rw [← (EStateM.Result.ok.inj hrun).2]
    exact c.query.forgets_withoutTable key
  · cases hrun

/-- After every step of a run from an empty canvas each reference is without a table or names one of
the query, and each join ends in tables of the query, as long as the references that the run hands
over do so when they are handed over.  And a table that is removed at any point of the run leaves
nothing behind that refers to it. -/
theorem no_dangling_reference (catalog : Option Catalog) (events : List Event) :
    ({ catalog } : Canvas).HandsOverAnchored events →
      ∀ n, let c := ({ catalog } : Canvas).afterAll (events.take n)
        c.query.Anchored ∧
        (∀ j ∈ c.query.joins, j.leftTable ∈ c.query.tableKeys ∧ j.rightTable ∈ c.query.tableKeys) ∧
        ∀ key c', (Mutation.removeTable key).edit.run c = .ok () c' → c'.query.Forgets key := by
  intro hevents n c
  have hkeyed : c.query.Keyed := keyed_afterAll _ .empty
  exact ⟨anchored_afterAll n hevents .empty .empty, hkeyed.joinEnds,
    fun key c' => forgets_of_removeTable⟩

/-- One key is the beginning of the other, so that the sort entry is meant for either.  It goes with
the table of the first key.  Then the key is in use again. -/
theorem no_dangling_reference_of_nested_keys :
    let run (events : List Mutation) : List Event := events.map .mutate
    let shared := run [.addTable "users" false, .addTable "orders" false,
      .setAlias "users" (some "u"), .setAlias "orders" (some "u.v"),
      .addJoin { leftTable := "u", rightTable := "u.v" },
      .addOrder "u.v.id" (.ok .ascending), .addGroup "total"]
    let again := run [.removeTable "u", .addTable "users" false, .setAlias "users" (some "u"),
      .addCondition { column := "u.name" }]
    let c := ({} : Canvas).afterAll (shared ++ again)
    (({} : Canvas).afterAll shared).query.references = ["u.v.id", "total"] ∧
      c.query.references = ["u.name", "total"] ∧ c.query.Anchored ∧
        ∃ c', (Mutation.removeTable "u").edit.run c = .ok () c' ∧ c'.query.Forgets "u" := by
  intro run shared again c
  have hevents : ({} : Canvas).HandsOverAnchored (shared ++ again) := by
    decide +kernel
  rcases no_dangling_reference none (shared ++ again) hevents (shared ++ again).length with
    ⟨hanchored, _, hforgets⟩
  rw [List.take_length] at hanchored hforgets
  have hremove : ∃ c', (Mutation.removeTable "u").edit.run c = .ok () c' := ⟨_, rfl⟩
  rcases hremove with ⟨c', hrun⟩
  exact ⟨by decide +kernel, by decide +kernel, hanchored, c', hrun, hforgets "u" c' hrun⟩

end Canvas

end QueryDesigner

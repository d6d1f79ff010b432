import QueryDesigner.Proofs.Canvas.WellFormed

/-!
# Runs of edits

* `Event` — a mutation, or another catalog put in place;
* `Canvas.afterAll` — the canvas after a list of events, of which any may have failed;
* `Canvas.wellFormed_afterAll` — the run lemma;
* `Canvas.Consistent` — what a well-formed canvas offers to its readers.
-/

namespace QueryDesigner

/-- What happens to a canvas. -/
inductive Event where
  | mutate (m : Mutation)
  | attach (catalog : Option Catalog)

namespace Event

def edit : Event → Edit Unit
  | mutate m => m.edit
  | attach catalog => Edit.attachCatalog catalog

/-- A catalog that is attached lists no column of a table twice. -/
def Admissible : Event → Prop
  | mutate _ => True
  | attach catalog => ∀ k ∈ catalog, k.NoRepeats

end Event

namespace Canvas

/-- The canvas after an event, whether it succeeds or not. -/
def after (c : Canvas) (e : Event) : Canvas := finalState (e.edit.run c)

def afterAll (c : Canvas) (events : List Event) : Canvas := events.foldl after c

/-! ## Well-formed canvases along a run -/

variable {c : Canvas}

theorem wellFormed_after {e : Event} :
    e.Admissible → c.WellFormed ∧ c.NoRepeats → (c.after e).WellFormed ∧ (c.after e).NoRepeats := by
  intro he hc
  cases e with
  | mutate m =>
      refine ⟨m.wellFormed_run hc.1 hc.2, ?_⟩
      have hcatalog : (c.after (.mutate m)).catalog = c.catalog := m.catalog_run c
      rw [NoRepeats, hcatalog]
      exact hc.2
  | attach catalog =>
      exact ⟨⟨hc.1.query, hc.1.ordinals, hc.1.below⟩, he⟩

theorem wellFormed_afterAll {events : List Event} :
    (∀ e ∈ events, e.Admissible) → c.WellFormed ∧ c.NoRepeats →
      (c.afterAll events).WellFormed := by
  induction events generalizing c with
  | nil =>
      intro _ hc
      exact hc.1
  | cons e rest ih =>
      intro hevents hc
      refine ih ?_ (wellFormed_after (hevents e (by simp)) hc)
      intro e' he'
      exact hevents e' (List.mem_cons_of_mem e he')

/-- Neither the catalog at the start nor any that is attached lists a column of a table twice. -/
theorem noRepeats_afterAll {events : List Event} :
    (∀ e ∈ events, e.Admissible) → c.WellFormed ∧ c.NoRepeats →
      (c.afterAll events).NoRepeats := by
  induction events generalizing c with
  | nil =>
      intro _ hc
      exact hc.2
  | cons e rest ih =>
      intro hevents hc
      refine ih ?_ (wellFormed_after (hevents e (by simp)) hc)
      intro e' he'
      exact hevents e' (List.mem_cons_of_mem e he')

/-! ## What readers of a canvas rely on -/

/-- The parts of a canvas agree with each other: keys identify tables, selections stand for exactly
the tables there are, joins end in them, and ordinals tell in which order tables came in. -/
structure Consistent (c : Canvas) : Prop where
  keys_ne_empty : ∀ key ∈ c.query.tableKeys, key ≠ ""
  keys_nodup : c.query.tableKeys.Nodup
  selected_nodup : c.query.columns.keys.Nodup
  mem_selected : ∀ key, key ∈ c.query.columns.keys ↔ key ∈ c.query.tableKeys
  selections : ∀ entry ∈ c.query.columns.entries,
    entry.2 = .every ∨ ∃ columns, entry.2 = .only columns ∧ columns.Nodup
  joinEnds : ∀ j ∈ c.query.joins,
    j.leftTable ∈ c.query.tableKeys ∧ j.rightTable ∈ c.query.tableKeys
  limit_nonneg : ∀ n ∈ c.query.limit, (0 : Int) ≤ n
  offset_nonneg : ∀ n ∈ c.query.offset, (0 : Int) ≤ n
  ordinals_nodup : (c.query.tables.map TableRef.ordinal).Nodup
  /-- The next table that comes in, by whatever name, comes after all that are there. -/
  ordinals_lt : ∀ (name : String) (forced : Bool) (table : TableRef) (c' : Canvas),
    (Edit.addTable name forced).run c = .ok table c' →
      ∀ t ∈ c.query.tables, t.ordinal < table.ordinal

theorem WellFormed.consistent (h : c.WellFormed) : c.Consistent where
  keys_ne_empty := h.query.keyed.key_ne_empty
  keys_nodup := h.query.distinct
  selected_nodup := h.query.keyed.keys_nodup
  mem_selected := fun _ => h.query.keyed.mem_keys
  selections := by
    intro entry hentry
    have hdistinct := h.query.selections entry hentry
    cases hsel : entry.2 with
    | every =>
        exact .inl rfl
    | only columns =>
        rw [hsel] at hdistinct
        exact .inr ⟨columns, rfl, hdistinct⟩
  joinEnds := h.query.joinEnds
  limit_nonneg := fun n _ => Int.natCast_nonneg n
  offset_nonneg := fun n _ => Int.natCast_nonneg n
  ordinals_nodup := h.ordinals
  ordinals_lt := by
    intro name forced table c' hadd t ht
    rw [Edit.run_addTable] at hadd
    split_ifs at hadd
    rw [← (EStateM.Result.ok.inj hadd).1]
    exact h.below t ht

end Canvas

end QueryDesigner

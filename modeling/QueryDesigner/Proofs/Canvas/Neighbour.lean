import QueryDesigner.Proofs.Canvas.Step
import QueryDesigner.Proofs.Query.Qualified

/-!
# What a table keeps when another one goes

A removal takes along all that refers to a table, and a rename rewrites it.  Both find references by
how they start, while the key that a reference names stands before its last full stop.

* `Mutation.Displaces`, `Mutation.keyAfter?` — the two calls, and the key under which references are
  found after them;
* `Reference.followed` — what becomes of a reference;
* `Query.Spares`, `Query.KeepsReferences` — what another table keeps: its selection, the joins in
  which the first table has no part, and the references to its columns;
* `Canvas.neighbour_kept` — the selection and the joins are always kept, and the references are,
  unless the key of the first table and a full stop start the other key.
-/

namespace QueryDesigner

/-- The call removes the table with that key, or asks for another alias of it. -/
def Mutation.Displaces (key : String) : Mutation → Prop
  | removeTable k | setAlias k _ => k = key
  | _ => False

/-- The key of a table after the call, if it is still there. -/
def Mutation.keyAfter? (c : Canvas) : Mutation → Option String
  | setAlias key aliasName =>
    (c.query.findTable? key).map fun t => (Edit.requestedAlias aliasName).getD t.name
  | _ => none

/-- What becomes of a reference when the table of a key gets a new key, or goes and gets none. -/
def Reference.followed (key : String) (new? : Option String) (ref : String) : Option String :=
  if refersTo ref key then new?.map (requalify ref key) else some ref

namespace Reference

variable {key other ref : String}

/-- A reference to another table stays, unless it starts with the key that gets lost. -/
theorem followed_eq_self_iff {new? : Option String} (href : qualifier? ref = some other)
    (hne : other ≠ key) :
    followed key new? ref = some ref ↔ refersTo other key = false ∨ new? = some key := by
  have hsame := refersTo_iff_of_qualifier? href hne
  cases hother : refersTo other key with
  | false =>
      have href' : refersTo ref key = false := by simpa [hother] using hsame
      simp [followed, href']
  | true =>
      have href' : refersTo ref key = true := by simpa [hother] using hsame
      rcases refersTo_iff_exists.1 href' with ⟨column, rfl⟩
      cases new? with
      | none =>
          simp [followed]
      | some new =>
          -- The same column under two keys is the same reference only if the keys are the same.
          have hkeys : qualified new column = qualified key column ↔ new = key := by
            refine ⟨fun h => ?_, fun h => h ▸ rfl⟩
            have hlists := congrArg String.toList h
            simp only [toList_qualified, lead] at hlists
            have hleads := List.append_cancel_right hlists
            exact String.toList_injective (List.append_cancel_right hleads)
          simp [followed, hkeys]

theorem followed_self (key ref : String) : followed key (some key) ref = some ref := by
  by_cases href : refersTo ref key = true
  · rcases refersTo_iff_exists.1 href with ⟨column, rfl⟩
    simp [followed]
  · simp [followed, href]

end Reference

namespace Query

variable {q r : Query} {key other new : String}

/-- The second query keeps what another table has in the first one, apart from references: its
selection, and the joins in which the table of `key` has no part. -/
structure Spares (q : Query) (key other : String) (r : Query) : Prop where
  selection : r.columns.get? other = q.columns.get? other
  joins : (q.joins.filter fun j => !j.mentions key).Sublist r.joins

/-- The second query keeps the references of the first one to columns of a table, unchanged and in
their order. -/
structure KeepsReferences (q : Query) (other : String) (r : Query) : Prop where
  conditions :
    (q.conditions.filter fun c => Reference.qualifier? c.column == some other).Sublist r.conditions
  orders : (q.orderBy.filter fun o => Reference.qualifier? o.column == some other).Sublist r.orderBy
  groups : (q.groupBy.filter fun g => Reference.qualifier? g == some other).Sublist r.groupBy

/-- Items that a map leaves alone are kept by it, in their order. -/
theorem filter_sublist_map {α : Type} {p : α → Bool} {f : α → α} {xs : List α}
    (h : ∀ x, p x = true → f x = x) : (xs.filter p).Sublist (xs.map f) := by
  have hfixed : (xs.filter p).map f = xs.filter p := by
    calc
      (xs.filter p).map f
          = (xs.filter p).map id :=
            List.map_congr_left fun x hx => h x (List.mem_filter.1 hx).2
      _ = xs.filter p := List.map_id _
  have hsublist : ((xs.filter p).map f).Sublist (xs.map f) :=
    List.Sublist.map f List.filter_sublist
  rwa [hfixed] at hsublist

/-! ## A table that goes -/

theorem spares_withoutTable (q : Query) (hne : other ≠ key) :
    q.Spares key other (q.withoutTable key) where
  selection := Selections.get?_erase_of_ne q.columns hne
  joins := .refl _

theorem references_withoutTable_eq (q : Query) (key : String) :
    (q.withoutTable key).references =
      q.references.filterMap (Reference.followed key none) := by
  rw [references_withoutTable, ← List.filterMap_eq_filter]
  refine List.filterMap_congr fun ref _ => ?_
  by_cases href : Reference.refersTo ref key = true <;>
    simp [Reference.followed, Option.guard, href]

/-- What has to stay is among what stays. -/
theorem keepsReferences_withoutTable (q : Query) (hne : other ≠ key)
    (hother : Reference.refersTo other key = false) :
    q.KeepsReferences other (q.withoutTable key) := by
  have hstays : ∀ ref, (Reference.qualifier? ref == some other) = true →
      (!Reference.refersTo ref key) = true := by
    intro ref href
    have hsame := Reference.refersTo_iff_of_qualifier? (by simpa using href) hne
    simpa [hother] using hsame
  constructor
  · exact List.monotone_filter_right _ fun c hc => hstays c.column hc
  · exact List.monotone_filter_right _ fun o ho => hstays o.column ho
  · exact List.monotone_filter_right _ fun g hg => hstays g hg

/-! ## A table that changes its key -/

theorem spares_renamed {aliasName : Option String} (hq : q.Keyed) (hfree : new ∉ q.tableKeys)
    (hother : other ∈ q.tableKeys) (hne : other ≠ key) :
    q.Spares key other (q.renamed key new aliasName) where
  selection := by
    have hfree' : new ∉ q.columns.keys := fun hmem => hfree (hq.mem_keys.1 hmem)
    have hnew : other ≠ new := fun heq => hfree (heq ▸ hother)
    exact Selections.get?_rekey_of_ne hq.keys_nodup hfree' hne hnew
  joins := by
    refine filter_sublist_map fun j hj => ?_
    have hends : j.leftTable ≠ key ∧ j.rightTable ≠ key := by simpa [Join.mentions] using hj
    simp [Join.rekey, hends]

theorem references_renamed_eq (q : Query) (key new : String) (aliasName : Option String) :
    (q.renamed key new aliasName).references =
      q.references.filterMap (Reference.followed key (some new)) := by
  rw [references_renamed, ← List.filterMap_eq_map]
  refine List.filterMap_congr fun ref _ => ?_
  by_cases href : Reference.refersTo ref key = true
  · simp [Reference.followed, href]
  · simp [Reference.followed, href, Reference.requalify_of_not href]

theorem keepsReferences_renamed (q : Query) (aliasName : Option String) (hne : other ≠ key)
    (hother : Reference.refersTo other key = false) :
    q.KeepsReferences other (q.renamed key new aliasName) := by
  have hstays : ∀ ref, (Reference.qualifier? ref == some other) = true →
      Reference.requalify ref key new = ref := by
    intro ref href
    have hsame := Reference.refersTo_iff_of_qualifier? (by simpa using href) hne
    exact Reference.requalify_of_not (by simp [hsame, hother])
  constructor
  · exact filter_sublist_map fun c hc => by rw [hstays c.column hc]
  · exact filter_sublist_map fun o ho => by rw [hstays o.column ho]
  · exact filter_sublist_map fun g hg => hstays g hg

/-! ## A table that keeps its key -/

theorem spares_withAlias (q : Query) (key : String) (aliasName : Option String) :
    q.Spares key other (q.withAlias key aliasName) where
  selection := rfl
  joins := List.filter_sublist

theorem keepsReferences_withAlias (q : Query) (key : String) (aliasName : Option String) :
    q.KeepsReferences other (q.withAlias key aliasName) :=
  ⟨List.filter_sublist, List.filter_sublist, List.filter_sublist⟩

end Query

namespace Canvas

variable {c c' : Canvas} {key : String} {m : Mutation}

/-- What a successful call does that displaces a table: the table goes, or it keeps its key, or it
gets one that was free. -/
theorem displaced_cases :
    m.Displaces key → m.edit.run c = .ok () c' →
      (m.keyAfter? c = none ∧ c' = { c with query := c.query.withoutTable key }) ∨
      (∃ given, m.keyAfter? c = some key ∧
        c' = { c with query := c.query.withAlias key given }) ∨
      ∃ new given, m.keyAfter? c = some new ∧ new ∉ c.query.tableKeys ∧
        c' = { c with query := c.query.renamed key new given } := by
  intro hm hrun
  cases m with
  | removeTable k =>
      obtain rfl : k = key := hm
      rw [Mutation.edit, Edit.run_removeTable] at hrun
      split at hrun
      · cases hrun
        exact .inl ⟨rfl, rfl⟩
      · cases hrun
  | setAlias k aliasName =>
      obtain rfl : k = key := hm
      rw [Mutation.edit, Edit.run_discard] at hrun
      cases hset : (Edit.setAlias k aliasName).run c with
      | error f d =>
          simp [hset] at hrun
      | ok table d =>
          obtain rfl : d = c' := by simpa [hset] using hrun
          rcases Edit.of_run_setAlias hset with ⟨t, hfind, rfl, hcases⟩
          have hafter : (Mutation.setAlias k aliasName).keyAfter? c =
              some ({ t with aliasName := Edit.requestedAlias aliasName } : TableRef).key := by
            rw [TableRef.key_requestedAlias]
            simp [Mutation.keyAfter?, hfind]
          rcases hcases with ⟨hsame, rfl⟩ | ⟨_, hfree, rfl⟩
          · exact .inr (.inl ⟨_, by rw [hafter, hsame], rfl⟩)
          · exact .inr (.inr ⟨_, _, hafter, hfree, rfl⟩)
  | _ =>
      exact absurd hm id

/-- After any run from an empty canvas, a table is removed or gets another alias.  Another table
keeps its selection and the joins in which the first one has no part.  It keeps the conditions, the
sort entries and the groups that refer to its columns, unchanged and in their order, if its key does
not start with the key of the first table and a full stop.  If it does, each reference to its
columns goes or is rewritten as if it were meant for the first table, unless that table keeps its
key. -/
theorem neighbour_kept (catalog : Option Catalog) (events : List Event) (m : Mutation)
    (key other : String) (c' : Canvas) :
    let c := ({ catalog } : Canvas).afterAll events
    m.Displaces key → other ∈ c.query.tableKeys → other ≠ key → m.edit.run c = .ok () c' →
      c.query.Spares key other c'.query ∧
      (Reference.refersTo other key = false → c.query.KeepsReferences other c'.query) ∧
      c'.query.references =
        c.query.references.filterMap (Reference.followed key (m.keyAfter? c)) ∧
      ∀ r, Reference.qualifier? r = some other →
        (Reference.followed key (m.keyAfter? c) r = some r ↔
          Reference.refersTo other key = false ∨ m.keyAfter? c = some key) := by
  intro c hm hother hne hrun
  have hkeyed : c.query.Keyed := keyed_afterAll events .empty
  refine and_assoc.1 (and_assoc.1 ⟨?_, fun r hr => Reference.followed_eq_self_iff hr hne⟩)
  rcases displaced_cases hm hrun with
    ⟨hafter, rfl⟩ | ⟨given, hafter, rfl⟩ | ⟨new, given, hafter, hfree, rfl⟩
  · rw [hafter]
    exact ⟨⟨c.query.spares_withoutTable hne, c.query.keepsReferences_withoutTable hne⟩,
      c.query.references_withoutTable_eq key⟩
  · rw [hafter]
    refine ⟨⟨c.query.spares_withAlias key given,
      fun _ => c.query.keepsReferences_withAlias key given⟩, ?_⟩
    rw [List.filterMap_congr (g := some) fun r _ => Reference.followed_self key r]
    simp [Query.references, Query.withAlias]
  · rw [hafter]
    exact ⟨⟨Query.spares_renamed hkeyed hfree hother hne,
      c.query.keepsReferences_renamed given hne⟩, c.query.references_renamed_eq key new given⟩

/-- The one key is the start of the other one, but the full stop after it is not.  The rename passes
over the references to the other table, and rewrites its own. -/
theorem neighbour_kept_of_shorter_key :
    let c := ({} : Canvas).afterAll
      ([.addTable "orders" false, .addTable "customers" false, .setAlias "customers" (some "o"),
        .addJoin { leftTable := "o", rightTable := "orders" },
        .addCondition { column := "orders.total", value := "1" },
        .addOrder "o.name" (.ok .ascending), .addGroup "orders.day"].map .mutate)
    ∃ c', (Mutation.setAlias "o" (some "c")).edit.run c = .ok () c' ∧
      c.query.Spares "o" "orders" c'.query ∧ c.query.KeepsReferences "orders" c'.query ∧
      c'.query.references = ["orders.total", "c.name", "orders.day"] := by
  intro c
  have hrename : ∃ c', (Mutation.setAlias "o" (some "c")).edit.run c = .ok () c' := ⟨_, rfl⟩
  rcases hrename with ⟨c', hrun⟩
  have hother : "orders" ∈ c.query.tableKeys := by decide +kernel
  have hapart : Reference.refersTo "orders" "o" = false := by decide +kernel
  rcases neighbour_kept none _ (.setAlias "o" (some "c")) "o" "orders" c' rfl hother (by decide)
    hrun with ⟨hspares, hkeeps, hreferences, _⟩
  refine ⟨c', hrun, hspares, hkeeps hapart, ?_⟩
  rw [hreferences]
  decide +kernel

/-- The one key with its full stop is the start of the other one: the group goes with the wrong
table. -/
example :
    let c := ({} : Canvas).afterAll
      ([.addTable "shop" false, .addTable "shop.orders" false, .addGroup "shop.orders.day",
        .removeTable "shop"].map .mutate)
    c.query.tableKeys = ["shop.orders"] ∧ c.query.groupBy = [] := by
  decide +kernel

end Canvas

end QueryDesigner

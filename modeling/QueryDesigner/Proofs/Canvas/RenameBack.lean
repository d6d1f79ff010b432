import QueryDesigner.Proofs.Canvas.Trimmed
import QueryDesigner.Proofs.Query.Qualified

/-!
# A rename is undone by the rename back

* `Join.rekey_rekey`, `Selections.rekey_rekey`, `Reference.requalify_requalify` — each part of a
  query that has nothing to do with the new key comes back;
* `Query.renamed_renamed` — the whole query comes back, with the old alias of the table;
* `Edit.run_setAlias_of_free` — a request for an alias that makes a free key is a rename;
* `Canvas.setAlias_undone` — a rename to a free key that no reference starts with succeeds, and so
  does the request for the old alias after it, which leaves the canvas as it was.

The old alias is asked for as it was given, so that the way back leans on aliases being trimmed.
-/

namespace QueryDesigner

/-- A join that does not end in the new key. -/
theorem Join.rekey_rekey {j : Join} {old new : String} (hleft : j.leftTable ≠ new)
    (hright : j.rightTable ≠ new) : (j.rekey old new).rekey new old = j :=
  congrArg₂ (fun l r => { j with leftTable := l, rightTable := r })
    (Selections.rekey_back hleft) (Selections.rekey_back hright)

namespace Query

variable {q : Query} {old new : String} {aliasName : Option String} {table : TableRef}

/-- Two maps of which the second one takes every item back. -/
theorem map_map_eq_self {α : Type} {f g : α → α} {xs : List α} (h : ∀ x ∈ xs, g (f x) = x) :
    (xs.map f).map g = xs :=
  calc
    (xs.map f).map g
        = xs.map fun x => g (f x) := List.map_map
    _ = xs.map fun x => x := List.map_congr_left h
    _ = xs := List.map_id' xs

/-- To the new key and back, where nothing of the query has to do with the new key. -/
theorem renamed_renamed (h : q.Keyed) (hfind : q.findTable? old = some table)
    (hfree : new ∉ q.tableKeys) (hnew : ({ table with aliasName } : TableRef).key = new)
    (hrefs : ∀ r ∈ q.references, Reference.refersTo r new = false) :
    (q.renamed old new aliasName).renamed new old table.aliasName = q := by
  have htables : ((q.renamed old new aliasName).renamed new old table.aliasName).tables =
      q.tables := by
    refine map_map_eq_self fun t ht => ?_
    by_cases hold : t.key = old
    · -- Only the table itself has the old key, and it gets its alias back.
      obtain rfl := h.eq_of_key hfind ht hold
      simp [hold, hnew]
    · have hne : t.key ≠ new := fun heq => hfree (heq ▸ List.mem_map_of_mem ht)
      simp [hold, hne]
  have hcolumns : (q.columns.rekey old new).rekey new old = q.columns :=
    Selections.rekey_rekey h.keys_nodup fun hmem => hfree (h.mem_keys.1 hmem)
  have hjoins : (q.joins.map (Join.rekey old new)).map (Join.rekey new old) = q.joins := by
    refine map_map_eq_self fun j hj => ?_
    have hends := h.joinEnds j hj
    exact Join.rekey_rekey (fun heq => hfree (heq ▸ hends.1)) fun heq => hfree (heq ▸ hends.2)
  have hback : ∀ r ∈ q.references,
      Reference.requalify (Reference.requalify r old new) new old = r :=
    fun r hr => Reference.requalify_requalify (hrefs r hr)
  have hconditions : ((q.renamed old new aliasName).renamed new old table.aliasName).conditions =
      q.conditions := by
    refine map_map_eq_self fun c hc => ?_
    have hcolumn : c.column ∈ q.references := mem_references.2 (.inl ⟨c, hc, rfl⟩)
    simp [hback c.column hcolumn]
  have horders : ((q.renamed old new aliasName).renamed new old table.aliasName).orderBy =
      q.orderBy := by
    refine map_map_eq_self fun o ho => ?_
    have hcolumn : o.column ∈ q.references := mem_references.2 (.inr (.inl ⟨o, ho, rfl⟩))
    simp [hback o.column hcolumn]
  have hgroups : ((q.renamed old new aliasName).renamed new old table.aliasName).groupBy =
      q.groupBy := by
    refine map_map_eq_self fun g hg => ?_
    have hgroup : g ∈ q.references := mem_references.2 (.inr (.inr hg))
    exact hback g hgroup
  -- The limit and the offset have no part in a rename.
  cases q
  exact (mk.injEq ..).mpr ⟨htables, hcolumns, hjoins, hconditions, horders, hgroups, rfl, rfl⟩

/-- No table has the old key after a rename. -/
theorem Keyed.notMem_tableKeys_renamed (h : q.Keyed) (hfind : q.findTable? old = some table)
    (hnew : ({ table with aliasName } : TableRef).key = new) (hne : new ≠ old) :
    old ∉ (q.renamed old new aliasName).tableKeys := by
  rw [h.tableKeys_renamed hfind hnew]
  intro hmem
  rcases List.mem_map.1 hmem with ⟨k, _, hk⟩
  by_cases hsame : k = old
  · rw [if_pos hsame] at hk
    exact hne hk
  · rw [if_neg hsame] at hk
    exact hsame hk

end Query

/-- A request for an alias that makes a free key renames the table. -/
theorem Edit.run_setAlias_of_free {key new : String} {request aliasName : Option String}
    {table : TableRef} {c : Canvas} (hfind : c.query.findTable? key = some table)
    (hrequest : requestedAlias request = aliasName)
    (hnew : ({ table with aliasName } : TableRef).key = new) (hne : new ≠ key)
    (hfree : new ∉ c.query.tableKeys) :
    (setAlias key request).run c =
      .ok { table with aliasName } { c with query := c.query.renamed key new aliasName } := by
  subst hrequest
  have hkey : (requestedAlias request).getD table.name = new :=
    (table.key_requestedAlias request).symm.trans hnew
  rw [run_setAlias]
  simp [hfind, hkey, hne, hfree]

namespace Canvas

/-- After any run from an empty canvas, a table gets an alias that is not blank.  Trimmed, the alias
is no key of the query, and with a full stop after it it starts no condition, sort entry or group.
Then it becomes the key of the table, which keeps its name, its ordinal and its place.  The request
for the old alias under the new key gives back the table and the canvas as they were. -/
theorem setAlias_undone (catalog : Option Catalog) (events : List Event) (table : TableRef)
    (s : String) :
    let c := ({ catalog } : Canvas).afterAll events
    let renamed : TableRef := { table with aliasName := some (Text.trim s) }
    table ∈ c.query.tables → Text.trim s ≠ "" → Text.trim s ∉ c.query.tableKeys →
      (∀ r ∈ c.query.references, Reference.refersTo r (Text.trim s) = false) →
        renamed.key = Text.trim s ∧
        ∃ c', (Edit.setAlias table.key (some s)).run c = .ok renamed c' ∧
          (∃ before after, c.query.tables = before ++ table :: after ∧
            c'.query.tables = before ++ renamed :: after) ∧
          (Edit.setAlias (Text.trim s) table.aliasName).run c' = .ok table c := by
  intro c renamed htable hblank hfree hrefs
  have hkeyed : c.query.Keyed := keyed_afterAll events .empty
  have htrimmed : c.query.Trimmed := trimmed_afterAll .empty .empty
  have hfind : c.query.findTable? table.key = some table := hkeyed.findTable?_of_mem htable
  have hnew : renamed.key = Text.trim s := by
    simp [renamed, TableRef.key, aliasOf, hblank]
  have hrequest : Edit.requestedAlias (some s) = some (Text.trim s) := by
    simp [Edit.requestedAlias, aliasOf, hblank]
  have hother : Text.trim s ≠ table.key := fun heq => hfree (heq ▸ List.mem_map_of_mem htable)
  let d : Canvas := { c with query := c.query.renamed table.key (Text.trim s) renamed.aliasName }
  have hthere : (Edit.setAlias table.key (some s)).run c = .ok renamed d :=
    Edit.run_setAlias_of_free hfind hrequest hnew hother hfree
  -- The old alias gives the old key, which the rename has set free.
  have hgone : table.key ∉ d.query.tableKeys := hkeyed.notMem_tableKeys_renamed hfind hnew hother
  have hfind' : d.query.findTable? (Text.trim s) = some renamed :=
    Query.findTable?_renamed hfind hfree hnew
  have hquery : d.query.renamed (Text.trim s) table.key table.aliasName = c.query :=
    Query.renamed_renamed hkeyed hfind hfree hnew hrefs
  have hreturn := Edit.run_setAlias_of_free (c := d) hfind' (htrimmed table htable) rfl
    hother.symm hgone
  have hback : (Edit.setAlias (Text.trim s) table.aliasName).run d = .ok table c :=
    calc
      (Edit.setAlias (Text.trim s) table.aliasName).run d
          = .ok table { c with query := d.query.renamed (Text.trim s) table.key table.aliasName } :=
            hreturn
      _ = .ok table c := by rw [hquery]
  exact ⟨hnew, d, hthere, hkeyed.tables_renamed hfind, hback⟩

/-- The second table of a name has an alias of its own, and an end of a join.  The new alias comes
with blanks around it. -/
theorem setAlias_undone_of_second_table :
    let c := ({} : Canvas).afterAll
      ([.addTable "staff" false, .addTable "staff" true, .setColumns "staff_2" (some ["name"]),
        .addJoin { leftTable := "staff", leftColumn := "boss",
                   rightTable := "staff_2", rightColumn := "id" },
        .addCondition { column := "staff_2.name", value := "Ada" },
        .addOrder "staff_2.name" (.ok .ascending), .addGroup "staff.name"].map .mutate)
    ∃ c', (Edit.setAlias "staff_2" (some " boss ")).run c = .ok ⟨"staff", some "boss", 1⟩ c' ∧
      (Edit.setAlias "boss" (some "staff_2")).run c' = .ok ⟨"staff", some "staff_2", 1⟩ c := by
  intro c
  have htrim : Text.trim " boss " = "boss" := by decide +kernel
  have htable : (⟨"staff", some "staff_2", 1⟩ : TableRef) ∈ c.query.tables := by decide +kernel
  have hfree : Text.trim " boss " ∉ c.query.tableKeys := by decide +kernel
  have hrefs : ∀ r ∈ c.query.references, Reference.refersTo r (Text.trim " boss ") = false := by
    decide +kernel
  rcases setAlias_undone none _ ⟨"staff", some "staff_2", 1⟩ " boss " htable (by decide +kernel)
    hfree hrefs with ⟨_, c', hrun, _, hback⟩
  rw [htrim] at hrun hback
  exact ⟨c', hrun, hback⟩

end Canvas

end QueryDesigner

import QueryDesigner.Proofs.Canvas.Step
import QueryDesigner.Proofs.Query.Guest

/-!
# A table that comes and goes

* `Mutation.Concerns` — the calls that are about the table of a key;
* `Canvas.Stay` — a run of successful calls about one table, under the keys that it has on the way;
* `Canvas.WithGuest` — the canvas with the guest, and all that was there before as it was;
* `Canvas.no_residue` — the canvas after the guest is removed.
-/

namespace QueryDesigner

/-- The calls that are about the table of a key and keep its key: its columns are selected, it is
joined, or one of its columns is referred to. -/
def Mutation.Concerns (key : String) : Mutation → Prop
  | toggleColumn k _ => k = key
  | setColumns k _ => k = key
  | addJoin join => join.mentions key = true
  | addCondition condition => Reference.refersTo condition.column key = true
  | addOrder column _ => Reference.refersTo column key = true
  | addGroup column => Reference.refersTo column key = true
  | _ => False

namespace Canvas

/-- Successful calls that are about one table, from a canvas on which it has one key to a canvas on
which it has another one.  The keys that it has on the way are listed. -/
inductive Stay : Canvas → String → List String → Canvas → String → Prop where
  | ended {c : Canvas} {key : String} : Stay c key [key] c key
  | concerned {c c' d : Canvas} {key last : String} {keys : List String} {m : Mutation} :
      m.Concerns key → m.edit.run c = .ok () c' → Stay c' key keys d last → Stay c key keys d last
  | renamed {c c' d : Canvas} {key last : String} {keys : List String}
      {aliasName : Option String} {table : TableRef} :
      (Edit.setAlias key aliasName).run c = .ok table c' → Stay c' table.key keys d last →
        Stay c key (key :: keys) d last

/-- The second canvas is the first one with a guest, which has taken one creation number. -/
def WithGuest (m : Canvas) (key : String) (c : Canvas) : Prop :=
  ∃ r, m.query.WithGuest key r ∧ c = ⟨r, m.catalog, m.nextOrdinal + 1⟩

theorem Stay.first_mem {c d : Canvas} {key last : String} {keys : List String} :
    Stay c key keys d last → key ∈ keys := by
  intro h
  induction h with
  | ended =>
      exact List.mem_singleton_self _
  | concerned _ _ _ ih =>
      exact ih
  | renamed _ _ _ =>
      exact List.mem_cons_self

namespace WithGuest

variable {m c c' : Canvas} {key : String}

/-! ## Arrival -/

theorem addTable {name : String} {forced : Bool} {table : TableRef} :
    m.query.Keyed → (∀ r ∈ m.query.references, Reference.refersTo r table.key = false) →
      (Edit.addTable name forced).run m = .ok table c → m.WithGuest table.key c := by
  intro hm hreferences hrun
  rw [Edit.run_addTable] at hrun
  split_ifs at hrun
  rcases EStateM.Result.ok.inj hrun with ⟨rfl, rfl⟩
  exact ⟨_, .withTable (hm.forgets (m.incoming_key_notMem _) hreferences), rfl⟩

/-! ## Steps -/

/-- A call that is about the guest leaves all else as it is. -/
theorem concerned {mutation : Mutation} :
    mutation.Concerns key → mutation.edit.run c = .ok () c' → m.WithGuest key c →
      m.WithGuest key c' := by
  rintro hconcerns hrun ⟨r, hr, rfl⟩
  cases mutation with
  | toggleColumn k column =>
      obtain rfl : k = key := hconcerns
      have hthere : r.hasTable k = true := by
        rw [Query.hasTable_iff, hr.tableKeys]
        simp
      simp only [Mutation.edit, Edit.run_discard, Edit.run_toggleColumn, Edit.run_tableForToggle,
        hthere, if_true, EStateM.Result.ok.injEq, true_and] at hrun
      exact ⟨_, hr.withSelection _, hrun.symm⟩
  | setColumns k columns =>
      obtain rfl : k = key := hconcerns
      rcases hr.findTable? with ⟨t, hfind, _, _⟩
      simp only [Mutation.edit, Edit.run_setColumns, hfind, EStateM.Result.ok.injEq,
        true_and] at hrun
      exact ⟨_, hr.withSelection _, hrun.symm⟩
  | addJoin join =>
      rw [Mutation.edit, Edit.run_discard, Edit.run_addJoin] at hrun
      cases hends : (Edit.requireEnds join).run ⟨r, m.catalog, m.nextOrdinal + 1⟩ with
      | ok _ _ =>
          simp only [hends, EStateM.Result.ok.injEq, true_and] at hrun
          exact ⟨_, hr.withJoin hconcerns, hrun.symm⟩
      | error f _ =>
          simp [hends] at hrun
  | addCondition condition =>
      cases hrun
      exact ⟨_, hr.withCondition hconcerns, rfl⟩
  | addOrder column direction =>
      rw [Mutation.edit, Edit.run_discard, Edit.run_addOrderWith] at hrun
      cases hfind : r.findOrder? column with
      | some order =>
          simp only [hfind, EStateM.Result.ok.injEq, true_and] at hrun
          exact ⟨r, hr, hrun.symm⟩
      | none =>
          cases direction with
          | error issues =>
              simp [hfind] at hrun
          | ok direction =>
              simp only [hfind, EStateM.Result.ok.injEq, true_and] at hrun
              exact ⟨_, hr.withOrder (o := ⟨column, direction⟩) hconcerns, hrun.symm⟩
  | addGroup column =>
      rw [Mutation.edit, Edit.run_addGroup] at hrun
      cases hrun
      by_cases hthere : r.groupBy.contains column = true
      · exact ⟨r, hr, by simp only [hthere, if_true]⟩
      · exact ⟨_, hr.withGroup hconcerns, by simp only [hthere, Bool.false_eq_true, if_false]⟩
  | _ =>
      exact absurd hconcerns id

/-- A rename takes along what has to do with the guest, and nothing else. -/
theorem renamed {aliasName : Option String} {table : TableRef} :
    m.query.Keyed → (∀ r ∈ m.query.references, Reference.refersTo r table.key = false) →
      (Edit.setAlias key aliasName).run c = .ok table c' → m.WithGuest key c →
        m.WithGuest table.key c' := by
  rintro hm hreferences hrun ⟨r, hr, rfl⟩
  rcases hr.findTable? with ⟨t, hfind, _, _⟩
  have hkey := TableRef.key_requestedAlias t aliasName
  simp only [Edit.run_setAlias, hfind] at hrun
  split_ifs at hrun with hsame hused
  · rcases EStateM.Result.ok.inj hrun with ⟨rfl, rfl⟩
    rw [hkey, hsame]
    exact ⟨_, hr.withAlias hfind (hkey.trans hsame), rfl⟩
  · rcases EStateM.Result.ok.inj hrun with ⟨rfl, rfl⟩
    rw [hkey] at hreferences ⊢
    -- The check was made among the keys of all tables, the guest included.
    have hfree : (Edit.requestedAlias aliasName).getD t.name ∉ m.query.tableKeys := by
      intro hmem
      refine hused ?_
      rw [hr.tableKeys]
      simp [hmem]
    exact ⟨_, hr.renamed hm (hm.forgets hfree hreferences) hfind (Ne.symm hsame) hkey, rfl⟩

/-! ## Runs -/

theorem stay {d : Canvas} {last : String} {keys : List String} :
    m.query.Keyed → (∀ r ∈ m.query.references, ∀ k ∈ keys, Reference.refersTo r k = false) →
      Stay c key keys d last → m.WithGuest key c → m.WithGuest last d := by
  intro hm hreferences hstay hc
  induction hstay with
  | ended =>
      exact hc
  | concerned hconcerns hrun _ ih =>
      exact ih hreferences (hc.concerned hconcerns hrun)
  | renamed hrun hrest ih =>
      -- The new key is the first one of the rest of the stay, so that it is spared as well.
      refine ih ?_ (hc.renamed hm ?_ hrun)
      · intro r hr k hk
        exact hreferences r hr k (List.mem_cons_of_mem _ hk)
      · intro r hr
        exact hreferences r hr _ (List.mem_cons_of_mem _ hrest.first_mem)

/-! ## Departure -/

theorem removeTable (h : m.WithGuest key c) :
    (Edit.removeTable key).run c = .ok () { m with nextOrdinal := m.nextOrdinal + 1 } := by
  rcases h with ⟨r, hr, rfl⟩
  rcases hr.findTable? with ⟨t, hfind, _, _⟩
  simp only [Edit.run_removeTable, hfind, hr.withoutTable]

end WithGuest

/-- A table comes in after any run from an empty canvas, it is renamed, selected from, joined and
referred to, and it is removed under the key that it has then.  If no reference that was there
before starts with a key that the table had, the removal succeeds, and all that is left of the table
is that its creation number is taken. -/
theorem no_residue (catalog : Option Catalog) (events : List Event) (name : String) (forced : Bool)
    (table : TableRef) (c d : Canvas) (keys : List String) (last : String) :
    let m := ({ catalog } : Canvas).afterAll events
    (Edit.addTable name forced).run m = .ok table c → Stay c table.key keys d last →
      (∀ r ∈ m.query.references, ∀ k ∈ keys, Reference.refersTo r k = false) →
        (Edit.removeTable last).run d = .ok () { m with nextOrdinal := m.nextOrdinal + 1 } := by
  intro m hadd hstay hreferences
  have hm : m.query.Keyed := keyed_afterAll events .empty
  have harrived : m.WithGuest table.key c :=
    .addTable hm (fun r hr => hreferences r hr _ hstay.first_mem) hadd
  exact (harrived.stay hm hreferences hstay).removeTable

/-- The guest is a second table of a name that is there already.  It is renamed, and all five parts
of the query come to refer to it. -/
theorem no_residue_of_selfJoin :
    let m := ({} : Canvas).afterAll
      ([.addTable "users" false, .addCondition { column := "users.id" }, .addGroup "total"].map
        .mutate)
    ∃ table c d, (Edit.addTable "users" true).run m = .ok table c ∧
      Stay c table.key ["users_2", "u"] d "u" ∧
        d.query.references = ["users.id", "u.id", "u.name", "total", "u.city"] ∧
          d.query.joins.map Join.rightTable = ["u"] ∧
            d.query.columns.entries = [("users", .every), ("u", .only ["id", "name"])] ∧
              (Edit.removeTable "u").run d =
                .ok () { m with nextOrdinal := m.nextOrdinal + 1 } := by
  intro m
  let table : TableRef := ⟨"users", some "users_2", 1⟩
  let c := finalState ((Edit.addTable "users" true).run m)
  let c₁ := c.after (.mutate (.addCondition { column := "users_2.id" }))
  let c₂ := c₁.after (.mutate (.setAlias "users_2" (some "u")))
  let c₃ := c₂.after (.mutate (.addOrder "u.name" (.ok .ascending)))
  let c₄ := c₃.after (.mutate (.addGroup "u.city"))
  let c₅ := c₄.after (.mutate (.addJoin { leftTable := "users", rightTable := "u" }))
  let c₆ := c₅.after (.mutate (.setColumns "u" (some ["id"])))
  let d := c₆.after (.mutate (.toggleColumn "u" "name"))
  have hadd : (Edit.addTable "users" true).run m = .ok table c := by decide +kernel
  have hrename : (Edit.setAlias "users_2" (some "u")).run c₁ = .ok ⟨"users", some "u", 1⟩ c₂ := by
    decide +kernel
  have hjoin : (Mutation.addJoin { leftTable := "users", rightTable := "u" }).edit.run c₄ =
      .ok () c₅ := by
    decide +kernel
  have hselect : (Mutation.setColumns "u" (some ["id"])).edit.run c₅ = .ok () c₆ := by
    decide +kernel
  have htoggle : (Mutation.toggleColumn "u" "name").edit.run c₆ = .ok () d := by
    decide +kernel
  have horder : (Mutation.addOrder "u.name" (.ok .ascending)).edit.run c₂ = .ok () c₃ := by
    decide +kernel
  have hcondition : (Mutation.addCondition { column := "users_2.id" }).edit.run c = .ok () c₁ := rfl
  have hgroup : (Mutation.addGroup "u.city").edit.run c₃ = .ok () c₄ := rfl
  have hstay : Stay c "users_2" ["users_2", "u"] d "u" :=
    .concerned (by rfl) hcondition <| .renamed hrename <| .concerned (by rfl) horder <|
      .concerned (by rfl) hgroup <| .concerned (by rfl) hjoin <| .concerned (by rfl) hselect <|
        .concerned (by rfl) htoggle .ended
  have hspared : ∀ r ∈ m.query.references, ∀ k ∈ ["users_2", "u"],
      Reference.refersTo r k = false := by
    decide +kernel
  refine ⟨table, c, d, hadd, hstay, ?_, ?_, ?_, ?_⟩
  · decide +kernel
  · decide +kernel
  · decide +kernel
  · exact no_residue none _ "users" true table c d _ "u" hadd hstay hspared

end Canvas

end QueryDesigner

import QueryDesigner.Proofs.Canvas.Run
import QueryDesigner.Proofs.Decompile.Account

/-!
# Reading a statement keeps the canvas well-formed

* `Reading.Sound` — the canvas of a draft is well-formed;
* `Reading.tableStable_sound`, `Reading.clauseStable_sound` — the steps of the reader keep it so;
* `wellFormed_of_decompile` — the canvas that comes out of a text, whatever the text.

The reader fills its canvas by the edits of `Canvas` alone, and none of them is a toggle, so that
nothing is asked of the catalog.
-/

namespace QueryDesigner

namespace Reading

/-- The canvas of a draft is well-formed. -/
def Sound (d : Draft) : Prop := d.canvas.WellFormed

/-! ## Warnings and edits -/

theorem sound_warn (w : Warning) : Preserves Sound (warn w) :=
  .modify fun _ h => h

theorem tableStable_sound : TableStable Sound where
  warn w _ := sound_warn w
  addTable name forced d hd := Edit.preserves_addTable name forced d.canvas hd
  setAlias key aliasName d hd := Edit.preserves_setAlias key aliasName d.canvas hd
  addJoin join d hd := Edit.preserves_addJoin join d.canvas hd
  names _ _ _ hd := hd

theorem clauseStable_sound : ClauseStable Sound where
  warn w _ := sound_warn w
  setColumns key columns d hd := Edit.preserves_setColumns key columns d.canvas hd
  reorderTables keys d hd := Edit.preserves_reorderTables keys d.canvas hd
  addGroup column d hd := Edit.preserves_addGroup column d.canvas hd
  addOrder column _ d hd := Edit.preserves_addOrderWith column _ d.canvas hd
  setPaging paging count d hd := Edit.preserves_setPaging paging count d.canvas hd

/-! ## Conditions -/

theorem preserves_readPredicate (predicate : Sql.Expr) :
    Preserves Sound (readPredicate predicate) := by
  intro d hd
  rcases account_readPredicate predicate d with ⟨account, hrun, _⟩
  rw [hrun]
  exact hd.withRest rfl rfl rfl

theorem preserves_readConditions (condition : Sql.Expr) :
    Preserves Sound (readConditions condition) :=
  (Preserves.forM preserves_readPredicate _).bind fun _ => .pure _

/-! ## Whole statements -/

theorem preserves_readClauses (s : Sql.Select) : Preserves Sound (readClauses s) := by
  rw [readClauses_eq]
  refine (preserves_readItems clauseStable_sound s).bind fun _ => ?_
  refine (Preserves.optionForM preserves_readConditions _).bind fun _ => ?_
  exact preserves_readRest clauseStable_sound s

theorem preserves_readNodes (nodes : List (Nat × Sql.Node)) :
    Preserves Sound (readNodes nodes) := by
  unfold readNodes
  split
  · refine (preserves_readTables tableStable_sound _).bind fun hasTables => ?_
    split_ifs
    · exact preserves_readClauses _
    · exact .pure _
  · exact sound_warn _

end Reading

/-- Whatever the text says, the canvas that comes out of it is well-formed. -/
theorem wellFormed_of_decompile {sql : String} {catalog : Option Catalog} {d : Decompiled} :
    decompile sql catalog = .ok d → d.canvas.WellFormed := by
  intro h
  have hunread : ∀ kind warning unsupported,
      (Decompiled.unread catalog kind warning unsupported).canvas.WellFormed := by
    intro kind warning unsupported
    exact .empty catalog
  unfold decompile at h
  split at h
  · split at h
    · cases h
      exact hunread _ _ _
    · rename_i statement _ _
      unfold decompileNodes at h
      have hread := Reading.preserves_readNodes (statement.nodes 0)
        { canvas := .ofQuery {} catalog } (.empty catalog)
      split at h
      · rename_i hrun
        cases h
        rw [hrun] at hread
        exact hread
      · cases h
    · cases h
      exact hunread _ _ _
  · cases h
    exact hunread _ _ _

/-! ## Every canvas there is -/

/-- However a canvas came about, by edits from an empty one or from a text, its parts agree. -/
theorem consistent_of_edits_or_text :
    (∀ events : List Event, (∀ e ∈ events, e.Admissible) →
        (({} : Canvas).afterAll events).Consistent) ∧
      ∀ (sql : String) (catalog : Option Catalog) (d : Decompiled),
        decompile sql catalog = .ok d → d.canvas.Consistent := by
  constructor
  · intro events hevents
    have hempty : ({} : Canvas).WellFormed ∧ ({} : Canvas).NoRepeats :=
      ⟨.empty none, fun catalog h => by cases h⟩
    exact (Canvas.wellFormed_afterAll hevents hempty).consistent
  · intro sql catalog d hd
    exact (wellFormed_of_decompile hd).consistent

/-- A table that comes in twice, loses its first copy to a rename and is then joined with itself;
the last edit is rejected.  And a text with a join. -/
theorem consistent_selfJoin :
    (∃ events : List Event, (∀ e ∈ events, e.Admissible) ∧
        (({} : Canvas).afterAll events).query.tableKeys = ["buyer", "users_2"] ∧
        (({} : Canvas).afterAll events).Consistent) ∧
      ∃ d, decompile "SELECT a FROM t JOIN s ON t.x = s.x" none = .ok d ∧
        d.canvas.Consistent := by
  constructor
  · refine ⟨[.attach (some { tables := [⟨"users", [{ name := "id" }], []⟩] }),
      .mutate (.toggleColumn "Users" "id"), .mutate (.addTable "users" true),
      .mutate (.setAlias "users" (some "buyer")),
      .mutate (.addJoin ⟨.inner, "buyer", "id", "users_2", "id"⟩),
      .mutate (.removeTable "users")], ?_, ?_, ?_⟩
    · simp [Event.Admissible, Catalog.NoRepeats, Catalog.Table.columnNames]
    · decide +kernel
    · refine consistent_of_edits_or_text.1 _ ?_
      simp [Event.Admissible, Catalog.NoRepeats, Catalog.Table.columnNames]
  · cases hd : decompile "SELECT a FROM t JOIN s ON t.x = s.x" none with
    | ok d =>
        exact ⟨d, rfl, consistent_of_edits_or_text.2 _ _ d hd⟩
    | error failure =>
        have hread : (decompile "SELECT a FROM t JOIN s ON t.x = s.x" none).isOk = true := by
          decide +kernel
        rw [hd] at hread
        cases hread

end QueryDesigner

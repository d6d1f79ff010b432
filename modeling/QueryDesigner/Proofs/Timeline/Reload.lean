import QueryDesigner.Proofs.Canvas.Step
import QueryDesigner.Proofs.Canvas.Undated
import QueryDesigner.Proofs.Query.Encode
import QueryDesigner.Proofs.Timeline.Replay
import QueryDesigner.Service.Answer

/-!
# Saving and loading in the middle of a timeline

* `Canvas.Reached` — the canvases that actions lead to, from an empty canvas or a saved one;
* `Canvas.Reached.nodup_keys` — each of them can be saved and loaded back as it is;
* `Timeline.replayFrom_congr` — replays from canvases that differ in ordinals only differ in
  ordinals only;
* `Timeline.reload_unobservable` — whether a canvas was saved and loaded again cannot be told from
  what becomes of any further timeline.

A canvas that is loaded again numbers the next table after those that it has, so that the numbers of
tables that are gone are given out once more.
-/

namespace QueryDesigner

namespace Canvas

variable {c c' : Canvas} {catalog : Option Catalog}

/-! ## Selections have no repeated key -/

theorem Step.nodup_keys {given : List String} (h : c.Step given c') :
    c.query.columns.keys.Nodup → c'.query.columns.keys.Nodup := by
  intro hc
  cases h with
  | tableIn _ =>
      exact Selections.nodup_keys_set hc _ _
  | toggledIn s _ =>
      exact Selections.nodup_keys_set (Selections.nodup_keys_set hc _ _) _ _
  | tableOut key =>
      exact Selections.nodup_keys_erase hc key
  | renamed _ _ _ =>
      exact Selections.nodup_keys_ofList _
  | selected s _ =>
      exact Selections.nodup_keys_set hc _ s
  | allSelected s =>
      exact Query.withEverySelection_of (P := fun r => r.columns.keys.Nodup) hc
        fun r key _ hr => Selections.nodup_keys_set hr key s
  | referred _ hcolumns _ _ =>
      exact hcolumns ▸ hc
  | cleared =>
      exact .nil
  | _ =>
      exact hc

end Canvas

open Validation in
/-- A query that is read has a dictionary of selections, whatever the data. -/
theorem Query.nodup_keys_of_decode {state : Datum} {q : Query} :
    Query.decode state = .ok q → q.columns.keys.Nodup := by
  intro h
  cases state with
  | object fields =>
      -- Eight fields, of which the selections are the second one.
      simp only [Query.decode, Decoder.record, Decoded.both_eq_ok_iff] at h
      rcases h with ⟨_, _, ⟨_, _, ⟨_, _, ⟨_, _, ⟨_, _, ⟨_, _, ⟨make, columns, hmake, hcolumns, rfl⟩,
        _, rfl⟩, _, rfl⟩, _, rfl⟩, _, rfl⟩, _, rfl⟩, _, rfl⟩
      rcases Decoded.map_eq_ok_iff.1 hmake with ⟨tables, _, rfl⟩
      rcases defaulted_eq_ok_iff.1 hcolumns with ⟨_, rfl⟩ | ⟨d, _, hentries⟩
      · exact .nil
      · rcases Decoded.map_eq_ok_iff.1 hentries with ⟨entries, _, rfl⟩
        exact Selections.nodup_keys_ofList entries
  | _ =>
      cases h

namespace Canvas

variable {c : Canvas} {catalog : Option Catalog}

/-! ## Loading -/

theorem ofSaved_eq_ok_iff {state : Datum} :
    ofSaved state catalog = .ok c ↔ ∃ q, Query.decode state = .ok q ∧ ofQuery q catalog = c := by
  unfold ofSaved
  cases Query.decode state <;> simp [Except.mapError, Except.map]

/-! ## Canvases that are reached -/

/-- The canvases that actions lead to, applied or turned down, against a catalog, from an empty
canvas or from a saved query. -/
inductive Reached (catalog : Option Catalog) : Canvas → Prop where
  | fresh : Reached catalog { catalog }
  | loaded {state : Datum} {c : Canvas} : ofSaved state catalog = .ok c → Reached catalog c
  | acted {c : Canvas} (a : Action) :
      Reached catalog c → Reached catalog (finalState (a.apply.run c))

namespace Reached

theorem catalog_eq (h : Reached catalog c) : c.catalog = catalog := by
  induction h with
  | fresh =>
      rfl
  | loaded h =>
      rcases ofSaved_eq_ok_iff.1 h with ⟨q, _, rfl⟩
      rfl
  | acted a _ ih =>
      rw [Action.apply_eq, a.mutation.catalog_run, ih]

theorem nodup_keys (h : Reached catalog c) : c.query.columns.keys.Nodup := by
  induction h with
  | fresh =>
      exact .nil
  | loaded h =>
      rcases ofSaved_eq_ok_iff.1 h with ⟨q, hdecode, rfl⟩
      exact Query.nodup_keys_of_decode hdecode
  | @acted c a _ ih =>
      rw [Action.apply_eq]
      exact (a.mutation.step c).nodup_keys ih

end Reached
end Canvas

/-! ## Replays from canvases that differ in ordinals only -/

namespace Timeline

/-- The report with the ordinals of its canvas set to zero. -/
def Report.undated (r : Report) : Report := { r with canvas := r.canvas.undated }

theorem Report.undated_eq_iff {r r' : Report} :
    r.undated = r'.undated ↔
      r.canvas.undated = r'.canvas.undated ∧ r.applied = r'.applied ∧ r.refused = r'.refused := by
  simp [undated]

/-- Step by step the two canvases go on to differ in ordinals only, and the same actions are turned
down, for the same causes. -/
theorem replayFrom_congr (stop : Bool) (index : Nat) (actions : List Action) {r r' : Report} :
    r.undated = r'.undated →
      (replayFrom stop index r actions).map Report.undated =
        (replayFrom stop index r' actions).map Report.undated := by
  intro h
  -- The invariant of the induction is that the reports agree without ordinals.
  induction actions generalizing index r r' with
  | nil =>
      simp [replayFrom, Except.map, h]
  | cons a rest ih =>
      rcases Report.undated_eq_iff.1 h with ⟨hcanvas, happlied, hrefused⟩
      have hend : Edit.undatedEnd (a.apply.run r.canvas) =
          Edit.undatedEnd (a.apply.run r'.canvas) := by
        rw [← a.blind_apply r.canvas, hcanvas, a.blind_apply r'.canvas]
      cases hrun : a.apply.run r.canvas with
      | ok u c =>
          cases hrun' : a.apply.run r'.canvas with
          | ok u' c' =>
              simp only [hrun, hrun', Edit.undatedEnd_ok, EStateM.Result.ok.injEq, true_and] at hend
              simp only [replayFrom, hrun, hrun']
              refine ih (index + 1) (Report.undated_eq_iff.2 ⟨hend, ?_, hrefused⟩)
              simp [Report.noteApplied, happlied]
          | error f c' =>
              simp [hrun, hrun'] at hend
      | error f c =>
          cases hrun' : a.apply.run r'.canvas with
          | ok u c' =>
              simp [hrun, hrun'] at hend
          | error f' c' =>
              simp only [hrun, hrun', Edit.undatedEnd_error, EStateM.Result.error.injEq] at hend
              rcases hend with ⟨rfl, hend⟩
              simp only [replayFrom, hrun, hrun']
              cases f with
              | rejected cause =>
                  have hnoted : (r.noteRefused c ⟨index, a.tag, cause⟩).undated =
                      (r'.noteRefused c' ⟨index, a.tag, cause⟩).undated :=
                    Report.undated_eq_iff.2 ⟨hend, happlied, by simp [Report.noteRefused, hrefused]⟩
                  dsimp only
                  split_ifs
                  · simp [Except.map, hnoted]
                  · exact ih (index + 1) hnoted
              | _ =>
                  -- Any other failure ends both replays.
                  rfl

theorem undated_of_replay {c c' : Canvas} {stop : Bool} {actions : List Action} {r r' : Report} :
    c.undated = c'.undated → replay stop c actions = .ok r → replay stop c' actions = .ok r' →
      r.undated = r'.undated := by
  intro h hr hr'
  have hstart : ({ canvas := c } : Report).undated = ({ canvas := c' } : Report).undated :=
    Report.undated_eq_iff.2 ⟨h, rfl, rfl⟩
  have hcongr := replayFrom_congr stop 0 actions hstart
  unfold replay at hr hr'
  rw [hr, hr'] at hcongr
  exact Except.ok.inj hcongr

/-- A replay that leads to an answer leads to a canvas that is reached. -/
theorem reached_of_replayFrom {catalog : Option Catalog} {stop : Bool} {index : Nat}
    {actions : List Action} {report r : Report} :
    Canvas.Reached catalog report.canvas → replayFrom stop index report actions = .ok r →
      Canvas.Reached catalog r.canvas := by
  intro hreached hreplay
  induction actions generalizing index report with
  | nil =>
      cases hreplay
      exact hreached
  | cons a rest ih =>
      have hacted := hreached.acted a
      simp only [replayFrom] at hreplay
      cases hrun : a.apply.run report.canvas with
      | ok u c =>
          rw [hrun] at hacted hreplay
          exact ih hacted hreplay
      | error f c =>
          rw [hrun] at hacted hreplay
          cases f with
          | rejected cause =>
              dsimp only at hreplay
              split_ifs at hreplay
              · cases hreplay
                exact hacted
              · exact ih hacted hreplay
          | _ =>
              cases hreplay

theorem undated_start {c c' : Canvas} (given : Option Catalog) :
    c.undated = c'.undated → (start given (some c)).undated = (start given (some c')).undated := by
  intro h
  cases given with
  | none =>
      exact h
  | some catalog =>
      exact Canvas.undated_congr (congrArg Canvas.query h) rfl

/-- A timeline whose actions name fields leads to an answer, whichever way it is replayed. -/
theorem exists_replay {actions : List Action} (hactions : ∀ a ∈ actions, a.NamesFields)
    (stop : Bool) (c : Canvas) : ∃ r, replay stop c actions = .ok r := by
  rcases exists_run hactions c 0 with ⟨d, refused, hrun⟩
  cases stop with
  | false =>
      exact ⟨_, hrun.replayFrom { canvas := c } rfl⟩
  | true =>
      rcases hrun.replayFrom_stopping { canvas := c } rfl with ⟨_, _, _, _, hreplay, _⟩
      exact ⟨_, hreplay⟩

end Timeline

/-! ## The service -/

namespace Service

theorem eq_ok_of_ofOutcome {α : Type} {heading : String} {outcome : Except Obstacle α} {a : α} :
    Answer.ofOutcome heading outcome = .ok a → outcome = .ok a := by
  intro h
  cases outcome with
  | error obstacle =>
      cases h
  | ok b =>
      exact congrArg Except.ok (Except.ok.inj h)

theorem reached_replayCanvas {r : ReplayRequest} {c : Canvas} :
    replayCanvas r = .ok c → ∃ catalog, catalogOf r.schema = .ok catalog ∧ c.Reached catalog := by
  intro h
  unfold replayCanvas canvasOf at h
  cases hcatalog : catalogOf r.schema with
  | error obstacle =>
      rw [hcatalog] at h
      split at h <;> cases h
  | ok catalog =>
      rw [hcatalog] at h
      refine ⟨catalog, rfl, ?_⟩
      split at h
      · exact .loaded h
      · cases h
        exact .fresh

/-- An answer to a replay shows the report of a timeline, replayed on the canvas of the request. -/
theorem report_of_replay {r : ReplayRequest} {answer : Replayed} :
    replay r = .ok answer → ∃ c actions report, replayCanvas r = .ok c ∧
      Timeline.replay r.stopOnError c actions = .ok report ∧ answer = .ofReport report := by
  intro h
  have houtcome := eq_ok_of_ofOutcome h
  cases hcanvas : replayCanvas r with
  | error obstacle =>
      rw [hcanvas] at houtcome
      cases houtcome
  | ok c =>
      cases hactions : Timeline.decodeEach (r.actions.map Datum.object) with
      | error issues =>
          rw [hcanvas, hactions] at houtcome
          cases houtcome
      | ok actions =>
          cases hreport : Timeline.replay r.stopOnError c actions with
          | error failure =>
              simp [hcanvas, hactions, hreport, Except.mapError, bind, Except.bind] at houtcome
          | ok report =>
              simp only [hcanvas, hactions, hreport, Except.mapError, bind, Except.bind] at houtcome
              cases houtcome
              exact ⟨c, actions, report, rfl, hreport, rfl⟩

/-- A query whose selections have no repeated key compiles as it does in the state that is saved. -/
theorem compile_fields {q : Query} {schema : Option Fields} {catalog : Option Catalog} :
    q.columns.keys.Nodup → catalogOf schema = .ok catalog →
      compile ⟨q.fields, schema⟩ = .ok q.compile := by
  intro hkeys hschema
  have hloaded : Canvas.ofSaved (.object q.fields) catalog = .ok (.ofQuery q catalog) :=
    Canvas.ofSaved_eq_ok_iff.2 ⟨q, Query.decode_encode hkeys, rfl⟩
  have hcanvas : canvasOf q.fields schema = .ok (.ofQuery q catalog) := by
    unfold canvasOf
    rw [hschema]
    exact hloaded
  unfold compile
  rw [hcanvas]
  rfl

end Service

namespace Timeline

/-- Take any canvas that actions lead to, from an empty canvas or a saved query.  Saved and loaded
again it has the same query and the same catalog, and any further timeline, replayed against any
catalog and in either way, comes to the same on both: as many actions are applied, the same ones are
turned down for the same causes, the statement is the same, and the queries differ in the ordinals
of tables at most.  And whatever is replayed by the service, the statement in the answer is the one
that the state in the answer compiles to. -/
theorem reload_unobservable :
    (∀ (catalog : Option Catalog) (m : Canvas), m.Reached catalog →
      ∃ m', Canvas.ofSaved m.query.encode catalog = .ok m' ∧
        m'.query = m.query ∧ m'.catalog = m.catalog ∧
        ∀ (given : Option Catalog) (stop : Bool) (actions : List Action),
          (∀ a ∈ actions, a.NamesFields) →
            ∃ r r', replay stop (start given (some m)) actions = .ok r ∧
              replay stop (start given (some m')) actions = .ok r' ∧
              r'.applied = r.applied ∧ r'.refused = r.refused ∧
              r'.canvas.query.compile = r.canvas.query.compile ∧
              r'.canvas.query.undated = r.canvas.query.undated) ∧
    ∀ (r : Service.ReplayRequest) (answer : Service.Replayed), Service.replay r = .ok answer →
      Service.compile ⟨answer.state, r.schema⟩ = .ok answer.sql ∧
        Service.compile ⟨answer.state, none⟩ = .ok answer.sql := by
  constructor
  · intro catalog m hm
    refine ⟨.ofQuery m.query catalog,
      Canvas.ofSaved_eq_ok_iff.2 ⟨m.query, Query.decode_encode hm.nodup_keys, rfl⟩, rfl,
      hm.catalog_eq.symm, ?_⟩
    intro given stop actions hactions
    have hstart : (start given (some m)).undated =
        (start given (some (Canvas.ofQuery m.query catalog))).undated :=
      undated_start given (Canvas.undated_congr rfl hm.catalog_eq)
    -- Both replays lead to a report; from equal starts the reports are equal, without ordinals.
    rcases exists_replay hactions stop (start given (some m)) with ⟨r, hr⟩
    rcases exists_replay hactions stop (start given (some (.ofQuery m.query catalog))) with
      ⟨r', hr'⟩
    rcases Report.undated_eq_iff.1 (undated_of_replay hstart hr hr') with
      ⟨hcanvas, happlied, hrefused⟩
    have hquery : r.canvas.query.undated = r'.canvas.query.undated :=
      congrArg Canvas.query hcanvas
    have hcompile : r'.canvas.query.compile = r.canvas.query.compile := by
      rw [← Query.compile_undated, ← hquery, Query.compile_undated]
    exact ⟨r, r', hr, hr', happlied.symm, hrefused.symm, hcompile, hquery.symm⟩
  · intro r answer hanswer
    rcases Service.report_of_replay hanswer with ⟨c, actions, report, hcanvas, hreplay, rfl⟩
    rcases Service.reached_replayCanvas hcanvas with ⟨catalog, hschema, hreached⟩
    have hkeys := (reached_of_replayFrom hreached hreplay).nodup_keys
    exact ⟨Service.compile_fields hkeys hschema, Service.compile_fields hkeys rfl⟩

/-- Of two tables the second one is removed before the query is saved.  Its creation number is given
out again on the canvas that is loaded, and not on the other one: the queries end up different, and
all else is the same, also what is turned down. -/
theorem reload_unobservable_of_removed :
    ∃ m m' : Canvas, m.Reached none ∧ Canvas.ofSaved m.query.encode none = .ok m' ∧
      ∃ r r', replay false m [.addTable "items" false, .removeTable "orders"] = .ok r ∧
        replay false m' [.addTable "items" false, .removeTable "orders"] = .ok r' ∧
        r.refused = [⟨1, "remove_table", .unknownTable "orders"⟩] ∧ r'.refused = r.refused ∧
        r.canvas.query.tables.map TableRef.ordinal = [0, 2] ∧
        r'.canvas.query.tables.map TableRef.ordinal = [0, 1] ∧
        r'.canvas.query.compile = r.canvas.query.compile ∧
        ∃ request answer, Service.replay request = .ok answer ∧
          Service.compile ⟨answer.state, none⟩ = .ok answer.sql ∧
          answer.sql = "SELECT users.*\nFROM users;" := by
  let step (c : Canvas) (a : Action) : Canvas := finalState (a.apply.run c)
  let m := [Action.addTable "users" false, .addTable "orders" false, .removeTable "orders"].foldl
    step {}
  have hm : m.Reached none :=
    .acted (.removeTable "orders") (.acted (.addTable "orders" false)
      (.acted (.addTable "users" false) .fresh))
  have hactions : ∀ a ∈ [Action.addTable "items" false, .removeTable "orders"], a.NamesFields := by
    simp [Action.NamesFields]
  rcases reload_unobservable.1 none m hm with ⟨m', hload, hquery, hcatalog, hreplays⟩
  rcases hreplays none false _ hactions with ⟨r, r', hr, hr', _, hrefused, hcompile, _⟩
  change replay false m _ = _ at hr
  change replay false m' _ = _ at hr'
  let request : Service.ReplayRequest :=
    ⟨[[("action", .text "add_table"), ("name", .text "users")]], none, none, true⟩
  have hanswer : ∃ answer, Service.replay request = .ok answer ∧
      answer.sql = "SELECT users.*\nFROM users;" := by
    refine ⟨_, rfl, ?_⟩
    decide +kernel
  rcases hanswer with ⟨answer, hreplay, hsql⟩
  refine ⟨m, m', hm, hload, r, r', hr, hr', ?_, hrefused, ?_, ?_, hcompile, request, answer,
    hreplay,
    (reload_unobservable.2 request answer hreplay).2, hsql⟩
  · have hcomputed : (replay false m [.addTable "items" false, .removeTable "orders"]).toOption.map
        Report.refused = some [⟨1, "remove_table", .unknownTable "orders"⟩] := by
      decide +kernel
    rw [hr] at hcomputed
    exact Option.some.inj hcomputed
  · have hcomputed : (replay false m [.addTable "items" false, .removeTable "orders"]).toOption.map
        (fun r => r.canvas.query.tables.map TableRef.ordinal) = some [0, 2] := by
      decide +kernel
    rw [hr] at hcomputed
    exact Option.some.inj hcomputed
  · have hloaded : m' = ⟨m.query, none, 1⟩ := by
      have hcomputed : (Canvas.ofSaved m.query.encode none).toOption = some ⟨m.query, none, 1⟩ := by
        decide +kernel
      rw [hload] at hcomputed
      exact Option.some.inj hcomputed
    have hcomputed : (replay false ⟨m.query, none, 1⟩
        [.addTable "items" false, .removeTable "orders"]).toOption.map
          (fun r => r.canvas.query.tables.map TableRef.ordinal) = some [0, 1] := by
      decide +kernel
    rw [← hloaded, hr'] at hcomputed
    exact Option.some.inj hcomputed

end Timeline

end QueryDesigner

import QueryDesigner.Proofs.Canvas.Mutation

/-!
# Actions that are turned down leave no trace

* `Action.NamesFields` — the changes of an action name fields, and not the arguments of the edit;
* `Action.run_apply` — such an action is applied, or turned down on the canvas as it was;
* `Timeline.Run` — a run over a timeline that goes on after a refusal, step by step;
* `Timeline.kept` — the actions of a timeline that were not turned down;
* `Run.kept`, `Run.replayFrom`, `Run.replayFrom_stopping` — a run without the refused actions is a
  run to the same canvas, and both ways of replaying follow the run.
-/

namespace QueryDesigner

namespace Action

/-- The changes of an action name fields of a join or a condition, known or unknown, and not the
arguments of the edit that makes the changes. -/
def NamesFields : Action → Prop
  | updateJoin _ changes => ∀ change ∈ changes, change.1 ∉ Edit.reservedNames
  | updateCondition _ changes => ∀ change ∈ changes, change.1 ∉ Edit.reservedNames
  | _ => True

theorem find?_reserved_eq_none {changes : List (String × Datum)} :
    (∀ change ∈ changes, change.1 ∉ Edit.reservedNames) →
      (changes.find? fun change => Edit.reservedNames.contains change.1) = none := by
  intro h
  refine List.find?_eq_none.2 fun change hchange => ?_
  simpa using h change hchange

/-- With the fields named properly, an action fails only by being turned down: its directions and
counts have been checked when it was read. -/
theorem rejected_of_error {a : Action} {c c' : Canvas} {f : Failure} :
    a.NamesFields → a.apply.run c = .error f c' → ∃ cause, f = .rejected cause := by
  intro hnames hrun
  rw [apply_eq] at hrun
  cases a with
  | updateJoin index changes =>
      have hfree := find?_reserved_eq_none hnames
      simp only [mutation, Mutation.edit, Edit.run_discard, Edit.run_updateJoin,
        Edit.run_requireEnds, hfree] at hrun
      grind
  | updateCondition index changes =>
      have hfree := find?_reserved_eq_none hnames
      simp only [mutation, Mutation.edit, Edit.run_discard, Edit.run_updateCondition,
        hfree] at hrun
      grind
  | addOrder column direction =>
      -- The direction is a proper one, so that it is never the reason of a failure.
      simp only [mutation, Mutation.edit, Edit.run_discard, Edit.run_addOrderWith] at hrun
      grind
  | setLimit count =>
      simp only [mutation, Mutation.edit, Edit.run_setPagingFrom, readCount_countDatum,
        Edit.run_setPaging] at hrun
      grind
  | setOffset count =>
      simp only [mutation, Mutation.edit, Edit.run_setPagingFrom, readCount_countDatum,
        Edit.run_setPaging] at hrun
      grind
  | _ =>
      -- All other exits are rejections, wherever they stand.
      simp only [mutation, Mutation.edit, Edit.run_discard, Edit.run_addTable,
        Edit.run_removeTable, Edit.run_setAlias, Edit.run_toggleColumn, Edit.run_tableForToggle,
        Edit.run_setColumns, Edit.run_selectAll, Edit.run_selectNone,
        Edit.run_addJoin, Edit.run_requireEnds, Edit.run_removeJoin, Edit.run_addCondition,
        Edit.run_removeCondition, Edit.run_removeOrder, Edit.run_toggleDirection,
        Edit.run_addGroup, Edit.run_removeGroup, Edit.run_clear] at hrun
      grind

/-- An action is applied, or it is turned down on the canvas as it was. -/
theorem run_apply {a : Action} (h : a.NamesFields) (c : Canvas) :
    (∃ c', a.apply.run c = .ok () c') ∨ ∃ cause, a.apply.run c = .error (.rejected cause) c := by
  cases hrun : a.apply.run c with
  | ok u c' =>
      exact .inl ⟨c', rfl⟩
  | error f c' =>
      rcases rejected_of_error h hrun with ⟨cause, rfl⟩
      rw [a.atomic_apply hrun]
      exact .inr ⟨cause, rfl⟩

end Action

namespace Timeline

/-- From a canvas and the place of the next action, a run ends on a canvas, with the refusals on the
way. -/
inductive Run : Canvas → Nat → List Action → Canvas → List Refused → Prop where
  | done {c : Canvas} {index : Nat} : Run c index [] c []
  | applied {c c' d : Canvas} {index : Nat} {a : Action} {rest : List Action}
      {refused : List Refused} :
      a.apply.run c = .ok () c' → Run c' (index + 1) rest d refused →
        Run c index (a :: rest) d refused
  | refused {c d : Canvas} {index : Nat} {a : Action} {rest : List Action} {cause : Rejection}
      {refused : List Refused} :
      a.apply.run c = .error (.rejected cause) c → Run c (index + 1) rest d refused →
        Run c index (a :: rest) d (⟨index, a.tag, cause⟩ :: refused)

/-- The actions whose place is not among the refused ones, the first of them standing at `index`. -/
def keptFrom (refused : List Refused) (index : Nat) (actions : List Action) : List Action :=
  ((actions.zipIdx index).filter fun numbered =>
    !(refused.map Refused.index).contains numbered.2).map Prod.fst

/-- The actions of a timeline that were not turned down. -/
def kept (refused : List Refused) (actions : List Action) : List Action :=
  keptFrom refused 0 actions

theorem exists_run {actions : List Action} (hactions : ∀ a ∈ actions, a.NamesFields) (c : Canvas)
    (index : Nat) : ∃ d refused, Run c index actions d refused := by
  induction actions generalizing c index with
  | nil =>
      exact ⟨c, [], .done⟩
  | cons a rest ih =>
      have hrest : ∀ b ∈ rest, b.NamesFields := fun b hb => hactions b (List.mem_cons_of_mem a hb)
      rcases Action.run_apply (hactions a List.mem_cons_self) c with ⟨c', happly⟩ | ⟨cause, happly⟩
      · rcases ih hrest c' (index + 1) with ⟨d, refused, hrun⟩
        exact ⟨d, refused, .applied happly hrun⟩
      · rcases ih hrest c (index + 1) with ⟨d, refused, hrun⟩
        exact ⟨d, _, .refused happly hrun⟩

namespace Run

variable {c d : Canvas} {index : Nat} {actions : List Action} {refused : List Refused}

/-! ## The refused places -/

theorem index_le (h : Run c index actions d refused) : ∀ f ∈ refused, index ≤ f.index := by
  induction h with
  | done =>
      simp
  | applied _ _ ih =>
      intro f hf
      exact Nat.le_of_succ_le (ih f hf)
  | refused _ _ ih =>
      intro f hf
      rcases List.mem_cons.1 hf with rfl | hf
      · exact Nat.le_refl _
      · exact Nat.le_of_succ_le (ih f hf)

/-- The refused places ascend: the later ones come from a run that starts further on. -/
theorem ascending (h : Run c index actions d refused) :
    (refused.map Refused.index).Pairwise (· < ·) := by
  induction h with
  | done =>
      exact .nil
  | applied _ _ ih =>
      exact ih
  | refused _ hrun ih =>
      refine List.pairwise_cons.2 ⟨?_, ih⟩
      intro i hi
      rcases List.mem_map.1 hi with ⟨f, hf, rfl⟩
      exact hrun.index_le f hf

theorem length_le (h : Run c index actions d refused) : refused.length ≤ actions.length := by
  induction h with
  | done =>
      exact Nat.le_refl _
  | applied _ _ ih =>
      simp only [List.length_cons]
      omega
  | refused _ _ ih =>
      simpa using ih

/-! ## The kept actions -/

/-- Refusals before the first action make no difference. -/
theorem keptFrom_cons {f : Refused} {actions : List Action} (hf : f.index < index) :
    keptFrom (f :: refused) index actions = keptFrom refused index actions := by
  unfold keptFrom
  congr 1
  refine List.filter_congr fun numbered hnumbered => ?_
  have hle : index ≤ numbered.2 := (List.mk_mem_zipIdx_iff_le_and_getElem?_sub.1 hnumbered).1
  have hne : numbered.2 ≠ f.index := by omega
  simp [hne]

/-- The kept actions run to the same canvas, and none of them is refused. -/
theorem kept (h : Run c index actions d refused) (start : Nat) :
    Run c start (keptFrom refused index actions) d [] := by
  induction h generalizing start with
  | done =>
      exact .done
  | @applied c c' d index a rest refused happly hrun ih =>
      have hfree : index ∉ refused.map Refused.index := by
        intro hmem
        rcases List.mem_map.1 hmem with ⟨f, hf, hindex⟩
        have hle := hrun.index_le f hf
        omega
      have hkept : keptFrom refused index (a :: rest) = a :: keptFrom refused (index + 1) rest := by
        unfold keptFrom
        rw [List.zipIdx_cons, List.filter_cons_of_pos (by simpa using hfree), List.map_cons]
      rw [hkept]
      exact .applied happly (ih (start + 1))
  | @refused c d index a rest cause refused happly hrun ih =>
      have hkept : keptFrom (⟨index, a.tag, cause⟩ :: refused) index (a :: rest) =
          keptFrom refused (index + 1) rest := by
        rw [← keptFrom_cons (f := ⟨index, a.tag, cause⟩) (Nat.lt_succ_self index)]
        simp [keptFrom, List.zipIdx_cons]
      rw [hkept]
      exact ih start

/-! ## Replays follow the run -/

/-- A replay that goes on reports what the run refuses, and counts the rest. -/
theorem replayFrom (h : Run c index actions d refused) (report : Report) :
    report.canvas = c →
      Timeline.replayFrom false index report actions =
        .ok
          { canvas := d
            applied := report.applied + (actions.length - refused.length)
            refused := report.refused ++ refused } := by
  intro hc
  induction h generalizing report with
  | done =>
      subst hc
      simp [Timeline.replayFrom]
  | @applied c c' d index a rest refused happly hrun ih =>
      have hle := hrun.length_le
      have hcount : rest.length + 1 - refused.length = 1 + (rest.length - refused.length) := by
        omega
      simp only [Timeline.replayFrom, hc, happly]
      rw [ih (report.noteApplied c') rfl]
      simp [Report.noteApplied, hcount, Nat.add_assoc]
  | @refused c d index a rest cause refused happly hrun ih =>
      simp only [Timeline.replayFrom, hc, happly, Bool.false_eq_true, if_false]
      rw [ih (report.noteRefused c ⟨index, a.tag, cause⟩) rfl]
      simp [Report.noteRefused]

/-- A replay that stops at the first refusal has applied the actions before it. -/
theorem replayFrom_stopping (h : Run c index actions d refused) (report : Report) :
    report.canvas = c →
      ∃ d' n, n ≤ actions.length ∧ Run c index (actions.take n) d' [] ∧
        Timeline.replayFrom true index report actions =
          .ok
            { canvas := d'
              applied := report.applied + n
              refused := report.refused ++ refused.take 1 } ∧
        (∀ f ∈ refused.take 1, f.index = index + n) ∧ (refused = [] → n = actions.length) := by
  intro hc
  induction h generalizing report with
  | done =>
      subst hc
      exact ⟨report.canvas, 0, by simp, .done, by simp [Timeline.replayFrom], by simp, by simp⟩
  | @applied c c' d index a rest refused happly hrun ih =>
      rcases ih (report.noteApplied c') rfl with ⟨d', n, hn, hrest, hreplay, hplace, hall⟩
      refine ⟨d', n + 1, by simpa using hn, .applied happly hrest, ?_, ?_, ?_⟩
      · simp only [Timeline.replayFrom, hc, happly]
        rw [hreplay]
        simp only [Report.noteApplied, Nat.add_assoc, Nat.add_comm 1 n]
      · intro f hf
        rw [hplace f hf]
        omega
      · intro hnone
        rw [hall hnone, List.length_cons]
  | @refused c d index a rest cause refused happly hrun ih =>
      refine ⟨c, 0, by simp, .done, ?_, ?_, by simp⟩
      · simp [Timeline.replayFrom, hc, happly, Report.noteRefused]
      · simp

/-- Where nothing is refused, both ways of replaying are the same. -/
theorem replayFrom_of_nil (h : Run c index actions d refused) (stop : Bool) (report : Report) :
    refused = [] → report.canvas = c →
      Timeline.replayFrom stop index report actions =
        .ok { report with canvas := d, applied := report.applied + actions.length } := by
  intro hnone hc
  induction h generalizing report with
  | done =>
      subst hc
      simp [Timeline.replayFrom]
  | @applied c c' d index a rest refused happly hrun ih =>
      simp only [Timeline.replayFrom, hc, happly]
      rw [ih (report.noteApplied c') hnone rfl]
      simp [Report.noteApplied, Nat.add_assoc, Nat.add_comm 1]
  | refused _ _ _ =>
      cases hnone

theorem replay_of_nil (h : Run c 0 actions d []) (stop : Bool) :
    replay stop c actions = .ok { canvas := d, applied := actions.length } := by
  simpa [replay] using h.replayFrom_of_nil stop { canvas := c } rfl rfl

end Run

/-- Replaying a timeline, from any canvas and against any catalog.  A replay that goes on refuses
actions at ascending places, and the other actions alone, of which none is refused, lead to the same
canvas.  A replay that stops refuses at most the action after those it has applied, and these lead
to the same canvas. -/
theorem replay_leaves_no_trace (catalog : Option Catalog) (model : Option Canvas)
    (actions : List Action) :
    (∀ a ∈ actions, a.NamesFields) →
      (∃ r, replay false (start catalog model) actions = .ok r ∧
        r.applied + r.refused.length = actions.length ∧
        (r.refused.map Refused.index).Pairwise (· < ·) ∧
        ∀ stop, ∃ r', replay stop (start catalog model) (kept r.refused actions) = .ok r' ∧
          r'.refused = [] ∧ r'.canvas = r.canvas) ∧
      ∃ r, replay true (start catalog model) actions = .ok r ∧
        r.refused.length ≤ 1 ∧ (∀ f ∈ r.refused, f.index = r.applied) ∧
        (r.refused = [] → r.applied = actions.length) ∧
        ∀ stop, ∃ r', replay stop (start catalog model) (actions.take r.applied) = .ok r' ∧
          r'.refused = [] ∧ r'.canvas = r.canvas := by
  intro hactions
  rcases exists_run hactions (start catalog model) 0 with ⟨d, refused, hrun⟩
  constructor
  · refine ⟨_, hrun.replayFrom { canvas := start catalog model } rfl, ?_, ?_, ?_⟩
    · have hle := hrun.length_le
      simp only [List.nil_append]
      omega
    · exact hrun.ascending
    · intro stop
      exact ⟨_, (hrun.kept 0).replay_of_nil stop, rfl, rfl⟩
  · rcases hrun.replayFrom_stopping { canvas := start catalog model } rfl with
      ⟨d', n, _, htaken, hreplay, hplace, hall⟩
    refine ⟨_, hreplay, ?_, ?_, ?_, ?_⟩
    · exact List.length_take_le 1 refused
    · simpa using hplace
    · intro hnone
      have hrefused : refused = [] := by
        simpa using hnone
      simpa using hall hrefused
    · intro stop
      rw [Nat.zero_add]
      exact ⟨_, htaken.replay_of_nil stop, rfl, rfl⟩

/-- Two of four actions are turned down: a table that is there already, and one that is not. -/
theorem replay_leaves_no_trace_of_repeated :
    ∃ actions : List Action, (∀ a ∈ actions, a.NamesFields) ∧
      actions.map Action.tag = ["add_table", "add_table", "remove_table", "set_limit"] ∧
      ∃ r, replay false (start none none) actions = .ok r ∧
        r.refused.map Refused.index = [1, 2] ∧
        ∃ r', replay true (start none none) (kept r.refused actions) = .ok r' ∧
          r'.refused = [] ∧ r'.canvas = r.canvas := by
  have hnames : ∀ a ∈ [Action.addTable "users" false, .addTable "users" false,
      .removeTable "orders", .setLimit (some 5)], a.NamesFields := by
    simp [Action.NamesFields]
  refine ⟨_, hnames, rfl, ?_⟩
  rcases (replay_leaves_no_trace none none _ hnames).1 with ⟨r, hreplay, _, _, hkept⟩
  refine ⟨r, hreplay, ?_, hkept true⟩
  cases hreplay
  rfl

end Timeline

end QueryDesigner

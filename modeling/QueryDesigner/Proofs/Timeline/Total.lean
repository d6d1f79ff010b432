import QueryDesigner.Proofs.Timeline.Replay

/-!
# Where a replay breaks off

An action that is turned down is noted, and the replay knows what to do.  There is one other way for
an action to fail: the name of a change is the name of an argument of the edit that makes the
change.

* `Action.misnamed?` — that failure, where an action has it;
* `Action.run_apply_cases` — an action is misnamed, or applied, or turned down;
* `Timeline.replayFrom_eq_error_iff` — a replay breaks off at the first misnamed action that it
  reaches, and nowhere else;
* `Timeline.settles_of_replayFrom` — otherwise it settles every action that it reaches.
-/

namespace QueryDesigner

namespace Action

/-- The failure of changes of which one has a reserved name. -/
def misnamedIn? (edit : String) (changes : List (String × Datum)) : Option Failure :=
  (changes.find? fun change => Edit.reservedNames.contains change.1).map fun change =>
    .reservedName edit change.1

/-- The failure of an action of which a change is named like an argument of the edit. -/
def misnamed? : Action → Option Failure
  | updateJoin _ changes => misnamedIn? "update_join" changes
  | updateCondition _ changes => misnamedIn? "update_condition" changes
  | _ => none

theorem misnamedIn?_eq_none_iff {edit : String} {changes : List (String × Datum)} :
    misnamedIn? edit changes = none ↔ ∀ change ∈ changes, change.1 ∉ Edit.reservedNames := by
  simp [misnamedIn?, List.find?_eq_none]

theorem misnamed?_eq_none_iff {a : Action} : a.misnamed? = none ↔ a.NamesFields := by
  cases a with
  | updateJoin index changes =>
      exact misnamedIn?_eq_none_iff
  | updateCondition index changes =>
      exact misnamedIn?_eq_none_iff
  | _ =>
      simp [misnamed?, NamesFields]

/-- The name is refused before anything else is looked at, whatever the canvas. -/
theorem run_apply_of_misnamed {a : Action} {f : Failure} (c : Canvas) :
    a.misnamed? = some f → a.apply.run c = .error f c := by
  intro h
  rw [apply_eq]
  cases a with
  | updateJoin index changes =>
      obtain ⟨change, hfind, rfl⟩ := Option.map_eq_some_iff.1 h
      simp only [mutation, Mutation.edit, Edit.run_discard, Edit.run_updateJoin, hfind]
  | updateCondition index changes =>
      obtain ⟨change, hfind, rfl⟩ := Option.map_eq_some_iff.1 h
      simp only [mutation, Mutation.edit, Edit.run_discard, Edit.run_updateCondition, hfind]
  | _ =>
      cases h

theorem misnamed?_ne_rejected {a : Action} (cause : Rejection) :
    a.misnamed? ≠ some (.rejected cause) := by
  intro h
  cases a with
  | updateJoin index changes =>
      simp [misnamed?, misnamedIn?] at h
  | updateCondition index changes =>
      simp [misnamed?, misnamedIn?] at h
  | _ =>
      cases h

/-- An action is misnamed, or it is applied, or it is turned down on the canvas as it was. -/
theorem run_apply_cases (a : Action) (c : Canvas) :
    (∃ f, a.misnamed? = some f ∧ a.apply.run c = .error f c) ∨
      a.misnamed? = none ∧
        ((∃ c', a.apply.run c = .ok () c') ∨
          ∃ cause, a.apply.run c = .error (.rejected cause) c) := by
  cases h : a.misnamed? with
  | some f =>
      exact .inl ⟨f, rfl, run_apply_of_misnamed c h⟩
  | none =>
      exact .inr ⟨rfl, run_apply (misnamed?_eq_none_iff.1 h) c⟩

end Action

namespace Timeline

variable {stop : Bool} {index : Nat} {report : Report} {a : Action} {rest : List Action}

/-! ## One action of a replay -/

theorem replayFrom_of_applied {c' : Canvas} (h : a.apply.run report.canvas = .ok () c') :
    replayFrom stop index report (a :: rest) =
      replayFrom stop (index + 1) (report.noteApplied c') rest := by
  simp only [replayFrom, h]

theorem replayFrom_of_refused {cause : Rejection} {c' : Canvas}
    (h : a.apply.run report.canvas = .error (.rejected cause) c') :
    replayFrom stop index report (a :: rest) =
      if stop then .ok (report.noteRefused c' ⟨index, a.tag, cause⟩)
      else replayFrom stop (index + 1) (report.noteRefused c' ⟨index, a.tag, cause⟩) rest := by
  simp only [replayFrom, h]

theorem replayFrom_of_misnamed {f : Failure} (h : a.misnamed? = some f) :
    replayFrom stop index report (a :: rest) = .error f := by
  have hrun := Action.run_apply_of_misnamed report.canvas h
  cases f with
  | rejected cause =>
      exact absurd h (Action.misnamed?_ne_rejected cause)
  | _ =>
      simp only [replayFrom, hrun]

/-! ## Where a replay breaks off -/

/-- A misnamed action stands in the timeline, and the actions before it are a run, which has refused
nothing if the replay stops at a refusal. -/
def BreaksOff (stop : Bool) (c : Canvas) (index : Nat) (actions : List Action) (f : Failure) :
    Prop :=
  ∃ before a after d refused, actions = before ++ a :: after ∧ Run c index before d refused ∧
    (stop = true → refused = []) ∧ a.misnamed? = some f

theorem BreaksOff.here {c : Canvas} {f : Failure} (h : a.misnamed? = some f) :
    BreaksOff stop c index (a :: rest) f :=
  ⟨[], a, rest, c, [], rfl, .done, fun _ => rfl, h⟩

/-- A misnamed action is neither applied nor refused, so that no run goes past it. -/
theorem BreaksOff.eq_of_misnamed {c : Canvas} {f g : Failure} (h : a.misnamed? = some g) :
    BreaksOff stop c index (a :: rest) f → g = f := by
  rintro ⟨before, b, after, d, refused, hsplit, hrun, _, hb⟩
  have hmisnamed := Action.run_apply_of_misnamed c h
  cases hrun with
  | done =>
      obtain ⟨rfl, rfl⟩ : a = b ∧ rest = after := by simpa using hsplit
      exact Option.some.inj (h.symm.trans hb)
  | applied happly _ =>
      obtain ⟨rfl, -⟩ := List.cons.inj hsplit
      rw [hmisnamed] at happly
      cases happly
  | @refused _ _ _ _ _ cause _ happly _ =>
      obtain ⟨rfl, -⟩ := List.cons.inj hsplit
      rw [hmisnamed] at happly
      cases happly
      exact absurd h (Action.misnamed?_ne_rejected cause)

/-- Past an action that is applied the replay breaks off where that of the rest does. -/
theorem breaksOff_of_applied {c c' : Canvas} {f : Failure} (hnames : a.misnamed? = none)
    (happly : a.apply.run c = .ok () c') :
    BreaksOff stop c index (a :: rest) f ↔ BreaksOff stop c' (index + 1) rest f := by
  constructor
  · rintro ⟨before, b, after, d, refused, hsplit, hrun, hstop, hb⟩
    cases hrun with
    | done =>
        obtain ⟨rfl, -⟩ : a = b ∧ rest = after := by simpa using hsplit
        rw [hnames] at hb
        cases hb
    | applied happly' hrest =>
        obtain ⟨rfl, hsplit'⟩ := List.cons.inj hsplit
        rw [happly] at happly'
        cases happly'
        exact ⟨_, b, after, d, refused, hsplit', hrest, hstop, hb⟩
    | refused happly' _ =>
        obtain ⟨rfl, -⟩ := List.cons.inj hsplit
        rw [happly] at happly'
        cases happly'
  · rintro ⟨before, b, after, d, refused, rfl, hrun, hstop, hb⟩
    exact ⟨a :: before, b, after, d, refused, rfl, .applied happly hrun, hstop, hb⟩

/-- Past an action that is refused only a replay that goes on can break off. -/
theorem breaksOff_of_refused {c : Canvas} {cause : Rejection} {f : Failure}
    (hnames : a.misnamed? = none) (happly : a.apply.run c = .error (.rejected cause) c) :
    BreaksOff stop c index (a :: rest) f ↔
      stop = false ∧ BreaksOff stop c (index + 1) rest f := by
  constructor
  · rintro ⟨before, b, after, d, refused, hsplit, hrun, hstop, hb⟩
    cases hrun with
    | done =>
        obtain ⟨rfl, -⟩ : a = b ∧ rest = after := by simpa using hsplit
        rw [hnames] at hb
        cases hb
    | applied happly' _ =>
        obtain ⟨rfl, -⟩ := List.cons.inj hsplit
        rw [happly] at happly'
        cases happly'
    | refused _ hrest =>
        obtain ⟨rfl, hsplit'⟩ := List.cons.inj hsplit
        have hgoes : stop = false := by simpa using hstop
        exact ⟨hgoes, _, b, after, d, _, hsplit', hrest, by simp [hgoes], hb⟩
  · rintro ⟨hgoes, before, b, after, d, refused, rfl, hrun, _, hb⟩
    exact ⟨a :: before, b, after, d, _, rfl, .refused happly hrun, by simp [hgoes], hb⟩

/-- A replay breaks off at the first misnamed action that it reaches, and nowhere else. -/
theorem replayFrom_eq_error_iff (actions : List Action) (f : Failure) :
    replayFrom stop index report actions = .error f ↔
      BreaksOff stop report.canvas index actions f := by
  induction actions generalizing index report with
  | nil =>
      simp [replayFrom, BreaksOff]
  | cons a rest ih =>
      rcases a.run_apply_cases report.canvas with
        ⟨g, hmisnamed, _⟩ | ⟨hnames, ⟨c', happly⟩ | ⟨cause, happly⟩⟩
      · rw [replayFrom_of_misnamed hmisnamed, Except.error.injEq]
        refine ⟨?_, BreaksOff.eq_of_misnamed hmisnamed⟩
        rintro rfl
        exact .here hmisnamed
      · rw [replayFrom_of_applied happly, breaksOff_of_applied hnames happly]
        exact ih
      · rw [replayFrom_of_refused happly, breaksOff_of_refused hnames happly]
        cases stop with
        | true =>
            simp
        | false =>
            -- A refusal leaves the canvas as it was, so that the rest starts on the same one.
            let noted := report.noteRefused report.canvas ⟨index, a.tag, cause⟩
            have hrest : replayFrom false (index + 1) noted rest = .error f ↔
                BreaksOff false report.canvas (index + 1) rest f := ih
            simpa [noted] using hrest

/-! ## What a replay settles -/

/-- The actions that a replay attempts are a run: each is applied, or it is refused and noted with
its place and the cause.  A replay that goes on attempts all of them, and one that stops attempts
all up to the first refusal. -/
structure Settles (stop : Bool) (c : Canvas) (index : Nat) (done rest : List Action) (d : Canvas)
    (refused : List Refused) : Prop where
  run : Run c index done d refused
  goesOn : stop = false → rest = []
  stops : stop = true →
    refused = [] ∧ rest = [] ∨
      ∃ refusal, refused = [refusal] ∧ refusal.index + 1 = index + done.length

theorem Settles.applied {c c' d : Canvas} {done : List Action} {refused : List Refused}
    (happly : a.apply.run c = .ok () c') (h : Settles stop c' (index + 1) done rest d refused) :
    Settles stop c index (a :: done) rest d refused where
  run := .applied happly h.run
  goesOn := h.goesOn
  stops := by
    intro hstop
    refine (h.stops hstop).imp_right ?_
    rintro ⟨refusal, hrefused, hplace⟩
    refine ⟨refusal, hrefused, ?_⟩
    rw [List.length_cons]
    omega

/-- A replay that does not break off settles the actions that it attempts, and reports them. -/
theorem settles_of_replayFrom {actions : List Action} {r : Report} :
    replayFrom stop index report actions = .ok r →
      ∃ done rest refused, actions = done ++ rest ∧
        Settles stop report.canvas index done rest r.canvas refused ∧
        r.refused = report.refused ++ refused ∧
        r.applied + refused.length = report.applied + done.length := by
  intro hreplay
  induction actions generalizing index report with
  | nil =>
      obtain rfl := Except.ok.inj hreplay
      exact ⟨[], [], [], rfl, ⟨.done, fun _ => rfl, fun _ => .inl ⟨rfl, rfl⟩⟩, by simp, rfl⟩
  | cons a rest ih =>
      rcases a.run_apply_cases report.canvas with
        ⟨g, hmisnamed, _⟩ | ⟨_, ⟨c', happly⟩ | ⟨cause, happly⟩⟩
      · rw [replayFrom_of_misnamed hmisnamed] at hreplay
        cases hreplay
      · rw [replayFrom_of_applied happly] at hreplay
        rcases ih hreplay with ⟨done, left, refused, rfl, hsettles, hrefused, hcount⟩
        refine ⟨a :: done, left, refused, rfl, hsettles.applied happly, hrefused, ?_⟩
        simp only [Report.noteApplied] at hcount
        rw [List.length_cons]
        omega
      · rw [replayFrom_of_refused happly] at hreplay
        cases hstop : stop with
        | true =>
            -- This action is the last one that is attempted.
            subst hstop
            obtain rfl := Except.ok.inj hreplay
            refine ⟨[a], rest, [⟨index, a.tag, cause⟩], rfl, ⟨.refused happly .done, by simp, ?_⟩,
              rfl, by simp [Report.noteRefused]⟩
            exact fun _ => .inr ⟨_, rfl, rfl⟩
        | false =>
            subst hstop
            rcases ih hreplay with ⟨done, left, refused, rfl, hsettles, hrefused, hcount⟩
            refine ⟨a :: done, left, ⟨index, a.tag, cause⟩ :: refused, rfl,
              ⟨.refused happly hsettles.run, hsettles.goesOn, by simp⟩, ?_, ?_⟩
            · simpa [Report.noteRefused] using hrefused
            · simp only [Report.noteRefused] at hcount
              simp only [List.length_cons]
              omega

/-- Replaying a timeline, from any canvas and against any catalog, whether it stops at a refusal or
goes on.  It fails exactly where it reaches an action of which a change is named like an argument of
the edit that makes it.  Otherwise there is a report, by which every action that was attempted is
applied, or refused and noted with its place and the cause. -/
theorem replay_eq_error_iff (stop : Bool) (catalog : Option Catalog) (model : Option Canvas)
    (actions : List Action) :
    let c := start catalog model
    (∀ f, replay stop c actions = .error f ↔ BreaksOff stop c 0 actions f) ∧
      ((∃ f, replay stop c actions = .error f) ∨
        ∃ r done rest, replay stop c actions = .ok r ∧ actions = done ++ rest ∧
          Settles stop c 0 done rest r.canvas r.refused ∧
          r.applied + r.refused.length = done.length) := by
  intro c
  constructor
  · exact fun f => replayFrom_eq_error_iff actions f
  · cases hreplay : replay stop c actions with
    | error f =>
        exact .inl ⟨f, rfl⟩
    | ok r =>
        rcases settles_of_replayFrom hreplay with
          ⟨done, rest, refused, hsplit, hsettles, hrefused, hcount⟩
        obtain rfl : r.refused = refused := by simpa using hrefused
        exact .inr ⟨r, done, rest, rfl, hsplit, hsettles, by simpa using hcount⟩

/-- A change that is named `index` is read without complaint, and ends the replay at its place. -/
example :
    let timeline : Datum := .list
      [.object [("action", .text "add_condition")],
        .object [("action", .text "update_condition"), ("index", .integer 0),
          ("changes", .object [("index", .integer 1)])]]
    ∃ actions, Timeline.decode timeline = .ok actions ∧
      replay false {} actions = .error (.reservedName "update_condition" "index") := by
  exact ⟨_, rfl, rfl⟩

end Timeline

end QueryDesigner

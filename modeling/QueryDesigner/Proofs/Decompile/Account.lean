import QueryDesigner.Proofs.Decompile.Conjuncts
import QueryDesigner.Proofs.Decompile.Steps

/-!
# What becomes of the parts of a statement

* `Account` — what a part of a statement adds to the query, and what is reported about it;
* `Reading.Accounts` — parts read one after the other, with an account of each;
* `Reading.account_readPredicate` — a predicate adds a condition, or it is reported as dropped.
-/

namespace QueryDesigner

/-- What becomes of a part of a statement: what the query gets from it, if anything, and what is
reported while it is read. -/
structure Account (α : Type) where
  made : Option α
  reported : List Warning

namespace Reading

variable {α β : Type}

/-- The second draft is the first one after a part was read of which this is the account.  `view` is
the list of the query to which such parts add. -/
structure AccountOf (view : Query → List α) (d d' : Draft) (account : Account α) : Prop where
  made : view d'.canvas.query = view d.canvas.query ++ account.made.toList
  reported : d'.warnings = d.warnings ++ account.reported

theorem accountOf_warn (view : Query → List α) (w : Warning) (d : Draft) :
    AccountOf view d { d with warnings := d.warnings ++ [w] } ⟨none, [w]⟩ :=
  ⟨by simp, rfl⟩

/-- What was reported before anything was made comes first. -/
theorem AccountOf.after {view : Query → List α} {d d' d'' : Draft} {reported : List Warning}
    {account : Account α} (h : AccountOf view d d' ⟨none, reported⟩)
    (h' : AccountOf view d' d'' account) :
    AccountOf view d d'' ⟨account.made, reported ++ account.reported⟩ where
  made := by simpa [h.made] using h'.made
  reported := by simpa [h.reported] using h'.reported

/-- Parts are read one after the other, from one draft to another.  Of each there is an account, of
which `Fair` asks something. -/
inductive Accounts (read : β → Reading Unit) (view : Query → List α) (Fair : β → Account α → Prop) :
    Draft → List β → List (Account α) → Draft → Prop where
  | nil {d : Draft} : Accounts read view Fair d [] [] d
  | cons {d d' e : Draft} {part : β} {account : Account α} {parts : List β}
      {accounts : List (Account α)} :
      (read part).run d = .ok () d' → AccountOf view d d' account → Fair part account →
        Accounts read view Fair d' parts accounts e →
          Accounts read view Fair d (part :: parts) (account :: accounts) e

namespace Accounts

variable {read : β → Reading Unit} {view : Query → List α} {Fair : β → Account α → Prop}
  {d e : Draft} {parts : List β} {accounts : List (Account α)}

/-- What was made stands in the order of the parts. -/
theorem view_eq (h : Accounts read view Fair d parts accounts e) :
    view e.canvas.query = view d.canvas.query ++ accounts.filterMap Account.made := by
  induction h with
  | nil =>
      simp
  | @cons d d' e part account parts accounts _ haccount _ _ ih =>
      rw [ih, haccount.made]
      cases hmade : account.made <;> simp [hmade]

theorem warnings_eq (h : Accounts read view Fair d parts accounts e) :
    e.warnings = d.warnings ++ accounts.flatMap Account.reported := by
  induction h with
  | nil =>
      simp
  | cons _ haccount _ _ ih =>
      rw [ih, haccount.reported]
      simp

/-- A loop that succeeds accounts for every part if each part is accounted for by itself. -/
theorem of_run {P : Draft → Prop} (hP : ∀ part, Preserves P (read part))
    (hread : ∀ {part d d'}, P d → (read part).run d = .ok () d' →
      ∃ account, AccountOf view d d' account ∧ Fair part account) {u : PUnit} :
    P d →
      EStateM.run (forIn parts PUnit.unit fun part _ => do read part; pure (.yield PUnit.unit)) d =
        .ok u e →
          ∃ accounts, Accounts read view Fair d parts accounts e := by
  intro hd hrun
  induction parts generalizing d with
  | nil =>
      cases hrun
      exact ⟨[], .nil⟩
  | cons part rest ih =>
      rw [List.forIn_cons, bind_assoc, run_bind_eq_ok] at hrun
      rcases hrun with ⟨_, d', hpart, hrest⟩
      rcases hread hd hpart with ⟨account, haccount, hfair⟩
      rcases ih ((hP part).of_run hd hpart) (by simpa using hrest) with ⟨accounts, haccounts⟩
      exact ⟨account :: accounts, .cons hpart haccount hfair haccounts⟩

end Accounts

/-! ## Predicates -/

/-- The account of a predicate: one condition, or one warning that the predicate is dropped, and not
both. -/
def FairPredicate (predicate : Sql.Expr) (account : Account Condition) : Prop :=
  match account.made with
  | some _ => ∀ w ∈ account.reported, w.dropsPredicate = false
  | none =>
    account.reported = [.disjunction predicate.shown] ∨
      account.reported = [.condition predicate.shown]

/-- The draft after a part of a WHERE clause was read of which this is the account. -/
def withConditionAccount (d : Draft) (account : Account Condition) : Draft :=
  { d with
    canvas :=
      { d.canvas with
        query :=
          { d.canvas.query with
            conditions := d.canvas.query.conditions ++ account.made.toList } }
    warnings := d.warnings ++ account.reported }

theorem run_conditionOf? (predicate : Sql.Expr) (d : Draft) :
    (conditionOf? predicate).run d = .ok none d ∨
      ∃ condition reported, (conditionOf? predicate).run d =
          .ok (some condition) { d with warnings := d.warnings ++ reported } ∧
        ∀ w ∈ reported, w.dropsPredicate = false := by
  unfold conditionOf?
  cases htest : columnTest? predicate with
  | none =>
      exact .inl rfl
  | some test =>
      rcases test with ⟨⟨table, column⟩, left, operator, source⟩
      rcases Remarks.valueOf predicate source d with ⟨value, first, hvalue, hfirst⟩
      rcases Remarks.columnRef table column left.shown true
        { d with warnings := d.warnings ++ first } with ⟨ref, second, href, hsecond⟩
      refine .inr ⟨⟨ref, operator, value, .and⟩, first ++ second, ?_, ?_⟩
      · dsimp only
        rw [EStateM.run_bind, hvalue]
        dsimp only
        rw [EStateM.run_bind, href]
        simp
      · intro w hw
        exact (List.mem_append.1 hw).elim (hfirst w) (hsecond w)

/-- A predicate always becomes a condition, or it is reported as dropped. -/
theorem account_readPredicate (predicate : Sql.Expr) (d : Draft) :
    ∃ account, (readPredicate predicate).run d = .ok () (withConditionAccount d account) ∧
      FairPredicate predicate account := by
  unfold readPredicate
  split
  · exact ⟨⟨none, [.disjunction predicate.shown]⟩, by simp [withConditionAccount, run_warn],
      .inl rfl⟩
  · rcases run_conditionOf? predicate d with hrun | ⟨condition, reported, hrun, hreported⟩
    · refine ⟨⟨none, [.condition predicate.shown]⟩, ?_, .inr rfl⟩
      rw [EStateM.run_bind, hrun]
      simp [withConditionAccount, run_warn]
    · refine ⟨⟨some condition, reported⟩, ?_, hreported⟩
      rw [EStateM.run_bind, hrun]
      rfl

theorem preserves_joins_readConditions (joins : List Join) (condition : Sql.Expr) :
    Preserves (fun d : Draft => d.canvas.query.joins = joins) (readConditions condition) := by
  refine (Preserves.forM (fun predicate d hd => ?_) _).bind fun _ => .pure _
  rcases account_readPredicate predicate d with ⟨account, hrun, _⟩
  rw [hrun]
  exact hd

end Reading

end QueryDesigner

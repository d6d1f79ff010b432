import Mathlib

/-!
# What a program with state and failures preserves

* `finalState` — the state in which a run ends, whichever way it ends;
* `Preserves` — from a state with a property the program ends in one, also where it fails;
* `Preserves.bind`, `Preserves.modify`, … — one rule for each way of putting programs together;
* `Succeeds`, `Meets` — the program never fails, or only for the reasons that are given;
* `run_bind_eq_ok` — a run that succeeds, taken apart.
-/

namespace QueryDesigner

instance decidableEqResult {ε σ α : Type} [DecidableEq ε] [DecidableEq σ] [DecidableEq α] :
    DecidableEq (EStateM.Result ε σ α)
  | .ok a s, .ok b t => decidable_of_iff (a = b ∧ s = t) (by simp)
  | .error e s, .error f t => decidable_of_iff (e = f ∧ s = t) (by simp)
  | .ok .., .error .. => isFalse (by simp)
  | .error .., .ok .. => isFalse (by simp)

/-- The state in which a run ends, whichever way it ends. -/
def finalState {ε σ α : Type} : EStateM.Result ε σ α → σ
  | .ok _ s => s
  | .error _ s => s

/-- From a state with the property the program ends in one, also where it fails. -/
def Preserves {ε σ α : Type} (P : σ → Prop) (x : EStateM ε σ α) : Prop :=
  ∀ s, P s → P (finalState (x.run s))

namespace Preserves

variable {ε σ α β : Type} {P : σ → Prop} {x : EStateM ε σ α}

/-- The property after a run that succeeds. -/
theorem of_run (hx : Preserves P x) {s t : σ} {a : α} (hs : P s) (hrun : x.run s = .ok a t) :
    P t := by
  have ht := hx s hs
  rwa [hrun] at ht

theorem pure (a : α) : Preserves (ε := ε) P (Pure.pure a) := fun _ h => h

theorem get : Preserves (ε := ε) P (MonadState.get : EStateM ε σ σ) := fun _ h => h

theorem throw (e : ε) : Preserves P (MonadExcept.throw e : EStateM ε σ α) := fun _ h => h

theorem modify {f : σ → σ} (h : ∀ s, P s → P (f s)) :
    Preserves (ε := ε) P (modify f : EStateM ε σ PUnit) := h

theorem bind {f : α → EStateM ε σ β} (hx : Preserves P x) (hf : ∀ a, Preserves P (f a)) :
    Preserves P (x >>= f) := by
  intro s hs
  have hmid := hx s hs
  rw [EStateM.run_bind]
  cases hrun : x.run s with
  | ok a t =>
      rw [hrun] at hmid
      exact hf a t hmid
  | error e t =>
      rw [hrun] at hmid
      exact hmid

theorem map {f : α → β} (hx : Preserves P x) : Preserves P (f <$> x) := by
  rw [← bind_pure_comp]
  exact hx.bind fun a => .pure (f a)

theorem discard (hx : Preserves P x) : Preserves P (discard x) := by
  rw [Functor.discard, map_const]
  exact hx.map

theorem forM {f : β → EStateM ε σ PUnit} (hf : ∀ b, Preserves P (f b)) (bs : List β) :
    Preserves P (forIn bs PUnit.unit fun b _ => do f b; Pure.pure (.yield PUnit.unit)) := by
  induction bs with
  | nil =>
      exact .pure _
  | cons b rest ih =>
      rw [List.forIn_cons, bind_assoc]
      refine (hf b).bind fun _ => ?_
      simpa using ih

theorem optionForM {f : β → EStateM ε σ PUnit} (hf : ∀ b, Preserves P (f b)) (o : Option β) :
    Preserves P (ForM.forM o f) := by
  cases o with
  | none =>
      exact .pure _
  | some b =>
      exact hf b

end Preserves

/-! ## Programs that do not fail, or for known reasons only -/

/-- Whatever the state, the program does not fail. -/
def Succeeds {ε σ α : Type} (x : EStateM ε σ α) : Prop := ∀ s, ∃ a t, x.run s = .ok a t

namespace Succeeds

variable {ε σ α β : Type} {x : EStateM ε σ α}

theorem pure (a : α) : Succeeds (Pure.pure a : EStateM ε σ α) := fun s => ⟨a, s, rfl⟩

theorem modify (f : σ → σ) : Succeeds (modify f : EStateM ε σ PUnit) := fun s => ⟨(), f s, rfl⟩

theorem bind {f : α → EStateM ε σ β} (hx : Succeeds x) (hf : ∀ a, Succeeds (f a)) :
    Succeeds (x >>= f) := by
  intro s
  rcases hx s with ⟨a, t, hrun⟩
  rcases hf a t with ⟨b, u, hrest⟩
  exact ⟨b, u, by rw [EStateM.run_bind, hrun]; exact hrest⟩

theorem discard (hx : Succeeds x) : Succeeds (discard x) := by
  rw [Functor.discard, map_const, Function.comp_apply, ← bind_pure_comp]
  exact hx.bind fun _ => .pure _

theorem forM {f : β → EStateM ε σ PUnit} (hf : ∀ b, Succeeds (f b)) (bs : List β) :
    Succeeds (forIn bs PUnit.unit fun b _ => do f b; Pure.pure (.yield PUnit.unit)) := by
  induction bs with
  | nil =>
      exact .pure _
  | cons b rest ih =>
      rw [List.forIn_cons, bind_assoc]
      refine (hf b).bind fun _ => ?_
      simpa using ih

theorem optionForM {f : β → EStateM ε σ PUnit} (hf : ∀ b, Succeeds (f b)) (o : Option β) :
    Succeeds (ForM.forM o f) := by
  cases o with
  | none =>
      exact .pure _
  | some b =>
      exact hf b

end Succeeds

/-- From a state with the first property the program succeeds and ends as the second one says, or it
fails for a reason that the third one admits. -/
def Meets {ε σ α : Type} (P : σ → Prop) (x : EStateM ε σ α) (Q : α → σ → Prop) (E : ε → Prop) :
    Prop :=
  ∀ s, P s → match x.run s with
    | .ok a t => Q a t
    | .error e _ => E e

namespace Meets

variable {ε σ α β : Type} {P : σ → Prop} {Q : α → σ → Prop} {R : β → σ → Prop} {E : ε → Prop}
  {x : EStateM ε σ α}

theorem pure {a : α} (h : ∀ s, P s → Q a s) : Meets P (Pure.pure a) Q E := h

/-- A program that only looks at the state. -/
theorem of_reads (hx : ∀ s, ∃ a, x.run s = .ok a s) : Meets P x (fun _ => P) E := by
  intro s hs
  rcases hx s with ⟨a, hrun⟩
  rw [hrun]
  exact hs

/-- What is preserved anyway may be asked for as well. -/
theorem and {I : σ → Prop} (hx : Meets P x Q E) (hI : Preserves I x) :
    Meets (fun s => P s ∧ I s) x (fun a s => Q a s ∧ I s) E := by
  rintro s ⟨hs, hi⟩
  have hmeets := hx s hs
  have hkeeps := hI s hi
  cases hrun : x.run s with
  | ok a t =>
      rw [hrun] at hmeets hkeeps
      exact ⟨hmeets, hkeeps⟩
  | error e t =>
      rw [hrun] at hmeets
      exact hmeets

/-- What is no matter of the state may be taken along. -/
theorem frame (hx : Meets P x Q E) (fact : Prop) :
    Meets (fun s => P s ∧ fact) x (fun a s => Q a s ∧ fact) E :=
  hx.and fun _ h => h

theorem mono {P' : σ → Prop} {Q' : α → σ → Prop} {E' : ε → Prop} (h : Meets P x Q E)
    (hP : ∀ s, P' s → P s) (hQ : ∀ a s, Q a s → Q' a s) (hE : ∀ e, E e → E' e) :
    Meets P' x Q' E' := by
  intro s hs
  have hx := h s (hP s hs)
  split <;> rename_i hrun <;> rw [hrun] at hx
  · exact hQ _ _ hx
  · exact hE _ hx

theorem bind {f : α → EStateM ε σ β} (hx : Meets P x Q E) (hf : ∀ a, Meets (Q a) (f a) R E) :
    Meets P (x >>= f) R E := by
  intro s hs
  have hmid := hx s hs
  rw [EStateM.run_bind]
  cases hrun : x.run s with
  | ok a t =>
      rw [hrun] at hmid
      exact hf a t hmid
  | error e t =>
      rw [hrun] at hmid
      exact hmid

end Meets

/-- Two programs one after the other succeed where both do. -/
theorem run_bind_eq_ok {ε σ α β : Type} {x : EStateM ε σ α} {f : α → EStateM ε σ β} {s t : σ}
    {b : β} :
    (x >>= f).run s = .ok b t ↔ ∃ a u, x.run s = .ok a u ∧ (f a).run u = .ok b t := by
  rw [EStateM.run_bind]
  cases x.run s <;> simp

end QueryDesigner

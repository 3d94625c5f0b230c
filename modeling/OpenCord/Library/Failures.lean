import OpenCord.Library.Effects

/-! Failing without a trace, from one state and for an observer: where a computation fails, what
is observed of the state is what it was before. The rules follow the steps of a sequence: a step
that changes nothing visible can be dropped, and after a visible change that later failures do
not undo nothing may fail any more.
-/

namespace OpenCord.Library

namespace Eff

variable {σ τ ω ε δ α β : Type}

/-- Whatever failure a computation ends with from a state, an observer sees no change. -/
def Traceless (observed : σ → ω) (action : Eff σ ε α) (state : σ) : Prop :=
  ∀ error last, action.exec state = (.error error, last) → observed last = observed state

/-- A sequence goes on where its first step has ended. -/
theorem exec_bind_of_ok {action : Eff σ ε α} {next : α → Eff σ ε β} {state middle : σ} {value : α}
    (ran : action.exec state = (.ok value, middle))
    : (action >>= next).exec state = (next value).exec middle := by
  rw [exec_bind, ran]

/-- A computation that succeeds from a state has no failure to be seen. -/
theorem traceless_of_ok {observed : σ → ω} {action : Eff σ ε α} {state last : σ} {value : α}
    (ran : action.exec state = (.ok value, last))
    : Traceless observed action state := by
  intro error other failed
  rw [ran] at failed
  cases failed

/-- Of a failure from a state there is no trace exactly if it left what is observed. -/
theorem traceless_iff_of_error {observed : σ → ω} {action : Eff σ ε α} {state last : σ}
    {error : ε} (failed : action.exec state = (.error error, last))
    : Traceless observed action state ↔ observed last = observed state := by
  constructor
  · intro traceless
    exact traceless error last failed
  · intro same other next again
    rw [failed] at again
    cases again
    exact same

theorem Atomic.traceless {action : Eff σ ε α} (atomic : Atomic action) (observed : σ → ω)
    (state : σ) : Traceless observed action state := by
  intro error last failed
  rw [atomic state error last failed]

@[simp] theorem traceless_get_bind_iff {observed : σ → ω} {next : σ → Eff σ ε β} {state : σ}
    : Traceless observed ((get : Eff σ ε σ) >>= next) state
      ↔ Traceless observed (next state) state :=
  Iff.rfl

/-- A check that fails leaves no trace, and one that passes is not seen. -/
theorem traceless_check_bind_iff {observed : σ → ω} {check : Except ε α} {next : α → Eff σ ε β}
    {state : σ}
    : Traceless observed ((liftM check : Eff σ ε α) >>= next) state
      ↔ ∀ value, check = .ok value → Traceless observed (next value) state := by
  cases check with
  | error error =>
      refine iff_of_true ?_ ?_
      · rw [traceless_iff_of_error (exec_check_bind _ _ _)]
      · intro value passed
        cases passed
  | ok passed =>
      constructor
      · intro traceless value same
        cases same
        exact traceless
      · intro traceless
        exact traceless passed rfl

/-- After a step that is not seen, the rest decides. -/
theorem traceless_bind_iff_of_unseen {observed : σ → ω} {action : Eff σ ε α}
    {next : α → Eff σ ε β} {state middle : σ} {value : α}
    (ran : action.exec state = (.ok value, middle)) (unseen : observed middle = observed state)
    : Traceless observed (action >>= next) state ↔ Traceless observed (next value) middle := by
  rw [Traceless, exec_bind, ran, Traceless, unseen]

/-- Where the first step fails, the rest does not matter. -/
theorem traceless_bind_iff_of_error {observed : σ → ω} {action : Eff σ ε α}
    {next : α → Eff σ ε β} {state last : σ} {error : ε}
    (failed : action.exec state = (.error error, last))
    : Traceless observed (action >>= next) state ↔ observed last = observed state := by
  have ended : (action >>= next).exec state = (.error error, last) := by
    rw [exec_bind, failed]
  exact traceless_iff_of_error ended

/-- A check passes if it passes something. -/
theorem isOk_iff {check : Except ε α} : check.isOk = true ↔ ∃ value, check = .ok value := by
  cases check with
  | error error => exact iff_of_false (fun passed => by cases passed) fun ⟨_, same⟩ => by cases same
  | ok value => exact iff_of_true rfl ⟨value, rfl⟩

theorem isOk_of_eq_ok {check : Except ε α} {value : α} (passed : check = .ok value)
    : check.isOk = true :=
  isOk_iff.mpr ⟨value, passed⟩

/-- An answer computed after a computation succeeds where the computation does. -/
theorem succeeds_map_iff {action : Eff σ ε α} (answer : α → β) {state : σ}
    : (∃ value last, (action >>= fun value => pure (answer value)).exec state = (.ok value, last))
      ↔ ∃ value last, action.exec state = (.ok value, last) := by
  rw [exec_bind]
  rcases action.exec state with ⟨error | value, last⟩
  · exact iff_of_false (fun ⟨_, _, done⟩ => by cases done) fun ⟨_, _, done⟩ => by cases done
  · exact iff_of_true ⟨answer value, last, rfl⟩ ⟨value, last, rfl⟩

end Eff

end OpenCord.Library

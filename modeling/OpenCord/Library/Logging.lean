import OpenCord.Library.Effects

/-! Computations that keep a log beside their state. A computation with a log does what it does
without, and notes its success.
-/

namespace OpenCord.Library.Eff

variable {σ ρ ε η δ α β : Type}

/-- A computation that leaves the log alone. -/
def besideLog (lift : ε → δ) (action : Eff σ ε α) : Eff (σ × ρ) δ α :=
  action.zoom Prod.fst (fun state next => (next, state.2)) lift

/-- A computation on the log. -/
def onLog (lift : η → δ) (action : Eff ρ η α) : Eff (σ × ρ) δ α :=
  action.zoom Prod.snd (fun state log => (state.1, log)) lift

/-- From a state, a computation with a log does what a computation does without one. Where it
stops with a failure, it has noted nothing.
-/
def Logs (lift : ε → δ) (state : σ × ρ) (plain : Eff σ ε α) (logging : Eff (σ × ρ) δ α)
    (stopped : σ → Prop) (noted : σ → ρ → Prop) : Prop :=
  (∃ error middle, plain.exec state.1 = (.error error, middle)
      ∧ logging.exec state = (.error (lift error), (middle, state.2)) ∧ stopped middle)
    ∨ ∃ value last log, plain.exec state.1 = (.ok value, last)
      ∧ logging.exec state = (.ok value, (last, log)) ∧ noted last log

namespace Logs

variable {lift : ε → δ} {state : σ × ρ} {stopped : σ → Prop} {noted : σ → ρ → Prop}

/-- Both computations end in the same state, and the log has changed only after a success. -/
theorem after {plain : Eff σ ε α} {logging : Eff (σ × ρ) δ α}
    (logs : Logs lift state plain logging stopped noted)
    : (logging.after state).1 = plain.after state.1
        ∧ ((logging.after state).2 = state.2 ∧ stopped (plain.after state.1)
          ∨ noted (plain.after state.1) (logging.after state).2) := by
  rcases logs with ⟨error, middle, failed, stops, here⟩ | ⟨value, last, log, passed, done, here⟩
  · rw [Eff.after, Eff.after, failed, stops]
    exact ⟨rfl, .inl ⟨rfl, here⟩⟩
  · rw [Eff.after, Eff.after, passed, done]
    exact ⟨rfl, .inr here⟩

theorem get_bind {plain : σ → Eff σ ε α} {logging : σ × ρ → Eff (σ × ρ) δ α}
    (rest : Logs lift state (plain state.1) (logging state) stopped noted)
    : Logs lift state (get >>= plain) (get >>= logging) stopped noted :=
  rest

theorem check_bind {check : Except ε α} {plain : α → Eff σ ε β}
    {logging : α → Eff (σ × ρ) δ β} (unchanged : stopped state.1)
    (rest : ∀ value, check = .ok value →
      Logs lift state (plain value) (logging value) stopped noted)
    : Logs lift state ((liftM check : Eff σ ε α) >>= plain)
        ((liftM (check.mapError lift) : Eff (σ × ρ) δ α) >>= logging) stopped noted := by
  cases check with
  | error error => exact .inl ⟨error, state.1, rfl, rfl, unchanged⟩
  | ok value => exact rest value rfl

theorem action_bind {action : Eff σ ε α} {plain : α → Eff σ ε β}
    {logging : α → Eff (σ × ρ) δ β}
    (failed : ∀ error middle, action.exec state.1 = (.error error, middle) → stopped middle)
    (rest : ∀ value middle, action.exec state.1 = (.ok value, middle) →
      Logs lift (middle, state.2) (plain value) (logging value) stopped noted)
    : Logs lift state (action >>= plain) (besideLog lift action >>= logging) stopped noted := by
  have beside : (besideLog lift action).exec state
      = ((action.exec state.1).1.mapError lift, ((action.exec state.1).2, state.2)) := rfl
  rw [Logs, exec_bind, exec_bind, beside]
  rcases ended : action.exec state.1 with ⟨error | value, middle⟩
  · exact .inl ⟨error, middle, rfl, rfl, failed error middle ended⟩
  · exact rest value middle ended

/-- A computation that ends with an action goes on with its answer in the log. -/
theorem action_end {action : Eff σ ε α} {logging : α → Eff (σ × ρ) δ α}
    (failed : ∀ error middle, action.exec state.1 = (.error error, middle) → stopped middle)
    (rest : ∀ value middle, action.exec state.1 = (.ok value, middle) →
      Logs lift (middle, state.2) (pure value) (logging value) stopped noted)
    : Logs lift state action (besideLog lift action >>= logging) stopped noted := by
  have ends := action_bind failed rest
  rwa [bind_pure] at ends

/-- What follows a note does not fail. -/
theorem note_bind {lifts : η → δ} {note : Eff ρ η α} {answer : α} {log : ρ}
    {plain : Eff σ ε β} {logging : α → Eff (σ × ρ) δ β} {value : β} {last : σ}
    (written : note.exec state.2 = (.ok answer, log))
    (passed : plain.exec state.1 = (.ok value, last))
    (done : (logging answer).exec (state.1, log) = (.ok value, (last, log)))
    (here : noted last log)
    : Logs lift state plain (onLog lifts note >>= logging) stopped noted := by
  have onLog : (onLog lifts note : Eff (σ × ρ) δ α).exec state
      = (.ok answer, (state.1, log)) :=
    exec_zoom_eq_ok.mpr ⟨log, written, rfl⟩
  refine .inr ⟨value, last, log, passed, ?_, here⟩
  rw [exec_bind, onLog]
  exact done

end Logs

end OpenCord.Library.Eff

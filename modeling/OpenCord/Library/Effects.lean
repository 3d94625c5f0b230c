import Mathlib.Data.List.Forall2

/-! Computations that read and write a state and may fail. A failure keeps the writes that
happened before it, which is how a request that stops halfway leaves its stores.
-/

namespace OpenCord.Library

/-- A computation over state `σ` that fails with `ε` or returns `α`; the state survives a
failure.
-/
abbrev Eff (σ ε α : Type) := ExceptT ε (StateM σ) α

namespace Eff

variable {σ τ ε δ α β : Type}

/-- The answer of a computation and the state it leaves. -/
def exec (action : Eff σ ε α) (state : σ) : Except ε α × σ :=
  action.run state

/-- A computation that looks at the state without changing it. -/
def reads (query : σ → Except ε α) : Eff σ ε α :=
  fun state => (query state, state)

/-- A computation that replaces the state and cannot fail. -/
def writes (update : σ → σ) : Eff σ ε Unit :=
  fun state => (.ok (), update state)

/-- A computation on one part of a larger state, with its failures translated. -/
def zoom (part : τ → σ) (update : τ → σ → τ) (lift : ε → δ) (action : Eff σ ε α)
    : Eff τ δ α :=
  fun state =>
    let outcome := action.exec (part state)
    (outcome.1.mapError lift, update state outcome.2)

/-- The state reached by a computation, whatever it answers. -/
def after (action : Eff σ ε α) (state : σ) : σ :=
  (action.exec state).2

-----------------------------------------------------------------------------------------
-- Evaluation rules
-----------------------------------------------------------------------------------------

@[simp] theorem exec_pure (value : α) (state : σ)
    : exec (pure value : Eff σ ε α) state = (.ok value, state) :=
  rfl

@[simp] theorem exec_throw (error : ε) (state : σ)
    : exec (throw error : Eff σ ε α) state = (.error error, state) :=
  rfl

@[simp] theorem exec_get (state : σ)
    : exec (get : Eff σ ε σ) state = (.ok state, state) :=
  rfl

@[simp] theorem exec_set (next state : σ)
    : exec (set next : Eff σ ε PUnit) state = (.ok ⟨⟩, next) :=
  rfl

@[simp] theorem exec_reads (query : σ → Except ε α) (state : σ)
    : exec (reads query) state = (query state, state) :=
  rfl

@[simp] theorem exec_writes (update : σ → σ) (state : σ)
    : exec (writes update : Eff σ ε Unit) state = (.ok (), update state) :=
  rfl

/-- Sequencing runs the continuation on the answer and stops at the first failure. -/
theorem exec_bind (action : Eff σ ε α) (next : α → Eff σ ε β) (state : σ)
    : exec (action >>= next) state
        = match exec action state with
          | (.ok value, middle) => exec (next value) middle
          | (.error error, middle) => (.error error, middle) := by
  simp only [exec, ExceptT.run, bind, ExceptT.bind, ExceptT.mk, StateT.bind]
  rcases action state with ⟨answer, middle⟩
  cases answer <;> rfl

/-- A pure check leaves the state. -/
@[simp] theorem exec_liftExcept (check : Except ε α) (state : σ)
    : exec (liftM check : Eff σ ε α) state = (check, state) :=
  rfl

/-- Translating the failure of a check keeps what it passes. -/
@[simp] theorem mapError_eq_ok {check : Except ε α} {lift : ε → δ} {value : α}
    : check.mapError lift = .ok value ↔ check = .ok value := by
  constructor
  · intro passed
    cases check with
    | error => cases passed
    | ok other =>
        cases passed
        rfl
  · intro passed
    rw [passed]
    rfl

/-- What a check passes is its answer. -/
theorem toOption_eq_some {check : Except ε α} {value : α}
    : check.toOption = some value ↔ check = .ok value := by
  cases check <;> simp [Except.toOption]

/-- Two pure checks pass when both do. -/
theorem check_bind_eq_ok {check : Except ε α} {next : α → Except ε β} {value : β}
    : check >>= next = .ok value ↔ ∃ middle, check = .ok middle ∧ next middle = .ok value := by
  cases check with
  | error error => exact ⟨nofun, nofun⟩
  | ok middle =>
      refine ⟨fun done => ⟨middle, rfl, done⟩, ?_⟩
      intro found
      obtain ⟨_, same, done⟩ := found
      cases same
      exact done

/-- A sequence of checks does not fail with an error that none of them fails with. -/
theorem check_bind_ne_error {check : Except ε α} {next : α → Except ε β} {error : ε}
    (first : check ≠ .error error)
    (rest : ∀ middle, check = .ok middle → next middle ≠ .error error)
    : check >>= next ≠ .error error := by
  cases check with
  | error other =>
      intro failed
      cases failed
      exact first rfl
  | ok middle => exact rest middle rfl

/-- What is checked one by one passes one by one, by induction over the inputs. -/
theorem forall₂_of_mapM {check : α → Except ε β} {inputs : List α} {outputs : List β}
    (passed : inputs.mapM check = .ok outputs)
    : List.Forall₂ (fun input output => check input = .ok output) inputs outputs := by
  induction inputs generalizing outputs with
  | nil =>
      cases passed
      exact .nil
  | cons first rest ih =>
      rw [List.mapM_cons] at passed
      obtain ⟨head, own, passed⟩ := check_bind_eq_ok.mp passed
      obtain ⟨tail, others, passed⟩ := check_bind_eq_ok.mp passed
      cases passed
      exact .cons own (ih others)

/-- What is listed has been checked for one of the inputs, by induction over the pairs. -/
theorem mem_iff_of_mapM {check : α → Except ε β} {inputs : List α} {outputs : List β}
    (passed : inputs.mapM check = .ok outputs) {output : β}
    : output ∈ outputs ↔ ∃ input ∈ inputs, check input = .ok output := by
  have pairs := forall₂_of_mapM passed
  clear passed
  induction pairs with
  | nil => simp
  | @cons first head rest tail own others ih =>
      rw [List.mem_cons, List.exists_mem_cons_iff, own, Except.ok.injEq]
      exact or_congr eq_comm ih

/-- Inputs that all pass pass together, by induction over the inputs. -/
theorem exists_mapM_eq_ok {check : α → Except ε β} {inputs : List α}
    (passes : ∀ input ∈ inputs, ∃ output, check input = .ok output)
    : ∃ outputs, inputs.mapM check = .ok outputs := by
  induction inputs with
  | nil => exact ⟨[], rfl⟩
  | cons first rest ih =>
      obtain ⟨own, others⟩ := List.forall_mem_cons.mp passes
      obtain ⟨head, passed⟩ := own
      obtain ⟨tail, built⟩ := ih others
      refine ⟨head :: tail, ?_⟩
      rw [List.mapM_cons, passed, built]
      rfl

/-- A sequence that starts with a pure check goes on only if the check passes. -/
theorem exec_check_bind (check : Except ε α) (next : α → Eff σ ε β) (state : σ)
    : exec ((liftM check : Eff σ ε α) >>= next) state
        = match check with
          | .ok value => exec (next value) state
          | .error error => (.error error, state) := by
  rw [exec_bind, exec_liftExcept]
  cases check <;> rfl

/-- A sequence that starts by reading the state continues with it. -/
@[simp] theorem exec_get_bind (next : σ → Eff σ ε β) (state : σ)
    : exec ((get : Eff σ ε σ) >>= next) state = exec (next state) state :=
  rfl

/-- A sequence succeeds when both parts do. -/
theorem exec_bind_eq_ok {action : Eff σ ε α} {next : α → Eff σ ε β} {state last : σ}
    {answer : β}
    : exec (action >>= next) state = (.ok answer, last)
      ↔ ∃ value middle, exec action state = (.ok value, middle)
          ∧ exec (next value) middle = (.ok answer, last) := by
  rw [exec_bind]
  rcases exec action state with ⟨_ | value, middle⟩
  · simp
  · constructor
    · exact fun done => ⟨value, middle, rfl, done⟩
    · rintro ⟨_, _, same, done⟩
      cases same
      exact done

/-- A sequence that starts with a pure check succeeds when the check passes and the rest
succeeds in the same state.
-/
theorem exec_check_bind_eq_ok {check : Except ε α} {next : α → Eff σ ε β} {state last : σ}
    {answer : β}
    : exec ((liftM check : Eff σ ε α) >>= next) state = (.ok answer, last)
      ↔ ∃ value, check = .ok value ∧ exec (next value) state = (.ok answer, last) := by
  rw [exec_check_bind]
  cases check with
  | error error => simp
  | ok value => simp

-----------------------------------------------------------------------------------------
-- Where a computation leaves the state
-----------------------------------------------------------------------------------------

/-- A failed check leaves the state, so only passing checks are left to consider. -/
theorem after_check_bind {property : σ → Prop} {check : Except ε α}
    {next : α → Eff σ ε β} {state : σ} (unchanged : property state)
    (passed : ∀ value, check = .ok value → property ((next value).after state))
    : property (((liftM check : Eff σ ε α) >>= next).after state) := by
  rw [after, exec_check_bind]
  cases check with
  | error error => exact unchanged
  | ok value => exact passed value rfl

@[simp] theorem after_get_bind (next : σ → Eff σ ε β) (state : σ)
    : ((get : Eff σ ε σ) >>= next).after state = (next state).after state :=
  rfl

@[simp] theorem after_throw (error : ε) (state : σ)
    : (throw error : Eff σ ε α).after state = state :=
  rfl

@[simp] theorem after_pure (value : α) (state : σ)
    : (pure value : Eff σ ε α).after state = state :=
  rfl

theorem after_zoom (part : τ → σ) (update : τ → σ → τ) (lift : ε → δ) (action : Eff σ ε α)
    (state : τ)
    : (zoom part update lift action).after state = update state (action.after (part state)) :=
  rfl

/-- A sequence ends where its first part failed or where its second part ends. -/
theorem after_bind {property : σ → Prop} {action : Eff σ ε α} {next : α → Eff σ ε β}
    {state : σ}
    (failed : ∀ error middle, action.exec state = (.error error, middle) → property middle)
    (passed : ∀ value middle, action.exec state = (.ok value, middle) →
      property ((next value).after middle))
    : property ((action >>= next).after state) := by
  rw [after, exec_bind]
  rcases ended : action.exec state with ⟨error | value, middle⟩
  · exact failed error middle ended
  · exact passed value middle ended

/-- A sequence whose first part succeeds ends where the second part ends. -/
theorem after_bind_of_ok {action : Eff σ ε α} {next : α → Eff σ ε β} {state middle : σ}
    {value : α} (ran : action.exec state = (.ok value, middle))
    : (action >>= next).after state = (next value).after middle := by
  rw [after, exec_bind, ran]
  rfl

/-- A sequence whose first part fails ends there. -/
theorem after_bind_of_error {action : Eff σ ε α} {next : α → Eff σ ε β} {state middle : σ}
    {error : ε} (failed : action.exec state = (.error error, middle))
    : (action >>= next).after state = middle := by
  rw [after, exec_bind, failed]

/-- An answer computed after a computation leaves the state where the computation ends. -/
theorem after_map (action : Eff σ ε α) (answer : α → β) (state : σ)
    : (action >>= fun value => pure (answer value)).after state = action.after state := by
  rw [after, after, exec_bind]
  rcases action.exec state with ⟨_ | _, _⟩ <;> rfl

/-- A property that holds where the first part ends, and that the second part keeps. -/
theorem after_bind_of_after {property : σ → Prop} {action : Eff σ ε α} {next : α → Eff σ ε β}
    {state : σ} (reached : property (action.after state))
    (kept : ∀ value, property ((next value).after (action.after state)))
    : property ((action >>= next).after state) := by
  refine after_bind (fun error middle failed => ?_) (fun value middle passed => ?_)
  · obtain rfl : _ = middle := congrArg Prod.snd failed
    exact reached
  · obtain rfl : _ = middle := congrArg Prod.snd passed
    exact kept value

-----------------------------------------------------------------------------------------
-- Failing without a trace
-----------------------------------------------------------------------------------------

/-- A computation that leaves the state wherever it fails. -/
def Atomic (action : Eff σ ε α) : Prop :=
  ∀ state error next, action.exec state = (.error error, next) → next = state

theorem Atomic.throw (error : ε) : Atomic (throw error : Eff σ ε α) := by
  intro state _ next failed
  cases failed
  rfl

theorem Atomic.writes (update : σ → σ) : Atomic (writes update : Eff σ ε Unit) := by
  intro state error next failed
  cases failed

theorem Atomic.set (next : σ) : Atomic (set next : Eff σ ε PUnit) := by
  intro state error last failed
  cases failed

theorem Atomic.pure (value : α) : Atomic (pure value : Eff σ ε α) := by
  intro state error next failed
  cases failed

/-- Checks before a computation that leaves no trace leave none. -/
theorem Atomic.check_bind {check : Except ε α} {next : α → Eff σ ε β}
    (atomic : ∀ value, Atomic (next value))
    : Atomic ((liftM check : Eff σ ε α) >>= next) := by
  intro state error last failed
  rw [exec_check_bind] at failed
  cases check with
  | error _ =>
      cases failed
      rfl
  | ok value => exact atomic value state error last failed

theorem Atomic.get_bind {next : σ → Eff σ ε β} (atomic : ∀ state, Atomic (next state))
    : Atomic ((get : Eff σ ε σ) >>= next) := by
  intro state error last failed
  exact atomic state state error last failed

/-- An answer computed after a computation adds no failure. -/
theorem Atomic.map {action : Eff σ ε α} (atomic : Atomic action) (answer : α → β)
    : Atomic (action >>= fun value => Pure.pure (answer value)) := by
  intro state error last failed
  rw [exec_bind] at failed
  rcases ended : action.exec state with ⟨error | value, middle⟩
  · rw [ended] at failed
    cases failed
    exact atomic state _ _ ended
  · rw [ended] at failed
    cases failed

theorem Atomic.zoom {action : Eff σ ε α} (atomic : Atomic action) {part : τ → σ}
    {update : τ → σ → τ} (lift : ε → δ) (unchanged : ∀ state, update state (part state) = state)
    : Atomic (zoom part update lift action) := by
  intro state error last failed
  have same : last = update state (action.exec (part state)).2 := (congrArg Prod.snd failed).symm
  have answer : (action.exec (part state)).1.mapError lift = .error error :=
    congrArg Prod.fst failed
  rcases ended : action.exec (part state) with ⟨_ | value, next⟩
  · rw [same, ended, atomic _ _ _ ended, unchanged]
  · rw [ended] at answer
    cases answer

/-- A sequence that starts with such a computation ends where the second part ends. -/
theorem after_atomic_bind {property : σ → Prop} {action : Eff σ ε α}
    {next : α → Eff σ ε β} {state : σ} (atomic : Atomic action) (unchanged : property state)
    (passed : ∀ value middle, action.exec state = (.ok value, middle) →
      property ((next value).after middle))
    : property ((action >>= next).after state) := by
  refine after_bind (fun error middle failed => ?_) passed
  rw [atomic state error middle failed]
  exact unchanged

/-- Such a computation on its own changes the state only if it succeeds. -/
theorem after_atomic {property : σ → Prop} {action : Eff σ ε α} {state : σ}
    (atomic : Atomic action) (unchanged : property state)
    (passed : ∀ value last, action.exec state = (.ok value, last) → property last)
    : property (action.after state) := by
  rcases ended : action.exec state with ⟨error | value, last⟩
  · rw [after, ended, atomic state error last ended]
    exact unchanged
  · rw [after, ended]
    exact passed value last ended

/-- A computation on a part succeeds as it does on the part alone. -/
theorem exec_zoom_eq_ok {part : τ → σ} {update : τ → σ → τ} {lift : ε → δ}
    {action : Eff σ ε α} {state last : τ} {value : α}
    : (zoom part update lift action).exec state = (.ok value, last)
      ↔ ∃ next, action.exec (part state) = (.ok value, next) ∧ update state next = last := by
  have outcome : (zoom part update lift action).exec state
      = ((action.exec (part state)).1.mapError lift,
          update state (action.exec (part state)).2) :=
    rfl
  rw [outcome]
  constructor
  · intro ended
    obtain ⟨passed, same⟩ := Prod.mk.injEq .. ▸ ended
    exact ⟨_, Prod.ext (mapError_eq_ok.mp passed) rfl, same⟩
  · intro ended
    obtain ⟨next, passed, same⟩ := ended
    rw [passed, same]
    rfl

/-- A sequence that starts on a part: all that the first part can leave is a change of it. -/
theorem after_zoom_bind {property : τ → Prop} {part : τ → σ} {update : τ → σ → τ}
    {lift : ε → δ} {action : Eff σ ε α} {next : α → Eff τ δ β} {state : τ}
    (changed : ∀ store, property (update state store))
    (passed : ∀ value store, action.exec (part state) = (.ok value, store) →
      property ((next value).after (update state store)))
    : property ((zoom part update lift action >>= next).after state) := by
  refine after_bind (fun error middle failed => ?_) (fun value middle ran => ?_)
  · obtain rfl : _ = middle := congrArg Prod.snd failed
    exact changed _
  · obtain ⟨store, done, rfl⟩ := exec_zoom_eq_ok.mp ran
    exact passed value store done

/-- A computation on a part fails as it does on the part alone. -/
theorem exec_zoom_of_error {part : τ → σ} {update : τ → σ → τ} {lift : ε → δ}
    {action : Eff σ ε α} {state : τ} {error : ε} {next : σ}
    (failed : action.exec (part state) = (.error error, next))
    : (zoom part update lift action).exec state = (.error (lift error), update state next) := by
  have outcome : (zoom part update lift action).exec state
      = ((action.exec (part state)).1.mapError lift,
          update state (action.exec (part state)).2) :=
    rfl
  rw [outcome, failed]
  rfl

end Eff

end OpenCord.Library

import Mathlib.Logic.Basic

/-! Runs of a deterministic system: a step takes the state and an action, and is undefined
where the action cannot happen. Invariants of steps become invariants of runs.
-/

namespace OpenCord.Library

variable {σ α : Type}

/-- The state after a sequence of actions, if all of them can happen. -/
def run (step : σ → α → Option σ) : σ → List α → Option σ
  | state, [] => some state
  | state, action :: actions =>
      match step state action with
      | some next => run step next actions
      | none => none

/-- A state that some sequence of actions reaches. -/
def Reachable (step : σ → α → Option σ) (start state : σ) : Prop :=
  ∃ actions, run step start actions = some state

/-- A run splits at its first action. -/
theorem run_cons_eq_some {step : σ → α → Option σ} {start last : σ} {action : α}
    {actions : List α}
    : run step start (action :: actions) = some last
      ↔ ∃ next, step start action = some next ∧ run step next actions = some last := by
  rw [run]
  cases step start action <;> simp

/-- A run splits anywhere, by induction over the actions before. -/
theorem run_append_eq_some {step : σ → α → Option σ} {start last : σ}
    {before later : List α}
    : run step start (before ++ later) = some last
      ↔ ∃ middle, run step start before = some middle ∧ run step middle later = some last := by
  induction before generalizing start with
  | nil =>
      refine ⟨fun ran => ⟨start, rfl, ran⟩, fun split => ?_⟩
      obtain ⟨middle, same, ran⟩ := split
      cases same
      exact ran
  | cons action before ih =>
      rw [List.cons_append, run_cons_eq_some]
      constructor
      · intro ran
        obtain ⟨next, stepped, rest⟩ := ran
        obtain ⟨middle, first, second⟩ := ih.mp rest
        exact ⟨middle, run_cons_eq_some.mpr ⟨next, stepped, first⟩, second⟩
      · intro split
        obtain ⟨middle, first, second⟩ := split
        obtain ⟨next, stepped, rest⟩ := run_cons_eq_some.mp first
        exact ⟨next, stepped, ih.mpr ⟨middle, rest, second⟩⟩

/-- A run can go on with one more action. -/
theorem run_concat {step : σ → α → Option σ} {start middle last : σ} {actions : List α}
    {action : α} (ran : run step start actions = some middle)
    (stepped : step middle action = some last)
    : run step start (actions ++ [action]) = some last :=
  run_append_eq_some.mpr ⟨middle, ran, run_cons_eq_some.mpr ⟨last, stepped, rfl⟩⟩

/-- Actions that each append an entry to a log append their entries in order, by induction over
them.
-/
theorem run_map_of_appends {step : σ → α → Option σ} {β ε : Type} {place : List ε → σ}
    {act : β → α} {entry : β → ε} {items : List β}
    (appends : ∀ item ∈ items, ∀ log, step (place log) (act item)
      = some (place (log ++ [entry item])))
    (log : List ε)
    : run step (place log) (items.map act) = some (place (log ++ items.map entry)) := by
  induction items generalizing log with
  | nil => rw [List.map_nil, List.map_nil, List.append_nil, run]
  | cons item items ih =>
      obtain ⟨first, later⟩ := List.forall_mem_cons.mp appends
      refine run_cons_eq_some.mpr ⟨_, first log, ?_⟩
      rw [ih later, List.map_cons, List.append_assoc, List.singleton_append]

theorem Reachable.refl (step : σ → α → Option σ) (start : σ) : Reachable step start start :=
  ⟨[], rfl⟩

/-- A step from a reachable state reaches its result. -/
theorem Reachable.next {step : σ → α → Option σ} {start middle last : σ} {action : α}
    (reachable : Reachable step start middle) (stepped : step middle action = some last)
    : Reachable step start last := by
  obtain ⟨actions, ran⟩ := reachable
  exact ⟨actions ++ [action], run_concat ran stepped⟩

/-- What every step preserves, every run preserves, by induction over the actions. -/
theorem run_preserves {step : σ → α → Option σ} {invariant : σ → Prop}
    (preserved : ∀ state action next, invariant state → step state action = some next →
      invariant next)
    {start last : σ} {actions : List α} (initially : invariant start)
    (ran : run step start actions = some last)
    : invariant last := by
  induction actions generalizing start with
  | nil =>
      cases ran
      exact initially
  | cons action actions ih =>
      obtain ⟨next, stepped, rest⟩ := run_cons_eq_some.mp ran
      exact ih (preserved start action next initially stepped) rest

/-- Every action of a run meets a condition in the state where it happens. -/
def Allowed (step : σ → α → Option σ) (condition : σ → α → Prop) : σ → List α → Prop
  | _, [] => True
  | state, action :: actions =>
      condition state action
        ∧ ∀ next, step state action = some next → Allowed step condition next actions

/-- Whether a run is allowed can be computed along the run. -/
instance Allowed.decidable {step : σ → α → Option σ} {condition : σ → α → Prop}
    [∀ state action, Decidable (condition state action)]
    : ∀ state actions, Decidable (Allowed step condition state actions)
  | _, [] => .isTrue trivial
  | state, action :: actions =>
      have (next : σ) : Decidable (Allowed step condition next actions) :=
        Allowed.decidable next actions
      inferInstanceAs (Decidable (condition state action
        ∧ ∀ next ∈ step state action, Allowed step condition next actions))

/-- What every allowed step preserves, every allowed run preserves, by induction over the
actions.
-/
theorem run_preserves_of_allowed {step : σ → α → Option σ} {condition : σ → α → Prop}
    {invariant : σ → Prop}
    (preserved : ∀ state action next, invariant state → condition state action →
      step state action = some next → invariant next)
    {start last : σ} {actions : List α} (initially : invariant start)
    (allowed : Allowed step condition start actions)
    (ran : run step start actions = some last)
    : invariant last := by
  induction actions generalizing start with
  | nil =>
      cases ran
      exact initially
  | cons action actions ih =>
      obtain ⟨next, stepped, rest⟩ := run_cons_eq_some.mp ran
      exact ih (preserved start action next initially allowed.1 stepped)
        (allowed.2 next stepped) rest

/-- A run that meets a stronger condition is allowed, where an invariant of such runs makes it
stronger; by induction over the actions.
-/
theorem Allowed.weaken {step : σ → α → Option σ} {stronger condition : σ → α → Prop}
    {invariant : σ → Prop}
    (kept : ∀ state action next, invariant state → stronger state action →
      step state action = some next → invariant next)
    (weaker : ∀ state action, invariant state → stronger state action → condition state action)
    {start : σ} {actions : List α} (initially : invariant start)
    (allowed : Allowed step stronger start actions)
    : Allowed step condition start actions := by
  induction actions generalizing start with
  | nil => trivial
  | cons action actions ih =>
      refine ⟨weaker start action initially allowed.1, fun next stepped => ?_⟩
      exact ih (kept start action next initially allowed.1 stepped) (allowed.2 next stepped)

/-- A property of all states along a run, the first one included. -/
def Always (step : σ → α → Option σ) (property : σ → Prop) : σ → List α → Prop
  | state, [] => property state
  | state, action :: actions =>
      property state ∧ ∀ next, step state action = some next → Always step property next actions

/-- Whether a property holds along a run can be computed along the run. -/
instance Always.decidable {step : σ → α → Option σ} {property : σ → Prop}
    [∀ state, Decidable (property state)]
    : ∀ state actions, Decidable (Always step property state actions)
  | state, [] => inferInstanceAs (Decidable (property state))
  | state, action :: actions =>
      have (next : σ) : Decidable (Always step property next actions) :=
        Always.decidable next actions
      inferInstanceAs (Decidable (property state
        ∧ ∀ next ∈ step state action, Always step property next actions))

theorem Always.start {step : σ → α → Option σ} {property : σ → Prop} {start : σ}
    {actions : List α} (always : Always step property start actions)
    : property start := by
  cases actions with
  | nil => exact always
  | cons action actions => exact always.1

/-- What holds along a run holds at its end, by induction over the actions. -/
theorem Always.last {step : σ → α → Option σ} {property : σ → Prop} {start last : σ}
    {actions : List α} (always : Always step property start actions)
    (ran : run step start actions = some last)
    : property last := by
  induction actions generalizing start with
  | nil =>
      cases ran
      exact always
  | cons action actions ih =>
      obtain ⟨next, stepped, rest⟩ := run_cons_eq_some.mp ran
      exact ih (always.2 next stepped) rest

/-- A property holds along a run of two parts if it does along both, by induction over the first.
-/
theorem always_append {step : σ → α → Option σ} {property : σ → Prop} {start : σ}
    {before later : List α} (first : Always step property start before)
    (second : ∀ middle, run step start before = some middle → Always step property middle later)
    : Always step property start (before ++ later) := by
  induction before generalizing start with
  | nil => exact second start rfl
  | cons action before ih =>
      refine ⟨first.1, fun next stepped => ih (first.2 next stepped) fun middle ran => ?_⟩
      exact second middle (run_cons_eq_some.mpr ⟨next, stepped, ran⟩)

/-- While entries are appended to a log, what holds of the log with any of them holds along the
run, by induction over the actions.
-/
theorem always_map_of_appends {step : σ → α → Option σ} {property : σ → Prop} {β ε : Type}
    {place : List ε → σ} {act : β → α} {entry : β → ε} {items : List β}
    (appends : ∀ item ∈ items, ∀ log, step (place log) (act item)
      = some (place (log ++ [entry item])))
    {log : List ε} (holds : ∀ later ⊆ items.map entry, property (place (log ++ later)))
    : Always step property (place log) (items.map act) := by
  have now : property (place log) := by
    have nothing := holds [] (List.nil_subset _)
    rwa [List.append_nil] at nothing
  induction items generalizing log with
  | nil => exact now
  | cons item items ih =>
      obtain ⟨first, later⟩ := List.forall_mem_cons.mp appends
      refine ⟨now, fun next stepped => ?_⟩
      obtain rfl := Option.some.inj ((first log).symm.trans stepped)
      have rest : ∀ entries ⊆ items.map entry,
          property (place (log ++ [entry item] ++ entries)) := by
        intro entries among
        rw [List.append_assoc]
        exact holds _ (List.cons_subset_cons _ among)
      refine ih later rest ?_
      have nothing := rest [] (List.nil_subset _)
      rwa [List.append_nil] at nothing

/-- A property that holds along a run holds before each of its steps, by induction over the
actions.
-/
theorem Always.allowed {step : σ → α → Option σ} {property : σ → Prop} {start : σ}
    {actions : List α} (always : Always step property start actions)
    : Allowed step (fun state _ => property state) start actions := by
  induction actions generalizing start with
  | nil => trivial
  | cons action actions ih =>
      exact ⟨always.1, fun next stepped => ih (always.2 next stepped)⟩

/-- A property that a step keeps exactly under a condition holds along a run exactly when
every step of the run meets the condition, by induction over the actions. The invariant is
needed as long as the property holds only.
-/
theorem always_iff_allowed {step : σ → α → Option σ} {condition : σ → α → Prop}
    {invariant property : σ → Prop}
    (kept : ∀ state action next, invariant state → property state →
      step state action = some next → condition state action → invariant next)
    (exactly : ∀ state action next, invariant state → property state →
      step state action = some next → (property next ↔ condition state action))
    {start last : σ} {actions : List α} (initially : invariant start)
    (holds : property start) (ran : run step start actions = some last)
    : Always step property start actions ↔ Allowed step condition start actions := by
  induction actions generalizing start with
  | nil => exact iff_of_true holds trivial
  | cons action actions ih =>
      obtain ⟨next, stepped, rest⟩ := run_cons_eq_some.mp ran
      have now := exactly start action next initially holds stepped
      constructor
      · intro always
        have later := always.2 next stepped
        have condition := now.mp later.start
        refine ⟨condition, fun other same => ?_⟩
        obtain rfl : next = other := Option.some.inj (stepped.symm.trans same)
        exact (ih (kept start action next initially holds stepped condition) later.start
          rest).mp later
      · intro allowed
        refine ⟨holds, fun other same => ?_⟩
        obtain rfl : next = other := Option.some.inj (stepped.symm.trans same)
        have reached := kept start action next initially holds stepped allowed.1
        exact (ih reached (now.mpr allowed.1) rest).mpr (allowed.2 next stepped)

/-- An invariant that holds at the start holds in every reachable state. -/
theorem Reachable.invariant {step : σ → α → Option σ} {invariant : σ → Prop}
    {start state : σ} (reachable : Reachable step start state)
    (initially : invariant start)
    (preserved : ∀ state action next, invariant state → step state action = some next →
      invariant next)
    : invariant state := by
  obtain ⟨actions, ran⟩ := reachable
  exact run_preserves preserved initially ran

end OpenCord.Library

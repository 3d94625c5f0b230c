import Mathlib.Logic.Function.Basic
import OpenCord.Library.Runs

/-! Any number of tasks over one shared state. A step moves one task and the shared state
together; the other tasks stay where they are.
-/

namespace OpenCord.Library

variable {σ τ α : Type}

/-- The shared state, and where each task stands. -/
structure Tasks (σ τ : Type) where
  shared : σ
  tasks : Nat → τ

namespace Tasks

/-- The tasks with one of them moved on. -/
def withTask (world : Tasks σ τ) (index : Nat) (shared : σ) (task : τ) : Tasks σ τ :=
  ⟨shared, Function.update world.tasks index task⟩

@[simp] theorem tasks_withTask_self (world : Tasks σ τ) (index : Nat) (shared : σ) (task : τ)
    : (world.withTask index shared task).tasks index = task :=
  Function.update_self ..

theorem tasks_withTask_of_ne (world : Tasks σ τ) {index other : Nat} (differs : other ≠ index)
    (shared : σ) (task : τ)
    : (world.withTask index shared task).tasks other = world.tasks other :=
  Function.update_of_ne differs ..

@[simp] theorem shared_withTask (world : Tasks σ τ) (index : Nat) (shared : σ) (task : τ)
    : (world.withTask index shared task).shared = shared :=
  rfl

@[simp] theorem withTask_self (world : Tasks σ τ) (index : Nat)
    : world.withTask index world.shared (world.tasks index) = world := by
  simp [withTask]

@[simp] theorem withTask_withTask (world : Tasks σ τ) (index : Nat) (shared later : σ)
    (task next : τ)
    : (world.withTask index shared task).withTask index later next
        = world.withTask index later next := by
  simp [withTask]

/-- What holds of all tasks, and of the one that has moved on, holds of all tasks. -/
theorem forall_withTask (property : τ → Prop) {world : Tasks σ τ} {index : Nat} {shared : σ}
    {task : τ} (own : property task)
    (others : ∀ other, property (world.tasks other))
    : ∀ other, property ((world.withTask index shared task).tasks other) := by
  intro other
  by_cases same : other = index
  · rw [same, tasks_withTask_self]
    exact own
  · rw [tasks_withTask_of_ne world same]
    exact others other

/-- A task with a property that the moving task did not have is still there. -/
theorem exists_withTask (property : τ → Prop) {world : Tasks σ τ} {index : Nat} {shared : σ}
    {task : τ} (found : ∃ other, property (world.tasks other))
    (notOwn : ¬ property (world.tasks index))
    : ∃ other, property ((world.withTask index shared task).tasks other) := by
  obtain ⟨other, holds⟩ := found
  refine ⟨other, ?_⟩
  have differs : other ≠ index := by
    intro same
    rw [same] at holds
    exact notOwn holds
  rw [tasks_withTask_of_ne world differs]
  exact holds

/-- A step of the task with an index, by what the task may do on the shared state. -/
def step (move : σ → τ → α → Option (σ × τ)) (world : Tasks σ τ) (action : Nat × α)
    : Option (Tasks σ τ) :=
  (move world.shared (world.tasks action.1) action.2).map fun next =>
    world.withTask action.1 next.1 next.2

theorem step_eq_some {move : σ → τ → α → Option (σ × τ)} {world next : Tasks σ τ}
    {index : Nat} {action : α}
    : step move world (index, action) = some next
      ↔ ∃ shared task, move world.shared (world.tasks index) action = some (shared, task)
          ∧ next = world.withTask index shared task := by
  rw [step, Option.map_eq_some_iff]
  constructor
  · intro moved
    obtain ⟨⟨shared, task⟩, moved, rfl⟩ := moved
    exact ⟨shared, task, moved, rfl⟩
  · intro moved
    obtain ⟨shared, task, moved, rfl⟩ := moved
    exact ⟨(shared, task), moved, rfl⟩

/-- A task that runs alone does to the shared state what its own moves do, by induction over the
moves.
-/
theorem run_alone {move : σ → τ → α → Option (σ × τ)} {world : Tasks σ τ} {index : Nat}
    {actions : List α} {shared : σ} {task : τ}
    (ran : run (fun standing action => move standing.1 standing.2 action)
      (world.shared, world.tasks index) actions = some (shared, task))
    : run (step move) world (actions.map (Prod.mk index))
        = some (world.withTask index shared task) := by
  induction actions generalizing world with
  | nil =>
      cases ran
      simp [run]
  | cons action actions ih =>
      obtain ⟨⟨middle, standing⟩, moved, rest⟩ := run_cons_eq_some.mp ran
      have stepped : step move world (index, action)
          = some (world.withTask index middle standing) :=
        step_eq_some.mpr ⟨middle, standing, moved, rfl⟩
      rw [List.map_cons, run_cons_eq_some]
      refine ⟨_, stepped, ?_⟩
      rw [ih (by simpa using rest), withTask_withTask]

/-- An invariant of the shared state and of each task on it is kept by every step, if a task
that moves keeps its own part and leaves the parts of the other tasks.
-/
theorem invariant_step {move : σ → τ → α → Option (σ × τ)} {invariant : σ → Prop}
    {ofTask : σ → τ → Prop} {world next : Tasks σ τ} {index : Nat} {action : α}
    (own : ∀ shared task, invariant world.shared → ofTask world.shared (world.tasks index) →
      move world.shared (world.tasks index) action = some (shared, task) →
        invariant shared ∧ ofTask shared task)
    (others : ∀ shared task other, invariant world.shared →
      ofTask world.shared (world.tasks index) →
      move world.shared (world.tasks index) action = some (shared, task) →
        ofTask world.shared other → ofTask shared other)
    (holds : invariant world.shared ∧ ∀ task, ofTask world.shared (world.tasks task))
    (stepped : step move world (index, action) = some next)
    : invariant next.shared ∧ ∀ task, ofTask next.shared (next.tasks task) := by
  obtain ⟨shared, task, moved, rfl⟩ := step_eq_some.mp stepped
  obtain ⟨sharedHolds, taskHolds⟩ := own shared task holds.1 (holds.2 index) moved
  refine ⟨sharedHolds, forall_withTask (ofTask shared) taskHolds fun other => ?_⟩
  exact others shared task _ holds.1 (holds.2 index) moved (holds.2 other)

/-- The tasks from some index on stand where they started. -/
def QuietFrom (count : Nat) (quiet : τ) (world : Tasks σ τ) : Prop :=
  ∀ index, count ≤ index → world.tasks index = quiet

theorem QuietFrom.step {move : σ → τ → α → Option (σ × τ)} {count : Nat} {quiet : τ}
    {world next : Tasks σ τ} {action : Nat × α} (quietFrom : QuietFrom count quiet world)
    (among : action.1 < count) (stepped : step move world action = some next)
    : QuietFrom count quiet next := by
  obtain ⟨shared, task, _, rfl⟩ := step_eq_some.mp stepped
  intro index beyond
  rw [tasks_withTask_of_ne world (by omega)]
  exact quietFrom index beyond

/-- Where all tasks from some index on are quiet, the tasks before it decide about all. -/
theorem QuietFrom.forall_tasks {count : Nat} {quiet : τ} {world : Tasks σ τ}
    (quietFrom : QuietFrom count quiet world) (property : τ → Prop) (ofQuiet : property quiet)
    (among : ∀ index < count, property (world.tasks index))
    : ∀ index, property (world.tasks index) := by
  intro index
  by_cases beyond : count ≤ index
  · rw [quietFrom index beyond]
    exact ofQuiet
  · exact among index (by omega)

/-- A task that has started stands before the others. -/
theorem QuietFrom.exists_tasks {count : Nat} {quiet : τ} {world : Tasks σ τ}
    (quietFrom : QuietFrom count quiet world) (property : τ → Prop) (notQuiet : ¬ property quiet)
    : (∃ index, property (world.tasks index))
      ↔ ∃ index < count, property (world.tasks index) := by
  constructor
  · intro found
    obtain ⟨index, holds⟩ := found
    refine ⟨index, ?_, holds⟩
    by_contra beyond
    rw [quietFrom index (by omega)] at holds
    exact notQuiet holds
  · intro found
    obtain ⟨index, _, holds⟩ := found
    exact ⟨index, holds⟩

/-- The task whose move of a kind came last. -/
def lastMover (kind : α → Bool) (actions : List (Nat × α)) : Option Nat :=
  (actions.reverse.find? fun action => kind action.2).map Prod.fst

theorem lastMover_concat (kind : α → Bool) (actions : List (Nat × α)) (action : Nat × α)
    : lastMover kind (actions ++ [action])
        = if kind action.2 then some action.1 else lastMover kind actions := by
  rw [lastMover, List.reverse_append, List.reverse_singleton, List.singleton_append,
    List.find?_cons]
  cases kind action.2 <;> rfl

end Tasks

end OpenCord.Library

import Mathlib.Data.List.Induction
import OpenCord.Library.Runs

/-! Where the things of a system come from: what a run ends with and did not start with came in
at one of its steps.
-/

namespace OpenCord.Library

variable {σ α : Type}

/-- An action of a run with a property, in the state where it happens. -/
def Happened (step : σ → α → Option σ) (start : σ) (actions : List α)
    (property : σ → α → Prop) : Prop :=
  ∃ earlier action later middle, actions = earlier ++ action :: later
    ∧ run step start earlier = some middle ∧ property middle action

variable {step : σ → α → Option σ} {start : σ} {property : σ → α → Prop}

theorem Happened.append {actions : List α} (happened : Happened step start actions property)
    (more : List α)
    : Happened step start (actions ++ more) property := by
  obtain ⟨earlier, action, later, middle, rfl, ran, holds⟩ := happened
  exact ⟨earlier, action, later ++ more, middle, List.append_assoc .., ran, holds⟩

theorem Happened.imp {weaker : σ → α → Prop} {actions : List α}
    (happened : Happened step start actions property)
    (implies : ∀ state action, property state action → weaker state action)
    : Happened step start actions weaker := by
  obtain ⟨earlier, action, later, middle, split, ran, holds⟩ := happened
  exact ⟨earlier, action, later, middle, split, ran, implies middle action holds⟩

theorem Happened.or {other : σ → α → Prop} {actions : List α}
    (happened : Happened step start actions fun state action =>
      property state action ∨ other state action)
    : Happened step start actions property ∨ Happened step start actions other := by
  obtain ⟨earlier, action, later, middle, split, ran, first | second⟩ := happened
  · exact .inl ⟨earlier, action, later, middle, split, ran, first⟩
  · exact .inr ⟨earlier, action, later, middle, split, ran, second⟩

/-- What every step keeps about a state and the actions before it, every run keeps; by induction
over the actions, from the last one.
-/
theorem run_remembers (property : List α → σ → Prop) (initially : property [] start)
    (kept : ∀ actions state action next, run step start actions = some state →
      property actions state → step state action = some next →
        property (actions ++ [action]) next)
    {last : σ} {actions : List α} (ran : run step start actions = some last)
    : property actions last := by
  induction actions using List.reverseRecOn generalizing last with
  | nil =>
      cases ran
      exact initially
  | append_singleton actions action ih =>
      obtain ⟨middle, first, second⟩ := run_append_eq_some.mp ran
      obtain ⟨next, stepped, done⟩ := run_cons_eq_some.mp second
      cases done
      exact kept actions middle action last first (ih first) stepped

/-- Something came into a run at an action with a property, in the state where it happened, and has
stayed since.
-/
def Gained (step : σ → α → Option σ) (start : σ) (actions : List α) (has : σ → Prop)
    (property : σ → α → Prop) : Prop :=
  ∃ earlier action later before after, actions = earlier ++ action :: later
    ∧ run step start earlier = some before ∧ step before action = some after
    ∧ ¬ has before ∧ property before action ∧ Always step has after later

theorem Gained.happened {has : σ → Prop} {actions : List α}
    (gained : Gained step start actions has property)
    : Happened step start actions property := by
  obtain ⟨earlier, action, later, before, _, split, ran, _, _, holds, _⟩ := gained
  exact ⟨earlier, action, later, before, split, ran, holds⟩

theorem Gained.imp {has : σ → Prop} {weaker : σ → α → Prop} {actions : List α}
    (gained : Gained step start actions has property)
    (implies : ∀ state action, property state action → weaker state action)
    : Gained step start actions has weaker := by
  obtain ⟨earlier, action, later, before, after, split, ran, stepped, new, holds, stays⟩ := gained
  exact ⟨earlier, action, later, before, after, split, ran, stepped, new,
    implies before action holds, stays⟩

theorem Gained.or {has : σ → Prop} {other : σ → α → Prop} {actions : List α}
    (gained : Gained step start actions has fun state action =>
      property state action ∨ other state action)
    : Gained step start actions has property ∨ Gained step start actions has other := by
  obtain ⟨earlier, action, later, before, after, split, ran, stepped, new, holds, stays⟩ := gained
  rcases holds with first | second
  · exact .inl ⟨earlier, action, later, before, after, split, ran, stepped, new, first, stays⟩
  · exact .inr ⟨earlier, action, later, before, after, split, ran, stepped, new, second, stays⟩

/-- What has stayed up to the last action stays if it is there after that one, too. -/
theorem Gained.concat {has : σ → Prop} {actions : List α} {action : α} {middle last : σ}
    (gained : Gained step start actions has property)
    (ran : run step start actions = some middle) (stepped : step middle action = some last)
    (there : has last)
    : Gained step start (actions ++ [action]) has property := by
  obtain ⟨earlier, own, later, before, after, rfl, first, done, new, holds, stays⟩ := gained
  refine ⟨earlier, own, later ++ [action], before, after, by simp, first, done, new, holds, ?_⟩
  obtain ⟨_, again, rest⟩ := run_append_eq_some.mp ran
  cases first.symm.trans again
  obtain ⟨_, redone, rest⟩ := run_cons_eq_some.mp rest
  cases done.symm.trans redone
  refine always_append stays fun state reached => ?_
  cases rest.symm.trans reached
  refine ⟨stays.last rest, fun next further => ?_⟩
  cases stepped.symm.trans further
  exact there

/-- Whatever no state has at first, and only actions with a property bring, a run gained at such
an action; by induction over the actions, from the last one.
-/
theorem gained_of_run (invariant has : σ → Prop)
    (kept : ∀ state action next, invariant state → step state action = some next →
      invariant next)
    (brought : ∀ state action next, invariant state → step state action = some next →
      ¬ has state → has next → property state action)
    (initially : invariant start) (nothing : ¬ has start) {last : σ} {actions : List α}
    (ran : run step start actions = some last) (there : has last)
    : Gained step start actions has property := by
  induction actions using List.reverseRecOn generalizing last with
  | nil =>
      cases ran
      exact absurd there nothing
  | append_singleton actions action ih =>
      obtain ⟨middle, first, second⟩ := run_append_eq_some.mp ran
      obtain ⟨next, stepped, done⟩ := run_cons_eq_some.mp second
      cases done
      have reached := run_preserves kept initially first
      by_cases before : has middle
      · exact (ih first before).concat first stepped there
      · exact ⟨actions, action, [], middle, last, rfl, first, stepped, before,
          brought middle action last reached stepped before there, there⟩

end OpenCord.Library

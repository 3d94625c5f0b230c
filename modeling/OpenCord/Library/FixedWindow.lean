import Mathlib.Data.List.Count
import Mathlib.Data.List.Pairwise

/-! Fixed-window counting: the first call after a window is over opens the next window, and a
window lets a limited number of calls through. Times are natural numbers.
-/

namespace OpenCord.Library

/-- A window: when it was opened, and how many calls it has let through. -/
structure FixedWindow where
  startedAt : Nat
  count : Nat
  deriving DecidableEq

namespace FixedWindow

/-- The window at a time: a new one if the stored one is over. -/
def current (width now : Nat) (window : FixedWindow) : FixedWindow :=
  if width ≤ now - window.startedAt then ⟨now, 0⟩ else window

/-- One call: whether it is let through, and the window that has counted it. -/
def check (limit width now : Nat) (window : FixedWindow) : Bool × FixedWindow :=
  let window := window.current width now
  if limit ≤ window.count then (false, window) else (true, ⟨window.startedAt, window.count + 1⟩)

/-- A call that was made: its time, its answer and the window after it. -/
structure Call where
  time : Nat
  allowed : Bool
  window : FixedWindow
  deriving DecidableEq

/-- The calls at the given times, each in the window that the one before has left. -/
def calls (limit width : Nat) : FixedWindow → List Nat → List Call
  | _, [] => []
  | window, now :: times =>
      let answer := window.check limit width now
      ⟨now, answer.1, answer.2⟩ :: calls limit width answer.2 times

/-- How many of the calls were let through in the window that started at a time. -/
def spent (start : Nat) (log : List Call) : Nat :=
  log.countP fun call => call.allowed ∧ call.window.startedAt = start

/-- What a window that started at a time had let through before the log. -/
def carried (start : Nat) (window : FixedWindow) : Nat :=
  if window.startedAt = start then window.count else 0

/-- How many of the calls were let through from one time on and before another. -/
def spentBetween (first last : Nat) (log : List Call) : Nat :=
  log.countP fun call => call.allowed ∧ first ≤ call.time ∧ call.time < last

/-- The bounds that a log of calls obeys. -/
structure Bounded (limit width : Nat) (log : List Call) : Prop where
  /-- A call counts in a window that has started and is not over. -/
  within : ∀ call ∈ log,
    call.window.startedAt ≤ call.time ∧ call.time < call.window.startedAt + width
  /-- A later call is in the same window or in one that starts when that is over. -/
  apart : log.Pairwise fun earlier later =>
    earlier.window.startedAt = later.window.startedAt
      ∨ earlier.window.startedAt + width ≤ later.window.startedAt
  /-- Between one window start and the next one, the limit is kept. -/
  perWindow : ∀ opener ∈ log, ∀ next,
    (∀ call ∈ log, ¬ (opener.window.startedAt < call.window.startedAt
      ∧ call.window.startedAt < next)) →
    spentBetween opener.window.startedAt next log ≤ limit
  /-- In any interval of the length of a window, twice the limit is kept. -/
  anyInterval : ∀ first, spentBetween first (first + width) log ≤ 2 * limit
  /-- A window counts the calls that it has let through. -/
  counted : ∀ before call after, log = before ++ call :: after →
    call.window.count = spent call.window.startedAt (before ++ [call])
  /-- A call is refused only by a window that has let the limit through. -/
  refused : ∀ before call after, log = before ++ call :: after → call.allowed = false →
    spent call.window.startedAt before = limit

-----------------------------------------------------------------------------------------
-- One call
-----------------------------------------------------------------------------------------

section

variable {limit width now start : Nat} {window : FixedWindow}

theorem current_count_le (fits : window.count ≤ limit)
    : (window.current width now).count ≤ limit := by
  rw [current]
  split
  · exact Nat.zero_le limit
  · exact fits

/-- The window of a call has started and is not over. -/
theorem current_within (positive : 0 < width) (started : window.startedAt ≤ now)
    : (window.current width now).startedAt ≤ now
      ∧ now < (window.current width now).startedAt + width := by
  rw [current]
  split
  · exact ⟨Nat.le_refl now, Nat.lt_add_of_pos_right positive⟩
  · next running => omega

/-- A window is kept, or replaced by one that starts when it is over. -/
theorem current_apart (started : window.startedAt ≤ now)
    : window.current width now = window
      ∨ window.current width now = ⟨now, 0⟩ ∧ window.startedAt + width ≤ now := by
  rw [current]
  split
  · next ended => exact .inr ⟨rfl, by omega⟩
  · exact .inl rfl

@[simp] theorem check_startedAt
    : (window.check limit width now).2.startedAt = (window.current width now).startedAt := by
  rw [check]
  split <;> rfl

/-- A call is let through exactly if its window has room. -/
theorem check_allowed
    : (window.check limit width now).1 = true
      ↔ (window.current width now).count < limit := by
  rw [check]
  split
  · next full => exact iff_of_false Bool.false_ne_true (Nat.not_lt.mpr full)
  · next room => exact iff_of_true rfl (Nat.not_le.mp room)

/-- A call counts if it is let through. -/
theorem check_count
    : (window.check limit width now).2.count
      = (window.current width now).count
        + if (window.check limit width now).1 = true then 1 else 0 := by
  rw [check]
  split <;> rfl

theorem check_count_le (fits : window.count ≤ limit)
    : (window.check limit width now).2.count ≤ limit := by
  rw [check_count]
  split
  · next allowed => exact check_allowed.mp allowed
  · exact current_count_le fits

end

-----------------------------------------------------------------------------------------
-- Logs of calls
-----------------------------------------------------------------------------------------

section

variable {limit width : Nat}

theorem spent_cons (start : Nat) (call : Call) (log : List Call)
    : spent start (call :: log)
      = spent start log + if call.allowed ∧ call.window.startedAt = start then 1 else 0 := by
  rw [spent, List.countP_cons]
  simp only [decide_eq_true_eq, spent]

/-- Times that are in order and not before a window was opened. -/
abbrev Ordered (window : FixedWindow) (times : List Nat) : Prop :=
  (window.startedAt :: times).Pairwise (· ≤ ·)

theorem Ordered.started {window : FixedWindow} {now : Nat} {times : List Nat}
    (ordered : Ordered window (now :: times))
    : window.startedAt ≤ now :=
  List.rel_of_pairwise_cons ordered List.mem_cons_self

/-- The times after a call are in order after the window that has counted it. -/
theorem Ordered.check {window : FixedWindow} {now : Nat} {times : List Nat}
    (ordered : Ordered window (now :: times))
    : Ordered (window.check limit width now).2 times := by
  obtain ⟨started, later⟩ := List.pairwise_cons.mp ordered
  obtain ⟨after, rest⟩ := List.pairwise_cons.mp later
  refine List.pairwise_cons.mpr ⟨fun time listed => ?_, rest⟩
  have moved : (window.current width now).startedAt ≤ now := by
    obtain same | ⟨opened, _⟩ := @current_apart width _ _ ordered.started
    · rw [same]
      exact ordered.started
    · exact Nat.le_of_eq (congrArg startedAt opened)
  rw [check_startedAt]
  exact Nat.le_trans moved (after time listed)

/-- The calls of a log are in the window before it or in windows that start when that is over,
by induction over the calls.
-/
theorem apart_of_mem_calls {times : List Nat} {window : FixedWindow} {call : Call}
    (ordered : Ordered window times) (listed : call ∈ calls limit width window times)
    : window.startedAt = call.window.startedAt
      ∨ window.startedAt + width ≤ call.window.startedAt := by
  induction times generalizing window with
  | nil => cases listed
  | cons now times ih =>
      have first : window.startedAt = (window.check limit width now).2.startedAt
          ∨ window.startedAt + width ≤ (window.check limit width now).2.startedAt := by
        rw [check_startedAt]
        obtain same | ⟨opened, ended⟩ := @current_apart width _ _ ordered.started
        · exact .inl (congrArg startedAt same).symm
        · rw [opened]
          exact .inr ended
      obtain rfl | later := List.mem_cons.mp listed
      · exact first
      · have rest := ih ordered.check later
        omega

/-- Each call counts in a window that has started and is not over, by induction over the calls.
-/
theorem within_of_mem_calls (positive : 0 < width) {times : List Nat} {window : FixedWindow}
    {call : Call} (ordered : Ordered window times)
    (listed : call ∈ calls limit width window times)
    : call.window.startedAt ≤ call.time ∧ call.time < call.window.startedAt + width := by
  induction times generalizing window with
  | nil => cases listed
  | cons now times ih =>
      obtain rfl | later := List.mem_cons.mp listed
      · rw [check_startedAt]
        exact current_within positive ordered.started
      · exact ih ordered.check later

theorem pairwise_calls {times : List Nat} {window : FixedWindow}
    (ordered : Ordered window times)
    : (calls limit width window times).Pairwise fun earlier later =>
        earlier.window.startedAt = later.window.startedAt
          ∨ earlier.window.startedAt + width ≤ later.window.startedAt := by
  induction times generalizing window with
  | nil => exact .nil
  | cons now times ih =>
      exact List.pairwise_cons.mpr
        ⟨fun call later => apart_of_mem_calls ordered.check later, ih ordered.check⟩

/-- What a window had let through before a call and the call itself make up what it has let
through after the call.
-/
theorem carried_check {window : FixedWindow} {now start : Nat} (positive : 0 < width)
    (started : window.startedAt ≤ now)
    (current : (window.check limit width now).2.startedAt ≤ start)
    : carried start (window.check limit width now).2
      = carried start window
        + if (window.check limit width now).1 = true
            ∧ (window.check limit width now).2.startedAt = start then 1 else 0 := by
  rw [check_startedAt] at current ⊢
  rw [carried, carried, check_startedAt, check_count]
  obtain same | ⟨opened, ended⟩ := @current_apart width _ _ started
  · rw [same]
    split <;> simp_all
  · rw [opened] at current ⊢
    have before : window.startedAt ≠ start := by
      simp only at current
      omega
    rw [if_neg before]
    split <;> simp_all

/-- A window has let through what it had let through before the log and what the log says, by
induction over the calls.
-/
theorem count_of_calls (positive : 0 < width) {times : List Nat} {window : FixedWindow}
    {before after : List Call} {call : Call} (ordered : Ordered window times)
    (divided : calls limit width window times = before ++ call :: after)
    : call.window.count
      = carried call.window.startedAt window
        + spent call.window.startedAt (before ++ [call]) := by
  induction times generalizing window before with
  | nil => simp [calls] at divided
  | cons now times ih =>
      rw [calls] at divided
      have step := @carried_check limit width window now call.window.startedAt positive
        ordered.started
      obtain ⟨rfl, same⟩ | ⟨earlier, rfl, rest⟩ := List.cons_eq_append_iff.mp divided
      · obtain ⟨rfl, rfl⟩ := List.cons.inj same
        rw [List.nil_append, spent_cons, spent, List.countP_nil, Nat.zero_add,
          ← step (Nat.le_refl _), carried, if_pos rfl]
      · have listed : call ∈ calls limit width (window.check limit width now).2 times := by
          rw [rest]
          exact List.mem_append_right _ List.mem_cons_self
        have moved := apart_of_mem_calls ordered.check listed
        rw [List.cons_append, spent_cons, ih ordered.check rest, step (by omega)]
        simp only
        omega

/-- No window lets more than the limit through, by induction over the calls. -/
theorem spent_calls_le (positive : 0 < width) (start : Nat) {times : List Nat}
    {window : FixedWindow} (fits : window.count ≤ limit) (ordered : Ordered window times)
    : carried start window + spent start (calls limit width window times) ≤ limit := by
  induction times generalizing window with
  | nil =>
      rw [calls, spent, List.countP_nil, carried]
      split
      · exact fits
      · exact Nat.zero_le limit
  | cons now times ih =>
      have rest := ih (@check_count_le limit width now _ fits) ordered.check
      rw [calls, spent_cons]
      by_cases reached : (window.check limit width now).2.startedAt ≤ start
      · have step := carried_check positive ordered.started reached
        simp only at step ⊢
        omega
      · -- The window was over before, so that the later calls are in later windows.
        have none : spent start (calls limit width (window.check limit width now).2 times)
            = 0 := by
          rw [spent, List.countP_eq_zero]
          intro call listed counted
          have moved := apart_of_mem_calls ordered.check listed
          have same := (of_decide_eq_true counted).2
          omega
        rw [none, if_neg fun counted => reached (Nat.le_of_eq counted.2)]
        rw [carried]
        split
        · exact fits
        · exact Nat.zero_le limit

/-- A refused call is in a window that has let the limit through, by induction over the calls.
-/
theorem limit_le_of_refused {times : List Nat} {window : FixedWindow} {call : Call}
    (listed : call ∈ calls limit width window times) (refused : call.allowed = false)
    : limit ≤ call.window.count := by
  induction times generalizing window with
  | nil => cases listed
  | cons now times ih =>
      obtain rfl | later := List.mem_cons.mp listed
      · have full := check_allowed.not.mp (Bool.eq_false_iff.mp refused)
        rw [check_count]
        omega
      · exact ih later

theorem count_le_of_mem_calls {times : List Nat} {window : FixedWindow} {call : Call}
    (fits : window.count ≤ limit) (listed : call ∈ calls limit width window times)
    : call.window.count ≤ limit := by
  induction times generalizing window with
  | nil => cases listed
  | cons now times ih =>
      obtain rfl | later := List.mem_cons.mp listed
      · exact check_count_le fits
      · exact ih (check_count_le fits) later

-----------------------------------------------------------------------------------------
-- The bounds
-----------------------------------------------------------------------------------------

/-- Calls that were let through and share a window are within its limit. -/
theorem countP_le_of_shared {log : List Call} {property : Call → Prop}
    [DecidablePred property] (kept : ∀ start, spent start log ≤ limit)
    (allowed : ∀ call, property call → call.allowed)
    (shared : ∀ first ∈ log, property first → ∀ second ∈ log, property second →
      first.window.startedAt = second.window.startedAt)
    : (log.countP fun call => property call) ≤ limit := by
  by_cases found : ∃ call ∈ log, property call
  · obtain ⟨first, listed, holds⟩ := found
    refine Nat.le_trans (List.countP_mono_left fun second other also => ?_)
      (kept first.window.startedAt)
    have also := of_decide_eq_true also
    exact decide_eq_true ⟨allowed second also, shared second other also first listed holds⟩
  · refine Nat.le_trans (Nat.le_of_eq (List.countP_eq_zero.mpr ?_)) (Nat.zero_le limit)
    intro call listed holds
    exact found ⟨call, listed, of_decide_eq_true holds⟩

/-- Two calls are in one window or in windows that do not overlap. -/
def Apart (width : Nat) (first second : Call) : Prop :=
  first.window.startedAt = second.window.startedAt
    ∨ first.window.startedAt + width ≤ second.window.startedAt
    ∨ second.window.startedAt + width ≤ first.window.startedAt

theorem apart_of_pairwise {log : List Call}
    (pairs : log.Pairwise fun earlier later =>
      earlier.window.startedAt = later.window.startedAt
        ∨ earlier.window.startedAt + width ≤ later.window.startedAt)
    : ∀ first ∈ log, ∀ second ∈ log, Apart width first second := by
  intro first left second right
  have alike : ∀ call ∈ log, Apart width call call := fun call _ => .inl rfl
  have forward : log.Pairwise (Apart width) := pairs.imp fun ordered => ordered.imp_right .inl
  have backward : log.Pairwise (flip (Apart width)) :=
    pairs.imp fun ordered => ordered.imp Eq.symm .inr
  exact List.Pairwise.forall_of_forall_of_flip alike forward backward left right

/-- Calls that are let through from a window start on and before the next one share the window.
-/
theorem spentBetween_starts_le {log : List Call} {opener : Call} {next : Nat}
    (positive : 0 < width) (kept : ∀ start, spent start log ≤ limit)
    (within : ∀ call ∈ log,
      call.window.startedAt ≤ call.time ∧ call.time < call.window.startedAt + width)
    (pairs : ∀ first ∈ log, ∀ second ∈ log, Apart width first second)
    (listed : opener ∈ log)
    (consecutive : ∀ call ∈ log, ¬ (opener.window.startedAt < call.window.startedAt
      ∧ call.window.startedAt < next))
    : spentBetween opener.window.startedAt next log ≤ limit := by
  have opened : ∀ call ∈ log, opener.window.startedAt ≤ call.time → call.time < next →
      call.window.startedAt = opener.window.startedAt := by
    intro call other since before
    have inside := within call other
    have apart := pairs opener listed call other
    rw [Apart] at apart
    have between := consecutive call other
    omega
  refine countP_le_of_shared kept (fun call inside => inside.1) ?_
  intro first left inside second right also
  rw [opened first left inside.2.1 inside.2.2, opened second right also.2.1 also.2.2]

/-- An interval of the length of a window meets at most two windows: one that starts before it or
with it, and one that starts inside it.
-/
theorem spentBetween_width_le {log : List Call} (kept : ∀ start, spent start log ≤ limit)
    (within : ∀ call ∈ log,
      call.window.startedAt ≤ call.time ∧ call.time < call.window.startedAt + width)
    (pairs : ∀ first ∈ log, ∀ second ∈ log, Apart width first second)
    (first : Nat)
    : spentBetween first (first + width) log ≤ 2 * limit := by
  have running : (log.countP fun call => (call.allowed ∧ first ≤ call.time
      ∧ call.time < first + width) ∧ call.window.startedAt ≤ first) ≤ limit := by
    refine countP_le_of_shared kept (fun call inside => inside.1.1) ?_
    intro one left inside two right also
    have one_within := within one left
    have two_within := within two right
    have apart := pairs one left two right
    rw [Apart] at apart
    omega
  have later : (log.countP fun call => (call.allowed ∧ first ≤ call.time
      ∧ call.time < first + width) ∧ ¬ call.window.startedAt ≤ first) ≤ limit := by
    refine countP_le_of_shared kept (fun call inside => inside.1.1) ?_
    intro one left inside two right also
    have one_within := within one left
    have two_within := within two right
    have apart := pairs one left two right
    rw [Apart] at apart
    omega
  have divided := List.countP_eq_countP_filter_add log
    (fun call => call.allowed ∧ first ≤ call.time ∧ call.time < first + width)
    (fun call => call.window.startedAt ≤ first)
  simp only [List.countP_filter] at divided
  rw [spentBetween, divided]
  simp only [Bool.decide_and, ← decide_not] at running later ⊢
  omega

/-- The calls after the opening of a window that has let nothing through yet are bounded. -/
theorem bounded_calls (positive : 0 < width) {opened : Nat} {times : List Nat}
    (ordered : (opened :: times).Pairwise (· ≤ ·))
    : Bounded limit width (calls limit width ⟨opened, 0⟩ times) := by
  have ordered : Ordered ⟨opened, 0⟩ times := ordered
  have within := fun call => @within_of_mem_calls limit width positive times _ call ordered
  have ahead := @pairwise_calls limit width times _ ordered
  have pairs := apart_of_pairwise ahead
  have fits : FixedWindow.count ⟨opened, 0⟩ ≤ limit := Nat.zero_le limit
  have kept : ∀ start, spent start (calls limit width ⟨opened, 0⟩ times) ≤ limit := by
    intro start
    have := spent_calls_le positive start fits ordered
    omega
  have counted : ∀ before call after,
      calls limit width ⟨opened, 0⟩ times = before ++ call :: after →
      call.window.count = spent call.window.startedAt (before ++ [call]) := by
    intro before call after divided
    rw [count_of_calls positive ordered divided, carried]
    split <;> exact Nat.zero_add _
  refine ⟨within, ahead, ?_, spentBetween_width_le kept within pairs, counted, ?_⟩
  · intro opener listed next consecutive
    exact spentBetween_starts_le positive kept within pairs listed consecutive
  · intro before call after divided refused
    have listed : call ∈ calls limit width ⟨opened, 0⟩ times := by
      rw [divided]
      exact List.mem_append_right _ List.mem_cons_self
    have full := limit_le_of_refused listed refused
    have bound := count_le_of_mem_calls fits listed
    have count := counted before call after divided
    rw [spent, List.countP_append, List.countP_singleton, refused] at count
    simp only [Bool.false_eq_true, false_and, decide_false, if_false, Nat.add_zero] at count
    rw [spent]
    omega

end

end FixedWindow

end OpenCord.Library

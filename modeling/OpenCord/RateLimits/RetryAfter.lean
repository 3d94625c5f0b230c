import OpenCord.RateLimits.Windows

/-! The delay that a refused call is told. It is rounded down to whole seconds, so that a call
after it may still find the window open.
-/

namespace OpenCord.RateLimits

open OpenCord.Library

namespace FixedWindowRateLimiter

/-- The limiter after some calls. -/
def after (limiter : FixedWindowRateLimiter) (calls : List RateLimitCall)
    : FixedWindowRateLimiter :=
  calls.foldl (fun limiter call => (limiter.check call.time call.bucket).2) limiter

variable {limiter : FixedWindowRateLimiter} {bucket : String} {now : Nat}

/-- Calls on other buckets leave the limits and the state of a bucket, by induction over the
calls.
-/
theorem after_others {calls : List RateLimitCall}
    (others : ∀ call ∈ calls, call.bucket ≠ bucket)
    : (limiter.after calls).limit = limiter.limit
      ∧ (limiter.after calls).window = limiter.window
      ∧ (limiter.after calls).state.lookup bucket = limiter.state.lookup bucket := by
  induction calls generalizing limiter with
  | nil => exact ⟨rfl, rfl, rfl⟩
  | cons call calls ih =>
      obtain ⟨differs, rest⟩ := List.forall_mem_cons.mp others
      obtain ⟨limits, windows, stored⟩ := @ih (limiter.check call.time call.bucket).2 rest
      rw [check_eq] at limits windows stored
      rw [after, List.foldl_cons, check_eq]
      exact ⟨limits, windows, stored.trans (lookup_put_ne (Ne.symm differs) _)⟩

theorem entry_of_lookup {row : BucketState} (found : limiter.state.lookup bucket = some row)
    : limiter.entry now bucket = row := by
  rw [entry, found, Option.getD_some]

/-- A call on a bucket with room in a new window is refused exactly while the stored window is
full and not over.
-/
theorem check_allowed_iff {row : BucketState} (positive : 1 ≤ limiter.limit)
    (found : limiter.state.lookup bucket = some row)
    : (limiter.check now bucket).1.allowed = true
      ↔ row.count < limiter.limit ∨ limiter.window ≤ now - row.startedAt := by
  rw [check_eq]
  simp only [answer, FixedWindow.check_allowed, entry_of_lookup found, FixedWindow.current]
  split
  · next ended => exact iff_of_true positive (.inr ended)
  · next running => exact ⟨.inl, fun cases => cases.resolve_right running⟩

/-- A refused call finds a full window and leaves it. -/
theorem check_of_refused {row : BucketState} (positive : 1 ≤ limiter.limit)
    (found : limiter.state.lookup bucket = some row)
    (refused : (limiter.check now bucket).1.allowed = false)
    : limiter.limit ≤ row.count ∧ now - row.startedAt < limiter.window
      ∧ limiter.check now bucket
        = (⟨bucket, false, limiter.limit, 0, limiter.resetAfter now row⟩,
          limiter.put bucket row) := by
  have closed := (check_allowed_iff positive found).not.mp (Bool.eq_false_iff.mp refused)
  rw [not_or] at closed
  have running : ¬ limiter.window ≤ now - row.startedAt := closed.2
  have full : limiter.limit ≤ row.count := Nat.not_lt.mp closed.1
  refine ⟨full, Nat.not_le.mp running, ?_⟩
  rw [check]
  simp only [entry_of_lookup found, if_neg running, if_pos full, resetAfter]

/-- Rounding a duration down to whole units, at least one, reaches it exactly if it is at most one
unit or whole.
-/
theorem le_rounded_iff (duration unit : Nat)
    : duration ≤ max (duration / unit) 1 * unit ↔ duration ≤ unit ∨ unit ∣ duration := by
  rw [Nat.max_def]
  split
  · next short =>
      rw [Nat.one_mul]
      refine ⟨.inl, fun cases => cases.elim id fun whole => ?_⟩
      calc duration = duration / unit * unit := (Nat.div_mul_cancel whole).symm
        _ ≤ 1 * unit := Nat.mul_le_mul_right unit short
        _ = unit := Nat.one_mul unit
  · next long =>
      have below := Nat.div_mul_le_self duration unit
      have two : 2 * unit ≤ duration / unit * unit := Nat.mul_le_mul_right unit (by omega)
      constructor
      · intro reached
        exact .inr ⟨duration / unit, by rw [Nat.mul_comm]; omega⟩
      · rintro (short | whole)
        · omega
        · exact Nat.le_of_eq (Nat.div_mul_cancel whole).symm

/-- The delay that a window advertises reaches its end under the same condition. -/
theorem le_resetAfter_iff (limiter : FixedWindowRateLimiter) (now : Nat) (row : BucketState)
    : limiter.window - (now - row.startedAt) ≤ fromSecs (limiter.resetAfter now row)
      ↔ limiter.window - (now - row.startedAt) ≤ fromSecs 1
        ∨ fromSecs 1 ∣ limiter.window - (now - row.startedAt) := by
  have product : fromSecs (limiter.resetAfter now row)
      = limiter.resetAfter now row * fromSecs 1 := by
    rw [fromSecs, fromSecs, Nat.one_mul]
  rw [product, resetAfter]
  exact le_rounded_iff _ _

/-- A window advertises one second or no more than it has left. -/
theorem resetAfter_cases (limiter : FixedWindowRateLimiter) (now : Nat) (row : BucketState)
    : limiter.resetAfter now row = 1
      ∨ 1 ≤ limiter.resetAfter now row
        ∧ fromSecs (limiter.resetAfter now row) ≤ limiter.window - (now - row.startedAt) := by
  rw [resetAfter, Nat.max_def]
  split
  · exact .inl rfl
  · next long =>
      refine .inr ⟨by omega, ?_⟩
      have below := Nat.div_mul_le_self (limiter.window - (now - row.startedAt)) (fromSecs 1)
      exact below

/-- A refused call is told a delay after which its bucket is open, whatever is called on other
buckets meanwhile, exactly if the rest of the window is at most one second, or a whole number of
seconds of a window that has started.
-/
theorem retryAfter_honest_iff {row : BucketState} (positive : 1 ≤ limiter.limit)
    (found : limiter.state.lookup bucket = some row)
    (refused : (limiter.check now bucket).1.allowed = false)
    : (∀ others time, (∀ call ∈ others, RateLimitCall.bucket call ≠ bucket) →
        now + fromSecs (limiter.check now bucket).1.resetAfterSeconds ≤ time →
        (((limiter.check now bucket).2.after others).check time bucket).1.allowed = true)
      ↔ row.startedAt + limiter.window - now ≤ fromSecs 1
        ∨ row.startedAt ≤ now ∧ fromSecs 1 ∣ row.startedAt + limiter.window - now := by
  obtain ⟨full, running, answered⟩ := check_of_refused positive found refused
  rw [answered]
  dsimp only
  have stored : (limiter.put bucket row).state.lookup bucket = some row :=
    AList.lookup_insert _
  have opens : ∀ others time, (∀ call ∈ others, RateLimitCall.bucket call ≠ bucket) →
      ((((limiter.put bucket row).after others).check time bucket).1.allowed = true
        ↔ limiter.window ≤ time - row.startedAt) := by
    intro others time apart
    obtain ⟨limits, windows, kept⟩ := @after_others (limiter.put bucket row) bucket _ apart
    rw [check_allowed_iff (by rw [limits]; exact positive) (kept.trans stored), limits, windows]
    exact ⟨fun cases => cases.resolve_left (Nat.not_lt.mpr full), .inr⟩
  have rounding := le_resetAfter_iff limiter now row
  have advertised := resetAfter_cases limiter now row
  have least : fromSecs 1 ≤ fromSecs (limiter.resetAfter now row) :=
    Nat.mul_le_mul_right _ (Nat.le_max_right _ 1)
  constructor
  · intro honest
    have reached := (opens [] _ (by simp)).mp (honest [] _ (by simp) (Nat.le_refl _))
    by_cases started : row.startedAt ≤ now
    · have rest : row.startedAt + limiter.window - now
          = limiter.window - (now - row.startedAt) := by omega
      rw [rest]
      exact (rounding.mp (by omega)).imp_right fun whole => ⟨started, whole⟩
    · -- A window that starts later is longer than what it advertises, unless that is one second.
      obtain single | ⟨_, within⟩ := advertised
      · rw [single] at reached
        exact .inl (by omega)
      · omega
  · intro condition others time apart later
    refine (opens others time apart).mpr ?_
    obtain short | ⟨started, whole⟩ := condition
    · omega
    · have rest : row.startedAt + limiter.window - now
          = limiter.window - (now - row.startedAt) := by omega
      rw [rest] at whole
      have reached := rounding.mpr (.inr whole)
      omega

/-- The sign-in limiter after a user has signed in five times at once. -/
def signedIn : FixedWindowRateLimiter :=
  authLogin.after (List.replicate 5 ⟨0, "auth:login:ada@example.com"⟩)

/-- Ten seconds later the user is told to wait for fifty. -/
theorem signedIn_honest
    : (((signedIn.check (fromSecs 10) "auth:login:ada@example.com").2.after []).check
        (fromSecs 60) "auth:login:ada@example.com").1.allowed = true :=
  (@retryAfter_honest_iff signedIn "auth:login:ada@example.com" (fromSecs 10) ⟨0, 5⟩
    (by decide) rfl (by decide)).mpr (.inr (by decide)) [] (fromSecs 60) (by simp) (by decide)

/-- Half a second later the user is told to wait for fifty-nine, and is refused after that. -/
theorem signedIn_early
    : let refused := signedIn.check 500000000 "auth:login:ada@example.com"
      refused.1.allowed = false ∧ refused.1.resetAfterSeconds = 59
        ∧ (refused.2.check (500000000 + fromSecs 59)
          "auth:login:ada@example.com").1.allowed = false := by
  decide +kernel

end FixedWindowRateLimiter

end OpenCord.RateLimits

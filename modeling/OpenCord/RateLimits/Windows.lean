import OpenCord.RateLimits.Limiter

/-! Logs of rate limiter calls: each bucket has its own window, and its calls are bounded. -/

namespace OpenCord.RateLimits

open OpenCord.Library

structure RateLimitCall where
  time : Nat
  bucket : String
  deriving DecidableEq

/-- A call that was made: its time, the decision and what is stored for its bucket after it. -/
structure Checked where
  time : Nat
  decision : RateLimitDecision
  bucketState : BucketState
  deriving DecidableEq

/-- The call as the window of its bucket sees it. -/
def Checked.call (checked : Checked) : FixedWindow.Call :=
  ⟨checked.time, checked.decision.allowed, checked.bucketState⟩

namespace FixedWindowRateLimiter

/-- The calls, each on the limiter that the one before has left. -/
def log : FixedWindowRateLimiter → List RateLimitCall → List Checked
  | _, [] => []
  | limiter, call :: calls =>
      let (decision, next) := limiter.check call.time call.bucket
      ⟨call.time, decision, next.entry call.time call.bucket⟩ :: log next calls

variable {limiter : FixedWindowRateLimiter} {bucket : String}

/-- What a call answers and leaves is told by the window of its bucket. -/
theorem log_cons (limiter : FixedWindowRateLimiter) (call : RateLimitCall)
    (calls : List RateLimitCall)
    : limiter.log (call :: calls)
      = ⟨call.time, (limiter.check call.time call.bucket).1,
          (limiter.answer call.time call.bucket).2⟩
        :: (limiter.put call.bucket (limiter.answer call.time call.bucket).2).log calls := by
  rw [log, check_eq]
  simp only [entry_put]

/-- Limiters that agree on a bucket decide alike on its calls, whatever the calls on other
buckets are; by induction over the calls.
-/
theorem filter_log {other : FixedWindowRateLimiter} (limits : limiter.limit = other.limit)
    (windows : limiter.window = other.window)
    (stored : limiter.state.lookup bucket = other.state.lookup bucket)
    (calls : List RateLimitCall)
    : (limiter.log calls).filter (fun checked => checked.decision.bucket = bucket)
      = other.log (calls.filter fun call => call.bucket = bucket) := by
  induction calls generalizing limiter other with
  | nil => rfl
  | cons call calls ih =>
      rw [log_cons, List.filter_cons, List.filter_cons]
      simp only [check_eq, decide_eq_true_eq]
      split
      · next same =>
          have entries : limiter.entry call.time call.bucket
              = other.entry call.time call.bucket := by
            rw [entry, entry, same, stored]
          have answers : limiter.answer call.time call.bucket
              = other.answer call.time call.bucket := by
            rw [answer, answer, entries, limits, windows]
          rw [log_cons, check_eq, answers, limits]
          simp only [resetAfter, windows]
          congr 1
          refine ih limits windows ?_
          rw [same, put, put]
          simp only [AList.lookup_insert]
      · next differs =>
          exact ih limits windows ((lookup_put_ne (Ne.symm differs) _).trans stored)

/-- The calls of one bucket are the calls of its window, by induction over the calls. -/
theorem map_call_log {bucketState : BucketState} {calls : List RateLimitCall}
    (single : ∀ call ∈ calls, call.bucket = bucket)
    (stored : ∀ call ∈ calls.head?, limiter.entry call.time bucket = bucketState)
    : (limiter.log calls).map Checked.call
      = FixedWindow.calls limiter.limit limiter.window bucketState
          (calls.map RateLimitCall.time) := by
  induction calls generalizing limiter bucketState with
  | nil => rfl
  | cons call calls ih =>
      obtain ⟨rfl, rest⟩ := List.forall_mem_cons.mp single
      have first := stored call rfl
      rw [log_cons, List.map_cons, List.map_cons, FixedWindow.calls,
        ih rest fun next _ => entry_put _]
      simp only [Checked.call, check_eq, answer, first, put_limit, put_window]

/-- A decision reports the room that its window has left, by induction over the calls. -/
theorem remaining_of_mem_log {calls : List RateLimitCall} {checked : Checked}
    (listed : checked ∈ limiter.log calls)
    : checked.decision.remaining = limiter.limit - checked.bucketState.count := by
  induction calls generalizing limiter with
  | nil => cases listed
  | cons call calls ih =>
      rw [log_cons] at listed
      obtain rfl | later := List.mem_cons.mp listed
      · rw [check_eq]
      · have rest := ih later
        exact rest

/-- The calls of one bucket of a new limiter are those of a window that starts with the first of
them.
-/
theorem map_call_log_new (limit window : Nat) {first : RateLimitCall}
    {calls : List RateLimitCall} (single : ∀ call ∈ first :: calls, call.bucket = bucket)
    : ((new limit window).log (first :: calls)).map Checked.call
      = FixedWindow.calls limit window ⟨first.time, 0⟩
          ((first :: calls).map RateLimitCall.time) := by
  refine map_call_log single fun call head => ?_
  cases head
  rfl

/-- The log of one bucket of a new limiter is bounded, and its decisions report the room left. -/
theorem bounded_log {limit window : Nat} (positive : 0 < window) {calls : List RateLimitCall}
    (ordered : calls.Pairwise fun earlier later => earlier.time ≤ later.time)
    (single : ∀ call ∈ calls, call.bucket = bucket)
    : FixedWindow.Bounded limit window (((new limit window).log calls).map Checked.call)
      ∧ ∀ before checked after, (new limit window).log calls = before ++ checked :: after →
          checked.decision.remaining + FixedWindow.spent checked.bucketState.startedAt
            ((before ++ [checked]).map Checked.call) = limit := by
  cases calls with
  | nil =>
      have empty : FixedWindow.Bounded limit window
          (FixedWindow.calls limit window ⟨0, 0⟩ []) :=
        FixedWindow.bounded_calls positive (List.pairwise_singleton _ _)
      refine ⟨empty, fun before checked after divided => ?_⟩
      simp [log] at divided
  | cons first calls =>
      have times : (first.time :: (first :: calls).map RateLimitCall.time).Pairwise (· ≤ ·) := by
        refine List.pairwise_cons.mpr ⟨fun time listed => ?_, List.pairwise_map.mpr ordered⟩
        obtain ⟨call, member, rfl⟩ := List.mem_map.mp listed
        obtain rfl | later := List.mem_cons.mp member
        · exact Nat.le_refl _
        · exact List.rel_of_pairwise_cons ordered later
      have calls_eq := map_call_log_new limit window single
      have bounded : FixedWindow.Bounded limit window
          (((new limit window).log (first :: calls)).map Checked.call) := by
        rw [calls_eq]
        exact FixedWindow.bounded_calls positive times
      refine ⟨bounded, fun before checked after divided => ?_⟩
      have listed : checked ∈ (new limit window).log (first :: calls) := by
        rw [divided]
        exact List.mem_append_right _ List.mem_cons_self
      have fits : checked.call.window.count ≤ limit := by
        refine @FixedWindow.count_le_of_mem_calls limit window
          ((first :: calls).map RateLimitCall.time) ⟨first.time, 0⟩ _ (Nat.zero_le limit) ?_
        rw [← calls_eq]
        exact List.mem_map_of_mem listed
      have counted := bounded.counted (before.map Checked.call) checked.call
        (after.map Checked.call) (by rw [divided, List.map_append, List.map_cons])
      have remaining := remaining_of_mem_log listed
      rw [List.map_append, List.map_singleton]
      simp only [Checked.call] at counted fits
      simp only [new] at remaining
      rw [remaining, Checked.call, ← counted]
      omega

end FixedWindowRateLimiter

namespace GatewayClientFrameRateLimiter

/-- The frames of a connection at the given times, with the window that has counted them. -/
def log : GatewayClientFrameRateLimiter → List Nat → List FixedWindow.Call
  | _, [] => []
  | limiter, now :: times =>
      let (allowed, next) := limiter.allow now
      ⟨now, allowed, ⟨next.windowStartedAt, next.count⟩⟩ :: log next times

/-- The frames of a connection are the calls of its window, by induction over the frames. -/
theorem log_eq (limiter : GatewayClientFrameRateLimiter) (times : List Nat)
    : limiter.log times
      = FixedWindow.calls GATEWAY_CLIENT_FRAME_LIMIT GATEWAY_CLIENT_FRAME_WINDOW
          ⟨limiter.windowStartedAt, limiter.count⟩ times := by
  induction times generalizing limiter with
  | nil => rfl
  | cons now times ih =>
      rw [log, FixedWindow.calls, allow_eq]
      simp only [ih]

end GatewayClientFrameRateLimiter

/-- Calls on any buckets at times in order are decided for each bucket on its own, within the
bounds of its windows; so are the frames of a gateway connection.
-/
theorem rateLimiters_bounded
    : (∀ limit window calls bucket, 0 < window →
        calls.Pairwise (fun earlier later : RateLimitCall => earlier.time ≤ later.time) →
        let log := ((FixedWindowRateLimiter.new limit window).log calls).filter
          fun checked => checked.decision.bucket = bucket
        log = (FixedWindowRateLimiter.new limit window).log
            (calls.filter fun call => call.bucket = bucket)
          ∧ FixedWindow.Bounded limit window (log.map Checked.call)
          ∧ ∀ before checked after, log = before ++ checked :: after →
              checked.decision.remaining + FixedWindow.spent checked.bucketState.startedAt
                ((before ++ [checked]).map Checked.call) = limit)
      ∧ ∀ opened times, (opened :: times).Pairwise (· ≤ ·) →
          FixedWindow.Bounded GATEWAY_CLIENT_FRAME_LIMIT GATEWAY_CLIENT_FRAME_WINDOW
            ((GatewayClientFrameRateLimiter.new opened).log times) := by
  constructor
  · intro limit window calls bucket positive ordered log
    have own := @FixedWindowRateLimiter.filter_log (.new limit window) bucket
      (.new limit window) rfl rfl rfl calls
    have single : ∀ call ∈ calls.filter fun call => call.bucket = bucket,
        call.bucket = bucket := by
      intro call listed
      exact of_decide_eq_true (List.mem_filter.mp listed).2
    refine ⟨own, ?_⟩
    rw [show log = _ from own]
    exact FixedWindowRateLimiter.bounded_log positive (ordered.filter _) single
  · intro opened times ordered
    rw [GatewayClientFrameRateLimiter.log_eq]
    exact FixedWindow.bounded_calls (by decide) ordered

/-- Two users sign in, one of them too often. -/
theorem signIns_bounded
    : let calls : List RateLimitCall := [⟨0, "ada"⟩, ⟨1, "bob"⟩, ⟨2, "ada"⟩, ⟨3, "ada"⟩]
      FixedWindow.Bounded 2 AUTH_LOGIN_WINDOW
        ((((FixedWindowRateLimiter.new 2 AUTH_LOGIN_WINDOW).log calls).filter
          fun checked => checked.decision.bucket = "ada").map Checked.call) :=
  (rateLimiters_bounded.1 2 AUTH_LOGIN_WINDOW _ "ada" (by decide) (by decide)).2.1

end OpenCord.RateLimits

import OpenCord.Jobs.Worker

/-! When the delivery loop settles a job. The guard claims the key before the handler runs
and never gives it back, so only the first delivery of a key reaches the handler.
-/

namespace OpenCord.Jobs

-----------------------------------------------------------------------------------------
-- One delivery
-----------------------------------------------------------------------------------------

/-- A delivery of a claimed key is a duplicate and changes nothing. -/
theorem processJobWithDeadLetter_of_claimed {worker : Worker} {envelope : EventEnvelope}
    (claimed : envelope.idempotencyKey ∈ worker.claimedKeys) (attempt : Nat)
    (handler : JobHandler) (policy : RetryPolicy)
    : processJobWithDeadLetter worker envelope attempt handler policy
        = (.duplicate, worker) := by
  simp [processJobWithDeadLetter, Worker.claim, claimed, Finset.insert_eq_of_mem claimed]

/-- The same for the entry point without a sink. -/
theorem processJobOnce_of_claimed {worker : Worker} {envelope : EventEnvelope}
    (claimed : envelope.idempotencyKey ∈ worker.claimedKeys) (attempt : Nat)
    (handler : JobHandler) (policy : RetryPolicy)
    : processJobOnce worker envelope attempt handler policy = (.duplicate, worker) := by
  simp [processJobOnce, Worker.claim, claimed, Finset.insert_eq_of_mem claimed]

/-- The worker after the handler ran on a key that was free. -/
def Worker.attempted (worker : Worker) (envelope : EventEnvelope) (handler : JobHandler)
    : Worker where
  claimedKeys := insert envelope.idempotencyKey worker.claimedKeys
  deadLetters := worker.deadLetters
  handlerRuns := worker.handlerRuns ++ [⟨envelope, handler worker.handlerRuns envelope⟩]

/-- A first delivery whose handler succeeds completes. -/
theorem processJobWithDeadLetter_of_ok {worker : Worker} {envelope : EventEnvelope}
    {handler : JobHandler} (free : envelope.idempotencyKey ∉ worker.claimedKeys)
    (ok : handler worker.handlerRuns envelope = .ok ()) (attempt : Nat)
    (policy : RetryPolicy)
    : processJobWithDeadLetter worker envelope attempt handler policy
        = (.completed, worker.attempted envelope handler) := by
  simp [processJobWithDeadLetter, Worker.claim, Worker.handle, Worker.attempted, free, ok]

/-- A first delivery whose handler fails follows the retry policy. -/
theorem processJobWithDeadLetter_of_error {worker : Worker} {envelope : EventEnvelope}
    {handler : JobHandler} {error : JobError}
    (free : envelope.idempotencyKey ∉ worker.claimedKeys)
    (failed : handler worker.handlerRuns envelope = .error error) (attempt : Nat)
    (policy : RetryPolicy)
    : processJobWithDeadLetter worker envelope attempt handler policy
        = match policy.decide attempt with
          | .retry backoffMs => (.retry backoffMs, worker.attempted envelope handler)
          | .deadLetter =>
              (.deadLetter,
                (worker.attempted envelope handler).record envelope attempt
                  error.message) := by
  cases decision : policy.decide attempt <;>
    simp [processJobWithDeadLetter, Worker.claim, Worker.handle, Worker.attempted, free,
      failed, decision]

/-- A policy with one attempt sends the first failure to the sink. -/
theorem RetryPolicy.decide_one_of_single {policy : RetryPolicy}
    (single : policy.maxAttempts = 1)
    : policy.decide 1 = .deadLetter := by
  simp [RetryPolicy.decide, single]

/-- A policy with more attempts retries the first failure. -/
theorem RetryPolicy.decide_one_of_several {policy : RetryPolicy}
    (several : policy.maxAttempts ≠ 1)
    : ∃ backoffMs, policy.decide 1 = .retry backoffMs := by
  have atLeastOne := policy.one_le_maxAttempts
  refine ⟨_, if_neg ?_⟩
  omega

-----------------------------------------------------------------------------------------
-- The delivery loop
-----------------------------------------------------------------------------------------

/-- The loop ended with a completed job after a successful handler run. -/
def CompletedWith (before after : Worker) (envelope : EventEnvelope)
    (outcome : Option JobOutcome) : Prop :=
  outcome = some .completed
    ∧ ∃ earlier, after.handlerRuns = before.handlerRuns ++ earlier ++ [⟨envelope, .ok ()⟩]

/-- The loop ended with a dead letter for the job in the sink. -/
def DeadLetteredWith (before after : Worker) (envelope : EventEnvelope)
    (outcome : Option JobOutcome) : Prop :=
  outcome = some .deadLetter
    ∧ ∃ earlier attempt reason,
        after.deadLetters
          = before.deadLetters ++ earlier
              ++ [⟨envelope.eventId, envelope.idempotencyKey, attempt, reason⟩]

/-- Delivering attempts 1, 2, 3, … while the answer is a retry ends, within the attempts of
the policy, in a completed or a dead-lettered job.
-/
def Settles (worker : Worker) (envelope : EventEnvelope) (handler : JobHandler)
    (policy : RetryPolicy) : Prop :=
  let result :=
    deliverUntilSettled worker envelope handler policy (max 1 policy.maxAttempts) 1
  CompletedWith worker result.2 envelope result.1
    ∨ DeadLetteredWith worker result.2 envelope result.1

/-- Neither ending is a duplicate. -/
private theorem not_settled_duplicate {before after : Worker} {envelope : EventEnvelope}
    : ¬ (CompletedWith before after envelope (some .duplicate)
        ∨ DeadLetteredWith before after envelope (some .duplicate)) := by
  simp [CompletedWith, DeadLetteredWith]

/-- A loop whose key is claimed before its next delivery ends there, as a duplicate. -/
theorem deliverUntilSettled_of_claimed {worker : Worker} {envelope : EventEnvelope}
    (claimed : envelope.idempotencyKey ∈ worker.claimedKeys) (handler : JobHandler)
    (policy : RetryPolicy) (fuel attempt : Nat)
    : deliverUntilSettled worker envelope handler policy (fuel + 1) attempt
        = (some .duplicate, worker) := by
  simp [deliverUntilSettled, processJobWithDeadLetter_of_claimed claimed]

/-- The loop always has one delivery to make. -/
private theorem fuel_eq_succ (policy : RetryPolicy)
    : ∃ fuel, max 1 policy.maxAttempts = fuel + 1 ∧ fuel + 1 = policy.maxAttempts := by
  have atLeastOne := policy.one_le_maxAttempts
  exact ⟨policy.maxAttempts - 1, by omega, by omega⟩

/-- A key that was claimed earlier is not settled: the first delivery is a duplicate. -/
theorem not_settles_of_claimed {worker : Worker} {envelope : EventEnvelope}
    (claimed : envelope.idempotencyKey ∈ worker.claimedKeys) (handler : JobHandler)
    (policy : RetryPolicy)
    : ¬ Settles worker envelope handler policy := by
  obtain ⟨fuel, fuelEq, -⟩ := fuel_eq_succ policy
  simp only [Settles, fuelEq, deliverUntilSettled_of_claimed claimed]
  exact not_settled_duplicate

/-- A first success settles the job. -/
theorem settles_of_ok {worker : Worker} {envelope : EventEnvelope} {handler : JobHandler}
    (free : envelope.idempotencyKey ∉ worker.claimedKeys)
    (ok : handler worker.handlerRuns envelope = .ok ()) (policy : RetryPolicy)
    : Settles worker envelope handler policy := by
  obtain ⟨fuel, fuelEq, -⟩ := fuel_eq_succ policy
  simp only [Settles, fuelEq, deliverUntilSettled, processJobWithDeadLetter_of_ok free ok]
  exact .inl ⟨rfl, [], by simp [Worker.attempted, ok]⟩

/-- A first failure without further attempts settles the job in the sink. -/
theorem settles_of_error_of_single {worker : Worker} {envelope : EventEnvelope}
    {handler : JobHandler} {error : JobError} {policy : RetryPolicy}
    (free : envelope.idempotencyKey ∉ worker.claimedKeys)
    (failed : handler worker.handlerRuns envelope = .error error)
    (single : policy.maxAttempts = 1)
    : Settles worker envelope handler policy := by
  simp only [Settles, single, max_self, deliverUntilSettled,
    processJobWithDeadLetter_of_error free failed, RetryPolicy.decide_one_of_single single]
  exact .inr ⟨rfl, [], 1, error.message, by simp [Worker.record, Worker.attempted]⟩

/-- A first failure with further attempts is never settled: its key stays claimed, so the
second delivery is a duplicate.
-/
theorem not_settles_of_error_of_several {worker : Worker} {envelope : EventEnvelope}
    {handler : JobHandler} {error : JobError} {policy : RetryPolicy}
    (free : envelope.idempotencyKey ∉ worker.claimedKeys)
    (failed : handler worker.handlerRuns envelope = .error error)
    (several : policy.maxAttempts ≠ 1)
    : ¬ Settles worker envelope handler policy := by
  obtain ⟨fuel, fuelEq, fuelMax⟩ := fuel_eq_succ policy
  obtain ⟨more, rfl⟩ : ∃ more, fuel = more + 1 := ⟨fuel - 1, by omega⟩
  obtain ⟨backoffMs, retried⟩ := RetryPolicy.decide_one_of_several several
  have claimed : envelope.idempotencyKey
      ∈ (worker.attempted envelope handler).claimedKeys :=
    Finset.mem_insert_self _ _
  rw [Settles, fuelEq, deliverUntilSettled, processJobWithDeadLetter_of_error free failed,
    retried]
  simp only [deliverUntilSettled_of_claimed claimed]
  exact not_settled_duplicate

-----------------------------------------------------------------------------------------
-- Successful handler runs
-----------------------------------------------------------------------------------------

/-- The handler runs of a key that succeeded. -/
def Worker.successes (worker : Worker) (key : String) : Nat :=
  worker.handlerRuns.countP fun run =>
    run.envelope.idempotencyKey == key && run.result.isOk

/-- A worker that has processed nothing. -/
def Worker.fresh : Worker := ⟨∅, [], []⟩

/-- Every run of the handler holds a claimed key, and no key succeeded twice. -/
structure Worker.Guarded (worker : Worker) : Prop where
  claimed : ∀ run ∈ worker.handlerRuns, run.envelope.idempotencyKey ∈ worker.claimedKeys
  once : ∀ key, worker.successes key ≤ 1

/-- A call either meets a claimed key and changes nothing, or runs the handler once on a
free key; a dead letter may follow.
-/
theorem Worker.call_cases (worker : Worker) (jobCall : JobCall)
    : worker.call jobCall = worker
      ∨ jobCall.envelope.idempotencyKey ∉ worker.claimedKeys
        ∧ (worker.call jobCall).claimedKeys
            = insert jobCall.envelope.idempotencyKey worker.claimedKeys
        ∧ (worker.call jobCall).handlerRuns
            = worker.handlerRuns
                ++ [⟨jobCall.envelope,
                  jobCall.handler worker.handlerRuns jobCall.envelope⟩] := by
  obtain ⟨withDeadLetter, envelope, attempt, handler, policy⟩ := jobCall
  by_cases claimed : envelope.idempotencyKey ∈ worker.claimedKeys
  · left
    cases withDeadLetter
    · simp [Worker.call, processJobOnce_of_claimed claimed]
    · simp [Worker.call, processJobWithDeadLetter_of_claimed claimed]
  · right
    refine ⟨claimed, ?_⟩
    cases withDeadLetter <;> cases answer : handler worker.handlerRuns envelope <;>
      cases decision : policy.decide attempt <;>
      simp [Worker.call, processJobOnce, processJobWithDeadLetter, Worker.claim,
        Worker.handle, Worker.record, claimed, answer, decision]

/-- Running the handler on a key without successes leaves at most one. -/
private theorem successes_append_le {worker next : Worker} {run : HandlerRun} {key : String}
    (appended : next.handlerRuns = worker.handlerRuns ++ [run])
    (none : run.envelope.idempotencyKey = key → worker.successes key = 0)
    (once : worker.successes key ≤ 1)
    : next.successes key ≤ 1 := by
  simp only [Worker.successes, appended, List.countP_append, List.countP_singleton]
  by_cases same : run.envelope.idempotencyKey = key
  · have zero := none same
    simp only [Worker.successes] at zero
    split <;> omega
  · simpa [same, Worker.successes] using once

/-- One call keeps the guard's promise, by the free key's absence from earlier runs. -/
theorem Worker.Guarded.call {worker : Worker} (guarded : worker.Guarded)
    (jobCall : JobCall)
    : (worker.call jobCall).Guarded := by
  rcases worker.call_cases jobCall with same | ⟨free, claimedEq, runsEq⟩
  · rwa [same]
  · refine ⟨?_, ?_⟩
    · intro run mem
      rw [runsEq, List.mem_append, List.mem_singleton] at mem
      rw [claimedEq, Finset.mem_insert]
      rcases mem with earlier | rfl
      · exact .inr (guarded.claimed run earlier)
      · exact .inl rfl
    · intro key
      refine successes_append_le runsEq ?_ (guarded.once key)
      rintro rfl
      rw [Worker.successes, List.countP_eq_zero]
      intro run mem
      have ne : run.envelope.idempotencyKey ≠ jobCall.envelope.idempotencyKey :=
        fun eq => free (eq ▸ guarded.claimed run mem)
      simp [ne]

/-- Every sequence of calls keeps the guard's promise, by induction over the calls. -/
theorem Worker.Guarded.calls {worker : Worker} (guarded : worker.Guarded)
    (jobCalls : List JobCall)
    : (worker.calls jobCalls).Guarded := by
  induction jobCalls generalizing worker with
  | nil => exact guarded
  | cons jobCall jobCalls ih => exact ih (guarded.call jobCall)

/-- A worker that has processed nothing keeps the promise. -/
theorem Worker.Guarded.fresh : Worker.fresh.Guarded :=
  ⟨by simp [Worker.fresh], by simp [Worker.fresh, Worker.successes]⟩

-----------------------------------------------------------------------------------------
-- Main result
-----------------------------------------------------------------------------------------

/-- The delivery loop settles a job exactly when its key is free and either the first
handler run succeeds or the policy allows a single attempt; and in any order of calls the
handler succeeds at most once for a key.
Witness: the second delivery of a key meets its own claim.
-/
theorem settles_iff_firstDeliveryDecides (worker : Worker) (envelope : EventEnvelope)
    (handler : JobHandler) (policy : RetryPolicy)
    : (Settles worker envelope handler policy
        ↔ envelope.idempotencyKey ∉ worker.claimedKeys
          ∧ (handler worker.handlerRuns envelope = .ok () ∨ policy.maxAttempts = 1))
      ∧ ∀ (jobCalls : List JobCall) (key : String),
          (Worker.fresh.calls jobCalls).successes key ≤ 1 := by
  refine ⟨?_, fun jobCalls key => (Worker.Guarded.fresh.calls jobCalls).once key⟩
  constructor
  · intro settles
    have free : envelope.idempotencyKey ∉ worker.claimedKeys :=
      fun claimed => not_settles_of_claimed claimed handler policy settles
    refine ⟨free, ?_⟩
    cases answer : handler worker.handlerRuns envelope with
    | ok => exact .inl rfl
    | error error =>
        right
        by_contra several
        exact not_settles_of_error_of_several free answer several settles
  · rintro ⟨free, ok | single⟩
    · exact settles_of_ok free ok policy
    · cases answer : handler worker.handlerRuns envelope with
      | ok => exact settles_of_ok free answer policy
      | error error => exact settles_of_error_of_single free answer single

/-- A notification delivery with the idempotency key of its tests. -/
def notificationEnvelope : EventEnvelope where
  eventId := "evt_1"
  topic := "opencord.events.realtime.v1"
  eventType := "notification.deliver"
  schemaVersion := 1
  organizationId := "org_1"
  partitionKey := "org_1"
  occurredAt := 0
  traceparent := none
  idempotencyKey := "notification.deliver:notification_1"
  payload := .object [("notification_id", .string "notification_1")]

/-- A handler that always fails. -/
def failingHandler : JobHandler := fun _ _ => .error ⟨"delivery failed"⟩

/-- With three attempts and a failing handler the loop stops at the second delivery as a
duplicate: nothing completed and the sink is empty.
-/
theorem failingJob_endsAsDuplicate
    : (deliverUntilSettled Worker.fresh notificationEnvelope failingHandler
          (RetryPolicy.new 3 100) 3 1).1 = some .duplicate
      ∧ (deliverUntilSettled Worker.fresh notificationEnvelope failingHandler
          (RetryPolicy.new 3 100) 3 1).2.deadLetters = []
      ∧ ¬ Settles Worker.fresh notificationEnvelope failingHandler
          (RetryPolicy.new 3 100) := by
  refine ⟨by decide, by decide, ?_⟩
  exact not_settles_of_error_of_several (by decide) rfl (by decide)

end OpenCord.Jobs

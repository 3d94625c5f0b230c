import Mathlib.Algebra.Group.Nat.Defs
import Mathlib.Data.Finset.Insert
import OpenCord.Platform.Json

/-! The worker boundary: retry policy, idempotency guard, dead-letter sink and the two
entry points that process one delivery of a job.
-/

namespace OpenCord.Jobs

open OpenCord.Platform

/-- The envelope of a queued event. `occurredAt` counts milliseconds since the epoch. -/
structure EventEnvelope where
  eventId : String
  topic : String
  eventType : String
  schemaVersion : Nat
  organizationId : String
  partitionKey : String
  occurredAt : Int
  traceparent : Option String
  idempotencyKey : String
  payload : Json

-----------------------------------------------------------------------------------------
-- Retry policy
-----------------------------------------------------------------------------------------

/-- The largest value of an unsigned 64-bit integer. -/
def u64Max : Nat := 2 ^ 64 - 1

/-- A product that stops at the largest unsigned 64-bit value. -/
def saturatingMul (left right : Nat) : Nat := min (left * right) u64Max

/-- A power that stops at the largest unsigned 64-bit value. -/
def saturatingPow (base exponent : Nat) : Nat := min (base ^ exponent) u64Max

/-- A policy always allows one attempt. -/
structure RetryPolicy where
  maxAttempts : Nat
  initialBackoffMs : Nat
  one_le_maxAttempts : 1 ≤ maxAttempts

/-- A policy from requested limits; zero attempts count as one. -/
def RetryPolicy.new (maxAttempts initialBackoffMs : Nat) : RetryPolicy where
  maxAttempts := max maxAttempts 1
  initialBackoffMs := initialBackoffMs
  one_le_maxAttempts := Nat.le_max_right maxAttempts 1

inductive RetryDecision where
  | retry (backoffMs : Nat)
  | deadLetter
  deriving DecidableEq

/-- What follows a failed attempt: another one after an exponential backoff, or the
dead-letter sink once the attempts are used up.
-/
def RetryPolicy.decide (policy : RetryPolicy) (attempt : Nat) : RetryDecision :=
  if policy.maxAttempts ≤ attempt then
    .deadLetter
  else
    .retry (saturatingMul policy.initialBackoffMs (saturatingPow 2 (attempt - 1)))

-----------------------------------------------------------------------------------------
-- Worker state
-----------------------------------------------------------------------------------------

structure JobError where
  message : String
  deriving DecidableEq

/-- One call of a handler and how it ended. -/
structure HandlerRun where
  envelope : EventEnvelope
  result : Except JobError Unit

/-- A handler answers from the envelope and from everything it was run on before, so it may
fail and succeed in any pattern.
-/
def JobHandler := List HandlerRun → EventEnvelope → Except JobError Unit

structure DeadLetterEntry where
  eventId : String
  idempotencyKey : String
  attempt : Nat
  reason : String
  deriving DecidableEq

/-- What the calls of one worker share: the claimed keys of the idempotency guard, the
recorded dead letters, and the handler runs so far.
-/
structure Worker where
  claimedKeys : Finset String
  deadLetters : List DeadLetterEntry
  handlerRuns : List HandlerRun

inductive JobOutcome where
  | completed
  | duplicate
  | retry (backoffMs : Nat)
  | deadLetter
  deriving DecidableEq

/-- Claims a key; the answer tells whether it was free. -/
def Worker.claim (worker : Worker) (idempotencyKey : String) : Bool × Worker :=
  (decide (idempotencyKey ∉ worker.claimedKeys),
    { worker with claimedKeys := insert idempotencyKey worker.claimedKeys })

/-- Runs the handler and remembers the run. -/
def Worker.handle (worker : Worker) (handler : JobHandler) (envelope : EventEnvelope)
    : Except JobError Unit × Worker :=
  let result := handler worker.handlerRuns envelope
  (result, { worker with handlerRuns := worker.handlerRuns ++ [⟨envelope, result⟩] })

/-- Appends a dead letter for an attempt that failed for the given reason. -/
def Worker.record (worker : Worker) (envelope : EventEnvelope) (attempt : Nat)
    (reason : String) : Worker :=
  { worker with
    deadLetters := worker.deadLetters
      ++ [⟨envelope.eventId, envelope.idempotencyKey, attempt, reason⟩] }

-----------------------------------------------------------------------------------------
-- Processing
-----------------------------------------------------------------------------------------

/-- Processes one delivery; a job that is out of attempts is only reported. -/
def processJobOnce (worker : Worker) (envelope : EventEnvelope) (attempt : Nat)
    (handler : JobHandler) (retryPolicy : RetryPolicy) : JobOutcome × Worker :=
  match worker.claim envelope.idempotencyKey with
  | (false, claimed) => (.duplicate, claimed)
  | (true, claimed) =>
      match claimed.handle handler envelope with
      | (.ok (), handled) => (.completed, handled)
      | (.error _, handled) =>
          match retryPolicy.decide attempt with
          | .retry backoffMs => (.retry backoffMs, handled)
          | .deadLetter => (.deadLetter, handled)

/-- Processes one delivery; a job that is out of attempts is recorded in the sink. -/
def processJobWithDeadLetter (worker : Worker) (envelope : EventEnvelope) (attempt : Nat)
    (handler : JobHandler) (retryPolicy : RetryPolicy) : JobOutcome × Worker :=
  match worker.claim envelope.idempotencyKey with
  | (false, claimed) => (.duplicate, claimed)
  | (true, claimed) =>
      match claimed.handle handler envelope with
      | (.ok (), handled) => (.completed, handled)
      | (.error error, handled) =>
          match retryPolicy.decide attempt with
          | .retry backoffMs => (.retry backoffMs, handled)
          | .deadLetter => (.deadLetter, handled.record envelope attempt error.message)

/-- Delivers a job with attempts `attempt`, `attempt + 1`, … while the answer is a retry,
for at most `fuel` deliveries.
-/
def deliverUntilSettled (worker : Worker) (envelope : EventEnvelope) (handler : JobHandler)
    (retryPolicy : RetryPolicy) : Nat → Nat → Option JobOutcome × Worker
  | 0, _ => (none, worker)
  | fuel + 1, attempt =>
      match processJobWithDeadLetter worker envelope attempt handler retryPolicy with
      | (.retry _, next) =>
          deliverUntilSettled next envelope handler retryPolicy fuel (attempt + 1)
      | (outcome, next) => (some outcome, next)

/-- A call of one of the two entry points. -/
structure JobCall where
  withDeadLetter : Bool
  envelope : EventEnvelope
  attempt : Nat
  handler : JobHandler
  retryPolicy : RetryPolicy

/-- The worker after one call. -/
def Worker.call (worker : Worker) (jobCall : JobCall) : Worker :=
  let process :=
    if jobCall.withDeadLetter then processJobWithDeadLetter else processJobOnce
  (process worker jobCall.envelope jobCall.attempt jobCall.handler jobCall.retryPolicy).2

/-- The worker after a sequence of calls, in their order. -/
def Worker.calls (worker : Worker) (jobCalls : List JobCall) : Worker :=
  jobCalls.foldl Worker.call worker

end OpenCord.Jobs

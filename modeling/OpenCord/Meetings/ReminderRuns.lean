import OpenCord.Library.DateTimes
import OpenCord.Meetings.DueReminders
import OpenCord.Meetings.Requests

/-! The runs of a single reminder worker, one after the other at one time and with nothing else
going on: what they deliver, and what they answer.
-/

namespace OpenCord.Meetings

open OpenCord.Library OpenCord.Platform

/-- A delivery with the answer of the dispatcher. -/
structure ReminderAttempt where
  delivery : MeetingReminderDelivery
  outcome : Except ReminderDeliveryError Unit

/-- The store, and the deliveries that the dispatcher was called with, in their order. -/
structure DispatchedReminders where
  store : MeetingStore
  attempts : List ReminderAttempt

namespace DispatchedReminders

def withStore (dispatched : DispatchedReminders) (store : MeetingStore) : DispatchedReminders :=
  { dispatched with store := store }

def withAttempt (dispatched : DispatchedReminders) (attempt : ReminderAttempt)
    : DispatchedReminders :=
  { dispatched with attempts := dispatched.attempts ++ [attempt] }

end DispatchedReminders

/-- A worker with a dispatcher, whose answer may depend on the deliveries before. -/
structure MeetingReminderWorker where
  dispatcher : List ReminderAttempt → MeetingReminderDelivery → Except ReminderDeliveryError Unit
  batchSize : Nat
  batchSize_pos : 0 < batchSize

namespace MeetingReminderWorker

def new (dispatcher
      : List ReminderAttempt → MeetingReminderDelivery → Except ReminderDeliveryError Unit)
    : MeetingReminderWorker :=
  ⟨dispatcher, 100, by decide⟩

def withBatchSize (worker : MeetingReminderWorker) (batchSize : Nat) : MeetingReminderWorker :=
  ⟨worker.dispatcher, max batchSize 1, Nat.le_max_right ..⟩

def deliver (worker : MeetingReminderWorker) (delivery : MeetingReminderDelivery)
    : Eff DispatchedReminders MeetingError (Except ReminderDeliveryError Unit) := do
  let dispatched ← get
  let outcome := worker.dispatcher dispatched.attempts delivery
  set (dispatched.withAttempt ⟨delivery, outcome⟩)
  return outcome

/-- A job is delivered, marked and counted. -/
def deliverJob (worker : MeetingReminderWorker) (now : String) (job : MeetingReminderJob)
    (summary : ReminderRunSummary)
    : Eff DispatchedReminders MeetingError ReminderRunSummary := do
  let outcome ← worker.deliver (deliveryFromJob job)
  Eff.zoom DispatchedReminders.store DispatchedReminders.withStore id
    (markDelivered now job.reminder.id summary outcome)

/-- The jobs in their order; the first failed marking ends the run. -/
def deliverJobs (worker : MeetingReminderWorker) (now : String)
    : List MeetingReminderJob → ReminderRunSummary →
        Eff DispatchedReminders MeetingError ReminderRunSummary
  | [], summary => return summary
  | job :: jobs, summary => do
      let summary ← worker.deliverJob now job summary
      worker.deliverJobs now jobs summary

section Runs

variable {Instant : Type} (chrono : Chrono Instant)

def runOnceAt (worker : MeetingReminderWorker) (now : Instant)
    : Eff DispatchedReminders MeetingError ReminderRunSummary := do
  let now := chrono.toRfc3339 now
  let dispatched ← get
  let jobs := dispatched.store.listDueReminders now worker.batchSize
  worker.deliverJobs now jobs ⟨jobs.length, 0, 0⟩

/-- The answers of a number of runs at one time, and what they leave. -/
def runTimes (worker : MeetingReminderWorker) (now : Instant)
    : Nat → DispatchedReminders →
        List (Except MeetingError ReminderRunSummary) × DispatchedReminders
  | 0, dispatched => ([], dispatched)
  | count + 1, dispatched =>
      let earlier := worker.runTimes now count dispatched
      let last := (worker.runOnceAt chrono now).exec earlier.2
      (earlier.1 ++ [last.1], last.2)

end Runs

end MeetingReminderWorker

-----------------------------------------------------------------------------------------
-- One delivery
-----------------------------------------------------------------------------------------

namespace ReminderAttempt

def reminderId (attempt : ReminderAttempt) : Uuid := attempt.delivery.reminderId

/-- The reminder after the attempt, which sets the status of the one that it delivers. -/
def settle (attempt : ReminderAttempt) (reminder : MeetingReminder) : MeetingReminder :=
  if reminder.id = attempt.reminderId then
    { reminder with status := deliveredStatus attempt.outcome }
  else
    reminder

@[simp] theorem id_settle (attempt : ReminderAttempt) (reminder : MeetingReminder)
    : (attempt.settle reminder).id = reminder.id := by
  rw [settle]
  split <;> rfl

/-- The reminder after some attempts. -/
def settleAll (attempts : List ReminderAttempt) (reminder : MeetingReminder) : MeetingReminder :=
  attempts.foldl (fun reminder attempt => attempt.settle reminder) reminder

theorem settleAll_concat (attempts : List ReminderAttempt) (attempt : ReminderAttempt)
    (reminder : MeetingReminder)
    : settleAll (attempts ++ [attempt]) reminder = attempt.settle (settleAll attempts reminder) :=
  List.foldl_append

/-- Attempts do not change the identifier of a reminder; by induction over them. -/
@[simp] theorem id_settleAll (attempts : List ReminderAttempt) (reminder : MeetingReminder)
    : (settleAll attempts reminder).id = reminder.id := by
  induction attempts generalizing reminder with
  | nil => rfl
  | cons attempt attempts ih => exact (ih _).trans (id_settle attempt reminder)

/-- A reminder that is not attempted stays as it is, by induction over the attempts. -/
theorem settleAll_of_notMem {attempts : List ReminderAttempt} {reminder : MeetingReminder}
    (others : reminder.id ∉ attempts.map reminderId)
    : settleAll attempts reminder = reminder := by
  induction attempts with
  | nil => rfl
  | cons attempt attempts ih =>
      rw [List.map_cons, List.mem_cons, not_or] at others
      have same : attempt.settle reminder = reminder := if_neg others.1
      rw [settleAll, List.foldl_cons, same]
      exact ih others.2

/-- A reminder that is attempted once gets the status of that attempt, by induction over the
attempts.
-/
theorem settleAll_of_mem {attempts : List ReminderAttempt} {reminder : MeetingReminder}
    {attempt : ReminderAttempt} (once : (attempts.map reminderId).Nodup)
    (listed : attempt ∈ attempts) (same : reminder.id = attempt.reminderId)
    : settleAll attempts reminder
        = { reminder with status := deliveredStatus attempt.outcome } := by
  induction attempts generalizing reminder with
  | nil => cases listed
  | cons first attempts ih =>
      rw [List.map_cons, List.nodup_cons] at once
      rw [settleAll, List.foldl_cons]
      rcases List.mem_cons.mp listed with rfl | later
      · have settled : attempt.settle reminder
            = { reminder with status := deliveredStatus attempt.outcome } := if_pos same
        rw [settled]
        exact settleAll_of_notMem (same ▸ once.1)
      · have other : first.settle reminder = reminder := by
          refine if_neg fun again => once.1 ?_
          rw [← again, same]
          exact List.mem_map_of_mem later
        rw [other]
        exact ih once.2 later same

end ReminderAttempt

-----------------------------------------------------------------------------------------
-- Runs over the due reminders
-----------------------------------------------------------------------------------------

/-- A store is what deliveries have made of another one: each attempt was answered by the
dispatcher, and has set the status of its reminder.
-/
structure DispatchedReminders.Follows (worker : MeetingReminderWorker) (store : MeetingStore)
    (dispatched : DispatchedReminders) : Prop where
  meetings : dispatched.store.meetingsById = store.meetingsById
  reminders : dispatched.store.reminders.Perm
    (store.reminders.map (ReminderAttempt.settleAll dispatched.attempts))
  answered : ∀ before attempt, before ++ [attempt] <+: dispatched.attempts →
    attempt.outcome = worker.dispatcher before attempt.delivery

namespace DispatchedReminders

open MeetingReminderWorker

variable {worker : MeetingReminderWorker} {store : MeetingStore}

theorem Follows.refl (worker : MeetingReminderWorker) (store : MeetingStore)
    : Follows worker store ⟨store, []⟩ where
  meetings := rfl
  reminders := by
    have same : ReminderAttempt.settleAll [] = id := rfl
    rw [same, List.map_id]
  answered before attempt listed := by
    have empty := List.prefix_nil.mp listed
    simp at empty

/-- Identifiers stay distinct. -/
theorem Follows.unique {dispatched : DispatchedReminders}
    (follows : dispatched.Follows worker store) (unique : (store.reminders.map (·.id)).Nodup)
    : (dispatched.store.reminders.map (·.id)).Nodup := by
  rw [(follows.reminders.map _).nodup_iff, List.map_map]
  simpa only [Function.comp_def, ReminderAttempt.id_settleAll] using unique

theorem Follows.answered_concat {dispatched : DispatchedReminders}
    (follows : dispatched.Follows worker store) {attempt : ReminderAttempt}
    (answers : attempt.outcome = worker.dispatcher dispatched.attempts attempt.delivery)
    : ∀ before other, before ++ [other] <+: dispatched.attempts ++ [attempt] →
        other.outcome = worker.dispatcher before other.delivery := by
  intro before other listed
  rcases List.prefix_concat_iff.mp listed with last | earlier
  · obtain ⟨rfl, same⟩ := List.append_inj' last rfl
    cases same
    exact answers
  · exact follows.answered before other earlier

/-- A marked reminder is settled by its attempt, and no other reminder is. -/
theorem Follows.reminders_concat {dispatched : DispatchedReminders}
    (follows : dispatched.Follows worker store)
    (unique : (dispatched.store.reminders.map (·.id)).Nodup) {attempt : ReminderAttempt}
    {reminder : MeetingReminder} (target : reminder.id = attempt.reminderId)
    {rest : List MeetingReminder} (before : dispatched.store.reminders.Perm (reminder :: rest))
    {marked : MeetingStore}
    (after : marked.reminders.Perm
      ({ reminder with status := deliveredStatus attempt.outcome } :: rest))
    : marked.reminders.Perm
        (store.reminders.map (ReminderAttempt.settleAll (dispatched.attempts ++ [attempt]))) := by
  rw [(before.map _).nodup_iff, List.map_cons, List.nodup_cons] at unique
  have settled : attempt.settle reminder
      = { reminder with status := deliveredStatus attempt.outcome } := if_pos target
  have others : rest.map attempt.settle = rest := by
    refine (List.map_congr_left fun other listed => if_neg fun same => unique.1 ?_).trans
      (List.map_id rest)
    rw [target, ← same]
    exact List.mem_map_of_mem listed
  have step : marked.reminders.Perm (dispatched.store.reminders.map attempt.settle) := by
    refine after.trans (.trans ?_ (before.map _).symm)
    rw [List.map_cons, settled, others]
  refine step.trans ((follows.reminders.map _).trans (.of_eq ?_))
  rw [List.map_map]
  exact List.map_congr_left fun other _ =>
    (ReminderAttempt.settleAll_concat dispatched.attempts attempt other).symm

/-- The first due reminder is delivered and marked, and the others stay due. -/
theorem Follows.deliverJob {dispatched : DispatchedReminders}
    (follows : dispatched.Follows worker store) (unique : (store.reminders.map (·.id)).Nodup)
    {now : String} {job : MeetingReminderJob} {jobs : List MeetingReminderJob}
    (due : dispatched.store.dueReminders now = job :: jobs) (summary : ReminderRunSummary)
    : ∃ next outcome,
        (worker.deliverJob now job summary).exec dispatched = (.ok (summary.count outcome), next)
          ∧ next.Follows worker store
          ∧ next.attempts.map (·.delivery)
            = dispatched.attempts.map (·.delivery) ++ [deliveryFromJob job]
          ∧ next.store.dueReminders now = jobs := by
  have unique := follows.unique unique
  let outcome := worker.dispatcher dispatched.attempts (deliveryFromJob job)
  let attempt : ReminderAttempt := ⟨deliveryFromJob job, outcome⟩
  have first : job ∈ dispatched.store.dueReminders now := due ▸ List.mem_cons_self
  obtain ⟨stored, known⟩ := MeetingStore.mem_dueReminders.mp first
  have waits := (MeetingStore.dueJob_eq_some.mp known).1.1
  obtain ⟨marked, reminder, rest, marks, meetings, target, before, after⟩ :=
    MeetingStore.exec_updateReminderStatus_of_pending (deliveredStatus outcome)
      ⟨job.reminder, stored, rfl, waits⟩
  refine ⟨(dispatched.withAttempt attempt).withStore marked, outcome, ?_, ?_, ?_, ?_⟩
  · have delivers : (worker.deliver (deliveryFromJob job)).exec dispatched
        = (.ok outcome, dispatched.withAttempt attempt) := rfl
    rw [MeetingReminderWorker.deliverJob, Eff.exec_bind, delivers]
    refine Eff.exec_zoom_eq_ok.mpr ⟨marked, ?_, rfl⟩
    change (markDelivered now job.reminder.id summary outcome).exec dispatched.store = _
    rw [markDelivered_eq_count, Eff.exec_bind, marks]
    rfl
  · refine ⟨meetings.trans follows.meetings, ?_, follows.answered_concat rfl⟩
    exact follows.reminders_concat unique target.1 before after
  · exact List.map_append
  · exact MeetingStore.dueReminders_of_marked unique (deliveredStatus_ne_pending outcome) meetings
      before after due target.1

/-- All jobs are delivered and counted in their order, and the other due reminders stay due; by
induction over the jobs.
-/
theorem Follows.deliverJobs {dispatched : DispatchedReminders}
    (follows : dispatched.Follows worker store) (unique : (store.reminders.map (·.id)).Nodup)
    {now : String} {jobs later : List MeetingReminderJob}
    (due : dispatched.store.dueReminders now = jobs ++ later) (summary : ReminderRunSummary)
    : ∃ next counted,
        (worker.deliverJobs now jobs summary).exec dispatched = (.ok counted, next)
          ∧ counted.scanned = summary.scanned
          ∧ counted.sent + counted.failed = summary.sent + summary.failed + jobs.length
          ∧ next.Follows worker store
          ∧ next.attempts.map (·.delivery)
            = dispatched.attempts.map (·.delivery) ++ jobs.map deliveryFromJob
          ∧ next.store.dueReminders now = later := by
  induction jobs generalizing dispatched summary with
  | nil => exact ⟨dispatched, summary, rfl, rfl, rfl, follows, (List.append_nil _).symm, due⟩
  | cons job jobs ih =>
      obtain ⟨middle, outcome, delivers, between, attempts, rest⟩ :=
        follows.deliverJob unique due summary
      obtain ⟨next, counted, runs, scanned, total, last, attempted, left⟩ :=
        ih between rest (summary.count outcome)
      refine ⟨next, counted, ?_, ?_, ?_, last, ?_, left⟩
      · rw [MeetingReminderWorker.deliverJobs, Eff.exec_bind, delivers]
        exact runs
      · rw [scanned]
        cases outcome <;> rfl
      · rw [total, List.length_cons]
        cases outcome with
        | ok _ => simp only [ReminderRunSummary.count]; omega
        | error _ => simp only [ReminderRunSummary.count]; omega
      · rw [attempted, attempts, List.append_assoc, List.singleton_append, List.map_cons]

/-- Deliveries from a store have drained a number of its due reminders. -/
structure Drained (worker : MeetingReminderWorker) (store : MeetingStore) (now : String)
    (count : Nat) (dispatched : DispatchedReminders) : Prop
    extends follows : dispatched.Follows worker store where
  delivered : dispatched.attempts.map (·.delivery)
    = ((store.dueReminders now).take count).map deliveryFromJob
  due : dispatched.store.dueReminders now = (store.dueReminders now).drop count

section Runs

variable {Instant : Type} {chrono : Chrono Instant} {now : Instant}

/-- A run drains the next batch and counts it. -/
theorem Drained.runOnceAt {count : Nat} {dispatched : DispatchedReminders}
    (drained : dispatched.Drained worker store (chrono.toRfc3339 now) count)
    (unique : (store.reminders.map (·.id)).Nodup)
    : ∃ next summary, (worker.runOnceAt chrono now).exec dispatched = (.ok summary, next)
        ∧ summary.sent + summary.failed = summary.scanned
        ∧ summary.scanned
          = min worker.batchSize ((store.dueReminders (chrono.toRfc3339 now)).length - count)
        ∧ next.Drained worker store (chrono.toRfc3339 now) (count + worker.batchSize) := by
  have listed := @MeetingStore.listDueReminders_eq_take dispatched.store (chrono.toRfc3339 now) _
    worker.batchSize_pos
  rw [drained.due] at listed
  have split := (List.take_append_drop worker.batchSize
    ((store.dueReminders (chrono.toRfc3339 now)).drop count)).symm
  obtain ⟨next, summary, runs, scanned, total, follows, attempts, left⟩ :=
    drained.follows.deliverJobs unique (drained.due.trans split)
      ⟨((store.dueReminders (chrono.toRfc3339 now)).drop count |>.take worker.batchSize).length,
        0, 0⟩
  refine ⟨next, summary, ?_, ?_, ?_, follows, ?_, ?_⟩
  · rw [MeetingReminderWorker.runOnceAt, Eff.exec_get_bind, listed]
    exact runs
  · rw [total, scanned]
    dsimp only
    omega
  · rw [scanned, List.length_take, List.length_drop]
  · rw [attempts, drained.delivered, List.take_add, List.map_append]
  · rw [left, List.drop_drop]

/-- Runs one after the other drain one batch each, by induction over their number. -/
theorem Drained.runTimes (unique : (store.reminders.map (·.id)).Nodup) (count : Nat)
    : ∃ (summaries : List ReminderRunSummary) (last : DispatchedReminders),
        worker.runTimes chrono now count ⟨store, []⟩ = (summaries.map .ok, last)
          ∧ (∀ summary ∈ summaries, summary.sent + summary.failed = summary.scanned
            ∧ summary.scanned ≤ worker.batchSize)
          ∧ last.Drained worker store (chrono.toRfc3339 now) (count * worker.batchSize) := by
  induction count with
  | zero =>
      refine ⟨[], _, rfl, fun _ listed => absurd listed List.not_mem_nil, .refl worker store,
        ?_, ?_⟩
      · rw [Nat.zero_mul]
        rfl
      · rw [Nat.zero_mul]
        rfl
  | succ count ih =>
      obtain ⟨summaries, middle, ran, counted, drained⟩ := ih
      obtain ⟨last, summary, runs, total, scanned, next⟩ := drained.runOnceAt unique
      refine ⟨summaries ++ [summary], last, ?_, ?_, Nat.succ_mul count _ ▸ next⟩
      · simp only [MeetingReminderWorker.runTimes, ran, runs, List.map_append, List.map_cons,
          List.map_nil]
      · intro other listed
        rcases List.mem_append.mp listed with earlier | same
        · exact counted other earlier
        · obtain rfl := List.mem_singleton.mp same
          exact ⟨total, scanned ▸ Nat.min_le_left ..⟩

end Runs

end DispatchedReminders

end OpenCord.Meetings

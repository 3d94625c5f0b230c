import OpenCord.Meetings.ReminderRuns

/-! What a single reminder worker drains, in time. Due times are compared as texts, which are
ordered as the times in the years 0 to 9999; a later time is printed with a sign, which comes
before every digit.
-/

namespace OpenCord.Meetings

open OpenCord.Library OpenCord.Platform

-----------------------------------------------------------------------------------------
-- Meetings with distinct identifiers
-----------------------------------------------------------------------------------------

section Identifiers

variable {Instant : Type} {chrono : Chrono Instant}

/-- The reminders of a new meeting have identifiers of their own. -/
def MeetingRequests.DrawsDistinct (requests : MeetingRequests)
    : Nat × MeetingMove Instant → Prop
  | (_, .create _ input) =>
      (input.reminders.map (·.1) ++ requests.shared.store.reminders.map (·.id)).Nodup
  | _ => True

instance (requests : MeetingRequests)
    : ∀ action : Nat × MeetingMove Instant, Decidable (requests.DrawsDistinct action)
  | (_, .create ..) => inferInstanceAs (Decidable (List.Nodup (_ ++ _)))
  | (_, .read _) | (_, .update _) | (_, .cancel _) | (_, .work _) => .isTrue trivial

theorem MeetingService.id_of_normalizeReminder {meetingId reminderId : Uuid} {startsAt : Instant}
    {input : NewMeetingReminder} {reminder : MeetingReminder}
    (valid : normalizeReminder chrono meetingId startsAt reminderId input = .ok reminder)
    : reminder.id = reminderId := by
  obtain ⟨_, _, valid⟩ := Eff.check_bind_eq_ok.mp valid
  split at valid
  · cases valid
  split at valid
  · cases valid
  · obtain ⟨_, _, valid⟩ := Eff.check_bind_eq_ok.mp valid
    cases valid
    rfl

/-- A new meeting has reminders with the drawn identifiers. -/
theorem MeetingService.ids_of_newBundle {meetingId : Uuid} {input : NewMeeting}
    {bundle : MeetingBundle} (valid : newBundle chrono meetingId input = .ok bundle)
    : bundle.reminders.map (·.id) = input.reminders.map (·.1) := by
  obtain ⟨_, _, valid⟩ := Eff.check_bind_eq_ok.mp valid
  obtain ⟨_, _, valid⟩ := Eff.check_bind_eq_ok.mp valid
  obtain ⟨_, _, valid⟩ := Eff.check_bind_eq_ok.mp valid
  obtain ⟨_, _, valid⟩ := Eff.check_bind_eq_ok.mp valid
  obtain ⟨_, _, valid⟩ := Eff.check_bind_eq_ok.mp valid
  obtain ⟨_, _, valid⟩ := Eff.check_bind_eq_ok.mp valid
  obtain ⟨_, _, valid⟩ := Eff.check_bind_eq_ok.mp valid
  obtain ⟨reminders, built, valid⟩ := Eff.check_bind_eq_ok.mp valid
  cases valid
  have ids := (Eff.forall₂_of_mapM built).imp fun _ _ => id_of_normalizeReminder
  refine Eq.symm (List.forall₂_eq_eq_eq ▸ ?_)
  exact List.forall₂_map_left_iff.mpr
    (List.forall₂_map_right_iff.mpr (ids.imp fun _ _ => Eq.symm))

namespace MeetingStore

/-- The reminders of a store are told apart by their identifiers, and lie under its meetings. -/
structure DistinctReminders (store : MeetingStore) : Prop where
  unique : (store.reminders.map (·.id)).Nodup
  known : ∀ meetingId ∈ store.remindersByMeetingId, meetingId ∈ store.meetingsById

theorem DistinctReminders.empty : DistinctReminders empty :=
  ⟨List.nodup_nil, fun _ stored => absurd stored (AList.notMem_empty _)⟩

theorem DistinctReminders.create {store : MeetingStore} (distinct : store.DistinctReminders)
    {meetingId : Uuid} {input : NewMeeting} (new : meetingId ∉ store.meetingsById)
    (ids : (input.reminders.map (·.1) ++ store.reminders.map (·.id)).Nodup)
    : DistinctReminders ((MeetingService.create chrono meetingId input).after store) := by
  obtain same | ⟨bundle, valid, created⟩ :=
    @MeetingService.create_cases _ chrono meetingId input store
  · rw [same]
    exact distinct
  · obtain ⟨rfl, _⟩ := MeetingService.newBundle_eq_ok valid
    have unknown : bundle.meeting.id ∉ store.remindersByMeetingId :=
      fun stored => new (distinct.known _ stored)
    rw [created]
    constructor
    · rw [reminders_createMeeting unknown, List.map_append, MeetingService.ids_of_newBundle valid]
      exact ids
    · intro meetingId stored
      rcases (AList.mem_insert _).mp stored with same | earlier
      · exact (AList.mem_insert _).mpr (.inl same)
      · exact (AList.mem_insert _).mpr (.inr (distinct.known meetingId earlier))

theorem DistinctReminders.write {store : MeetingStore} (distinct : store.DistinctReminders)
    (written : Meeting)
    : DistinctReminders (store.withMeeting written) :=
  ⟨distinct.unique, fun meetingId stored =>
    (AList.mem_insert _).mpr (.inr (distinct.known meetingId stored))⟩

/-- Reminders change their status where they lie. -/
theorem DistinctReminders.updateReminderStatus {store : MeetingStore}
    (distinct : store.DistinctReminders) (reminderId : Uuid) (status : String)
    : DistinctReminders ((MeetingStore.updateReminderStatus reminderId status).after store) := by
  by_cases pending : store.Pending reminderId
  · obtain ⟨holder, reminders, found, answers, _⟩ := remindersWith_of_pending status pending
    obtain ⟨next, reminder, rest, changed, meetings, _, before, after⟩ :=
      exec_updateReminderStatus_of_pending status pending
    have same : (MeetingStore.updateReminderStatus reminderId status).after store = next :=
      congrArg Prod.snd changed
    constructor
    · have ids : (next.reminders.map (·.id)).Perm (store.reminders.map (·.id)) :=
        (after.map (·.id)).trans (before.map (·.id)).symm
      rw [same, ids.nodup_iff]
      exact distinct.unique
    · rw [MeetingStore.updateReminderStatus, Eff.after, Eff.exec_get_bind, found]
      intro meetingId stored
      refine distinct.known meetingId ?_
      rcases (AList.mem_insert _).mp stored with rfl | other
      · exact Table.mem_of_lookup answers
      · exact other
  · rw [Eff.after, exec_updateReminderStatus_of_not_pending status pending]
    exact distinct

end MeetingStore

theorem WorkerTask.move_distinct {history next : DeliveryHistory} {task nextTask : WorkerTask}
    {move : WorkerMove} (ofWorker : move.OfWorker) (distinct : history.store.DistinctReminders)
    (moved : task.move history move = some (next, nextTask))
    : next.store.DistinctReminders := by
  rw [WorkerTask.move.eq_def] at moved
  split at moved
  · cases ofWorker
  · cases ofWorker
  · cases moved
    exact distinct
  · cases moved
    exact distinct
  · next now reminderId outcome jobs summary =>
      have kept := distinct.updateReminderStatus reminderId (deliveredStatus outcome)
      rw [markDelivered_eq_count, Eff.exec_bind] at moved
      rw [Eff.after] at kept
      generalize (MeetingStore.updateReminderStatus reminderId (deliveredStatus outcome)).exec
        history.store = marked at moved kept
      rcases marked with ⟨answer | answer, store⟩
      · cases moved
        exact kept
      · cases moved
        exact kept
  · cases moved
    exact distinct
  · cases moved

namespace MeetingRequests

/-- A move keeps the identifiers of reminders distinct. -/
theorem distinctReminders_move {requests : MeetingRequests} {index : Nat}
    {move : MeetingMove Instant} {next : MeetingHistory} {task : MeetingTask}
    (distinct : requests.shared.store.DistinctReminders)
    (draws : requests.DrawsDistinct (index, move))
    (moved : (requests.tasks index).move chrono requests.shared move = some (next, task))
    : next.store.DistinctReminders := by
  cases move with
  | create meetingId input =>
      rw [MeetingTask.move] at moved
      split at moved
      · cases moved
      · next new =>
          cases moved
          rw [MeetingHistory.store_withStore]
          exact distinct.create new draws
  | read meetingId =>
      rw [MeetingTask.move] at moved
      split at moved <;> cases moved <;> exact distinct
  | update patch =>
      rw [MeetingTask.move] at moved
      split at moved
      · cases moved
      · next bundle _ =>
          cases moved
          rw [MeetingHistory.store_withStore]
          rcases MeetingService.update_cases bundle patch requests.shared.store
            with ⟨_, same⟩ | ⟨written, _, _, wrote⟩
          · rw [same]
            exact distinct
          · rw [wrote]
            exact distinct.write written
  | cancel now =>
      rw [MeetingTask.move] at moved
      split at moved
      · cases moved
      · next bundle _ =>
          rw [MeetingService.cancel] at moved
          rcases requests.shared.store.updateMeeting_cases
              (MeetingService.cancelled chrono now bundle.meeting) with ⟨_, _, wrote⟩ | ⟨_, failed⟩
          · rw [wrote] at moved
            cases moved
            exact distinct.write _
          · rw [failed] at moved
            cases moved
            exact distinct
  | work move =>
      rw [MeetingTask.move] at moved
      split at moved
      · next ofWorker =>
          obtain ⟨⟨deliveries, worker⟩, worked, same⟩ := Option.map_eq_some_iff.mp moved
          cases same
          exact WorkerTask.move_distinct ofWorker distinct worked
      · cases moved

/-- Whatever requests and workers do, the reminders of the store are told apart by their
identifiers.
-/
theorem distinctReminders_of_drawsDistinct {actions : List (Nat × MeetingMove Instant)}
    {last : MeetingRequests} (draws : Allowed (step chrono) DrawsDistinct start actions)
    (ran : run (step chrono) start actions = some last)
    : last.shared.store.DistinctReminders := by
  refine @run_preserves_of_allowed _ _ (step chrono) DrawsDistinct
    (fun requests => requests.shared.store.DistinctReminders) ?_ start _ _ .empty draws ran
  rintro requests ⟨index, move⟩ next distinct own stepped
  obtain ⟨history, task, moved, rfl⟩ := Tasks.step_eq_some.mp stepped
  exact distinctReminders_move distinct own moved

end MeetingRequests

end Identifiers

-----------------------------------------------------------------------------------------
-- The time of a reminder
-----------------------------------------------------------------------------------------

/-- The calendar library prints the instants of the years 0 to 9999 to the second, and earlier
ones with a sign.
-/
structure Chrono.PrintsInYears (chrono : Chrono DateTime) : Prop where
  inYears : ∀ time, time.InYears → chrono.toRfc3339 time = time.secondsText
  before : ∀ time : DateTime, time.minutes < DateTime.yearZero →
    ∃ rest, (chrono.toRfc3339 time).toList = '-' :: rest

section Times

variable (chrono : Chrono DateTime)

/-- A reminder is scheduled for an instant of the years 0 to 9999. -/
def MeetingReminder.ScheduledAt (reminder : MeetingReminder) (time : DateTime) : Prop :=
  time.InYears ∧ reminder.scheduledFor = chrono.toRfc3339 time

/-- A reminder is scheduled for an instant, to the second, that has come. -/
def MeetingReminder.ScheduledBy (now : DateTime) (reminder : MeetingReminder) : Prop :=
  ∃ time, reminder.ScheduledAt chrono time ∧ time.wholeSecond ≤ now

/-- Jobs by the instants that their reminders are scheduled for, then by the identifiers. -/
def MeetingReminderJob.InTime (first second : MeetingReminderJob) : Prop :=
  ∃ time later, first.reminder.ScheduledAt chrono time
    ∧ second.reminder.ScheduledAt chrono later
    ∧ (time.wholeSecond < later.wholeSecond
      ∨ time.wholeSecond = later.wholeSecond
        ∧ first.reminder.id.bits ≤ second.reminder.id.bits)

namespace MeetingStore

/-- The times of all reminders lie in the years 0 to 9999. -/
def RemindersInYears (store : MeetingStore) : Prop :=
  ∀ reminder ∈ store.reminders, ∃ time, reminder.ScheduledAt chrono time

/-- The pending reminders of scheduled meetings whose time has come, each once and in the order
of their times.
-/
structure DueInTime (store : MeetingStore) (now : DateTime) (jobs : List MeetingReminderJob)
    : Prop where
  mem_iff : ∀ job, job ∈ jobs
    ↔ job.reminder ∈ store.reminders ∧ job.reminder.status = "pending"
      ∧ job.reminder.ScheduledBy chrono now
      ∧ store.meetingsById.lookup job.reminder.meetingId = some job.meeting
      ∧ job.meeting.status = "scheduled"
  once : (jobs.map (·.reminder.id)).Nodup
  ordered : jobs.Pairwise (MeetingReminderJob.InTime chrono)

end MeetingStore

end Times

namespace Chrono.PrintsInYears

variable {chrono : Chrono DateTime}

/-- Up to the year 9999, a text that is not after the text of an instant has come by then. -/
theorem toRfc3339_le (prints : chrono.PrintsInYears) {time now : DateTime}
    (inYears : time.InYears) (notAfter : now.minutes < DateTime.yearTenThousand)
    : chrono.toRfc3339 time ≤ chrono.toRfc3339 now ↔ time.wholeSecond ≤ now := by
  rw [prints.inYears time inYears]
  by_cases started : DateTime.yearZero ≤ now.minutes
  · have nowInYears : now.InYears := ⟨started, notAfter⟩
    rw [prints.inYears now nowInYears, ← String.not_lt,
      DateTime.secondsText_lt_secondsText nowInYears inYears, not_lt]
    exact DateTime.truncated_le_truncated_iff (by decide)
  · have started := Int.not_le.mp started
    obtain ⟨rest, signed⟩ := prints.before now started
    have later : now < time.wholeSecond :=
      DateTime.lt_iff.mpr (.inl (Int.lt_of_lt_of_le started inYears.1))
    exact iff_of_false (String.not_le.mpr (inYears.sign_lt (.inr rfl) signed))
      (not_le_of_gt later)

/-- Jobs in the order of their texts are in the order of time. -/
theorem inTime (prints : chrono.PrintsInYears) {first second : MeetingReminderJob}
    {time later : DateTime} (firstAt : first.reminder.ScheduledAt chrono time)
    (secondAt : second.reminder.ScheduledAt chrono later)
    (before : MeetingStore.jobOrder first second)
    : MeetingReminderJob.InTime chrono first second := by
  refine ⟨time, later, firstAt, secondAt, ?_⟩
  have texts := DateTime.secondsText_lt_secondsText firstAt.1 secondAt.1
  have reversed := DateTime.secondsText_lt_secondsText secondAt.1 firstAt.1
  rw [← prints.inYears time firstAt.1, ← prints.inYears later secondAt.1, ← firstAt.2,
    ← secondAt.2] at texts reversed
  exact TextThenId.inTime texts reversed before

end Chrono.PrintsInYears

namespace MeetingStore

variable {chrono : Chrono DateTime}

/-- The due reminders by their texts are the ones whose time has come. -/
theorem dueInTime_dueReminders (prints : chrono.PrintsInYears) {store : MeetingStore}
    (unique : (store.reminders.map (·.id)).Nodup) (inYears : store.RemindersInYears chrono)
    {now : DateTime} (notAfter : now.minutes < DateTime.yearTenThousand)
    : store.DueInTime chrono now (store.dueReminders (chrono.toRfc3339 now)) where
  mem_iff job := by
    rw [mem_dueReminders, dueJob_eq_some]
    constructor
    · intro due
      obtain ⟨stored, ⟨waits, come⟩, _, found, scheduled⟩ := due
      obtain ⟨time, inYears, text⟩ := inYears job.reminder stored
      have come := (prints.toRfc3339_le inYears notAfter).mp (text ▸ come)
      exact ⟨stored, waits, ⟨time, ⟨inYears, text⟩, come⟩, found, scheduled⟩
    · intro due
      obtain ⟨stored, waits, ⟨time, ⟨inYears, text⟩, come⟩, found, scheduled⟩ := due
      have come := (prints.toRfc3339_le inYears notAfter).mpr come
      exact ⟨stored, ⟨waits, text ▸ come⟩, rfl, found, scheduled⟩
  once := nodup_dueReminders unique
  ordered := by
    refine (pairwise_dueReminders store _).imp_of_mem fun firstDue secondDue before => ?_
    obtain ⟨time, firstAt⟩ := inYears _ (mem_dueReminders.mp firstDue).1
    obtain ⟨later, secondAt⟩ := inYears _ (mem_dueReminders.mp secondDue).1
    exact prints.inTime firstAt secondAt before

end MeetingStore

-----------------------------------------------------------------------------------------
-- Runs
-----------------------------------------------------------------------------------------

/-- The answers of the dispatcher are the status of what was delivered, and the other reminders
are unchanged.
-/
structure DispatchedReminders.Settles (worker : MeetingReminderWorker) (store : MeetingStore)
    (dispatched : DispatchedReminders) : Prop where
  answered : ∀ before attempt, before ++ [attempt] <+: dispatched.attempts →
    attempt.outcome = worker.dispatcher before attempt.delivery
  attempted : ∀ attempt ∈ dispatched.attempts, ∃ reminder ∈ store.reminders,
    reminder.id = attempt.reminderId
      ∧ { reminder with status := deliveredStatus attempt.outcome } ∈ dispatched.store.reminders
  others : ∀ reminder ∈ store.reminders,
    reminder.id ∉ dispatched.attempts.map ReminderAttempt.reminderId →
      reminder ∈ dispatched.store.reminders

/-- Some number of runs succeed, count what they deliver, and deliver the first of the jobs. -/
structure MeetingReminderWorker.Delivers (worker : MeetingReminderWorker) (store : MeetingStore)
    (jobs : List MeetingReminderJob) (count : Nat) (summaries : List ReminderRunSummary)
    (last : DispatchedReminders) : Prop where
  counted : ∀ summary ∈ summaries,
    summary.sent + summary.failed = summary.scanned ∧ summary.scanned ≤ worker.batchSize
  delivered : last.attempts.map (·.delivery)
    = (jobs.take (count * worker.batchSize)).map deliveryFromJob
  settles : last.Settles worker store

/-- Runs at one time deliver the jobs in their order, one batch after the other, and find
nothing more once all are delivered.
-/
def MeetingReminderWorker.Drains {Instant : Type} (chrono : Chrono Instant)
    (worker : MeetingReminderWorker) (now : Instant) (store : MeetingStore)
    (jobs : List MeetingReminderJob) : Prop :=
  ∀ count, ∃ (summaries : List ReminderRunSummary) (last : DispatchedReminders),
    worker.runTimes chrono now count ⟨store, []⟩ = (summaries.map .ok, last)
      ∧ worker.Delivers store jobs count summaries last
      ∧ (jobs.length ≤ count * worker.batchSize →
        (worker.runOnceAt chrono now).exec last = (.ok ⟨0, 0, 0⟩, last))

namespace DispatchedReminders

variable {worker : MeetingReminderWorker} {store : MeetingStore}

/-- Drained reminders have the status of their one attempt. -/
theorem Drained.settles {now : String} {count : Nat} {dispatched : DispatchedReminders}
    (drained : dispatched.Drained worker store now count)
    (unique : (store.reminders.map (·.id)).Nodup)
    : dispatched.Settles worker store := by
  have ids : dispatched.attempts.map ReminderAttempt.reminderId
      = ((store.dueReminders now).take count).map (·.reminder.id) := by
    have deliveries := congrArg (List.map (·.reminderId)) drained.delivered
    rwa [List.map_map, List.map_map] at deliveries
  have once : (dispatched.attempts.map ReminderAttempt.reminderId).Nodup := by
    rw [ids, List.map_take]
    exact (MeetingStore.nodup_dueReminders unique).sublist (List.take_sublist ..)
  refine ⟨drained.answered, fun attempt listed => ?_, fun reminder stored others => ?_⟩
  · have known : attempt.reminderId ∈ ((store.dueReminders now).take count).map (·.reminder.id) :=
      ids ▸ List.mem_map_of_mem listed
    obtain ⟨job, taken, same⟩ := List.mem_map.mp known
    have stored := (MeetingStore.mem_dueReminders.mp (List.mem_of_mem_take taken)).1
    refine ⟨job.reminder, stored, same, drained.reminders.mem_iff.mpr ?_⟩
    rw [← ReminderAttempt.settleAll_of_mem once listed same]
    exact List.mem_map_of_mem stored
  · refine drained.reminders.mem_iff.mpr ?_
    rw [← ReminderAttempt.settleAll_of_notMem others]
    exact List.mem_map_of_mem stored

/-- Where all due reminders are delivered, a run finds none. -/
theorem Drained.runOnceAt_of_length_le {Instant : Type} {chrono : Chrono Instant} {now : Instant}
    {count : Nat} {dispatched : DispatchedReminders}
    (drained : dispatched.Drained worker store (chrono.toRfc3339 now) count)
    (all : (store.dueReminders (chrono.toRfc3339 now)).length ≤ count)
    : (worker.runOnceAt chrono now).exec dispatched = (.ok ⟨0, 0, 0⟩, dispatched) := by
  have none := drained.due
  rw [List.drop_eq_nil_of_le all] at none
  rw [MeetingReminderWorker.runOnceAt, Eff.exec_get_bind,
    MeetingStore.listDueReminders_eq_take worker.batchSize_pos, none, List.take_nil]
  rfl

end DispatchedReminders

/-- A worker drains the due reminders of its store. -/
theorem MeetingReminderWorker.drains_dueReminders {Instant : Type} (chrono : Chrono Instant)
    (worker : MeetingReminderWorker) (now : Instant) {store : MeetingStore}
    (unique : (store.reminders.map (·.id)).Nodup)
    : worker.Drains chrono now store (store.dueReminders (chrono.toRfc3339 now)) := by
  intro count
  obtain ⟨summaries, last, ran, counted, drained⟩ :=
    DispatchedReminders.Drained.runTimes unique count
  exact ⟨summaries, last, ran, ⟨counted, drained.delivered, drained.settles unique⟩,
    drained.runOnceAt_of_length_le⟩

/-- On the store of any requests and workers, up to the year 9999, repeated runs of one worker
deliver exactly the reminders whose time has come, once and in order.
-/
theorem MeetingRequests.drains_dueInTime {chrono : Chrono DateTime}
    (prints : chrono.PrintsInYears) {actions : List (Nat × MeetingMove DateTime)}
    {requests : MeetingRequests} (draws : Allowed (step chrono) DrawsDistinct start actions)
    (ran : run (step chrono) start actions = some requests)
    (inYears : requests.shared.store.RemindersInYears chrono) (worker : MeetingReminderWorker)
    {now : DateTime} (notAfter : now.minutes < DateTime.yearTenThousand)
    : ∃ jobs, requests.shared.store.DueInTime chrono now jobs
        ∧ worker.Drains chrono now requests.shared.store jobs := by
  have unique := (distinctReminders_of_drawsDistinct draws ran).unique
  exact ⟨_, MeetingStore.dueInTime_dueReminders prints unique inYears notAfter,
    worker.drains_dueReminders chrono now unique⟩

-----------------------------------------------------------------------------------------
-- Two reminders of one meeting
-----------------------------------------------------------------------------------------

namespace Retro

/-- Minutes of a day from nine o'clock on. -/
def moment (minutes : Int) : DateTime := ⟨29704860 + minutes, 0, by decide⟩

/-- The first minute of the year 10000. -/
def late : DateTime := ⟨DateTime.yearTenThousand, 0, by decide⟩

def times : List (String × DateTime) :=
  [("2026-06-24T09:00:00Z", moment 0), ("2026-06-24T09:30:00Z", moment 30)]

/-- A clock that reads these times, and prints all up to the start of the year 10000. -/
def clock : Chrono DateTime where
  parseFromRfc3339 text := (times.find? fun time => time.1 = text).map fun time => time.2
  toRfc3339 time :=
    if time.InYears then time.secondsText
    else if time.minutes < DateTime.yearZero then "-0001-12-31T23:59:59Z"
    else "+10000-01-01T00:00:00Z"
  minusMinutes time offset := { time with minutes := time.minutes - offset }
  isBefore first second := first < second

theorem prints : clock.PrintsInYears where
  inYears time inYears := if_pos inYears
  before time before := by
    have notInYears : ¬ time.InYears := fun inYears => absurd inYears.1 (Int.not_le.mpr before)
    simp only [clock, if_neg notInYears, if_pos before]
    exact ⟨_, rfl⟩

def meetingId : Uuid := .ofNat 75

/-- A meeting at nine, with reminders a quarter of an hour and ten minutes before. -/
def input : NewMeeting where
  organizationId := .ofNat 10
  spaceId := none
  channelId := none
  createdByUserId := .ofNat 1
  title := "Retro"
  description := none
  startsAt := "2026-06-24T09:00:00Z"
  endsAt := "2026-06-24T09:30:00Z"
  timezone := none
  attendees := []
  reminders := [(.ofNat 76, ⟨some (.ofNat 1), none, "in_app", 15⟩),
    (.ofNat 77, ⟨some (.ofNat 2), none, "in_app", 10⟩)]

def planned : List (Nat × MeetingMove DateTime) := [(0, .create meetingId input)]

/-- A worker that takes one reminder at a time, whose first delivery fails. -/
def worker : MeetingReminderWorker :=
  (MeetingReminderWorker.new fun attempts _ =>
    if attempts.isEmpty then .error ⟨"offline"⟩ else .ok ()).withBatchSize 1

end Retro

open Retro in
theorem MeetingRequests.planned_inYears
    : ∃ requests, run (step clock) start planned = some requests
        ∧ Allowed (step clock) DrawsDistinct start planned
        ∧ requests.shared.store.RemindersInYears clock
        ∧ ∃ reminder ∈ requests.shared.store.reminders, reminder.status = "pending"
          ∧ reminder.scheduledFor = clock.toRfc3339 (moment (-15))
          ∧ ∃ meeting ∈ requests.shared.store.meetingsById.lookup reminder.meetingId,
            meeting.status = "scheduled" := by
  have facts : (run (step clock) start planned).any fun requests =>
      (∀ reminder ∈ requests.shared.store.reminders,
        ∃ time ∈ [moment (-15), moment (-10)], time.InYears
          ∧ reminder.scheduledFor = clock.toRfc3339 time)
      ∧ ∃ reminder ∈ requests.shared.store.reminders, reminder.status = "pending"
        ∧ reminder.scheduledFor = clock.toRfc3339 (moment (-15))
        ∧ ∃ meeting ∈ requests.shared.store.meetingsById.lookup reminder.meetingId,
          meeting.status = "scheduled" := by
    decide +kernel
  obtain ⟨requests, ran, facts⟩ := (Option.any_eq_true _ _).mp facts
  obtain ⟨inYears, waits⟩ := of_decide_eq_true facts
  refine ⟨requests, ran, by decide +kernel, fun reminder stored => ?_, waits⟩
  obtain ⟨time, _, scheduled⟩ := inYears reminder stored
  exact ⟨time, scheduled⟩

open Retro in
theorem MeetingRequests.planned_drains
    : ∃ requests, run (step clock) start planned = some requests
        ∧ (∃ reminder ∈ requests.shared.store.reminders, reminder.status = "pending")
        ∧ ∃ jobs, requests.shared.store.DueInTime clock (moment (-5)) jobs
          ∧ worker.Drains clock (moment (-5)) requests.shared.store jobs := by
  obtain ⟨requests, ran, draws, inYears, reminder, stored, waits, _⟩ := planned_inYears
  exact ⟨requests, ran, ⟨reminder, stored, waits⟩,
    drains_dueInTime prints draws ran inYears worker (by decide +kernel)⟩

open Retro in
/-- Once the year 10000 has come, nothing is due by its text. -/
theorem MeetingStore.dueReminders_late {store : MeetingStore}
    (inYears : store.RemindersInYears clock)
    : store.dueReminders (clock.toRfc3339 late) = [] := by
  have printed : (clock.toRfc3339 late).toList = '+' :: "10000-01-01T00:00:00Z".toList := by
    decide +kernel
  refine List.eq_nil_iff_forall_not_mem.mpr fun job listed => ?_
  obtain ⟨stored, due⟩ := mem_dueReminders.mp listed
  obtain ⟨time, inYears, scheduled⟩ := inYears job.reminder stored
  have come := (dueJob_eq_some.mp due).1.2
  rw [scheduled, prints.inYears time inYears] at come
  exact absurd (inYears.sign_lt (.inl rfl) printed) (String.not_lt.mpr come)

open Retro in
/-- In the year 10000, however often a worker runs, it does not deliver a pending reminder of
the year 2026.
-/
theorem MeetingRequests.late_notDelivered
    : ∃ requests, run (step clock) start planned = some requests
        ∧ Allowed (step clock) DrawsDistinct start planned
        ∧ requests.shared.store.RemindersInYears clock
        ∧ (∃ reminder ∈ requests.shared.store.reminders, reminder.status = "pending"
          ∧ reminder.ScheduledBy clock late
          ∧ ∃ meeting ∈ requests.shared.store.meetingsById.lookup reminder.meetingId,
            meeting.status = "scheduled")
        ∧ ∀ count,
          (worker.runTimes clock late count ⟨requests.shared.store, []⟩).2.attempts = [] := by
  obtain ⟨requests, ran, draws, inYears, reminder, stored, waits, time, scheduled⟩ :=
    planned_inYears
  have come : (moment (-15)).InYears ∧ (moment (-15)).wholeSecond ≤ late := by decide +kernel
  refine ⟨requests, ran, draws, inYears, ⟨reminder, stored, waits, ?_, scheduled⟩, ?_⟩
  · exact ⟨moment (-15), ⟨come.1, time⟩, come.2⟩
  · intro count
    have unique := (distinctReminders_of_drawsDistinct draws ran).unique
    obtain ⟨summaries, last, runs, delivers, _⟩ :=
      worker.drains_dueReminders clock late unique count
    have none := delivers.delivered
    rw [MeetingStore.dueReminders_late inYears, List.take_nil, List.map_nil,
      List.map_eq_nil_iff] at none
    rw [runs]
    exact none

end OpenCord.Meetings

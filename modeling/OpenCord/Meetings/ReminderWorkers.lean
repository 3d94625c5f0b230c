import OpenCord.Library.Interleaving
import OpenCord.Meetings.Meeting

/-! Reminder workers over one meeting store. A worker lists the due reminders, delivers them
one by one, and marks each after its delivery; other workers may do the same in between.
-/

namespace OpenCord.Meetings

open OpenCord.Library OpenCord.Platform

structure MeetingReminderDelivery where
  reminderId : Uuid
  meetingId : Uuid
  meetingTitle : String
  meetingStartsAt : String
  joinSlug : String
  channel : String
  recipientUserId : Option Uuid
  recipientEmail : Option String
  scheduledFor : String
  deriving DecidableEq

structure ReminderRunSummary where
  scanned : Nat
  sent : Nat
  failed : Nat
  deriving DecidableEq

structure ReminderDeliveryError where
  message : String
  deriving DecidableEq

def deliveryFromJob (job : MeetingReminderJob) : MeetingReminderDelivery where
  reminderId := job.reminder.id
  meetingId := job.meeting.id
  meetingTitle := job.meeting.title
  meetingStartsAt := job.meeting.startsAt
  joinSlug := job.meeting.joinSlug
  channel := job.reminder.channel
  recipientUserId := job.reminder.recipientUserId
  recipientEmail := job.reminder.recipientEmail
  scheduledFor := job.reminder.scheduledFor

/-- Where a worker stands in a run over the reminders that are due at `now`. -/
inductive WorkerTask where
  | idle
  | delivering (now : String) (jobs : List MeetingReminderJob) (summary : ReminderRunSummary)
  | marking (now : String) (reminderId : Uuid) (outcome : Except ReminderDeliveryError Unit)
      (jobs : List MeetingReminderJob) (summary : ReminderRunSummary)

namespace WorkerTask

/-- The reminders that a worker has listed and not delivered. -/
def jobs : WorkerTask → List MeetingReminderJob
  | .idle => []
  | .delivering _ jobs _ => jobs
  | .marking _ _ _ jobs _ => jobs

/-- The reminder that a worker has delivered and not marked. -/
def marks : WorkerTask → Option Uuid
  | .marking _ reminderId _ _ _ => some reminderId
  | _ => none

end WorkerTask

/-- The store, and the deliveries that the dispatcher was called with, the last one first. -/
structure DeliveryHistory where
  store : MeetingStore
  delivered : List MeetingReminderDelivery

namespace DeliveryHistory

def empty : DeliveryHistory := ⟨.empty, []⟩

def deliveredIds (history : DeliveryHistory) : List Uuid :=
  history.delivered.map (·.reminderId)

end DeliveryHistory

inductive WorkerMove where
  | create (bundle : MeetingBundle)
  | update (meeting : Meeting)
  | list (now : String) (batchSize : Nat)
  | deliver (outcome : Except ReminderDeliveryError Unit)
  | mark
  | finish

/-- The status of a reminder after a delivery, and the counts with it. -/
def markDelivered (now : String) (reminderId : Uuid) (summary : ReminderRunSummary)
    : Except ReminderDeliveryError Unit → Eff MeetingStore MeetingError ReminderRunSummary
  | .ok _ => do
      MeetingStore.markReminderSent reminderId now
      return { summary with sent := summary.sent + 1 }
  | .error error => do
      MeetingStore.markReminderFailed reminderId now error.message
      return { summary with failed := summary.failed + 1 }

/-- What a worker does next. A failed marking ends its run. -/
def WorkerTask.move (history : DeliveryHistory)
    : WorkerTask → WorkerMove → Option (DeliveryHistory × WorkerTask)
  | .idle, .create bundle =>
      if history.store.New bundle then
        let store := (MeetingStore.createMeeting bundle).after history.store
        some ({ history with store := store }, .idle)
      else
        none
  | .idle, .update meeting =>
      let store := (MeetingStore.updateMeeting meeting).after history.store
      some ({ history with store := store }, .idle)
  | .idle, .list now batchSize =>
      let jobs := history.store.listDueReminders now batchSize
      some (history, .delivering now jobs ⟨jobs.length, 0, 0⟩)
  | .delivering now (job :: jobs) summary, .deliver outcome =>
      some ({ history with delivered := deliveryFromJob job :: history.delivered },
        .marking now job.reminder.id outcome jobs summary)
  | .marking now reminderId outcome jobs summary, .mark =>
      match (markDelivered now reminderId summary outcome).exec history.store with
      | (.ok summary, store) =>
          some ({ history with store := store }, .delivering now jobs summary)
      | (.error _, store) => some ({ history with store := store }, .idle)
  | .delivering _ [] _, .finish => some (history, .idle)
  | _, _ => none

/-- Workers and users of one meeting store. -/
abbrev ReminderWorkers := Tasks DeliveryHistory WorkerTask

namespace ReminderWorkers

def start : ReminderWorkers := ⟨.empty, fun _ => .idle⟩

def step : ReminderWorkers → Nat × WorkerMove → Option ReminderWorkers :=
  Tasks.step fun history task => task.move history

/-- No reminder is delivered twice. -/
def DeliveredOnce (workers : ReminderWorkers) : Prop :=
  workers.shared.deliveredIds.Nodup

/-- A reminder is delivered only while it is pending, and while no worker has delivered it
without having marked it.
-/
def DeliversUnclaimed (workers : ReminderWorkers) (action : Nat × WorkerMove) : Prop :=
  match workers.tasks action.1, action.2 with
  | .delivering _ (job :: _) _, .deliver _ =>
      workers.shared.store.Pending job.reminder.id
        ∧ ∀ index, (workers.tasks index).marks ≠ some job.reminder.id
  | _, _ => True

end ReminderWorkers

/-- A move reads, or changes the reminders or the deliveries in one way. -/
inductive Worked (history : DeliveryHistory)
    : WorkerTask → WorkerMove → DeliveryHistory → WorkerTask → Prop where
  | created (bundle : MeetingBundle) (store : MeetingStore) (new : history.store.New bundle)
      (adds : store.reminders = bundle.reminders ++ history.store.reminders)
      : Worked history .idle (.create bundle) { history with store := store } .idle
  | updated (meeting : Meeting) (store : MeetingStore)
      (same : store.reminders = history.store.reminders)
      : Worked history .idle (.update meeting) { history with store := store } .idle
  | listed (now : String) (batchSize : Nat) (jobs : List MeetingReminderJob)
      (summary : ReminderRunSummary)
      (pending : ∀ job ∈ jobs, history.store.Pending job.reminder.id)
      : Worked history .idle (.list now batchSize) history (.delivering now jobs summary)
  | delivered (now : String) (job : MeetingReminderJob)
      (outcome : Except ReminderDeliveryError Unit) (jobs : List MeetingReminderJob)
      (summary : ReminderRunSummary)
      : Worked history (.delivering now (job :: jobs) summary) (.deliver outcome)
          { history with delivered := deliveryFromJob job :: history.delivered }
          (.marking now job.reminder.id outcome jobs summary)
  | marked (now : String) (outcome : Except ReminderDeliveryError Unit)
      (jobs : List MeetingReminderJob) (summary counted : ReminderRunSummary)
      (store : MeetingStore) (reminder : MeetingReminder) (rest : List MeetingReminder)
      (status : String) (settled : status ≠ "pending")
      (before : history.store.reminders.Perm (reminder :: rest))
      (after : store.reminders.Perm ({ reminder with status := status } :: rest))
      : Worked history (.marking now reminder.id outcome jobs summary) .mark
          { history with store := store } (.delivering now jobs counted)
  | refused (now : String) (reminderId : Uuid) (outcome : Except ReminderDeliveryError Unit)
      (jobs : List MeetingReminderJob) (summary : ReminderRunSummary)
      (settled : ¬ history.store.Pending reminderId)
      : Worked history (.marking now reminderId outcome jobs summary) .mark history .idle
  | finished (now : String) (summary : ReminderRunSummary)
      : Worked history (.delivering now [] summary) .finish history .idle

/-- The status that a delivery leads to. -/
def deliveredStatus : Except ReminderDeliveryError Unit → String
  | .ok _ => "sent"
  | .error _ => "failed"

theorem deliveredStatus_ne_pending (outcome : Except ReminderDeliveryError Unit)
    : deliveredStatus outcome ≠ "pending" := by
  cases outcome <;> simp [deliveredStatus]

/-- The counts after one more delivery. -/
def ReminderRunSummary.count (summary : ReminderRunSummary)
    : Except ReminderDeliveryError Unit → ReminderRunSummary
  | .ok _ => { summary with sent := summary.sent + 1 }
  | .error _ => { summary with failed := summary.failed + 1 }

/-- Both markings change the status, and count the delivery when they succeed. -/
theorem markDelivered_eq_count (now : String) (reminderId : Uuid) (summary : ReminderRunSummary)
    (outcome : Except ReminderDeliveryError Unit)
    : markDelivered now reminderId summary outcome
        = do
            MeetingStore.updateReminderStatus reminderId (deliveredStatus outcome)
            return summary.count outcome := by
  cases outcome <;> rfl

theorem WorkerTask.move_worked {history next : DeliveryHistory} {task nextTask : WorkerTask}
    {move : WorkerMove} (moved : task.move history move = some (next, nextTask))
    : Worked history task move next nextTask := by
  rw [WorkerTask.move.eq_def] at moved
  split at moved
  · next bundle =>
      split at moved
      · next new =>
          cases moved
          exact .created bundle _ new (MeetingStore.reminders_createMeeting new.1)
      · cases moved
  · next meeting =>
      cases moved
      exact .updated meeting _ (MeetingStore.reminders_updateMeeting ..)
  · next now batchSize =>
      cases moved
      exact .listed now batchSize _ _ fun _ => MeetingStore.pending_of_mem_listDueReminders
  · next now job jobs summary outcome =>
      cases moved
      exact .delivered now job outcome jobs summary
  · next now reminderId outcome jobs summary =>
      rw [markDelivered_eq_count, Eff.exec_bind] at moved
      by_cases pending : history.store.Pending reminderId
      · obtain ⟨store, reminder, rest, marked, _, target, before, after⟩ :=
          MeetingStore.exec_updateReminderStatus_of_pending (deliveredStatus outcome) pending
        rw [marked] at moved
        cases moved
        rw [← target.1]
        exact .marked now outcome jobs summary _ store reminder rest _
          (deliveredStatus_ne_pending outcome) before after
      · rw [MeetingStore.exec_updateReminderStatus_of_not_pending _ pending] at moved
        cases moved
        exact .refused now reminderId outcome jobs summary pending
  · cases moved
    exact .finished _ _
  · cases moved

/-- Marking a reminder leaves the others pending. -/
theorem pending_marked {store next : MeetingStore} {reminder : MeetingReminder}
    {rest : List MeetingReminder} {status : String}
    (unique : (store.reminders.map (·.id)).Nodup) (settled : status ≠ "pending")
    (before : store.reminders.Perm (reminder :: rest))
    (after : next.reminders.Perm ({ reminder with status := status } :: rest))
    (reminderId : Uuid)
    : next.Pending reminderId ↔ reminderId ≠ reminder.id ∧ store.Pending reminderId := by
  rw [(before.map _).nodup_iff, List.map_cons, List.nodup_cons] at unique
  constructor
  · intro pending
    obtain ⟨other, stored, sameId, waits⟩ := pending
    rcases List.mem_cons.mp (after.mem_iff.mp stored) with same | mem
    · rw [same] at waits
      exact absurd waits settled
    · refine ⟨fun same => unique.1 ?_, other, ?_, sameId, waits⟩
      · rw [← same, ← sameId]
        exact List.mem_map_of_mem mem
      · exact before.mem_iff.mpr (List.mem_cons_of_mem _ mem)
  · intro pending
    obtain ⟨differs, other, stored, sameId, waits⟩ := pending
    rcases List.mem_cons.mp (before.mem_iff.mp stored) with same | mem
    · rw [← sameId, same] at differs
      exact absurd rfl differs
    · exact ⟨other, after.mem_iff.mpr (List.mem_cons_of_mem _ mem), sameId, waits⟩

/-- What a worker is about to mark was delivered; what it has listed was delivered or still
waits.
-/
structure DeliveryHistory.OfTask (history : DeliveryHistory) (task : WorkerTask) : Prop where
  marked : ∀ reminderId, task.marks = some reminderId → reminderId ∈ history.deliveredIds
  listed : ∀ job ∈ task.jobs,
    job.reminder.id ∈ history.deliveredIds ∨ history.store.Pending job.reminder.id

/-- A worker that is idle has nothing to mark and nothing listed. -/
theorem DeliveryHistory.OfTask.idle (history : DeliveryHistory) : history.OfTask .idle := by
  constructor
  · intro reminderId marks
    cases marks
  · intro job listed
    cases listed

theorem DeliveryHistory.OfTask.mono {history later : DeliveryHistory} {task : WorkerTask}
    (ofTask : history.OfTask task) (grows : history.deliveredIds ⊆ later.deliveredIds)
    (waits : ∀ reminderId, history.store.Pending reminderId →
      reminderId ∈ later.deliveredIds ∨ later.store.Pending reminderId)
    : later.OfTask task := by
  refine ⟨fun reminderId marks => grows (ofTask.marked reminderId marks), fun job mem => ?_⟩
  rcases ofTask.listed job mem with delivered | pending
  · exact .inl (grows delivered)
  · exact waits job.reminder.id pending

namespace ReminderWorkers

/-- Reminders are told apart by their identifiers; one that was delivered is settled or about
to be marked, and one that is listed was pending at that time.
-/
structure Invariant (workers : ReminderWorkers) : Prop where
  unique : (workers.shared.store.reminders.map (·.id)).Nodup
  known : workers.shared.deliveredIds ⊆ workers.shared.store.reminders.map (·.id)
  claimed : ∀ reminderId ∈ workers.shared.deliveredIds,
    workers.shared.store.Pending reminderId →
      ∃ index, (workers.tasks index).marks = some reminderId
  ofTask : ∀ index, workers.shared.OfTask (workers.tasks index)

theorem Invariant.start : ReminderWorkers.start.Invariant :=
  ⟨List.nodup_nil, nofun, nofun, fun _ => .idle _⟩

/-- New reminders keep the invariant; what waits and was delivered was there before. -/
theorem Invariant.grows {workers : ReminderWorkers} (invariant : workers.Invariant)
    {index : Nat} {store : MeetingStore} {added : List MeetingReminder}
    (moving : workers.tasks index = .idle)
    (unique : ((added ++ workers.shared.store.reminders).map (·.id)).Nodup)
    (adds : store.reminders = added ++ workers.shared.store.reminders)
    : Invariant (workers.withTask index { workers.shared with store := store } .idle) := by
  have old : ∀ reminderId ∈ workers.shared.deliveredIds,
      store.Pending reminderId → workers.shared.store.Pending reminderId := by
    intro reminderId delivered pending
    obtain ⟨reminder, stored, sameId, waits⟩ := pending
    rw [adds] at stored
    rcases List.mem_append.mp stored with new | old
    · rw [List.map_append] at unique
      have apart := List.disjoint_of_nodup_append unique
      exact absurd (sameId ▸ invariant.known delivered) (apart (List.mem_map_of_mem new))
    · exact ⟨reminder, old, sameId, waits⟩
  refine ⟨?_, ?_, ?_, ?_⟩
  · exact adds ▸ unique
  · intro reminderId delivered
    have known := invariant.known delivered
    show reminderId ∈ store.reminders.map (·.id)
    rw [adds, List.map_append]
    exact List.mem_append_right _ known
  · intro reminderId delivered pending
    apply Tasks.exists_withTask fun task : WorkerTask => task.marks = some reminderId
    · exact invariant.claimed reminderId delivered (old reminderId delivered pending)
    · rw [moving]
      nofun
  · apply Tasks.forall_withTask
    · exact .idle _
    · intro other
      refine (invariant.ofTask other).mono (List.Subset.refl _) fun reminderId pending => ?_
      obtain ⟨reminder, stored, waits⟩ := pending
      exact .inr ⟨reminder, adds ▸ List.mem_append_right _ stored, waits⟩

/-- Where the deliveries and the pending reminders stay, the moving worker claims nothing more
and lists nothing new.
-/
theorem Invariant.moves {workers : ReminderWorkers} (invariant : workers.Invariant)
    {index : Nat} {task : WorkerTask} (ofTask : workers.shared.OfTask task)
    (moving : ∀ reminderId, workers.shared.store.Pending reminderId →
      (workers.tasks index).marks ≠ some reminderId)
    : Invariant (workers.withTask index workers.shared task) := by
  refine ⟨invariant.unique, invariant.known, fun reminderId delivered pending => ?_, ?_⟩
  · apply Tasks.exists_withTask fun task : WorkerTask => task.marks = some reminderId
    · exact invariant.claimed reminderId delivered pending
    · exact moving reminderId pending
  · exact Tasks.forall_withTask _ ofTask invariant.ofTask

/-- A delivery is claimed by its worker. -/
theorem Invariant.delivers {workers : ReminderWorkers} (invariant : workers.Invariant)
    {index : Nat} {now : String} {job : MeetingReminderJob} {jobs : List MeetingReminderJob}
    {summary : ReminderRunSummary} (outcome : Except ReminderDeliveryError Unit)
    (moving : workers.tasks index = .delivering now (job :: jobs) summary)
    : Invariant (workers.withTask index
        { workers.shared with delivered := deliveryFromJob job :: workers.shared.delivered }
        (.marking now job.reminder.id outcome jobs summary)) := by
  have own := moving ▸ invariant.ofTask index
  refine ⟨invariant.unique, ?_, ?_, ?_⟩
  · apply List.cons_subset.mpr
    refine ⟨?_, invariant.known⟩
    rcases own.listed job List.mem_cons_self with delivered | pending
    · exact invariant.known delivered
    · obtain ⟨reminder, stored, sameId, _⟩ := pending
      exact List.mem_map.mpr ⟨reminder, stored, sameId⟩
  · intro reminderId delivered pending
    by_cases claimed : reminderId = job.reminder.id
    · exact ⟨index, by rw [Tasks.tasks_withTask_self, claimed]; rfl⟩
    · apply Tasks.exists_withTask fun task : WorkerTask => task.marks = some reminderId
      · rcases List.mem_cons.mp delivered with same | earlier
        · exact absurd same claimed
        · exact invariant.claimed reminderId earlier pending
      · rw [moving]
        nofun
  · apply Tasks.forall_withTask
    · refine ⟨fun reminderId marks => ?_, fun other mem => ?_⟩
      · cases marks
        exact List.mem_cons_self
      · exact (own.listed other (List.mem_cons_of_mem _ mem)).imp_left (List.mem_cons_of_mem _)
    · intro other
      exact (invariant.ofTask other).mono (List.subset_cons_self ..) fun _ => .inr

/-- A reminder that is marked is not pending, so nobody needs to claim it. -/
theorem Invariant.marks {workers : ReminderWorkers} (invariant : workers.Invariant)
    {index : Nat} {now : String} {outcome : Except ReminderDeliveryError Unit}
    {jobs : List MeetingReminderJob} {summary : ReminderRunSummary} {store : MeetingStore}
    {reminder : MeetingReminder} {rest : List MeetingReminder} {status : String}
    (counted : ReminderRunSummary)
    (moving : workers.tasks index = .marking now reminder.id outcome jobs summary)
    (settled : status ≠ "pending")
    (before : workers.shared.store.reminders.Perm (reminder :: rest))
    (after : store.reminders.Perm ({ reminder with status := status } :: rest))
    : Invariant (workers.withTask index { workers.shared with store := store }
        (.delivering now jobs counted)) := by
  have own := moving ▸ invariant.ofTask index
  have sameIds : (workers.shared.store.reminders.map (·.id)).Perm
      (store.reminders.map (·.id)) :=
    (before.map (·.id)).trans (after.map (·.id)).symm
  have waits := pending_marked invariant.unique settled before after
  have kept : ∀ reminderId, workers.shared.store.Pending reminderId →
      reminderId ∈ workers.shared.deliveredIds ∨ store.Pending reminderId := by
    intro reminderId pending
    by_cases same : reminderId = reminder.id
    · exact .inl (same ▸ own.marked reminder.id rfl)
    · exact .inr ((waits reminderId).mpr ⟨same, pending⟩)
  refine ⟨?_, ?_, ?_, ?_⟩
  · exact sameIds.nodup_iff.mp invariant.unique
  · exact List.Subset.trans invariant.known sameIds.subset
  · intro reminderId delivered pending
    obtain ⟨differs, pending⟩ := (waits reminderId).mp pending
    apply Tasks.exists_withTask fun task : WorkerTask => task.marks = some reminderId
    · exact invariant.claimed reminderId delivered pending
    · rw [moving]
      intro same
      exact differs (Option.some.inj same).symm
  · apply Tasks.forall_withTask
    · have delivering : workers.shared.OfTask (.delivering now jobs counted) :=
        ⟨nofun, own.listed⟩
      exact delivering.mono (List.Subset.refl _) kept
    · intro other
      exact (invariant.ofTask other).mono (List.Subset.refl _) kept

theorem Invariant.step {workers next : ReminderWorkers} {action : Nat × WorkerMove}
    (invariant : workers.Invariant) (stepped : workers.step action = some next)
    : next.Invariant := by
  obtain ⟨index, move⟩ := action
  obtain ⟨history, task, moved, rfl⟩ := Tasks.step_eq_some.mp stepped
  have worked := WorkerTask.move_worked moved
  have own := invariant.ofTask index
  generalize moving : workers.tasks index = old at worked own
  cases worked with
  | created bundle store new adds => exact invariant.grows moving new.2.1 adds
  | updated meeting store same =>
      have unique := invariant.unique
      rw [← List.nil_append workers.shared.store.reminders] at unique same
      exact invariant.grows moving unique same
  | listed now batchSize jobs summary pending =>
      apply invariant.moves
      · exact ⟨nofun, fun job mem => .inr (pending job mem)⟩
      · rw [moving]
        nofun
  | delivered now job outcome jobs summary => exact invariant.delivers outcome moving
  | marked now outcome jobs summary counted store reminder rest status settled before after =>
      exact invariant.marks counted moving settled before after
  | refused now reminderId outcome jobs summary settled =>
      apply invariant.moves
      · exact .idle _
      · intro other pending same
        rw [moving] at same
        cases same
        exact settled pending
  | finished now summary =>
      apply invariant.moves
      · exact .idle _
      · rw [moving]
        nofun

/-- A step delivers no reminder again exactly when the reminder it delivers is unclaimed. -/
theorem deliveredOnce_step {workers next : ReminderWorkers} {action : Nat × WorkerMove}
    (invariant : workers.Invariant) (once : workers.DeliveredOnce)
    (stepped : workers.step action = some next)
    : next.DeliveredOnce ↔ workers.DeliversUnclaimed action := by
  obtain ⟨index, move⟩ := action
  obtain ⟨history, task, moved, rfl⟩ := Tasks.step_eq_some.mp stepped
  have worked := WorkerTask.move_worked moved
  have own := invariant.ofTask index
  rw [DeliversUnclaimed]
  generalize workers.tasks index = old at worked own
  cases worked with
  | delivered now job outcome jobs summary =>
      have again : (job.reminder.id :: workers.shared.deliveredIds).Nodup
          ↔ job.reminder.id ∉ workers.shared.deliveredIds :=
        List.nodup_cons.trans (and_iff_left once)
      refine again.trans ⟨fun new => ⟨?_, ?_⟩, fun unclaimed delivered => ?_⟩
      · exact (own.listed job List.mem_cons_self).resolve_left new
      · intro other claimed
        exact new ((invariant.ofTask other).marked _ claimed)
      · obtain ⟨other, claimed⟩ := invariant.claimed _ delivered unclaimed.1
        exact unclaimed.2 other claimed
  | created => exact iff_of_true once trivial
  | updated => exact iff_of_true once trivial
  | listed => exact iff_of_true once trivial
  | marked => exact iff_of_true once trivial
  | refused => exact iff_of_true once trivial
  | finished => exact iff_of_true once trivial

/-- Along a run of any workers, no reminder is delivered twice exactly when every delivery is
of a reminder that is pending and that no worker is about to mark.
-/
theorem deliveredOnce_iff_deliversUnclaimed {actions : List (Nat × WorkerMove)}
    {last : ReminderWorkers} (ran : run step start actions = some last)
    : Always step DeliveredOnce start actions
      ↔ Allowed step DeliversUnclaimed start actions := by
  refine @always_iff_allowed _ _ step DeliversUnclaimed Invariant DeliveredOnce ?_ ?_ _ _ _
    Invariant.start List.nodup_nil ran
  · intro workers action next invariant _ stepped _
    exact invariant.step stepped
  · intro workers action next invariant once stepped
    exact deliveredOnce_step invariant once stepped

end ReminderWorkers

namespace Standup

def reminderId : Uuid := .ofNat 71

/-- A meeting with one reminder, as it is created. -/
def bundle : MeetingBundle where
  meeting := ⟨.ofNat 70, .ofNat 10, none, none, .ofNat 1, "Standup", none, "scheduled",
    "2026-06-24T09:00:00Z", "2026-06-24T09:30:00Z", "UTC", "mtg-70", none⟩
  attendees := []
  reminders := [⟨reminderId, .ofNat 70, some (.ofNat 1), none, "in_app", 15,
    "2026-06-24T08:45:00Z", "pending"⟩]

def now : String := "2026-06-24T08:50:00Z"

/-- One worker after the other runs at the same time of day. -/
def oneByOne : List (Nat × WorkerMove) :=
  [(0, .create bundle), (0, .list now 100), (0, .deliver (.ok ())), (0, .mark), (0, .finish),
    (1, .list now 100), (1, .finish)]

/-- Both workers list the reminder before one of them marks it. -/
def sideBySide : List (Nat × WorkerMove) :=
  [(0, .create bundle), (0, .list now 100), (1, .list now 100), (0, .deliver (.ok ())),
    (0, .mark), (1, .deliver (.ok ()))]

end Standup

namespace ReminderWorkers

/-- The first `count` workers, and no others, take part in a run. -/
def DeliversAmong (count : Nat) (workers : ReminderWorkers) (action : Nat × WorkerMove) : Prop :=
  action.1 < count
    ∧ match workers.tasks action.1, action.2 with
      | .delivering _ (job :: _) _, .deliver _ =>
          workers.shared.store.Pending job.reminder.id
            ∧ ∀ index < count, (workers.tasks index).marks ≠ some job.reminder.id
      | _, _ => True

instance (count : Nat) (workers : ReminderWorkers) (action : Nat × WorkerMove)
    : Decidable (workers.DeliversAmong count action) := by
  unfold DeliversAmong
  refine @instDecidableAnd _ _ inferInstance ?_
  split <;> infer_instance

theorem allowed_of_deliversAmong {count : Nat} {actions : List (Nat × WorkerMove)}
    (allowed : Allowed step (DeliversAmong count) start actions)
    : Allowed step DeliversUnclaimed start actions := by
  refine @Allowed.weaken _ _ step (DeliversAmong count) DeliversUnclaimed
    (Tasks.QuietFrom count .idle) ?_ ?_ _ _ (fun _ _ => rfl) allowed
  · intro workers action next quiet among stepped
    exact quiet.step among.1 stepped
  · intro workers action quiet among
    obtain ⟨_, delivers⟩ := among
    rw [DeliversUnclaimed]
    split
    · next now job jobs summary outcome holds delivery =>
        rw [holds, delivery] at delivers
        refine ⟨delivers.1, ?_⟩
        exact quiet.forall_tasks (fun task => task.marks ≠ some job.reminder.id) nofun delivers.2
    · trivial

theorem oneByOne_deliveredOnce
    : ∃ last, run step start Standup.oneByOne = some last
        ∧ Standup.reminderId ∈ last.shared.deliveredIds
        ∧ Always step DeliveredOnce start Standup.oneByOne := by
  have allowed : Allowed step (DeliversAmong 2) start Standup.oneByOne := by decide +kernel
  have facts : (run step start Standup.oneByOne).any fun last =>
      Standup.reminderId ∈ last.shared.deliveredIds := by
    decide +kernel
  obtain ⟨last, ran, facts⟩ := (Option.any_eq_true _ _).mp facts
  refine ⟨last, ran, of_decide_eq_true facts, ?_⟩
  exact (deliveredOnce_iff_deliversUnclaimed ran).mpr (allowed_of_deliversAmong allowed)

/-- Each worker delivers the reminder that both have listed. -/
theorem sideBySide_deliversTwice
    : ∃ last, run step start Standup.sideBySide = some last
        ∧ last.shared.deliveredIds = [Standup.reminderId, Standup.reminderId]
        ∧ ¬ Always step DeliveredOnce start Standup.sideBySide := by
  have facts : (run step start Standup.sideBySide).any fun last =>
      last.shared.deliveredIds = [Standup.reminderId, Standup.reminderId] := by
    decide +kernel
  obtain ⟨last, ran, facts⟩ := (Option.any_eq_true _ _).mp facts
  have delivered := of_decide_eq_true facts
  refine ⟨last, ran, delivered, fun always => ?_⟩
  have once : last.shared.deliveredIds.Nodup := always.last ran
  rw [delivered] at once
  exact absurd once (by decide)

end ReminderWorkers

end OpenCord.Meetings

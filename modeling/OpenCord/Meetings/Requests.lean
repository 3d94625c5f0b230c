import OpenCord.Meetings.ReminderWorkers
import OpenCord.Meetings.Service

/-! Concurrent requests on meetings. A request reads a meeting and writes the whole record
back, patched or cancelled; reminder workers run in between.
-/

namespace OpenCord.Meetings

open OpenCord.Library OpenCord.Platform

/-- The store with the deliveries from it, and the meetings whose cancel has succeeded. -/
structure MeetingHistory where
  deliveries : DeliveryHistory
  cancelled : List Uuid

namespace MeetingHistory

def empty : MeetingHistory := ⟨.empty, []⟩

def store (history : MeetingHistory) : MeetingStore := history.deliveries.store

def withStore (history : MeetingHistory) (store : MeetingStore) : MeetingHistory :=
  { history with deliveries := { history.deliveries with store := store } }

@[simp] theorem store_withStore (history : MeetingHistory) (store : MeetingStore)
    : (history.withStore store).store = store :=
  rfl

@[simp] theorem cancelled_withStore (history : MeetingHistory) (store : MeetingStore)
    : (history.withStore store).cancelled = history.cancelled :=
  rfl

end MeetingHistory

/-- The meeting that a request has read, and where a worker run stands. -/
structure MeetingTask where
  inHand : Option MeetingBundle
  worker : WorkerTask

def MeetingTask.idle : MeetingTask := ⟨none, .idle⟩

/-- The moves of a worker run, from the list of the due reminders on. -/
def WorkerMove.OfWorker : WorkerMove → Bool
  | .create _ | .update _ => false
  | .list .. | .deliver _ | .mark | .finish => true

inductive MeetingMove (Instant : Type) where
  | create (meetingId : Uuid) (input : NewMeeting)
  | read (meetingId : Uuid)
  | update (patch : MeetingPatch)
  | cancel (now : Instant)
  | work (move : WorkerMove)

variable {Instant : Type}

/-- What a request or a worker does next; new meetings have new identifiers. -/
def MeetingTask.move (chrono : Chrono Instant) (history : MeetingHistory) (task : MeetingTask)
    : MeetingMove Instant → Option (MeetingHistory × MeetingTask)
  | .create meetingId input =>
      if meetingId ∈ history.store.meetingsById then
        none
      else
        let store := (MeetingService.create chrono meetingId input).after history.store
        some (history.withStore store, task)
  | .read meetingId =>
      match MeetingService.get history.store meetingId with
      | .ok bundle => some (history, { task with inHand := bundle })
      | .error _ => some (history, { task with inHand := none })
  | .update patch =>
      match task.inHand with
      | none => none
      | some bundle =>
          let store := (MeetingService.update chrono bundle patch).after history.store
          some (history.withStore store, { task with inHand := none })
  | .cancel now =>
      match task.inHand with
      | none => none
      | some bundle =>
          match (MeetingService.cancel chrono now bundle).exec history.store with
          | (.ok _, store) =>
              some ({ history.withStore store with
                cancelled := bundle.meeting.id :: history.cancelled },
                { task with inHand := none })
          | (.error _, store) => some (history.withStore store, { task with inHand := none })
  | .work move =>
      if move.OfWorker then
        (task.worker.move history.deliveries move).map fun next =>
          ({ history with deliveries := next.1 }, { task with worker := next.2 })
      else
        none

/-- Requests and workers over one meeting store. -/
abbrev MeetingRequests := Tasks MeetingHistory MeetingTask

namespace MeetingRequests

def start : MeetingRequests := ⟨.empty, fun _ => .idle⟩

def step (chrono : Chrono Instant)
    : MeetingRequests → Nat × MeetingMove Instant → Option MeetingRequests :=
  Tasks.step fun history task => task.move chrono history

end MeetingRequests

-----------------------------------------------------------------------------------------
-- What the moves write
-----------------------------------------------------------------------------------------

namespace MeetingStore

/-- The store with the record of a meeting written over the stored one. -/
def withMeeting (store : MeetingStore) (meeting : Meeting) : MeetingStore :=
  { store with meetingsById := store.meetingsById.insert meeting.id meeting }

@[simp] theorem reminders_withMeeting (store : MeetingStore) (meeting : Meeting)
    : (store.withMeeting meeting).reminders = store.reminders :=
  rfl

theorem lookup_withMeeting (store : MeetingStore) (meeting : Meeting) (meetingId : Uuid)
    : (store.withMeeting meeting).meetingsById.lookup meetingId
        = if meetingId = meeting.id then some meeting
          else store.meetingsById.lookup meetingId :=
  Table.lookup_insert_eq ..

/-- A record is written exactly where one is stored. -/
theorem updateMeeting_cases (store : MeetingStore) (meeting : Meeting)
    : (meeting.id ∈ store.meetingsById
          ∧ ∃ bundle, (updateMeeting meeting).exec store
            = (.ok bundle, store.withMeeting meeting))
        ∨ meeting.id ∉ store.meetingsById
          ∧ (updateMeeting meeting).exec store = (.error .notFound, store) := by
  rw [updateMeeting, Eff.exec_get_bind]
  split
  · next stored => exact .inl ⟨stored, _, rfl⟩
  · next missing => exact .inr ⟨missing, rfl⟩

/-- A new meeting brings no other reminders than its own. -/
theorem mem_reminders_createMeeting {store : MeetingStore} {bundle : MeetingBundle}
    {reminder : MeetingReminder}
    (listed : reminder ∈ ((createMeeting bundle).after store).reminders)
    : reminder ∈ bundle.reminders ∨ reminder ∈ store.reminders := by
  obtain ⟨reminders, stored, mem⟩ := List.mem_flatten.mp listed
  obtain ⟨meetingId, found⟩ := Table.mem_values.mp stored
  have found := (Table.lookup_insert_eq ..).symm.trans found
  split at found
  · cases found
    exact .inl mem
  · exact .inr (List.mem_flatten.mpr ⟨reminders, Table.mem_values.mpr ⟨_, found⟩, mem⟩)

end MeetingStore

namespace MeetingService

variable {chrono : Chrono Instant}

/-- A valid new meeting is stored with its reminders, and an invalid one is not. -/
theorem create_cases (meetingId : Uuid) (input : NewMeeting) (store : MeetingStore)
    : (create chrono meetingId input).after store = store
        ∨ ∃ bundle, newBundle chrono meetingId input = .ok bundle
          ∧ (create chrono meetingId input).after store
            = (MeetingStore.createMeeting bundle).after store := by
  rw [create, Eff.after, Eff.exec_check_bind]
  cases newBundle chrono meetingId input with
  | error error => exact .inl rfl
  | ok bundle => exact .inr ⟨bundle, rfl, rfl⟩

/-- A valid patch of a stored meeting is written, and nothing else is. -/
theorem update_cases (bundle : MeetingBundle) (patch : MeetingPatch) (store : MeetingStore)
    : ((∀ written, patched chrono bundle.meeting patch = .ok written →
          bundle.meeting.id ∉ store.meetingsById)
        ∧ (update chrono bundle patch).after store = store)
      ∨ ∃ written, patched chrono bundle.meeting patch = .ok written
        ∧ bundle.meeting.id ∈ store.meetingsById
        ∧ (update chrono bundle patch).after store = store.withMeeting written := by
  rw [update, Eff.after, Eff.exec_check_bind]
  cases valid : patched chrono bundle.meeting patch with
  | error error =>
      refine .inl ⟨fun written passed => ?_, rfl⟩
      cases passed
  | ok written =>
      obtain ⟨sameId, _⟩ := patched_eq_ok valid
      rcases store.updateMeeting_cases written with ⟨stored, answer, wrote⟩ | ⟨missing, failed⟩
      · exact .inr ⟨written, rfl, sameId ▸ stored, congrArg Prod.snd wrote⟩
      · exact .inl ⟨fun _ _ => sameId ▸ missing, congrArg Prod.snd failed⟩

end MeetingService

/-- A worker writes no meeting, and makes no reminder pending. -/
theorem WorkerTask.move_kept {history next : DeliveryHistory} {task nextTask : WorkerTask}
    {move : WorkerMove} (ofWorker : move.OfWorker)
    (moved : task.move history move = some (next, nextTask))
    : next.store.meetingsById = history.store.meetingsById
        ∧ ∀ reminder ∈ next.store.reminders, reminder.status = "pending" →
          reminder ∈ history.store.reminders := by
  rw [WorkerTask.move.eq_def] at moved
  split at moved
  · cases ofWorker
  · cases ofWorker
  · cases moved
    exact ⟨rfl, fun _ listed _ => listed⟩
  · cases moved
    exact ⟨rfl, fun _ listed _ => listed⟩
  · next now reminderId outcome jobs summary =>
      rw [markDelivered_eq_count, Eff.exec_bind] at moved
      by_cases pending : history.store.Pending reminderId
      · obtain ⟨store, reminder, rest, marked, meetings, _, before, after⟩ :=
          MeetingStore.exec_updateReminderStatus_of_pending (deliveredStatus outcome) pending
        rw [marked] at moved
        cases moved
        refine ⟨meetings, fun other listed waits => ?_⟩
        rcases List.mem_cons.mp (after.mem_iff.mp listed) with same | mem
        · rw [same] at waits
          exact absurd waits (deliveredStatus_ne_pending outcome)
        · exact before.mem_iff.mpr (List.mem_cons_of_mem _ mem)
      · rw [MeetingStore.exec_updateReminderStatus_of_not_pending _ pending] at moved
        cases moved
        exact ⟨rfl, fun _ listed _ => listed⟩
  · cases moved
    exact ⟨rfl, fun _ listed _ => listed⟩
  · cases moved

namespace MeetingStore

/-- Meetings lie under their own identifiers. -/
def Keyed (store : MeetingStore) : Prop :=
  Table.Keyed (fun meeting => meeting.id) store.meetingsById

end MeetingStore

/-- Meetings stay under their identifiers, whatever a request or a worker does. -/
theorem MeetingTask.move_keyed {chrono : Chrono Instant} {history next : MeetingHistory}
    {task nextTask : MeetingTask} {move : MeetingMove Instant} (keyed : history.store.Keyed)
    (moved : task.move chrono history move = some (next, nextTask))
    : next.store.Keyed := by
  cases move with
  | create meetingId input =>
      rw [MeetingTask.move] at moved
      split at moved
      · cases moved
      · cases moved
        rcases MeetingService.create_cases meetingId input history.store with same | created
        · rw [MeetingHistory.store_withStore, same]
          exact keyed
        · obtain ⟨bundle, _, created⟩ := created
          rw [MeetingHistory.store_withStore, created]
          exact Table.Keyed.insert keyed bundle.meeting
  | read meetingId =>
      rw [MeetingTask.move] at moved
      split at moved <;> cases moved <;> exact keyed
  | update patch =>
      rw [MeetingTask.move] at moved
      split at moved
      · cases moved
      · next bundle _ =>
          cases moved
          rcases MeetingService.update_cases bundle patch history.store with same | written
          · rw [MeetingHistory.store_withStore, same.2]
            exact keyed
          · obtain ⟨written, _, _, wrote⟩ := written
            rw [MeetingHistory.store_withStore, wrote]
            exact Table.Keyed.insert keyed written
  | cancel now =>
      rw [MeetingTask.move] at moved
      split at moved
      · cases moved
      · next bundle _ =>
          have cases := history.store.updateMeeting_cases
            (MeetingService.cancelled chrono now bundle.meeting)
          rw [MeetingService.cancel] at moved
          rcases cases with ⟨_, answer, wrote⟩ | ⟨_, failed⟩
          · rw [wrote] at moved
            cases moved
            exact Table.Keyed.insert keyed _
          · rw [failed] at moved
            cases moved
            exact keyed
  | work move =>
      rw [MeetingTask.move] at moved
      split at moved
      · next ofWorker =>
          obtain ⟨⟨deliveries, worker⟩, worked, same⟩ := Option.map_eq_some_iff.mp moved
          cases same
          have kept := (WorkerTask.move_kept ofWorker worked).1
          intro meetingId meeting found
          exact keyed meetingId meeting (kept ▸ found)
      · cases moved

/-- Meetings lie under their identifiers in every reachable state. -/
theorem MeetingRequests.keyed_of_reachable {chrono : Chrono Instant} {requests : MeetingRequests}
    (reachable : Reachable (MeetingRequests.step chrono) .start requests)
    : requests.shared.store.Keyed := by
  refine @Reachable.invariant _ _ _ (fun requests => requests.shared.store.Keyed) _ _ reachable
    Table.forall_empty ?_
  rintro before ⟨index, move⟩ after keyed stepped
  obtain ⟨shared, task, moved, rfl⟩ := Tasks.step_eq_some.mp stepped
  exact MeetingTask.move_keyed keyed moved

-----------------------------------------------------------------------------------------
-- A morning of meetings
-----------------------------------------------------------------------------------------

namespace Offsite

/-- Some timestamps of one day, with the minutes of the day. -/
def times : List (String × Int) :=
  [("2026-06-24T08:00:00Z", 480), ("2026-06-24T08:45:00Z", 525),
    ("2026-06-24T09:00:00Z", 540), ("2026-06-24T09:30:00Z", 570),
    ("2026-06-24T09:45:00Z", 585), ("2026-06-24T10:00:00Z", 600),
    ("2026-06-24T10:30:00Z", 630)]

/-- A clock that knows these times. -/
def clock : Chrono Int where
  parseFromRfc3339 text := (times.find? fun time => time.1 = text).map fun time => time.2
  toRfc3339 minutes :=
    match times.find? fun time => time.2 = minutes with
    | some time => time.1
    | none => ""
  minusMinutes minutes offset := minutes - offset
  isBefore first second := first < second

/-- What the clock prints is one of its times. -/
theorem mem_of_toRfc3339 {minutes : Int} {text : String}
    (printed : clock.toRfc3339 minutes = text) (known : text ≠ "")
    : (text, minutes) ∈ times := by
  simp only [clock] at printed
  split at printed
  · next time found =>
      have same := List.find?_some found
      rw [← printed, ← of_decide_eq_true same]
      exact List.mem_of_find?_eq_some found
  · exact absurd printed.symm known

def meetingId : Uuid := .ofNat 75

/-- A meeting at nine with a reminder a quarter of an hour before. -/
def input : NewMeeting where
  organizationId := .ofNat 10
  spaceId := none
  channelId := none
  createdByUserId := .ofNat 1
  title := "Offsite"
  description := none
  startsAt := "2026-06-24T09:00:00Z"
  endsAt := "2026-06-24T09:30:00Z"
  timezone := none
  attendees := []
  reminders := [(.ofNat 76, ⟨some (.ofNat 1), none, "in_app", 15⟩)]

def create : Nat × MeetingMove Int := (0, .create meetingId input)

/-- A patch of the title. -/
def rename : MeetingPatch := ⟨some "Offsite at the lake", none, none, none, none⟩

/-- A patch that moves the meeting by an hour. -/
def postpone : MeetingPatch :=
  ⟨none, none, some "2026-06-24T10:00:00Z", some "2026-06-24T10:30:00Z", none⟩

end Offsite

end OpenCord.Meetings

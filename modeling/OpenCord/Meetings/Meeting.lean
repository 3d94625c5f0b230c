import Mathlib.Data.List.Sort
import OpenCord.Library.Effects
import OpenCord.Library.Tables
import OpenCord.Platform.Uuid

/-! Meetings with their attendees and reminders, and the in-memory store of them. -/

namespace OpenCord.Meetings

open OpenCord.Library OpenCord.Platform

inductive MeetingError where
  | invalidInput (message : String)
  | notFound
  | storeUnavailable
  deriving DecidableEq

structure Meeting where
  id : Uuid
  organizationId : Uuid
  spaceId : Option Uuid
  channelId : Option Uuid
  createdByUserId : Uuid
  title : String
  description : Option String
  status : String
  startsAt : String
  endsAt : String
  timezone : String
  joinSlug : String
  cancelledAt : Option String
  deriving DecidableEq

structure MeetingAttendee where
  id : Uuid
  meetingId : Uuid
  userId : Option Uuid
  email : Option String
  displayName : Option String
  role : String
  responseStatus : String
  deriving DecidableEq

structure MeetingReminder where
  id : Uuid
  meetingId : Uuid
  recipientUserId : Option Uuid
  recipientEmail : Option String
  channel : String
  offsetMinutes : Int
  scheduledFor : String
  status : String
  deriving DecidableEq

structure MeetingBundle where
  meeting : Meeting
  attendees : List MeetingAttendee
  reminders : List MeetingReminder
  deriving DecidableEq

structure MeetingReminderJob where
  meeting : Meeting
  reminder : MeetingReminder
  deriving DecidableEq

structure MeetingStore where
  meetingsById : Table Uuid Meeting
  attendeesByMeetingId : Table Uuid (List MeetingAttendee)
  remindersByMeetingId : Table Uuid (List MeetingReminder)

namespace MeetingStore

def empty : MeetingStore := ⟨∅, ∅, ∅⟩

/-- The reminders of all meetings. -/
def reminders (store : MeetingStore) : List MeetingReminder :=
  store.remindersByMeetingId.values.flatten

def createMeeting (bundle : MeetingBundle) : Eff MeetingStore MeetingError Unit :=
  Eff.writes fun store =>
    ⟨store.meetingsById.insert bundle.meeting.id bundle.meeting,
      store.attendeesByMeetingId.insert bundle.meeting.id bundle.attendees,
      store.remindersByMeetingId.insert bundle.meeting.id bundle.reminders⟩

def bundleForMeeting (store : MeetingStore) (meeting : Meeting) : MeetingBundle where
  meeting := meeting
  attendees := (store.attendeesByMeetingId.lookup meeting.id).getD []
  reminders := (store.remindersByMeetingId.lookup meeting.id).getD []

def getMeeting (store : MeetingStore) (meetingId : Uuid) : Option MeetingBundle :=
  (store.meetingsById.lookup meetingId).map store.bundleForMeeting

/-- The whole record is written back; the reminders stay as they are. -/
def updateMeeting (meeting : Meeting) : Eff MeetingStore MeetingError MeetingBundle := do
  let store ← get
  if meeting.id ∈ store.meetingsById then
    let store := { store with meetingsById := store.meetingsById.insert meeting.id meeting }
    set store
    return store.bundleForMeeting meeting
  else
    throw .notFound

/-- Due jobs by the time they are scheduled for, then by the identifier of the reminder. -/
def jobOrder (left right : MeetingReminderJob) : Prop :=
  left.reminder.scheduledFor < right.reminder.scheduledFor
    ∨ left.reminder.scheduledFor = right.reminder.scheduledFor
      ∧ left.reminder.id.bits ≤ right.reminder.id.bits

instance : DecidableRel jobOrder := fun left right => by
  unfold jobOrder
  infer_instance

/-- The job of a pending reminder whose time has come, while its meeting is scheduled. -/
def dueJob (store : MeetingStore) (dueAt : String) (reminder : MeetingReminder)
    : Option MeetingReminderJob :=
  if reminder.status = "pending" ∧ reminder.scheduledFor ≤ dueAt then do
    let meeting ← store.meetingsById.lookup reminder.meetingId
    if meeting.status = "scheduled" then some ⟨meeting, reminder⟩ else none
  else
    none

def listDueReminders (store : MeetingStore) (dueAt : String) (limit : Nat)
    : List MeetingReminderJob :=
  if limit = 0 then
    []
  else
    ((store.reminders.filterMap (store.dueJob dueAt)).insertionSort jobOrder).take limit

/-- The new status of a reminder, where it is the pending one that is looked for. -/
def settled (reminderId : Uuid) (status : String) (reminder : MeetingReminder)
    : Option MeetingReminder :=
  if reminder.id = reminderId ∧ reminder.status = "pending" then
    some { reminder with status := status }
  else
    none

/-- The reminders of the meeting that the pending reminder is found under. -/
def remindersWith (store : MeetingStore) (reminderId : Uuid) (status : String)
    : Option (Sigma fun _ : Uuid => List MeetingReminder) :=
  store.remindersByMeetingId.entries.find? fun entry =>
    entry.2.any fun reminder => (settled reminderId status reminder).isSome

/-- The first pending reminder with an identifier changes its status. -/
def updateReminderStatus (reminderId : Uuid) (status : String)
    : Eff MeetingStore MeetingError Unit := do
  let store ← get
  match store.remindersWith reminderId status with
  | some ⟨meetingId, reminders⟩ =>
      let reminders := reminders.replaceF (settled reminderId status)
      set { store with
        remindersByMeetingId := store.remindersByMeetingId.insert meetingId reminders }
  | none => throw .notFound

def markReminderSent (reminderId : Uuid) (_sentAt : String)
    : Eff MeetingStore MeetingError Unit :=
  updateReminderStatus reminderId "sent"

def markReminderFailed (reminderId : Uuid) (_failedAt _failureReason : String)
    : Eff MeetingStore MeetingError Unit :=
  updateReminderStatus reminderId "failed"

/-- A reminder with the identifier waits to be delivered. -/
def Pending (store : MeetingStore) (reminderId : Uuid) : Prop :=
  ∃ reminder ∈ store.reminders, reminder.id = reminderId ∧ reminder.status = "pending"

instance (store : MeetingStore) (reminderId : Uuid) : Decidable (store.Pending reminderId) :=
  inferInstanceAs (Decidable (∃ reminder ∈ store.reminders, _))

/-- The identifiers of a meeting and of its reminders are new to the store, and the reminders
wait to be delivered, as for every meeting that is created.
-/
def New (store : MeetingStore) (bundle : MeetingBundle) : Prop :=
  bundle.meeting.id ∉ store.remindersByMeetingId
    ∧ ((bundle.reminders ++ store.reminders).map (·.id)).Nodup
    ∧ ∀ reminder ∈ bundle.reminders, reminder.status = "pending"

instance (store : MeetingStore) (bundle : MeetingBundle) : Decidable (store.New bundle) :=
  inferInstanceAs (Decidable (_ ∧ _ ∧ _))

/-- A new meeting adds its reminders. -/
theorem reminders_createMeeting {store : MeetingStore} {bundle : MeetingBundle}
    (new : bundle.meeting.id ∉ store.remindersByMeetingId)
    : ((createMeeting bundle).after store).reminders = bundle.reminders ++ store.reminders :=
  congrArg List.flatten (Table.values_insert_of_notMem new bundle.reminders)

/-- The reminders of a meeting are reminders of the store. -/
theorem mem_reminders {store : MeetingStore} {reminder : MeetingReminder}
    : reminder ∈ store.reminders
      ↔ ∃ entry ∈ store.remindersByMeetingId.entries, reminder ∈ entry.2 := by
  rw [reminders, Table.values, List.mem_flatten]
  constructor
  · intro found
    obtain ⟨reminders, listed, mem⟩ := found
    obtain ⟨entry, stored, rfl⟩ := List.mem_map.mp listed
    exact ⟨entry, stored, mem⟩
  · intro found
    obtain ⟨entry, stored, mem⟩ := found
    exact ⟨entry.2, List.mem_map_of_mem stored, mem⟩

theorem settled_isSome {reminderId : Uuid} {status : String} {reminder : MeetingReminder}
    : (settled reminderId status reminder).isSome = true
      ↔ reminder.id = reminderId ∧ reminder.status = "pending" := by
  rw [settled]
  split
  · next known => exact iff_of_true rfl known
  · next unknown => exact iff_of_false nofun unknown

/-- Only pending reminders are due. -/
theorem pending_of_mem_listDueReminders {store : MeetingStore} {dueAt : String} {limit : Nat}
    {job : MeetingReminderJob} (listed : job ∈ store.listDueReminders dueAt limit)
    : store.Pending job.reminder.id := by
  rw [listDueReminders] at listed
  split at listed
  · cases listed
  · have sorted := List.mem_of_mem_take listed
    rw [List.mem_insertionSort] at sorted
    obtain ⟨reminder, stored, due⟩ := List.mem_filterMap.mp sorted
    rw [dueJob] at due
    split at due
    · next waits =>
        obtain ⟨meeting, _, due⟩ := Option.bind_eq_some_iff.mp due
        split at due
        · cases due
          exact ⟨reminder, stored, rfl, waits.1⟩
        · cases due
    · cases due

/-- Meetings are not reminders. -/
theorem reminders_updateMeeting (store : MeetingStore) (meeting : Meeting)
    : ((updateMeeting meeting).after store).reminders = store.reminders := by
  rw [updateMeeting, Eff.after, Eff.exec_get_bind]
  split
  · rfl
  · rfl

/-- Without a pending reminder of the identifier nothing changes. -/
theorem exec_updateReminderStatus_of_not_pending {store : MeetingStore} {reminderId : Uuid}
    (status : String) (settledAlready : ¬ store.Pending reminderId)
    : (updateReminderStatus reminderId status).exec store = (.error .notFound, store) := by
  have missing : store.remindersWith reminderId status = none := by
    rw [remindersWith, List.find?_eq_none]
    intro entry stored found
    obtain ⟨reminder, mem, pending⟩ := List.any_eq_true.mp found
    exact settledAlready ⟨reminder, mem_reminders.mpr ⟨entry, stored, mem⟩,
      settled_isSome.mp pending⟩
  rw [updateReminderStatus, Eff.exec_get_bind, missing]
  rfl

/-- A pending reminder is found under its meeting. -/
theorem remindersWith_of_pending {store : MeetingStore} {reminderId : Uuid}
    (status : String) (pending : store.Pending reminderId)
    : ∃ meetingId reminders, store.remindersWith reminderId status = some ⟨meetingId, reminders⟩
        ∧ store.remindersByMeetingId.lookup meetingId = some reminders
        ∧ ∃ reminder ∈ reminders, (settled reminderId status reminder).isSome = true := by
  obtain ⟨reminder, mem, known⟩ := pending
  obtain ⟨holder, stored, held⟩ := mem_reminders.mp mem
  have finds : (store.remindersWith reminderId status).isSome := by
    rw [remindersWith, List.find?_isSome]
    exact ⟨holder, stored, List.any_eq_true.mpr ⟨reminder, held, settled_isSome.mpr known⟩⟩
  obtain ⟨⟨meetingId, reminders⟩, found⟩ := Option.isSome_iff_exists.mp finds
  refine ⟨meetingId, reminders, found, ?_, ?_⟩
  · exact AList.mem_lookup_iff.mpr (List.mem_of_find?_eq_some found)
  · have holds := @List.find?_some _ _ _ _ found
    exact List.any_eq_true.mp holds

/-- A pending reminder changes its status, and nothing else changes. -/
theorem exec_updateReminderStatus_of_pending {store : MeetingStore} {reminderId : Uuid}
    (status : String) (pending : store.Pending reminderId)
    : ∃ next reminder rest,
        (updateReminderStatus reminderId status).exec store = (.ok (), next)
          ∧ next.meetingsById = store.meetingsById
          ∧ (reminder.id = reminderId ∧ reminder.status = "pending")
          ∧ store.reminders.Perm (reminder :: rest)
          ∧ next.reminders.Perm ({ reminder with status := status } :: rest) := by
  obtain ⟨meetingId, reminders, found, answers, other, mem, known⟩ :=
    remindersWith_of_pending status pending
  obtain ⟨_, becomes⟩ := Option.isSome_iff_exists.mp known
  obtain ⟨reminder, changed, front, back, _, change, split, replaced⟩ :=
    List.exists_of_replaceF mem becomes
  have target := settled_isSome.mp (Option.isSome_iff_exists.mpr ⟨changed, change⟩)
  rw [settled, if_pos target] at change
  cases change
  obtain ⟨rest, before, later⟩ := Table.values_insert_of_lookup answers
  let changedReminders := reminders.replaceF (settled reminderId status)
  let next := { store with
    remindersByMeetingId := store.remindersByMeetingId.insert meetingId changedReminders }
  refine ⟨next, reminder, front ++ back ++ rest.flatten, ?_, rfl, target, ?_, ?_⟩
  · rw [updateReminderStatus, Eff.exec_get_bind, found]
    rfl
  · refine before.flatten.trans ?_
    rw [List.flatten_cons, split, ← List.cons_append]
    exact List.perm_middle.append_right _
  · refine (List.Perm.of_eq (congrArg List.flatten (later _))).trans ?_
    rw [List.flatten_cons, show changedReminders = _ from replaced, ← List.cons_append]
    exact List.perm_middle.append_right _

end MeetingStore

end OpenCord.Meetings

import OpenCord.Meetings.Meeting
import OpenCord.Platform.TextThenId

/-! The due reminders of a meeting store, in the order in which they are listed, and what is
left of them when the first one is marked.
-/

namespace OpenCord.Meetings

open OpenCord.Library OpenCord.Platform

namespace MeetingStore

/-- All due jobs, in their order. -/
def dueReminders (store : MeetingStore) (dueAt : String) : List MeetingReminderJob :=
  (store.reminders.filterMap (store.dueJob dueAt)).insertionSort jobOrder

variable {store : MeetingStore} {dueAt : String}

theorem listDueReminders_eq_take {limit : Nat} (positive : 0 < limit)
    : store.listDueReminders dueAt limit = (store.dueReminders dueAt).take limit :=
  if_neg (Nat.ne_of_gt positive)

/-- A reminder is due while it is pending, from its time on, for a scheduled meeting. -/
theorem dueJob_eq_some {reminder : MeetingReminder} {job : MeetingReminderJob}
    : store.dueJob dueAt reminder = some job
      ↔ (reminder.status = "pending" ∧ reminder.scheduledFor ≤ dueAt)
        ∧ job.reminder = reminder
        ∧ store.meetingsById.lookup reminder.meetingId = some job.meeting
        ∧ job.meeting.status = "scheduled" := by
  rw [dueJob]
  split
  · next waits =>
      constructor
      · intro due
        obtain ⟨meeting, found, due⟩ := Option.bind_eq_some_iff.mp due
        split at due
        · next scheduled =>
            cases due
            exact ⟨waits, rfl, found, scheduled⟩
        · cases due
      · intro due
        obtain ⟨_, rfl, found, scheduled⟩ := due
        exact Option.bind_eq_some_iff.mpr ⟨job.meeting, found, if_pos scheduled⟩
  · next settled => exact iff_of_false (Option.some_ne_none _).symm fun due => settled due.1

theorem reminder_of_dueJob {reminder : MeetingReminder} {job : MeetingReminderJob}
    (due : store.dueJob dueAt reminder = some job)
    : job.reminder = reminder :=
  (dueJob_eq_some.mp due).2.1

theorem mem_dueReminders {job : MeetingReminderJob}
    : job ∈ store.dueReminders dueAt
      ↔ job.reminder ∈ store.reminders ∧ store.dueJob dueAt job.reminder = some job := by
  rw [dueReminders, List.mem_insertionSort, List.mem_filterMap]
  constructor
  · intro found
    obtain ⟨reminder, stored, due⟩ := found
    obtain rfl := reminder_of_dueJob due
    exact ⟨stored, due⟩
  · intro found
    exact ⟨job.reminder, found⟩

-----------------------------------------------------------------------------------------
-- Order
-----------------------------------------------------------------------------------------

theorem jobOrder_eq
    : jobOrder = TextThenId (fun job => job.reminder.scheduledFor) fun job => job.reminder.id :=
  rfl

theorem pairwise_dueReminders (store : MeetingStore) (dueAt : String)
    : (store.dueReminders dueAt).Pairwise jobOrder := by
  have total : Std.Total jobOrder := jobOrder_eq ▸ inferInstance
  have trans : IsTrans _ jobOrder := jobOrder_eq ▸ inferInstance
  exact List.pairwise_insertionSort ..

theorem perm_dueReminders (store : MeetingStore) (dueAt : String)
    : (store.dueReminders dueAt).Perm (store.reminders.filterMap (store.dueJob dueAt)) :=
  List.perm_insertionSort ..

/-- Reminders with distinct identifiers are listed once. -/
theorem nodup_dueReminders (unique : (store.reminders.map (·.id)).Nodup)
    : ((store.dueReminders dueAt).map (·.reminder.id)).Nodup := by
  rw [((perm_dueReminders store dueAt).map _).nodup_iff, List.Nodup, List.pairwise_map,
    List.pairwise_filterMap]
  rw [List.Nodup, List.pairwise_map] at unique
  refine unique.imp fun differ first firstDue second secondDue => ?_
  rw [reminder_of_dueJob firstDue, reminder_of_dueJob secondDue]
  exact differ

-----------------------------------------------------------------------------------------
-- Marking
-----------------------------------------------------------------------------------------

/-- When the first due reminder is marked, the others stay due, in their order. -/
theorem dueReminders_of_marked {next : MeetingStore} {reminder : MeetingReminder}
    {rest : List MeetingReminder} {status : String} {job : MeetingReminderJob}
    {jobs : List MeetingReminderJob} (unique : (store.reminders.map (·.id)).Nodup)
    (settled : status ≠ "pending") (meetings : next.meetingsById = store.meetingsById)
    (before : store.reminders.Perm (reminder :: rest))
    (after : next.reminders.Perm ({ reminder with status := status } :: rest))
    (due : store.dueReminders dueAt = job :: jobs) (same : reminder.id = job.reminder.id)
    : next.dueReminders dueAt = jobs := by
  have sameDue : next.dueJob dueAt = store.dueJob dueAt := by
    funext other
    rw [dueJob, dueJob, meetings]
  obtain ⟨stored, first⟩ := mem_dueReminders.mp (due ▸ List.mem_cons_self)
  obtain rfl : job.reminder = reminder :=
    List.inj_on_of_nodup_map unique stored (before.mem_iff.mpr List.mem_cons_self) same.symm
  have notDue : store.dueJob dueAt { job.reminder with status := status } = none := by
    rw [dueJob, if_neg]
    exact fun waits => settled waits.1
  have listed := perm_dueReminders store dueAt
  rw [(before.filterMap _).congr_right, List.filterMap_cons_some first, due] at listed
  have others := perm_dueReminders next dueAt
  rw [(after.filterMap _).congr_right, sameDue, List.filterMap_cons_none notDue] at others
  have kept := others.trans listed.cons_inv.symm
  have ids : ((store.dueReminders dueAt).map (·.reminder.id)).Nodup := nodup_dueReminders unique
  have ordered := pairwise_dueReminders store dueAt
  rw [due] at ids ordered
  exact TextThenId.eq_of_perm kept (List.nodup_cons.mp ids).2
    (pairwise_dueReminders next dueAt) ordered.of_cons

end MeetingStore

end OpenCord.Meetings

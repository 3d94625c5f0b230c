import OpenCord.Meetings.Requests

/-! Cancelled meetings. A cancel writes a record like any other, so a request that has read the
meeting before can write it back as scheduled.
-/

namespace OpenCord.Meetings

open OpenCord.Library OpenCord.Platform

/-- The record of a meeting says that it is cancelled, and since when. -/
def Meeting.IsCancelled (meeting : Meeting) : Prop :=
  meeting.status = "cancelled" ∧ meeting.cancelledAt.isSome

instance (meeting : Meeting) : Decidable meeting.IsCancelled :=
  inferInstanceAs (Decidable (_ ∧ _))

theorem Meeting.IsCancelled.status_ne {meeting : Meeting} (cancelled : meeting.IsCancelled)
    : meeting.status ≠ "scheduled" := by
  rw [cancelled.1]
  decide

namespace MeetingStore

/-- The meeting is stored as cancelled. -/
def HasCancelled (store : MeetingStore) (meetingId : Uuid) : Prop :=
  ∃ meeting, store.meetingsById.lookup meetingId = some meeting ∧ meeting.IsCancelled

/-- Every read of the meeting finds it cancelled, no reminder of it becomes due, and nobody gets
a media token for it.
-/
structure StaysCancelled (store : MeetingStore) (meetingId : Uuid) : Prop where
  read : ∃ bundle, MeetingService.get store meetingId = .ok bundle ∧ bundle.meeting.IsCancelled
  notDue : ∀ dueAt limit, ∀ job ∈ store.listDueReminders dueAt limit,
    job.reminder.meetingId ≠ meetingId
  noToken : ∀ {MediaRoomToken : Type}
    (requireRead enforcePermissions : MeetingBundle → Except MeetingApiError Unit)
    (issueRoomToken : MeetingBundle → Except MediaError MediaRoomToken) (token : MediaRoomToken),
    MeetingController.createMediaToken requireRead enforcePermissions issueRoomToken store
      meetingId ≠ .ok token

/-- A due reminder belongs to a scheduled meeting. -/
theorem scheduled_of_mem_listDueReminders {store : MeetingStore} {dueAt : String} {limit : Nat}
    {job : MeetingReminderJob} (listed : job ∈ store.listDueReminders dueAt limit)
    : ∃ meeting, store.meetingsById.lookup job.reminder.meetingId = some meeting
        ∧ meeting.status = "scheduled" := by
  rw [listDueReminders] at listed
  split at listed
  · cases listed
  · have sorted := List.mem_of_mem_take listed
    rw [List.mem_insertionSort] at sorted
    obtain ⟨reminder, _, due⟩ := List.mem_filterMap.mp sorted
    rw [dueJob] at due
    split at due
    · obtain ⟨meeting, found, due⟩ := Option.bind_eq_some_iff.mp due
      split at due
      · next scheduled =>
          cases due
          exact ⟨meeting, found, scheduled⟩
      · cases due
    · cases due

/-- All that depends on a cancelled meeting follows from its stored record. -/
theorem staysCancelled_iff {store : MeetingStore} {meetingId : Uuid}
    : store.StaysCancelled meetingId ↔ store.HasCancelled meetingId := by
  constructor
  · intro stays
    obtain ⟨bundle, found, cancelled⟩ := stays.read
    obtain ⟨meeting, stored, rfl⟩ := Option.map_eq_some_iff.mp (MeetingService.get_eq_ok.mp found)
    exact ⟨meeting, stored, cancelled⟩
  · intro has
    obtain ⟨meeting, stored, cancelled⟩ := has
    have found : MeetingService.get store meetingId = .ok (store.bundleForMeeting meeting) :=
      MeetingService.get_eq_ok.mpr (by rw [getMeeting, stored]; rfl)
    refine ⟨⟨_, found, cancelled⟩, ?_, ?_⟩
    · intro dueAt limit job listed same
      obtain ⟨other, again, scheduled⟩ := scheduled_of_mem_listDueReminders listed
      rw [same, stored] at again
      cases again
      exact cancelled.status_ne scheduled
    · intro _ requireRead enforcePermissions issueRoomToken token issued
      rw [MeetingController.createMediaToken, found] at issued
      obtain ⟨_, read, issued⟩ := Eff.check_bind_eq_ok.mp issued
      cases read
      obtain ⟨_, _, issued⟩ := Eff.check_bind_eq_ok.mp issued
      split at issued
      · cases issued
      · next scheduled => exact scheduled cancelled.status_ne

/-- Writing the record of a meeting cancels or reopens this one meeting. -/
theorem hasCancelled_withMeeting {store : MeetingStore} {written : Meeting} {meetingId : Uuid}
    : (store.withMeeting written).HasCancelled meetingId
      ↔ if meetingId = written.id then written.IsCancelled
        else store.HasCancelled meetingId := by
  simp only [HasCancelled, lookup_withMeeting]
  split
  · simp
  · rfl

end MeetingStore

variable {Instant : Type}

namespace MeetingRequests

/-- Every meeting whose cancel has succeeded stays cancelled. -/
def StaysCancelled (requests : MeetingRequests) : Prop :=
  ∀ meetingId ∈ requests.shared.cancelled, requests.shared.store.StaysCancelled meetingId

/-- A patch that is accepted for a meeting whose cancel has succeeded was made on a read of the
cancelled meeting.
-/
def PatchesCancelled (chrono : Chrono Instant) (requests : MeetingRequests)
    : Nat × MeetingMove Instant → Prop
  | (index, .update patch) =>
      ∀ bundle ∈ (requests.tasks index).inHand,
        bundle.meeting.id ∈ requests.shared.cancelled →
          (MeetingService.patched chrono bundle.meeting patch).isOk → bundle.meeting.IsCancelled
  | _ => True

/-- The cancelled meetings of a store are those of another. -/
theorem staysCancelled_congr {requests : MeetingRequests} {next : MeetingHistory}
    (stays : requests.StaysCancelled) (cancelled : next.cancelled = requests.shared.cancelled)
    (meetings : next.store.meetingsById = requests.shared.store.meetingsById)
    : ∀ meetingId ∈ next.cancelled, next.store.StaysCancelled meetingId := by
  intro meetingId listed
  rw [cancelled] at listed
  obtain ⟨meeting, stored, isCancelled⟩ :=
    MeetingStore.staysCancelled_iff.mp (stays meetingId listed)
  refine MeetingStore.staysCancelled_iff.mpr ⟨meeting, ?_, isCancelled⟩
  rw [meetings]
  exact stored

/-- A new meeting is none of those that were cancelled. -/
theorem StaysCancelled.create {requests : MeetingRequests} (stays : requests.StaysCancelled)
    {chrono : Chrono Instant} {meetingId : Uuid} {input : NewMeeting}
    (new : meetingId ∉ requests.shared.store.meetingsById)
    : ∀ cancelledId ∈ requests.shared.cancelled,
        ((MeetingService.create chrono meetingId input).after
          requests.shared.store).StaysCancelled cancelledId := by
  intro cancelledId listed
  obtain same | ⟨bundle, valid, created⟩ :=
    @MeetingService.create_cases _ chrono meetingId input requests.shared.store
  · rw [same]
    exact stays cancelledId listed
  · obtain ⟨meeting, stored, isCancelled⟩ :=
      MeetingStore.staysCancelled_iff.mp (stays cancelledId listed)
    have differs : cancelledId ≠ bundle.meeting.id := by
      intro same
      rw [same, (MeetingService.newBundle_eq_ok valid).1] at stored
      exact new (Table.mem_of_lookup stored)
    rw [created]
    refine MeetingStore.staysCancelled_iff.mpr ⟨meeting, ?_, isCancelled⟩
    exact (AList.lookup_insert_ne differs).trans stored

/-- Writing a record of a meeting keeps all cancelled meetings exactly when it is a cancelled
record, or the meeting is none of them.
-/
theorem StaysCancelled.write {requests : MeetingRequests} (stays : requests.StaysCancelled)
    (written : Meeting)
    : (∀ meetingId ∈ requests.shared.cancelled,
          (requests.shared.store.withMeeting written).StaysCancelled meetingId)
        ↔ (written.id ∈ requests.shared.cancelled → written.IsCancelled) := by
  simp only [MeetingStore.staysCancelled_iff, MeetingStore.hasCancelled_withMeeting]
  constructor
  · intro later listed
    have own := later written.id listed
    rwa [if_pos rfl] at own
  · intro isCancelled meetingId listed
    split
    · next same => exact isCancelled (same ▸ listed)
    · exact MeetingStore.staysCancelled_iff.mp (stays meetingId listed)

/-- A step keeps the cancelled meetings exactly when it patches none of them on an old read. -/
theorem staysCancelled_step {chrono : Chrono Instant} {requests next : MeetingRequests}
    {action : Nat × MeetingMove Instant} (stays : requests.StaysCancelled)
    (stepped : requests.step chrono action = some next)
    : next.StaysCancelled ↔ requests.PatchesCancelled chrono action := by
  obtain ⟨index, move⟩ := action
  obtain ⟨history, task, moved, rfl⟩ := Tasks.step_eq_some.mp stepped
  change (∀ meetingId ∈ history.cancelled, history.store.StaysCancelled meetingId) ↔ _
  cases move with
  | create meetingId input =>
      rw [MeetingTask.move] at moved
      split at moved
      · cases moved
      · next new =>
          obtain ⟨rfl, rfl⟩ := Prod.mk.inj (Option.some.inj moved)
          exact iff_of_true (stays.create new) trivial
  | read meetingId =>
      rw [MeetingTask.move] at moved
      split at moved
      · obtain ⟨rfl, rfl⟩ := Prod.mk.inj (Option.some.inj moved)
        exact iff_of_true stays trivial
      · obtain ⟨rfl, rfl⟩ := Prod.mk.inj (Option.some.inj moved)
        exact iff_of_true stays trivial
  | update patch =>
      rw [MeetingTask.move] at moved
      split at moved
      · cases moved
      · next bundle held =>
          obtain ⟨rfl, rfl⟩ := Prod.mk.inj (Option.some.inj moved)
          rw [MeetingHistory.store_withStore, MeetingHistory.cancelled_withStore]
          obtain ⟨refused, same⟩ | ⟨written, valid, _, wrote⟩ :=
            @MeetingService.update_cases _ chrono bundle patch requests.shared.store
          · rw [same]
            refine iff_of_true stays fun other again listed accepted => ?_
            obtain rfl : bundle = other := Option.some.inj (held.symm.trans again)
            obtain ⟨meeting, stored, _⟩ := MeetingStore.staysCancelled_iff.mp (stays _ listed)
            cases valid : MeetingService.patched chrono bundle.meeting patch with
            | error error =>
                rw [valid] at accepted
                cases accepted
            | ok written => exact absurd (Table.mem_of_lookup stored) (refused written valid)
          · obtain ⟨sameId, sameStatus, sameTime, _⟩ := MeetingService.patched_eq_ok valid
            have sameRecord : written.IsCancelled ↔ bundle.meeting.IsCancelled := by
              rw [Meeting.IsCancelled, Meeting.IsCancelled, sameStatus, sameTime]
            rw [wrote, stays.write written, sameId, sameRecord]
            constructor
            · intro cancelled other again listed _
              obtain rfl : bundle = other := Option.some.inj (held.symm.trans again)
              exact cancelled listed
            · intro patches listed
              exact patches bundle held listed (by rw [valid]; rfl)
  | cancel now =>
      rw [MeetingTask.move] at moved
      split at moved
      · cases moved
      · next bundle held =>
          rw [MeetingService.cancel] at moved
          let written := MeetingService.cancelled chrono now bundle.meeting
          obtain ⟨_, answer, wrote⟩ | ⟨_, failed⟩ :=
            requests.shared.store.updateMeeting_cases written
          · rw [wrote] at moved
            obtain ⟨rfl, rfl⟩ := Prod.mk.inj (Option.some.inj moved)
            refine iff_of_true (fun meetingId listed => ?_) trivial
            rcases List.mem_cons.mp listed with own | earlier
            · have own : meetingId = written.id := own
              refine MeetingStore.staysCancelled_iff.mpr
                (MeetingStore.hasCancelled_withMeeting.mpr ?_)
              rw [if_pos own]
              exact ⟨rfl, rfl⟩
            · exact (stays.write written).mpr (fun _ => ⟨rfl, rfl⟩) meetingId earlier
          · rw [failed] at moved
            obtain ⟨rfl, rfl⟩ := Prod.mk.inj (Option.some.inj moved)
            exact iff_of_true stays trivial
  | work move =>
      rw [MeetingTask.move] at moved
      split at moved
      · next ofWorker =>
          obtain ⟨⟨deliveries, worker⟩, worked, ended⟩ := Option.map_eq_some_iff.mp moved
          obtain ⟨rfl, rfl⟩ := Prod.mk.inj ended
          exact iff_of_true
            (staysCancelled_congr stays rfl (WorkerTask.move_kept ofWorker worked).1) trivial
      · cases moved

/-- Along a run of any requests and workers, cancelled meetings stay cancelled exactly when no
patch of one of them was made on a read before its cancel.
-/
theorem staysCancelled_iff_patchesCancelled {chrono : Chrono Instant}
    {actions : List (Nat × MeetingMove Instant)} {last : MeetingRequests}
    (ran : run (step chrono) start actions = some last)
    : Always (step chrono) StaysCancelled start actions
      ↔ Allowed (step chrono) (PatchesCancelled chrono) start actions := by
  refine @always_iff_allowed _ _ (step chrono) (PatchesCancelled chrono) (fun _ => True)
    StaysCancelled ?_ ?_ _ _ _ trivial nofun ran
  · exact fun _ _ _ _ _ _ _ => trivial
  · intro requests action next _ stays stepped
    exact staysCancelled_step stays stepped

end MeetingRequests

namespace Offsite

/-- The meeting is renamed, cancelled, and renamed again on a read of the cancelled record. -/
def calledOff : List (Nat × MeetingMove Int) :=
  [create, (1, .read meetingId), (1, .update rename), (2, .read meetingId),
    (2, .cancel 480), (1, .read meetingId), (1, .update rename)]

/-- The meeting is cancelled between the read and the write of an update. -/
def revived : List (Nat × MeetingMove Int) :=
  [create, (1, .read meetingId), (2, .read meetingId), (2, .cancel 480), (1, .update rename)]

end Offsite

namespace MeetingRequests

instance (requests : MeetingRequests)
    : ∀ action, Decidable (requests.PatchesCancelled Offsite.clock action)
  | (index, .update _) =>
      inferInstanceAs (Decidable (∀ bundle ∈ (requests.tasks index).inHand, _ → _ → _))
  | (_, .create ..) | (_, .read _) | (_, .cancel _) | (_, .work _) => .isTrue trivial

theorem calledOff_staysCancelled
    : ∃ last, run (step Offsite.clock) start Offsite.calledOff = some last
        ∧ Offsite.meetingId ∈ last.shared.cancelled
        ∧ Always (step Offsite.clock) StaysCancelled start Offsite.calledOff := by
  have patches : Allowed (step Offsite.clock) (PatchesCancelled Offsite.clock) start
      Offsite.calledOff := by
    decide +kernel
  refine ⟨_, rfl, by decide +kernel, ?_⟩
  exact (staysCancelled_iff_patchesCancelled rfl).mpr patches

/-- An update on an old read takes the cancel back: the reminder becomes due again. -/
theorem revived_notCancelled
    : ∃ last, run (step Offsite.clock) start Offsite.revived = some last
        ∧ Offsite.meetingId ∈ last.shared.cancelled
        ∧ (last.shared.store.listDueReminders "2026-06-24T08:45:00Z" 100).map
            (fun job => job.reminder.meetingId) = [Offsite.meetingId]
        ∧ ¬ last.StaysCancelled := by
  have facts : (run (step Offsite.clock) start Offsite.revived).any fun last =>
      Offsite.meetingId ∈ last.shared.cancelled
        ∧ (last.shared.store.listDueReminders "2026-06-24T08:45:00Z" 100).map
            (fun job => job.reminder.meetingId) = [Offsite.meetingId] := by
    decide +kernel
  obtain ⟨last, ran, facts⟩ := (Option.any_eq_true _ _).mp facts
  obtain ⟨cancelled, due⟩ := of_decide_eq_true facts
  refine ⟨last, ran, cancelled, due, fun stays => ?_⟩
  have listed : Offsite.meetingId ∈ (last.shared.store.listDueReminders "2026-06-24T08:45:00Z"
      100).map (fun job => job.reminder.meetingId) := by
    rw [due]
    exact List.mem_cons_self
  obtain ⟨job, mem, same⟩ := List.mem_map.mp listed
  exact (stays Offsite.meetingId cancelled).notDue _ _ job mem same

end MeetingRequests

end OpenCord.Meetings

import OpenCord.Meetings.Requests

/-! The times of reminders. They are taken from the start of a meeting as it is created; a
later change of the start writes the record of the meeting only.
-/

namespace OpenCord.Meetings

open OpenCord.Library OpenCord.Platform

variable {Instant : Type} (chrono : Chrono Instant)

namespace MeetingStore

/-- A reminder is scheduled its offset before the start of its meeting. Starts are kept to the
second, so any instant that is printed as the start will do.
-/
def Follows (store : MeetingStore) (reminder : MeetingReminder) : Prop :=
  ∃ meeting, store.meetingsById.lookup reminder.meetingId = some meeting
    ∧ ∃ startsAt, chrono.toRfc3339 startsAt = meeting.startsAt
      ∧ reminder.scheduledFor
        = chrono.toRfc3339 (chrono.minusMinutes startsAt reminder.offsetMinutes)

/-- All pending reminders follow their meetings. -/
def RemindersFollow (store : MeetingStore) : Prop :=
  ∀ reminder ∈ store.reminders, reminder.status = "pending" → store.Follows chrono reminder

/-- A start is the stored one of the meeting, or no reminder of the meeting is pending. -/
def KeepsStart (store : MeetingStore) (meetingId : Uuid) (startsAt : String) : Prop :=
  (∀ meeting ∈ store.meetingsById.lookup meetingId, meeting.startsAt = startsAt)
    ∨ ∀ reminder ∈ store.reminders, reminder.status = "pending" →
        reminder.meetingId ≠ meetingId

instance (store : MeetingStore) (meetingId : Uuid) (startsAt : String)
    : Decidable (store.KeepsStart meetingId startsAt) :=
  inferInstanceAs (Decidable ((∀ meeting ∈ store.meetingsById.lookup meetingId, _) ∨ _))

end MeetingStore

namespace MeetingRequests

/-- An accepted patch asks for the start that is stored, and a cancel writes it back; or the
meeting has no pending reminder.
-/
def KeepsStart (requests : MeetingRequests) : Nat × MeetingMove Instant → Prop
  | (index, .update patch) =>
      ∀ bundle ∈ (requests.tasks index).inHand,
        (MeetingService.patched chrono bundle.meeting patch).isOk →
          ∀ startsAt ∈ (MeetingService.parseStartsAt chrono
              (patch.startsAt.getD bundle.meeting.startsAt)).toOption,
            requests.shared.store.KeepsStart bundle.meeting.id (chrono.toRfc3339 startsAt)
  | (index, .cancel _) =>
      ∀ bundle ∈ (requests.tasks index).inHand,
        requests.shared.store.KeepsStart bundle.meeting.id bundle.meeting.startsAt
  | _ => True

end MeetingRequests

namespace MeetingStore

variable {chrono}

theorem RemindersFollow.empty : RemindersFollow chrono empty :=
  fun _ listed => absurd listed List.not_mem_nil

/-- A new meeting comes with reminders that follow it. -/
theorem RemindersFollow.create {store : MeetingStore} (follow : store.RemindersFollow chrono)
    {meetingId : Uuid} {input : NewMeeting} (new : meetingId ∉ store.meetingsById)
    : RemindersFollow chrono ((MeetingService.create chrono meetingId input).after store) := by
  obtain same | ⟨bundle, valid, created⟩ :=
    @MeetingService.create_cases _ chrono meetingId input store
  · rw [same]
    exact follow
  · obtain ⟨rfl, startsAt, starts, scheduled⟩ := MeetingService.newBundle_eq_ok valid
    rw [created]
    intro reminder listed pending
    rcases mem_reminders_createMeeting listed with own | earlier
    · obtain ⟨sameMeeting, time⟩ := scheduled reminder own
      refine ⟨bundle.meeting, ?_, startsAt, starts.symm, time⟩
      rw [sameMeeting]
      exact AList.lookup_insert ..
    · obtain ⟨meeting, found, follows⟩ := follow reminder earlier pending
      have differs : reminder.meetingId ≠ bundle.meeting.id := by
        intro same
        rw [same] at found
        exact new (Table.mem_of_lookup found)
      exact ⟨meeting, (AList.lookup_insert_ne differs).trans found, follows⟩

/-- A record that keeps the start leaves the reminders where they follow. -/
theorem RemindersFollow.write {store : MeetingStore} (follow : store.RemindersFollow chrono)
    {written : Meeting} (keeps : store.KeepsStart written.id written.startsAt)
    : RemindersFollow chrono (store.withMeeting written) := by
  intro reminder listed pending
  obtain ⟨meeting, found, startsAt, starts, scheduled⟩ := follow reminder listed pending
  rw [Follows, lookup_withMeeting]
  split
  · next same =>
      rcases keeps with sameStart | nonePending
      · rw [same] at found
        exact ⟨written, rfl, startsAt, starts.trans (sameStart meeting found), scheduled⟩
      · exact absurd same (nonePending reminder listed pending)
  · exact ⟨meeting, found, startsAt, starts, scheduled⟩

end MeetingStore

namespace MeetingRequests

variable {chrono}

/-- A step that keeps the starts of meetings with pending reminders keeps the reminders where
they follow.
-/
theorem remindersFollow_step {requests next : MeetingRequests} {action : Nat × MeetingMove Instant}
    (follow : requests.shared.store.RemindersFollow chrono)
    (keeps : requests.KeepsStart chrono action)
    (stepped : requests.step chrono action = some next)
    : next.shared.store.RemindersFollow chrono := by
  obtain ⟨index, move⟩ := action
  obtain ⟨history, task, moved, rfl⟩ := Tasks.step_eq_some.mp stepped
  change history.store.RemindersFollow chrono
  cases move with
  | create meetingId input =>
      rw [MeetingTask.move] at moved
      split at moved
      · cases moved
      · next new =>
          obtain ⟨rfl, rfl⟩ := Prod.mk.inj (Option.some.inj moved)
          exact follow.create new
  | read meetingId =>
      rw [MeetingTask.move] at moved
      split at moved
      · obtain ⟨rfl, rfl⟩ := Prod.mk.inj (Option.some.inj moved)
        exact follow
      · obtain ⟨rfl, rfl⟩ := Prod.mk.inj (Option.some.inj moved)
        exact follow
  | update patch =>
      rw [MeetingTask.move] at moved
      split at moved
      · cases moved
      · next bundle held =>
          obtain ⟨rfl, rfl⟩ := Prod.mk.inj (Option.some.inj moved)
          rw [MeetingHistory.store_withStore]
          obtain ⟨_, same⟩ | ⟨written, valid, _, wrote⟩ :=
            @MeetingService.update_cases _ chrono bundle patch requests.shared.store
          · rw [same]
            exact follow
          · rw [wrote]
            obtain ⟨sameId, _, _, startsAt, parsed, starts⟩ := MeetingService.patched_eq_ok valid
            have accepted := keeps bundle held (by rw [valid]; rfl) startsAt
              (Eff.toOption_eq_some.mpr parsed)
            rw [← sameId, ← starts] at accepted
            exact follow.write accepted
  | cancel now =>
      rw [MeetingTask.move] at moved
      split at moved
      · cases moved
      · next bundle held =>
          rw [MeetingService.cancel] at moved
          obtain ⟨_, answer, wrote⟩ | ⟨_, failed⟩ :=
            requests.shared.store.updateMeeting_cases
              (MeetingService.cancelled chrono now bundle.meeting)
          · rw [wrote] at moved
            obtain ⟨rfl, rfl⟩ := Prod.mk.inj (Option.some.inj moved)
            exact follow.write (keeps bundle held)
          · rw [failed] at moved
            obtain ⟨rfl, rfl⟩ := Prod.mk.inj (Option.some.inj moved)
            exact follow
  | work move =>
      rw [MeetingTask.move] at moved
      split at moved
      · next ofWorker =>
          obtain ⟨⟨deliveries, worker⟩, worked, ended⟩ := Option.map_eq_some_iff.mp moved
          obtain ⟨rfl, rfl⟩ := Prod.mk.inj ended
          obtain ⟨meetings, waiting⟩ := WorkerTask.move_kept ofWorker worked
          intro reminder listed pending
          obtain ⟨meeting, found, follows⟩ :=
            follow reminder (waiting reminder listed pending) pending
          exact ⟨meeting, (congrArg (AList.lookup _) meetings).trans found, follows⟩
      · cases moved

/-- In every run of any requests and workers whose patches and cancels keep the starts of
meetings with pending reminders, all pending reminders follow their meetings.
-/
theorem remindersFollow_of_keepsStart {actions : List (Nat × MeetingMove Instant)}
    {last : MeetingRequests} (keeps : Allowed (step chrono) (KeepsStart chrono) start actions)
    (ran : run (step chrono) start actions = some last)
    : last.shared.store.RemindersFollow chrono := by
  refine @run_preserves_of_allowed _ _ (step chrono) (KeepsStart chrono)
    (fun requests => requests.shared.store.RemindersFollow chrono) ?_ _ _ _ .empty keeps ran
  intro requests action next follow keeps stepped
  exact remindersFollow_step follow keeps stepped

end MeetingRequests

namespace Offsite

/-- The meeting is renamed before its reminder is due. -/
def renamed : List (Nat × MeetingMove Int) :=
  [create, (1, .read meetingId), (1, .update rename),
    (2, .work (.list "2026-06-24T08:00:00Z" 100)), (2, .work .finish)]

/-- The meeting is moved by an hour. -/
def postponed : List (Nat × MeetingMove Int) :=
  [create, (1, .read meetingId), (1, .update postpone)]

end Offsite

namespace MeetingRequests

instance (requests : MeetingRequests)
    : ∀ action, Decidable (requests.KeepsStart Offsite.clock action)
  | (index, .update patch) =>
      inferInstanceAs (Decidable (∀ bundle ∈ (requests.tasks index).inHand, _ → ∀ startsAt ∈
        (MeetingService.parseStartsAt Offsite.clock
          (patch.startsAt.getD bundle.meeting.startsAt)).toOption, _))
  | (index, .cancel _) =>
      inferInstanceAs (Decidable (∀ bundle ∈ (requests.tasks index).inHand, _))
  | (_, .create ..) | (_, .read _) | (_, .work _) => .isTrue trivial

theorem renamed_remindersFollow
    : ∃ last, run (step Offsite.clock) start Offsite.renamed = some last
        ∧ last.shared.store.Pending (.ofNat 76)
        ∧ last.shared.store.RemindersFollow Offsite.clock := by
  have keeps : Allowed (step Offsite.clock) (KeepsStart Offsite.clock) start Offsite.renamed := by
    decide +kernel
  exact ⟨_, rfl, by decide +kernel, remindersFollow_of_keepsStart keeps rfl⟩

/-- The reminder of a meeting that was moved is still the one for its first time. -/
theorem postponed_notFollows
    : ∃ last, run (step Offsite.clock) start Offsite.postponed = some last
        ∧ ¬ last.shared.store.RemindersFollow Offsite.clock := by
  have facts : (run (step Offsite.clock) start Offsite.postponed).any fun last =>
      ∃ reminder ∈ last.shared.store.reminders, reminder.status = "pending"
        ∧ reminder.scheduledFor = "2026-06-24T08:45:00Z" ∧ reminder.offsetMinutes = 15
        ∧ ∃ meeting ∈ last.shared.store.meetingsById.lookup reminder.meetingId,
          meeting.startsAt = "2026-06-24T10:00:00Z" := by
    decide +kernel
  obtain ⟨last, ran, facts⟩ := (Option.any_eq_true _ _).mp facts
  obtain ⟨reminder, listed, pending, scheduled, offset, meeting, found, starts⟩ :=
    of_decide_eq_true facts
  refine ⟨last, ran, fun follow => ?_⟩
  obtain ⟨other, again, startsAt, printed, time⟩ := follow reminder listed pending
  obtain rfl : meeting = other := Option.some.inj (found.symm.trans again)
  have late := Offsite.mem_of_toRfc3339 (printed.trans starts) (by decide)
  have early := Offsite.mem_of_toRfc3339 (time.symm.trans scheduled) (by decide)
  simp [Offsite.times, Offsite.clock, offset] at late early
  omega

end MeetingRequests

end OpenCord.Meetings

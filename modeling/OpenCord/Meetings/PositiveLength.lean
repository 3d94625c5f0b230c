import Mathlib.Order.Monotone.Defs
import OpenCord.Meetings.Requests

/-! The length of meetings. A schedule is checked at the full precision of its times, and the
times are stored to the second, so a meeting that ends in the second of its start is stored
with no length.
-/

namespace OpenCord.Meetings

open OpenCord.Library OpenCord.Platform

variable {Instant : Type} (chrono : Chrono Instant)

/-- The times of a meeting are those of two texts, in their order. -/
def Meeting.FollowsSchedule (meeting : Meeting) (startsAtText endsAtText : String) : Prop :=
  ∃ startsAt endsAt, MeetingService.parseStartsAt chrono startsAtText = .ok startsAt
    ∧ MeetingService.parseEndsAt chrono endsAtText = .ok endsAt
    ∧ chrono.isBefore startsAt endsAt = true
    ∧ meeting.startsAt = chrono.toRfc3339 startsAt
    ∧ meeting.endsAt = chrono.toRfc3339 endsAt

namespace MeetingService

variable {chrono}

theorem parseTime_eq_ok {value message : String} {time : Instant}
    : parseTime chrono value message = .ok time
      ↔ chrono.parseFromRfc3339 (Text.trim value) = some time := by
  rw [parseTime]
  split
  · next found => rw [found, Except.ok.injEq, Option.some.injEq]
  · next missing =>
      rw [missing]
      exact iff_of_false nofun nofun

theorem validateSchedule_eq_ok {startsAt endsAt : Instant} {answer : Unit}
    : validateSchedule chrono startsAt endsAt = .ok answer
      ↔ chrono.isBefore startsAt endsAt = true := by
  rw [validateSchedule]
  split
  · next before => exact iff_of_true rfl before
  · next notBefore => exact iff_of_false nofun notBefore

/-- A new meeting follows the schedule that is asked for. -/
theorem newBundle_followsSchedule {meetingId : Uuid} {input : NewMeeting} {bundle : MeetingBundle}
    (valid : newBundle chrono meetingId input = .ok bundle)
    : bundle.meeting.FollowsSchedule chrono input.startsAt input.endsAt := by
  obtain ⟨startsAt, starts, valid⟩ := Eff.check_bind_eq_ok.mp valid
  obtain ⟨endsAt, ends, valid⟩ := Eff.check_bind_eq_ok.mp valid
  obtain ⟨_, ordered, valid⟩ := Eff.check_bind_eq_ok.mp valid
  obtain ⟨_, _, valid⟩ := Eff.check_bind_eq_ok.mp valid
  obtain ⟨_, _, valid⟩ := Eff.check_bind_eq_ok.mp valid
  obtain ⟨_, _, valid⟩ := Eff.check_bind_eq_ok.mp valid
  obtain ⟨_, _, valid⟩ := Eff.check_bind_eq_ok.mp valid
  obtain ⟨_, _, valid⟩ := Eff.check_bind_eq_ok.mp valid
  cases valid
  exact ⟨startsAt, endsAt, starts, ends, validateSchedule_eq_ok.mp ordered, rfl, rfl⟩

/-- A patched meeting follows the new schedule, with the stored times where none are given. -/
theorem patched_followsSchedule {meeting written : Meeting} {patch : MeetingPatch}
    (valid : patched chrono meeting patch = .ok written)
    : written.FollowsSchedule chrono (patch.startsAt.getD meeting.startsAt)
        (patch.endsAt.getD meeting.endsAt) := by
  obtain ⟨_, _, valid⟩ := Eff.check_bind_eq_ok.mp valid
  obtain ⟨_, _, valid⟩ := Eff.check_bind_eq_ok.mp valid
  obtain ⟨_, _, valid⟩ := Eff.check_bind_eq_ok.mp valid
  obtain ⟨startsAt, starts, valid⟩ := Eff.check_bind_eq_ok.mp valid
  obtain ⟨endsAt, ends, valid⟩ := Eff.check_bind_eq_ok.mp valid
  obtain ⟨_, ordered, valid⟩ := Eff.check_bind_eq_ok.mp valid
  cases valid
  exact ⟨startsAt, endsAt, starts, ends, validateSchedule_eq_ok.mp ordered, rfl, rfl⟩

end MeetingService

-----------------------------------------------------------------------------------------
-- Instants and their seconds
-----------------------------------------------------------------------------------------

variable [LinearOrder Instant] (wholeSecond : Instant → Instant)

/-- What the schedules use of the calendar library: it compares instants in time, and prints
an instant as the second that it lies in.
-/
structure Chrono.PrintsSeconds : Prop where
  isBefore_iff : ∀ first second, chrono.isBefore first second = true ↔ first < second
  monotone : Monotone wholeSecond
  idempotent : ∀ time, wholeSecond (wholeSecond time) = wholeSecond time
  trimmed : ∀ time, Text.trim (chrono.toRfc3339 time) = chrono.toRfc3339 time
  readBack : ∀ time read, chrono.parseFromRfc3339 (chrono.toRfc3339 time) = some read →
    read = wholeSecond time

/-- A meeting ends in a later second than it starts. -/
def Meeting.HasLength (meeting : Meeting) : Prop :=
  ∃ startsAt endsAt, meeting.startsAt = chrono.toRfc3339 startsAt
    ∧ meeting.endsAt = chrono.toRfc3339 endsAt
    ∧ wholeSecond startsAt < wholeSecond endsAt

/-- All stored meetings have a length. -/
def MeetingStore.MeetingsHaveLength (store : MeetingStore) : Prop :=
  ∀ meetingId, ∀ meeting ∈ store.meetingsById.lookup meetingId,
    meeting.HasLength chrono wholeSecond

/-- The start and the end that two texts give lie in different seconds. -/
def MeetingService.DifferentSeconds (startsAtText endsAtText : String) : Prop :=
  ∀ startsAt ∈ (parseStartsAt chrono startsAtText).toOption,
    ∀ endsAt ∈ (parseEndsAt chrono endsAtText).toOption,
      wholeSecond startsAt ≠ wholeSecond endsAt

instance (startsAtText endsAtText : String)
    : Decidable (MeetingService.DifferentSeconds chrono wholeSecond startsAtText endsAtText) :=
  inferInstanceAs (Decidable (∀ startsAt ∈ (MeetingService.parseStartsAt chrono _).toOption, _))

/-- An accepted new meeting, and an accepted patch that gives a time, ends in another second
than it starts.
-/
def MeetingTask.DifferentSeconds (task : MeetingTask) : MeetingMove Instant → Prop
  | .create meetingId input =>
      (MeetingService.newBundle chrono meetingId input).isOk →
        MeetingService.DifferentSeconds chrono wholeSecond input.startsAt input.endsAt
  | .update patch =>
      patch.startsAt.isSome ∨ patch.endsAt.isSome → ∀ bundle ∈ task.inHand,
        (MeetingService.patched chrono bundle.meeting patch).isOk →
          MeetingService.DifferentSeconds chrono wholeSecond
            (patch.startsAt.getD bundle.meeting.startsAt)
            (patch.endsAt.getD bundle.meeting.endsAt)
  | _ => True

instance (task : MeetingTask)
    : ∀ move, Decidable (task.DifferentSeconds chrono wholeSecond move)
  | .create .. => inferInstanceAs (Decidable (_ → _))
  | .update patch =>
      inferInstanceAs (Decidable (patch.startsAt.isSome ∨ patch.endsAt.isSome →
        ∀ bundle ∈ task.inHand, _))
  | .read _ | .cancel _ | .work _ => .isTrue trivial

namespace MeetingRequests

def DifferentSeconds (requests : MeetingRequests) (action : Nat × MeetingMove Instant) : Prop :=
  (requests.tasks action.1).DifferentSeconds chrono wholeSecond action.2

instance (requests : MeetingRequests) (action : Nat × MeetingMove Instant)
    : Decidable (requests.DifferentSeconds chrono wholeSecond action) :=
  inferInstanceAs (Decidable (MeetingTask.DifferentSeconds ..))

end MeetingRequests

-----------------------------------------------------------------------------------------
-- Reading the stored times
-----------------------------------------------------------------------------------------

namespace Meeting

open MeetingService

variable {chrono} {wholeSecond}

/-- A schedule over different seconds has a length. -/
theorem FollowsSchedule.hasLength (prints : chrono.PrintsSeconds wholeSecond) {meeting : Meeting}
    {startsAtText endsAtText : String}
    (follows : meeting.FollowsSchedule chrono startsAtText endsAtText)
    (differ : DifferentSeconds chrono wholeSecond startsAtText endsAtText)
    : meeting.HasLength chrono wholeSecond := by
  obtain ⟨startsAt, endsAt, starts, ends, ordered, storedStart, storedEnd⟩ := follows
  have ordered := (prints.isBefore_iff startsAt endsAt).mp ordered
  have seconds := differ startsAt (Eff.toOption_eq_some.mpr starts) endsAt
    (Eff.toOption_eq_some.mpr ends)
  exact ⟨startsAt, endsAt, storedStart, storedEnd,
    lt_of_le_of_ne (prints.monotone ordered.le) seconds⟩

/-- A stored time is read back as its second. -/
theorem eq_wholeSecond_of_parseTime (prints : chrono.PrintsSeconds wholeSecond)
    {message : String} {time read : Instant}
    (parsed : parseTime chrono (chrono.toRfc3339 time) message = .ok read)
    : read = wholeSecond time := by
  have parsed := parseTime_eq_ok.mp parsed
  rw [prints.trimmed] at parsed
  exact prints.readBack time read parsed

/-- The stored times of a meeting with a length are read back in their order. -/
theorem HasLength.lt_of_parse (prints : chrono.PrintsSeconds wholeSecond) {meeting : Meeting}
    (length : meeting.HasLength chrono wholeSecond) {startsAt endsAt : Instant}
    (starts : parseStartsAt chrono meeting.startsAt = .ok startsAt)
    (ends : parseEndsAt chrono meeting.endsAt = .ok endsAt)
    : wholeSecond startsAt < wholeSecond endsAt ∧ startsAt < endsAt := by
  obtain ⟨start, stop, storedStart, storedEnd, later⟩ := length
  rw [storedStart] at starts
  rw [storedEnd] at ends
  rw [eq_wholeSecond_of_parseTime prints starts, eq_wholeSecond_of_parseTime prints ends,
    prints.idempotent, prints.idempotent]
  exact ⟨later, later⟩

theorem HasLength.differentSeconds (prints : chrono.PrintsSeconds wholeSecond)
    {meeting : Meeting} (length : meeting.HasLength chrono wholeSecond)
    : DifferentSeconds chrono wholeSecond meeting.startsAt meeting.endsAt := by
  intro startsAt starts endsAt ends
  exact (length.lt_of_parse prints (Eff.toOption_eq_some.mp starts)
    (Eff.toOption_eq_some.mp ends)).1.ne

end Meeting

-----------------------------------------------------------------------------------------
-- Steps
-----------------------------------------------------------------------------------------

namespace MeetingStore

variable {chrono} {wholeSecond}

/-- A record with a length may be written anywhere. -/
theorem MeetingsHaveLength.write {store : MeetingStore}
    (lengths : store.MeetingsHaveLength chrono wholeSecond) {meeting : Meeting}
    (length : meeting.HasLength chrono wholeSecond)
    : MeetingsHaveLength chrono wholeSecond (store.withMeeting meeting) := by
  intro meetingId stored found
  rw [lookup_withMeeting] at found
  split at found
  · cases found
    exact length
  · exact lengths meetingId stored found

end MeetingStore

namespace MeetingService

variable {chrono} {wholeSecond}

/-- Where a patch gives no time, the stored times lie in different seconds. -/
theorem differentSeconds_getD (prints : chrono.PrintsSeconds wholeSecond) {meeting : Meeting}
    (length : meeting.HasLength chrono wholeSecond) {patch : MeetingPatch}
    (differ : patch.startsAt.isSome ∨ patch.endsAt.isSome →
      DifferentSeconds chrono wholeSecond (patch.startsAt.getD meeting.startsAt)
        (patch.endsAt.getD meeting.endsAt))
    : DifferentSeconds chrono wholeSecond (patch.startsAt.getD meeting.startsAt)
        (patch.endsAt.getD meeting.endsAt) := by
  by_cases given : patch.startsAt.isSome ∨ patch.endsAt.isSome
  · exact differ given
  · rw [not_or, Option.not_isSome_iff_eq_none, Option.not_isSome_iff_eq_none] at given
    rw [given.1, given.2]
    exact length.differentSeconds prints

end MeetingService

namespace MeetingTask

/-- The meeting that a request has read has a length. -/
def HoldsLength (task : MeetingTask) : Prop :=
  ∀ bundle ∈ task.inHand, bundle.meeting.HasLength chrono wholeSecond

variable {chrono} {wholeSecond}

theorem HoldsLength.of_none {task : MeetingTask} (none : task.inHand = none)
    : task.HoldsLength chrono wholeSecond := by
  intro bundle held
  rw [none] at held
  cases held

/-- A move whose accepted times lie in different seconds stores meetings with a length. -/
theorem move_meetingsHaveLength (prints : chrono.PrintsSeconds wholeSecond)
    {history next : MeetingHistory} {task nextTask : MeetingTask} {move : MeetingMove Instant}
    (lengths : history.store.MeetingsHaveLength chrono wholeSecond)
    (holds : task.HoldsLength chrono wholeSecond)
    (differ : task.DifferentSeconds chrono wholeSecond move)
    (moved : task.move chrono history move = some (next, nextTask))
    : next.store.MeetingsHaveLength chrono wholeSecond
        ∧ nextTask.HoldsLength chrono wholeSecond := by
  cases move with
  | create meetingId input =>
      rw [MeetingTask.move] at moved
      split at moved
      · cases moved
      · cases moved
        refine ⟨?_, holds⟩
        rw [MeetingHistory.store_withStore]
        rcases MeetingService.create_cases meetingId input history.store with same | created
        · rw [same]
          exact lengths
        · obtain ⟨bundle, valid, created⟩ := created
          have accepted := differ (by rw [valid]; rfl)
          have length :=
            (MeetingService.newBundle_followsSchedule valid).hasLength prints accepted
          rw [created]
          exact lengths.write length
  | read meetingId =>
      rw [MeetingTask.move] at moved
      split at moved
      · next bundle read =>
          cases moved
          refine ⟨lengths, fun held same => ?_⟩
          cases same
          obtain ⟨meeting, stored, rfl⟩ :=
            Option.map_eq_some_iff.mp (MeetingService.get_eq_ok.mp read)
          exact lengths meetingId meeting stored
      · cases moved
        exact ⟨lengths, .of_none rfl⟩
  | update patch =>
      rw [MeetingTask.move] at moved
      split at moved
      · cases moved
      · next bundle held =>
          cases moved
          refine ⟨?_, .of_none rfl⟩
          rw [MeetingHistory.store_withStore]
          rcases MeetingService.update_cases bundle patch history.store with same | written
          · rw [same.2]
            exact lengths
          · obtain ⟨written, valid, _, wrote⟩ := written
            rw [wrote]
            refine lengths.write ?_
            refine (MeetingService.patched_followsSchedule valid).hasLength prints ?_
            exact MeetingService.differentSeconds_getD prints (holds bundle held) fun given =>
              differ given bundle held (by rw [valid]; rfl)
  | cancel now =>
      rw [MeetingTask.move] at moved
      split at moved
      · cases moved
      · next bundle held =>
          have length : (MeetingService.cancelled chrono now bundle.meeting).HasLength chrono
              wholeSecond := holds bundle held
          rw [MeetingService.cancel] at moved
          rcases history.store.updateMeeting_cases
              (MeetingService.cancelled chrono now bundle.meeting) with ⟨_, _, wrote⟩ | ⟨_, failed⟩
          · rw [wrote] at moved
            cases moved
            exact ⟨lengths.write length, .of_none rfl⟩
          · rw [failed] at moved
            cases moved
            exact ⟨lengths, .of_none rfl⟩
  | work move =>
      rw [MeetingTask.move] at moved
      split at moved
      · next ofWorker =>
          obtain ⟨⟨deliveries, worker⟩, worked, same⟩ := Option.map_eq_some_iff.mp moved
          cases same
          have kept := (WorkerTask.move_kept ofWorker worked).1
          exact ⟨fun meetingId meeting found => lengths meetingId meeting (kept ▸ found), holds⟩
      · cases moved

end MeetingTask

-----------------------------------------------------------------------------------------
-- The check of the schedule
-----------------------------------------------------------------------------------------

/-- The answer to a schedule that does not end after its start. -/
def MeetingError.endBeforeStart : MeetingError :=
  .invalidInput "meeting end time must be after start time"

namespace MeetingService

variable {chrono} {wholeSecond}

omit [LinearOrder Instant] in
/-- Only the check of the schedule itself answers that the end is not after the start. -/
theorem patched_ne_endBeforeStart {meeting : Meeting} {patch : MeetingPatch}
    (ordered : ∀ startsAt endsAt,
      parseStartsAt chrono (patch.startsAt.getD meeting.startsAt) = .ok startsAt →
      parseEndsAt chrono (patch.endsAt.getD meeting.endsAt) = .ok endsAt →
        validateSchedule chrono startsAt endsAt ≠ .error .endBeforeStart)
    : patched chrono meeting patch ≠ .error .endBeforeStart := by
  refine Eff.check_bind_ne_error ?title fun _ _ => ?_
  case title =>
    rw [patchField.eq_def]
    split
    · rw [normalizeTitle]
      split <;> simp [MeetingError.endBeforeStart]
    · nofun
  refine Eff.check_bind_ne_error ?description fun _ _ => ?_
  case description =>
    rw [patchField.eq_def]
    split
    · rw [normalizeDescription]
      split_ifs <;> simp [MeetingError.endBeforeStart]
    · nofun
  refine Eff.check_bind_ne_error ?timezone fun _ _ => ?_
  case timezone =>
    rw [patchField.eq_def]
    split
    · rw [normalizeTimezone]
      split <;> simp [MeetingError.endBeforeStart]
    · nofun
  refine Eff.check_bind_ne_error ?startsAt fun startsAt starts => ?_
  case startsAt =>
    rw [parseStartsAt, parseTime]
    split <;> simp [MeetingError.endBeforeStart]
  refine Eff.check_bind_ne_error ?endsAt fun endsAt ends => ?_
  case endsAt =>
    rw [parseEndsAt, parseTime]
    split <;> simp [MeetingError.endBeforeStart]
  refine Eff.check_bind_ne_error (ordered startsAt endsAt starts ends) fun _ _ => ?_
  nofun

/-- A patch of a meeting with a length that gives no time passes the check of the schedule. -/
theorem update_ne_endBeforeStart (prints : chrono.PrintsSeconds wholeSecond)
    {bundle : MeetingBundle} (length : bundle.meeting.HasLength chrono wholeSecond)
    {patch : MeetingPatch} (noStart : patch.startsAt = none) (noEnd : patch.endsAt = none)
    (store : MeetingStore)
    : ((update chrono bundle patch).exec store).1 ≠ .error .endBeforeStart := by
  have passes : patched chrono bundle.meeting patch ≠ .error .endBeforeStart := by
    refine patched_ne_endBeforeStart fun startsAt endsAt starts ends => ?_
    rw [noStart] at starts
    rw [noEnd] at ends
    have ordered := (length.lt_of_parse prints starts ends).2
    rw [validateSchedule, if_pos ((prints.isBefore_iff startsAt endsAt).mpr ordered)]
    intro failed
    cases failed
  rw [update, Eff.exec_check_bind]
  cases valid : patched chrono bundle.meeting patch with
  | error error =>
      rw [valid] at passes
      intro failed
      exact passes (congrArg Except.error (Except.error.inj failed))
  | ok written =>
      dsimp only
      rcases store.updateMeeting_cases written with ⟨_, answer, wrote⟩ | ⟨_, failed⟩
      · rw [wrote]
        intro refused
        cases refused
      · rw [failed]
        simp [MeetingError.endBeforeStart]

end MeetingService

-----------------------------------------------------------------------------------------
-- Runs
-----------------------------------------------------------------------------------------

namespace MeetingRequests

variable {chrono} {wholeSecond}

/-- In every run whose accepted times lie in different seconds, all stored meetings end in a
later second than they start, and a patch of a stored meeting that gives no time passes the
check of the schedule.
-/
theorem meetingsHaveLength_of_differentSeconds (prints : chrono.PrintsSeconds wholeSecond)
    {actions : List (Nat × MeetingMove Instant)} {last : MeetingRequests}
    (differ : Allowed (step chrono) (DifferentSeconds chrono wholeSecond) start actions)
    (ran : run (step chrono) start actions = some last)
    : last.shared.store.MeetingsHaveLength chrono wholeSecond
        ∧ ∀ meetingId bundle, MeetingService.get last.shared.store meetingId = .ok bundle →
          ∀ patch : MeetingPatch, patch.startsAt = none → patch.endsAt = none →
            ((MeetingService.update chrono bundle patch).exec last.shared.store).1
              ≠ .error .endBeforeStart := by
  let invariant (requests : MeetingRequests) : Prop :=
    requests.shared.store.MeetingsHaveLength chrono wholeSecond
      ∧ ∀ index, (requests.tasks index).HoldsLength chrono wholeSecond
  have lengths : invariant last := by
    refine @run_preserves_of_allowed _ _ (step chrono) (DifferentSeconds chrono wholeSecond)
      invariant ?_ _ _ _ ?_ differ ran
    · rintro requests ⟨index, move⟩ next holds accepted stepped
      obtain ⟨history, task, moved, rfl⟩ := Tasks.step_eq_some.mp stepped
      obtain ⟨stored, held⟩ :=
        MeetingTask.move_meetingsHaveLength prints holds.1 (holds.2 index) accepted moved
      exact ⟨stored, Tasks.forall_withTask _ held holds.2⟩
    · exact ⟨fun _ _ stored => (by cases stored), fun _ => .of_none rfl⟩
  refine ⟨lengths.1, fun meetingId bundle read patch noStart noEnd => ?_⟩
  obtain ⟨meeting, stored, rfl⟩ :=
    Option.map_eq_some_iff.mp (MeetingService.get_eq_ok.mp read)
  exact MeetingService.update_ne_endBeforeStart prints (lengths.1 meetingId meeting stored)
    noStart noEnd _

end MeetingRequests

-----------------------------------------------------------------------------------------
-- A meeting of half a second
-----------------------------------------------------------------------------------------

namespace Huddle

/-- Some timestamps of one day, with the milliseconds of the day. -/
def times : List (String × Int) :=
  [("2026-06-24T10:00:00Z", 36000000), ("2026-06-24T10:00:00.200Z", 36000200),
    ("2026-06-24T10:00:00.700Z", 36000700), ("2026-06-24T10:30:00Z", 37800000)]

def secondOf (millis : Int) : Int := millis / 1000 * 1000

/-- A clock that knows these times, and prints them to the second. -/
def clock : Chrono Int where
  parseFromRfc3339 text := (times.find? fun time => time.1 = text).map fun time => time.2
  toRfc3339 millis :=
    match times.find? fun time => time.2 = secondOf millis with
    | some time => time.1
    | none => ""
  minusMinutes millis offset := millis - offset * 60000
  isBefore first second := first < second

/-- What the clock prints is one of its times, or nothing. -/
theorem toRfc3339_cases (millis : Int)
    : (clock.toRfc3339 millis, secondOf millis) ∈ times ∨ clock.toRfc3339 millis = "" := by
  simp only [clock]
  split
  · next time found =>
      have same := List.find?_some found
      rw [← of_decide_eq_true same]
      exact .inl (List.mem_of_find?_eq_some found)
  · exact .inr rfl

/-- The times that the clock knows are printed as they are read. -/
theorem texts_read
    : ∀ time ∈ times, Text.trim time.1 = time.1
        ∧ clock.parseFromRfc3339 time.1 = some time.2 := by
  decide +kernel

theorem prints : clock.PrintsSeconds secondOf where
  isBefore_iff _ _ := decide_eq_true_iff
  monotone first second earlier := by
    rw [secondOf, secondOf]
    omega
  idempotent millis := by
    rw [secondOf, secondOf]
    omega
  trimmed millis := by
    rcases toRfc3339_cases millis with known | unknown
    · exact (texts_read _ known).1
    · rw [unknown]
      rfl
  readBack millis read parsed := by
    rcases toRfc3339_cases millis with known | unknown
    · exact Option.some.inj (parsed.symm.trans (texts_read _ known).2)
    · rw [unknown] at parsed
      cases parsed

def meetingId : Uuid := .ofNat 75

def input (startsAt endsAt : String) : NewMeeting where
  organizationId := .ofNat 10
  spaceId := none
  channelId := none
  createdByUserId := .ofNat 1
  title := "Huddle"
  description := none
  startsAt := startsAt
  endsAt := endsAt
  timezone := none
  attendees := []
  reminders := []

/-- A patch of the title. -/
def rename : MeetingPatch := ⟨some "Quick huddle", none, none, none, none⟩

/-- A meeting of about half an hour is renamed. -/
def planned : List (Nat × MeetingMove Int) :=
  [(0, .create meetingId (input "2026-06-24T10:00:00.700Z" "2026-06-24T10:30:00Z")),
    (1, .read meetingId), (1, .update rename)]

/-- A meeting of half a second. -/
def brief : List (Nat × MeetingMove Int) :=
  [(0, .create meetingId (input "2026-06-24T10:00:00.200Z" "2026-06-24T10:00:00.700Z"))]

end Huddle

namespace MeetingRequests

open Huddle in
theorem planned_haveLength
    : ∃ last, run (step clock) start planned = some last
        ∧ (∃ meeting ∈ last.shared.store.meetingsById.lookup meetingId,
          meeting.title = "Quick huddle" ∧ meeting.startsAt = "2026-06-24T10:00:00Z")
        ∧ last.shared.store.MeetingsHaveLength clock secondOf := by
  have differ : Allowed (step clock) (DifferentSeconds clock secondOf) start planned := by
    decide +kernel
  exact ⟨_, rfl, by decide +kernel,
    (meetingsHaveLength_of_differentSeconds prints differ rfl).1⟩

open Huddle in
/-- A meeting of half a second is stored without length, and cannot be renamed. -/
theorem brief_noLength
    : ∃ last, run (step clock) start brief = some last
        ∧ (∃ meeting ∈ last.shared.store.meetingsById.lookup meetingId,
          meeting.startsAt = meeting.endsAt ∧ ¬ meeting.HasLength clock secondOf)
        ∧ ∃ bundle ∈ (MeetingService.get last.shared.store meetingId).toOption,
          ((MeetingService.update clock bundle rename).exec last.shared.store).1
            = .error .endBeforeStart := by
  have facts : (run (step clock) start brief).any fun last =>
      (∃ meeting ∈ last.shared.store.meetingsById.lookup meetingId,
        meeting.startsAt = "2026-06-24T10:00:00Z" ∧ meeting.endsAt = "2026-06-24T10:00:00Z")
        ∧ ∃ bundle ∈ (MeetingService.get last.shared.store meetingId).toOption,
          ((MeetingService.update clock bundle rename).exec last.shared.store).1
            = .error .endBeforeStart := by
    decide +kernel
  obtain ⟨last, ran, facts⟩ := (Option.any_eq_true _ _).mp facts
  obtain ⟨⟨meeting, stored, starts, ends⟩, rejected⟩ := of_decide_eq_true facts
  refine ⟨last, ran, ⟨meeting, stored, starts.trans ends.symm, ?_⟩, rejected⟩
  rintro ⟨startsAt, endsAt, startText, endText, later⟩
  rw [starts] at startText
  rw [ends] at endText
  have start := (toRfc3339_cases startsAt).resolve_right (by rw [← startText]; decide)
  have stop := (toRfc3339_cases endsAt).resolve_right (by rw [← endText]; decide)
  rw [← startText] at start
  rw [← endText] at stop
  simp [times] at start stop
  omega

end MeetingRequests

end OpenCord.Meetings

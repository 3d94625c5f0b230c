import OpenCord.Library.Text
import OpenCord.Meetings.Meeting

/-! The service over the meetings: creating, patching and cancelling them, and the controller's
way to a media token.
-/

namespace OpenCord.Meetings

open OpenCord.Library OpenCord.Platform

/-- What the meetings use of the calendar library: instants of time, read from and printed as
timestamps, to the second.
-/
structure Chrono (Instant : Type) where
  parseFromRfc3339 : String → Option Instant
  toRfc3339 : Instant → String
  minusMinutes : Instant → Int → Instant
  isBefore : Instant → Instant → Bool

structure MeetingPatch where
  title : Option String
  description : Option String
  startsAt : Option String
  endsAt : Option String
  timezone : Option String

structure NewMeetingAttendee where
  userId : Option Uuid
  email : Option String
  displayName : Option String
  role : Option String

structure NewMeetingReminder where
  recipientUserId : Option Uuid
  recipientEmail : Option String
  channel : String
  offsetMinutes : Int

structure NewMeeting where
  organizationId : Uuid
  spaceId : Option Uuid
  channelId : Option Uuid
  createdByUserId : Uuid
  title : String
  description : Option String
  startsAt : String
  endsAt : String
  timezone : Option String
  /-- The attendees with the identifiers drawn for them. -/
  attendees : List (Uuid × NewMeetingAttendee)
  /-- The reminders with the identifiers drawn for them. -/
  reminders : List (Uuid × NewMeetingReminder)

namespace MeetingService

def normalizeTitle (title : String) : Except MeetingError String :=
  let title := Text.collapseWhitespace title
  if 1 ≤ title.utf8ByteSize ∧ title.utf8ByteSize ≤ 200 then
    .ok title
  else
    .error (.invalidInput "meeting title must be between 1 and 200 characters")

def normalizeDescription : Option String → Except MeetingError (Option String)
  | none => .ok none
  | some description =>
      let description := Text.collapseWhitespace description
      if 4000 < description.utf8ByteSize then
        .error (.invalidInput "meeting description must be 4000 characters or fewer")
      else if description = "" then
        .ok none
      else
        .ok (some description)

def normalizeTimezone (timezone : Option String) : Except MeetingError String :=
  let timezone := Text.trim (timezone.getD "UTC")
  if 1 ≤ timezone.utf8ByteSize ∧ timezone.utf8ByteSize ≤ 64 then
    .ok timezone
  else
    .error (.invalidInput "meeting timezone must be between 1 and 64 characters")

def normalizeEmail (email : String) : Except MeetingError String :=
  let email := Text.toAsciiLowercase (Text.trim email)
  if Text.containsChar email '@' ∧ email.utf8ByteSize ≤ 254 then
    .ok email
  else
    .error (.invalidInput "meeting email must be a valid email address")

/-- A text that is one of a few once it is trimmed and lowercased. -/
def normalizeChoice (choices : List String) (message : String) (value : String)
    : Except MeetingError String :=
  let value := Text.toAsciiLowercase (Text.trim value)
  if value ∈ choices then .ok value else .error (.invalidInput message)

def normalizeAttendeeRole (role : Option String) : Except MeetingError String :=
  normalizeChoice ["host", "required", "optional"]
    "meeting attendee role must be host, required, or optional" (role.getD "required")

def normalizeReminderChannel (channel : String) : Except MeetingError String :=
  normalizeChoice ["in_app", "push", "email"]
    "meeting reminder channel must be in_app, push, or email" channel

def normalizeAttendee (meetingId attendeeId : Uuid) (attendee : NewMeetingAttendee)
    : Except MeetingError MeetingAttendee := do
  let email ← attendee.email.mapM normalizeEmail
  if attendee.userId = none ∧ email = none then
    throw (.invalidInput "meeting attendee requires user_id or email")
  else
    let displayName ← normalizeDescription attendee.displayName
    let role ← normalizeAttendeeRole attendee.role
    return ⟨attendeeId, meetingId, attendee.userId, email, displayName, role, "needs_action"⟩

section Times

variable {Instant : Type} (chrono : Chrono Instant)

def parseTime (value message : String) : Except MeetingError Instant :=
  match chrono.parseFromRfc3339 (Text.trim value) with
  | some time => .ok time
  | none => .error (.invalidInput message)

def parseStartsAt (startsAt : String) : Except MeetingError Instant :=
  parseTime chrono startsAt "meeting starts_at must be an RFC3339 timestamp"

def parseEndsAt (endsAt : String) : Except MeetingError Instant :=
  parseTime chrono endsAt "meeting ends_at must be an RFC3339 timestamp"

def validateSchedule (startsAt endsAt : Instant) : Except MeetingError Unit :=
  if chrono.isBefore startsAt endsAt then
    .ok ()
  else
    .error (.invalidInput "meeting end time must be after start time")

/-- The time of a reminder is taken from the start of the meeting as it is created. -/
def normalizeReminder (meetingId : Uuid) (startsAt : Instant) (reminderId : Uuid)
    (reminder : NewMeetingReminder) : Except MeetingError MeetingReminder := do
  let recipientEmail ← reminder.recipientEmail.mapM normalizeEmail
  if reminder.recipientUserId = none ∧ recipientEmail = none then
    throw (.invalidInput "meeting reminder requires recipient_user_id or recipient_email")
  else if reminder.offsetMinutes < 0 then
    throw (.invalidInput "meeting reminder offset_minutes must be greater than or equal to 0")
  else
    let channel ← normalizeReminderChannel reminder.channel
    return ⟨reminderId, meetingId, reminder.recipientUserId, recipientEmail, channel,
      reminder.offsetMinutes,
      chrono.toRfc3339 (chrono.minusMinutes startsAt reminder.offsetMinutes), "pending"⟩

/-- A new meeting under a drawn identifier. -/
def newBundle (meetingId : Uuid) (input : NewMeeting) : Except MeetingError MeetingBundle := do
  let startsAt ← parseStartsAt chrono input.startsAt
  let endsAt ← parseEndsAt chrono input.endsAt
  validateSchedule chrono startsAt endsAt
  let title ← normalizeTitle input.title
  let description ← normalizeDescription input.description
  let timezone ← normalizeTimezone input.timezone
  let attendees ← input.attendees.mapM fun attendee =>
    normalizeAttendee meetingId attendee.1 attendee.2
  let reminders ← input.reminders.mapM fun reminder =>
    normalizeReminder chrono meetingId startsAt reminder.1 reminder.2
  return ⟨⟨meetingId, input.organizationId, input.spaceId, input.channelId,
    input.createdByUserId, title, description, "scheduled", chrono.toRfc3339 startsAt,
    chrono.toRfc3339 endsAt, timezone, "mtg-" ++ meetingId.simple, none⟩, attendees, reminders⟩

def create (meetingId : Uuid) (input : NewMeeting)
    : Eff MeetingStore MeetingError MeetingBundle := do
  let bundle ← newBundle chrono meetingId input
  MeetingStore.createMeeting bundle
  return bundle

def get (store : MeetingStore) (meetingId : Uuid) : Except MeetingError MeetingBundle :=
  match store.getMeeting meetingId with
  | some bundle => .ok bundle
  | none => .error .notFound

/-- The normalized new value of a field, or the stored one where there is none. -/
def patchField {α β : Type} (normalize : α → Except MeetingError β) (stored : β)
    : Option α → Except MeetingError β
  | some value => normalize value
  | none => .ok stored

/-- The record with the patched fields; the times are read and printed again. -/
def patched (meeting : Meeting) (patch : MeetingPatch) : Except MeetingError Meeting := do
  let title ← patchField normalizeTitle meeting.title patch.title
  let description ← patchField (fun description => normalizeDescription (some description))
    meeting.description patch.description
  let timezone ← patchField (fun timezone => normalizeTimezone (some timezone))
    meeting.timezone patch.timezone
  let startsAt ← parseStartsAt chrono (patch.startsAt.getD meeting.startsAt)
  let endsAt ← parseEndsAt chrono (patch.endsAt.getD meeting.endsAt)
  validateSchedule chrono startsAt endsAt
  return { meeting with
    title := title
    description := description
    timezone := timezone
    startsAt := chrono.toRfc3339 startsAt
    endsAt := chrono.toRfc3339 endsAt }

def update (bundle : MeetingBundle) (patch : MeetingPatch)
    : Eff MeetingStore MeetingError MeetingBundle := do
  let meeting ← patched chrono bundle.meeting patch
  MeetingStore.updateMeeting meeting

/-- The record of a meeting that is cancelled now. -/
def cancelled (now : Instant) (meeting : Meeting) : Meeting :=
  { meeting with status := "cancelled", cancelledAt := some (chrono.toRfc3339 now) }

def cancel (now : Instant) (bundle : MeetingBundle)
    : Eff MeetingStore MeetingError MeetingBundle :=
  MeetingStore.updateMeeting (cancelled chrono now bundle.meeting)

end Times

end MeetingService

inductive MediaError where
  | invalidInput (message : String)
  | signingFailed

inductive MeetingApiError where
  | meeting (error : MeetingError)
  | media (error : MediaError)
  | denied

namespace MeetingController

/-- A media token for a meeting, with the caller's permissions and the signing of the token as
parameters.
-/
def createMediaToken {MediaRoomToken : Type}
    (requireRead enforcePermissions : MeetingBundle → Except MeetingApiError Unit)
    (issueRoomToken : MeetingBundle → Except MediaError MediaRoomToken)
    (store : MeetingStore) (meetingId : Uuid) : Except MeetingApiError MediaRoomToken := do
  let meeting ← (MeetingService.get store meetingId).mapError .meeting
  requireRead meeting
  if meeting.meeting.status ≠ "scheduled" then
    throw (.media
      (.invalidInput "meeting media is unavailable for cancelled meetings"))
  else
    enforcePermissions meeting
    (issueRoomToken meeting).mapError .media

end MeetingController

-----------------------------------------------------------------------------------------
-- What a successful check says
-----------------------------------------------------------------------------------------

namespace MeetingService

theorem get_eq_ok {store : MeetingStore} {meetingId : Uuid} {bundle : MeetingBundle}
    : get store meetingId = .ok bundle ↔ store.getMeeting meetingId = some bundle := by
  rw [get]
  split
  · next found => rw [found, Except.ok.injEq, Option.some.injEq]
  · next missing => rw [missing]; exact ⟨nofun, nofun⟩

variable {Instant : Type} {chrono : Chrono Instant}

/-- A new reminder belongs to its meeting, and waits for the time before its start. -/
theorem normalizeReminder_eq_ok {meetingId reminderId : Uuid} {startsAt : Instant}
    {input : NewMeetingReminder} {reminder : MeetingReminder}
    (valid : normalizeReminder chrono meetingId startsAt reminderId input = .ok reminder)
    : reminder.meetingId = meetingId
        ∧ reminder.scheduledFor
          = chrono.toRfc3339 (chrono.minusMinutes startsAt reminder.offsetMinutes) := by
  obtain ⟨_, _, valid⟩ := Eff.check_bind_eq_ok.mp valid
  split at valid
  · cases valid
  split at valid
  · cases valid
  · obtain ⟨_, _, valid⟩ := Eff.check_bind_eq_ok.mp valid
    cases valid
    exact ⟨rfl, rfl⟩

/-- A new meeting is stored under its identifier, is not cancelled, and its reminders wait for
the time before its start.
-/
theorem newBundle_eq_ok {meetingId : Uuid} {input : NewMeeting} {bundle : MeetingBundle}
    (valid : newBundle chrono meetingId input = .ok bundle)
    : bundle.meeting.id = meetingId
        ∧ ∃ startsAt, bundle.meeting.startsAt = chrono.toRfc3339 startsAt
          ∧ ∀ reminder ∈ bundle.reminders, reminder.meetingId = meetingId
            ∧ reminder.scheduledFor
              = chrono.toRfc3339 (chrono.minusMinutes startsAt reminder.offsetMinutes) := by
  obtain ⟨startsAt, _, valid⟩ := Eff.check_bind_eq_ok.mp valid
  obtain ⟨_, _, valid⟩ := Eff.check_bind_eq_ok.mp valid
  obtain ⟨_, _, valid⟩ := Eff.check_bind_eq_ok.mp valid
  obtain ⟨_, _, valid⟩ := Eff.check_bind_eq_ok.mp valid
  obtain ⟨_, _, valid⟩ := Eff.check_bind_eq_ok.mp valid
  obtain ⟨_, _, valid⟩ := Eff.check_bind_eq_ok.mp valid
  obtain ⟨_, _, valid⟩ := Eff.check_bind_eq_ok.mp valid
  obtain ⟨reminders, built, valid⟩ := Eff.check_bind_eq_ok.mp valid
  cases valid
  refine ⟨rfl, startsAt, rfl, fun reminder listed => ?_⟩
  obtain ⟨input, _, normalized⟩ := (Eff.mem_iff_of_mapM built).mp listed
  exact normalizeReminder_eq_ok normalized

/-- A patch changes neither the identity nor the cancellation of a meeting, and its start is
the one that is asked for.
-/
theorem patched_eq_ok {meeting written : Meeting} {patch : MeetingPatch}
    (valid : patched chrono meeting patch = .ok written)
    : written.id = meeting.id ∧ written.status = meeting.status
        ∧ written.cancelledAt = meeting.cancelledAt
        ∧ ∃ startsAt,
          parseStartsAt chrono (patch.startsAt.getD meeting.startsAt) = .ok startsAt
            ∧ written.startsAt = chrono.toRfc3339 startsAt := by
  obtain ⟨_, _, valid⟩ := Eff.check_bind_eq_ok.mp valid
  obtain ⟨_, _, valid⟩ := Eff.check_bind_eq_ok.mp valid
  obtain ⟨_, _, valid⟩ := Eff.check_bind_eq_ok.mp valid
  obtain ⟨startsAt, parsed, valid⟩ := Eff.check_bind_eq_ok.mp valid
  obtain ⟨_, _, valid⟩ := Eff.check_bind_eq_ok.mp valid
  obtain ⟨_, _, valid⟩ := Eff.check_bind_eq_ok.mp valid
  cases valid
  exact ⟨rfl, rfl, rfl, startsAt, parsed, rfl⟩

end MeetingService

end OpenCord.Meetings

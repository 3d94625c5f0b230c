import OpenCord.Library.ContentLines
import OpenCord.Meetings.Service

/-! Calendar invites: the meeting as one event, a content line for each property. -/

namespace OpenCord.Meetings

open OpenCord.Library OpenCord.Platform

namespace Invite

/-- The text with each of some characters replaced. -/
def replaceChars (replaced : List Char) (replacement text : String) : String :=
  String.ofList (text.toList.flatMap fun character =>
    if character ∈ replaced then replacement.toList else [character])

/-- The text with each pair of a carriage return and a line feed replaced. -/
def replaceCrLf (replacement text : String) : String :=
  String.ofList (replacement.toList.intercalate (ContentLines.splitCrLf text.toList))

def escapeText (value : String) : String :=
  let value := replaceChars ['\\'] "\\\\" value
  let value := replaceChars [';'] "\\;" value
  let value := replaceChars [','] "\\," value
  let value := replaceCrLf "\\n" value
  replaceChars ['\n', '\r'] "\\n" value

/-- The characters between the quotes of a parameter. -/
def escapeQuoted (value : String) : String :=
  let value := replaceChars ['\\'] "\\\\" value
  let value := replaceChars ['"'] "\\\"" value
  replaceChars ['\r', '\n'] " " value

def escapeParameter (value : String) : String := "\"" ++ escapeQuoted value ++ "\""

def joinUrl (publicUrl joinSlug : String) : String :=
  let publicUrl := Text.trimEndMatches publicUrl '/'
  if publicUrl = "" then "/join/" ++ joinSlug else publicUrl ++ "/join/" ++ joinSlug

def attendeeRole (role : String) : String :=
  if role = "host" then "CHAIR"
  else if role = "optional" then "OPT-PARTICIPANT"
  else "REQ-PARTICIPANT"

def commonName (attendee : MeetingAttendee) (email : String) : String :=
  attendee.displayName.getD email

def attendeeLine (attendee : MeetingAttendee) (email : String) : String :=
  "ATTENDEE;ROLE=" ++ attendeeRole attendee.role ++ ";CN="
    ++ escapeParameter (commonName attendee email) ++ ":mailto:" ++ email

/-- The attendees that have an email, with it. -/
def withEmail (attendees : List MeetingAttendee) : List (MeetingAttendee × String) :=
  attendees.filterMap fun attendee => attendee.email.map fun email => (attendee, email)

section Times

variable {Instant : Type} (chrono : Chrono Instant) (formatIcsTime : Instant → String)

def meetingTime (value message : String) : Except MeetingError String :=
  match chrono.parseFromRfc3339 value with
  | some time => .ok (formatIcsTime time)
  | none => .error (.invalidInput message)

def description (meeting : Meeting) (joinUrl : String) : String :=
  match meeting.description with
  | some description => description ++ "\n\nJoin: " ++ joinUrl
  | none => "Join: " ++ joinUrl

/-- The lines before the attendees, with the times as they are printed. -/
def headLines (meeting : Meeting) (joinUrl stamp startsAt endsAt : String) : List String :=
  ["BEGIN:VCALENDAR", "VERSION:2.0", "PRODID:-//OpenCord//OpenCord Calendar//EN",
    "CALSCALE:GREGORIAN", "METHOD:PUBLISH", "BEGIN:VEVENT",
    "UID:" ++ meeting.id.toString ++ "@opencord",
    "DTSTAMP:" ++ stamp,
    "DTSTART:" ++ startsAt,
    "DTEND:" ++ endsAt,
    "SUMMARY:" ++ escapeText meeting.title,
    "DESCRIPTION:" ++ escapeText (description meeting joinUrl),
    "LOCATION:" ++ escapeText joinUrl,
    "URL:" ++ joinUrl,
    "STATUS:" ++ if meeting.status = "cancelled" then "CANCELLED" else "CONFIRMED"]

def meetingInviteIcs (bundle : MeetingBundle) (publicUrl : String) (generatedAt : Instant)
    : Except MeetingError String := do
  let joinUrl := joinUrl publicUrl bundle.meeting.joinSlug
  let startsAt ← meetingTime chrono formatIcsTime bundle.meeting.startsAt
    "meeting starts_at is invalid"
  let endsAt ← meetingTime chrono formatIcsTime bundle.meeting.endsAt "meeting ends_at is invalid"
  let lines := headLines bundle.meeting joinUrl (formatIcsTime generatedAt) startsAt endsAt
    ++ (withEmail bundle.attendees).map (fun attendee => attendeeLine attendee.1 attendee.2)
    ++ ["END:VEVENT", "END:VCALENDAR"]
  return "\r\n".intercalate lines ++ "\r\n"

end Times

end Invite

end OpenCord.Meetings

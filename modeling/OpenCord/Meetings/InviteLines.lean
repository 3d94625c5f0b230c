import OpenCord.Meetings.Invites
import OpenCord.Meetings.Requests

/-! The lines of a calendar invite. Every field goes through its own cleaning when a meeting is
created and through an escape when the invite is written; emails keep what is inside them, and
quotes are escaped where the format knows no escape.
-/

namespace OpenCord.Meetings.Invite

open OpenCord.Library OpenCord.Platform OpenCord.Library.ContentLines

/-- A character of the Unicode category `Cc`. -/
def IsControl (character : Char) : Prop :=
  character.toNat < 32 ∨ 127 ≤ character.toNat ∧ character.toNat ≤ 159

instance (character : Char) : Decidable (IsControl character) :=
  inferInstanceAs (Decidable (_ ∨ _ ∧ _))

/-- The parts of a text between its line ends. -/
def contentLines (text : String) : List String := (splitCrLf text.toList).map String.ofList

def fixedLines : List String :=
  ["BEGIN:VCALENDAR", "VERSION:2.0", "PRODID:-//OpenCord//OpenCord Calendar//EN",
    "CALSCALE:GREGORIAN", "METHOD:PUBLISH", "BEGIN:VEVENT"]

def valuedProperties : List String :=
  ["UID:", "DTSTAMP:", "DTSTART:", "DTEND:", "SUMMARY:", "DESCRIPTION:", "LOCATION:", "URL:",
    "STATUS:"]

def endingLines : List String := ["END:VEVENT", "END:VCALENDAR"]

/-- The fifteen lines before the attendees. -/
def IsHead (lines : List String) : Prop :=
  ∃ valued, lines = fixedLines ++ valued
    ∧ List.Forall₂ (fun property line => ∃ value, line = property ++ value) valuedProperties valued

/-- The line of an attendee with an email, whose common name is one quoted string. -/
def IsAttendee (attendee : MeetingAttendee × String) (line : String) : Prop :=
  ∃ quoted, '"' ∉ quoted.toList
    ∧ line = "ATTENDEE;ROLE=" ++ attendeeRole attendee.1.role ++ ";CN="
      ++ ("\"" ++ quoted ++ "\"") ++ ":mailto:" ++ attendee.2

/-- A text consists of the lines before the attendees, one line for each attendee with an email
and the ending lines, and no line has a line end in it.
-/
def WellFormed (bundle : MeetingBundle) (text : String) : Prop :=
  ∃ head attendees, contentLines text = head ++ attendees ++ endingLines ++ [""]
    ∧ IsHead head
    ∧ List.Forall₂ IsAttendee (withEmail bundle.attendees) attendees
    ∧ ∀ line ∈ head ++ attendees, OneLine line.toList

/-- No email has a line end in it, and no common name a quote. -/
def CleanAttendees (bundle : MeetingBundle) : Prop :=
  ∀ attendee ∈ withEmail bundle.attendees,
    OneLine attendee.2.toList ∧ '"' ∉ (commonName attendee.1 attendee.2).toList

instance (bundle : MeetingBundle) : Decidable (CleanAttendees bundle) :=
  inferInstanceAs (Decidable (∀ attendee ∈ withEmail bundle.attendees, _))

-----------------------------------------------------------------------------------------
-- Characters of the lines
-----------------------------------------------------------------------------------------

/-- A text has what is not replaced, and the replacement of what is. -/
theorem mem_replaceChars {character : Char} {replaced : List Char} {replacement text : String}
    : character ∈ (replaceChars replaced replacement text).toList
      ↔ character ∈ text.toList ∧ character ∉ replaced
        ∨ (∃ other ∈ text.toList, other ∈ replaced) ∧ character ∈ replacement.toList := by
  rw [replaceChars, String.toList_ofList, List.mem_flatMap]
  constructor
  · intro found
    obtain ⟨other, mem, inside⟩ := found
    split at inside
    · next known => exact .inr ⟨⟨other, mem, known⟩, inside⟩
    · next kept =>
        obtain rfl := List.mem_singleton.mp inside
        exact .inl ⟨mem, kept⟩
  · intro found
    rcases found with ⟨mem, kept⟩ | ⟨⟨other, mem, known⟩, inside⟩
    · refine ⟨character, mem, ?_⟩
      rw [if_neg kept]
      exact List.mem_singleton.mpr rfl
    · refine ⟨other, mem, ?_⟩
      rwa [if_pos known]

theorem oneLine_toList_append {first second : String}
    : OneLine (first ++ second).toList ↔ OneLine first.toList ∧ OneLine second.toList := by
  rw [String.toList_append, oneLine_append]

/-- Where both characters are replaced, no line end is left. -/
theorem oneLine_replaceChars {replaced : List Char} {replacement : String}
    (both : '\r' ∈ replaced ∧ '\n' ∈ replaced) (oneLine : OneLine replacement.toList)
    (text : String)
    : OneLine (replaceChars replaced replacement text).toList := by
  constructor
  · intro mem
    rcases mem_replaceChars.mp mem with ⟨_, kept⟩ | ⟨_, inside⟩
    · exact kept both.1
    · exact oneLine.1 inside
  · intro mem
    rcases mem_replaceChars.mp mem with ⟨_, kept⟩ | ⟨_, inside⟩
    · exact kept both.2
    · exact oneLine.2 inside

theorem oneLine_escapeText (value : String) : OneLine (escapeText value).toList :=
  oneLine_replaceChars (by decide) (by decide) _

theorem oneLine_escapeParameter (value : String) : OneLine (escapeParameter value).toList := by
  rw [escapeParameter, oneLine_toList_append, oneLine_toList_append]
  exact ⟨⟨by decide, oneLine_replaceChars (by decide) (by decide) _⟩, by decide⟩

/-- An escaped quote is still a quote. -/
theorem quote_mem_escapeQuoted {value : String}
    : '"' ∈ (escapeQuoted value).toList ↔ '"' ∈ value.toList := by
  have first : '"' ∈ (replaceChars ['\\'] "\\\\" value).toList ↔ '"' ∈ value.toList := by
    rw [mem_replaceChars]
    simp
  have second (text : String)
      : '"' ∈ (replaceChars ['"'] "\\\"" text).toList ↔ '"' ∈ text.toList := by
    rw [mem_replaceChars]
    simp
  have third (text : String)
      : '"' ∈ (replaceChars ['\r', '\n'] " " text).toList ↔ '"' ∈ text.toList := by
    rw [mem_replaceChars]
    simp
  rw [escapeQuoted, third, second, first]

theorem oneLine_attendeeRole (role : String) : OneLine (attendeeRole role).toList := by
  rw [attendeeRole]
  split_ifs <;> decide

/-- Only the email can put a line end into the line of an attendee. -/
theorem oneLine_attendeeLine {attendee : MeetingAttendee} {email : String}
    : OneLine (attendeeLine attendee email).toList ↔ OneLine email.toList := by
  unfold attendeeLine
  rw [oneLine_toList_append, oneLine_toList_append, oneLine_toList_append,
    oneLine_toList_append, oneLine_toList_append]
  constructor
  · intro line
    exact line.2
  · intro line
    exact ⟨⟨⟨⟨⟨by decide, oneLine_attendeeRole _⟩, by decide +kernel⟩,
      oneLine_escapeParameter _⟩, by decide⟩, line⟩

/-- The line of an attendee has one quoted string exactly where the name has no quote. -/
theorem isAttendee_attendeeLine {attendee : MeetingAttendee} {email : String}
    : IsAttendee (attendee, email) (attendeeLine attendee email)
      ↔ '"' ∉ (commonName attendee email).toList := by
  rw [← quote_mem_escapeQuoted.not]
  unfold attendeeLine escapeParameter
  constructor
  · intro line
    obtain ⟨quoted, noQuote, same⟩ := line
    rw [String.append_left_inj, String.append_left_inj, String.append_right_inj,
      String.append_left_inj, String.append_right_inj] at same
    rwa [same]
  · intro noQuote
    exact ⟨_, noQuote, rfl⟩

/-- The digits of an identifier, by induction over their number. -/
theorem oneLine_digits (width value : Nat) : OneLine (Hex.digits width value) := by
  have digit : ∀ value < 16, OneLine [Hex.digit value] := by decide
  induction width generalizing value with
  | zero => exact .nil
  | succ width ih =>
      rw [Hex.digits, oneLine_append]
      exact ⟨ih _, digit _ (Nat.mod_lt _ (by decide))⟩

theorem oneLine_hexDigits (id : Uuid) : OneLine id.hexDigits := by
  rw [Uuid.hexDigits]
  exact oneLine_digits 32 id.bits.toNat

/-- Parts of a text without line ends have none. -/
theorem OneLine.of_subset {part characters : List Char} (oneLine : OneLine characters)
    (subset : part ⊆ characters)
    : OneLine part :=
  ⟨fun mem => oneLine.1 (subset mem), fun mem => oneLine.2 (subset mem)⟩

theorem hyphenate_subset (digits : List Char) : Uuid.hyphenate digits ⊆ '-' :: digits := by
  intro character mem
  simp only [Uuid.hyphenate, List.mem_append, List.mem_cons] at mem
  rw [List.mem_cons]
  rcases mem with (((mem | same | mem) | same | mem) | same | mem) | same | mem
  · exact .inr (List.mem_of_mem_take mem)
  · exact .inl same
  · exact .inr (List.mem_of_mem_drop (List.mem_of_mem_take mem))
  · exact .inl same
  · exact .inr (List.mem_of_mem_drop (List.mem_of_mem_take mem))
  · exact .inl same
  · exact .inr (List.mem_of_mem_drop (List.mem_of_mem_take mem))
  · exact .inl same
  · exact .inr (List.mem_of_mem_drop mem)

theorem oneLine_uuid (id : Uuid) : OneLine id.toString.toList := by
  rw [Uuid.toString, String.toList_ofList]
  refine OneLine.of_subset ?_ (hyphenate_subset id.hexDigits)
  rw [← List.singleton_append, oneLine_append]
  exact ⟨by decide, oneLine_hexDigits id⟩

/-- The public address ends where the path starts, and has no line end. -/
theorem oneLine_joinUrl {publicUrl joinSlug : String}
    (clean : ∀ character ∈ publicUrl.toList, ¬ IsControl character)
    (slug : OneLine joinSlug.toList)
    : OneLine (joinUrl publicUrl joinSlug).toList := by
  have address : OneLine publicUrl.toList :=
    ⟨fun mem => clean _ mem (.inl (by decide)), fun mem => clean _ mem (.inl (by decide))⟩
  have path : OneLine "/join/".toList := by decide
  have trimmed : OneLine (Text.trimEndMatches publicUrl '/').toList := by
    rw [Text.trimEndMatches, String.toList_ofList]
    exact OneLine.of_subset address fun _ mem => (List.rdropWhile_prefix ..).subset mem
  rw [joinUrl]
  split
  · exact oneLine_toList_append.mpr ⟨path, slug⟩
  · exact oneLine_toList_append.mpr ⟨oneLine_toList_append.mpr ⟨trimmed, path⟩, slug⟩

section Times

variable {Instant : Type} {chrono : Chrono Instant} {formatIcsTime : Instant → String}

theorem joinSlug_of_newBundle {meetingId : Uuid} {input : NewMeeting} {bundle : MeetingBundle}
    (created : MeetingService.newBundle chrono meetingId input = .ok bundle)
    : bundle.meeting.joinSlug = "mtg-" ++ meetingId.simple := by
  obtain ⟨_, _, created⟩ := Eff.check_bind_eq_ok.mp created
  obtain ⟨_, _, created⟩ := Eff.check_bind_eq_ok.mp created
  obtain ⟨_, _, created⟩ := Eff.check_bind_eq_ok.mp created
  obtain ⟨_, _, created⟩ := Eff.check_bind_eq_ok.mp created
  obtain ⟨_, _, created⟩ := Eff.check_bind_eq_ok.mp created
  obtain ⟨_, _, created⟩ := Eff.check_bind_eq_ok.mp created
  obtain ⟨_, _, created⟩ := Eff.check_bind_eq_ok.mp created
  obtain ⟨_, _, created⟩ := Eff.check_bind_eq_ok.mp created
  cases created
  rfl

/-- The lines before the attendees are those of an invite, whatever the meeting holds. -/
theorem isHead_headLines (meeting : Meeting) (joinUrl stamp startsAt endsAt : String)
    : IsHead (headLines meeting joinUrl stamp startsAt endsAt) := by
  refine ⟨(headLines meeting joinUrl stamp startsAt endsAt).drop 6, rfl, ?_⟩
  refine .cons ⟨_, String.append_assoc ..⟩ (.cons ⟨_, rfl⟩ (.cons ⟨_, rfl⟩ (.cons ⟨_, rfl⟩ ?_)))
  exact .cons ⟨_, rfl⟩ (.cons ⟨_, rfl⟩ (.cons ⟨_, rfl⟩ (.cons ⟨_, rfl⟩ (.cons ⟨_, rfl⟩ .nil))))

/-- Escaped texts, and texts without line ends, make lines without line ends. -/
theorem oneLine_headLines (meeting : Meeting) {joinUrl stamp startsAt endsAt : String}
    (url : OneLine joinUrl.toList) (stamped : OneLine stamp.toList)
    (starts : OneLine startsAt.toList) (ends : OneLine endsAt.toList)
    : ∀ line ∈ headLines meeting joinUrl stamp startsAt endsAt, OneLine line.toList := by
  have fixed : ∀ line ∈ fixedLines, OneLine line.toList := by decide
  have properties : ∀ property ∈ valuedProperties, OneLine property.toList := by decide
  have valued {property value : String} (known : property ∈ valuedProperties)
      (oneLine : OneLine value.toList)
      : OneLine (property ++ value).toList :=
    oneLine_toList_append.mpr ⟨properties property known, oneLine⟩
  have status : OneLine
      (if meeting.status = "cancelled" then "CANCELLED" else "CONFIRMED").toList := by
    split <;> decide
  have uid : OneLine ("UID:" ++ meeting.id.toString ++ "@opencord").toList :=
    oneLine_toList_append.mpr
      ⟨valued (by simp [valuedProperties]) (oneLine_uuid _), by decide⟩
  have parts : headLines meeting joinUrl stamp startsAt endsAt
      = fixedLines ++ (headLines meeting joinUrl stamp startsAt endsAt).drop 6 := rfl
  rw [parts, List.forall_mem_append]
  refine ⟨fixed, ?_⟩
  unfold headLines
  simp only [List.drop_succ_cons, List.drop_zero, List.forall_mem_cons]
  have known : ∀ property ∈ valuedProperties, property ∈ valuedProperties := fun _ listed => listed
  simp only [valuedProperties, List.forall_mem_cons] at known
  obtain ⟨_, stampProperty, startProperty, endProperty, summary, description, location,
    urlProperty, statusProperty, _⟩ := known
  exact ⟨uid, valued stampProperty stamped, valued startProperty starts, valued endProperty ends,
    valued summary (oneLine_escapeText _), valued description (oneLine_escapeText _),
    valued location (oneLine_escapeText _), valued urlProperty url, valued statusProperty status,
    fun _ none => absurd none List.not_mem_nil⟩

/-- The text of the lines before the attendees, of the lines of the attendees and of the ending
lines.
-/
def inviteText (bundle : MeetingBundle) (head : List String) : List Char :=
  endLines ((head
    ++ (withEmail bundle.attendees).map (fun attendee => attendeeLine attendee.1 attendee.2)
    ++ endingLines).map String.toList)

/-- The text of an invite is its lines with their ends. -/
theorem toList_of_meetingInviteIcs {bundle : MeetingBundle} {publicUrl : String}
    {generatedAt : Instant} {text : String}
    (written : meetingInviteIcs chrono formatIcsTime bundle publicUrl generatedAt = .ok text)
    : ∃ startsAt endsAt, text.toList = inviteText bundle
        (headLines bundle.meeting (joinUrl publicUrl bundle.meeting.joinSlug)
          (formatIcsTime generatedAt) (formatIcsTime startsAt) (formatIcsTime endsAt)) := by
  have parsed {value message time : String}
      (found : meetingTime chrono formatIcsTime value message = .ok time)
      : ∃ instant, time = formatIcsTime instant := by
    rw [meetingTime] at found
    split at found
    · cases found
      exact ⟨_, rfl⟩
    · cases found
  obtain ⟨startsText, starts, written⟩ := Eff.check_bind_eq_ok.mp written
  obtain ⟨endsText, ends, written⟩ := Eff.check_bind_eq_ok.mp written
  obtain ⟨startsAt, rfl⟩ := parsed starts
  obtain ⟨endsAt, rfl⟩ := parsed ends
  refine ⟨startsAt, endsAt, ?_⟩
  obtain rfl := Except.ok.inj written
  have crLfText : "\r\n".toList = crLf := by decide
  rw [String.toList_append, String.toList_intercalate, crLfText, intercalate_append_crLf]
  · rfl
  · simp [headLines]

theorem contentLines_eq_concat {text : String} {lines : List String}
    : contentLines text = lines ++ [""]
      ↔ splitCrLf text.toList = lines.map String.toList ++ [[]] := by
  have back : String.ofList ∘ String.toList = id := funext fun _ => String.ofList_toList
  have forth : String.toList ∘ String.ofList = id := funext fun _ => String.toList_ofList
  constructor
  · intro cut
    have lists := congrArg (List.map String.toList) cut
    rwa [contentLines, List.map_map, forth, List.map_id, List.map_append] at lists
  · intro cut
    rw [contentLines, cut, List.map_append, List.map_map, back, List.map_id]
    rfl

theorem IsHead.length_eq {lines : List String} (isHead : IsHead lines) : lines.length = 15 := by
  obtain ⟨valued, rfl, properties⟩ := isHead
  rw [List.length_append, ← properties.length_eq]
  rfl

theorem oneLine_endingLines : ∀ line ∈ endingLines, OneLine line.toList := by
  decide

/-- Only clean attendees make a text with one line for each. -/
theorem WellFormed.cleanAttendees {bundle : MeetingBundle} {text : String} {head : List String}
    (isHead : IsHead head) (lines : text.toList = inviteText bundle head)
    (wellFormed : WellFormed bundle text)
    : CleanAttendees bundle := by
  obtain ⟨otherHead, attendees, cut, otherIsHead, ofAttendees, oneLine⟩ := wellFormed
  rw [contentLines_eq_concat, lines, inviteText] at cut
  have sameLength := ofAttendees.length_eq
  have lengths : ((otherHead ++ attendees ++ endingLines).map String.toList).length
      = ((head ++ (withEmail bundle.attendees).map
        (fun attendee => attendeeLine attendee.1 attendee.2)
        ++ endingLines).map String.toList).length := by
    simp only [List.length_map, List.length_append, isHead.length_eq, otherIsHead.length_eq,
      sameLength]
  have allOneLine : ∀ line ∈ (otherHead ++ attendees ++ endingLines).map String.toList,
      OneLine line := by
    rw [List.forall_mem_map, List.forall_mem_append]
    exact ⟨oneLine, oneLine_endingLines⟩
  obtain ⟨pieces, same⟩ := (splitCrLf_endLines_iff lengths allOneLine).mp cut
  rw [List.forall_mem_map, List.forall_mem_append, List.forall_mem_append,
    List.forall_mem_map] at pieces
  have same := List.append_cancel_right
    (List.map_injective_iff.mpr (fun _ _ => String.toList_inj.mp) same)
  have sameHead := otherIsHead.length_eq.trans isHead.length_eq.symm
  obtain rfl := (List.append_inj same sameHead).2
  have quoted := List.forall₂_same.mp (List.forall₂_map_right_iff.mp ofAttendees)
  intro attendee listed
  exact ⟨oneLine_attendeeLine.mp (pieces.1.2 attendee listed),
    isAttendee_attendeeLine.mp (quoted attendee listed)⟩

/-- Clean attendees make a text with one line for each. -/
theorem CleanAttendees.wellFormed {bundle : MeetingBundle} {text : String} {head : List String}
    (isHead : IsHead head) (headOneLine : ∀ line ∈ head, OneLine line.toList)
    (lines : text.toList = inviteText bundle head) (clean : CleanAttendees bundle)
    : WellFormed bundle text := by
  have attendeesOneLine : ∀ line ∈ (withEmail bundle.attendees).map
      (fun attendee => attendeeLine attendee.1 attendee.2), OneLine line.toList := by
    rw [List.forall_mem_map]
    exact fun attendee listed => oneLine_attendeeLine.mpr (clean attendee listed).1
  have beforeEnd := List.forall_mem_append.mpr ⟨headOneLine, attendeesOneLine⟩
  refine ⟨head, _, ?_, isHead, ?_, beforeEnd⟩
  · rw [contentLines_eq_concat, lines, inviteText]
    refine splitCrLf_endLines ?_
    rw [List.forall_mem_map, List.forall_mem_append]
    exact ⟨beforeEnd, oneLine_endingLines⟩
  · refine List.forall₂_map_right_iff.mpr (List.forall₂_same.mpr fun attendee listed => ?_)
    exact isAttendee_attendeeLine.mpr (clean attendee listed).2

/-- For every accepted meeting and every public address without control characters, the written
invite has exactly its lines where no email has a line end in it and no common name a quote.
-/
theorem wellFormed_iff (plain : ∀ time, OneLine (formatIcsTime time).toList) {meetingId : Uuid}
    {input : NewMeeting} {bundle : MeetingBundle}
    (created : MeetingService.newBundle chrono meetingId input = .ok bundle) {publicUrl : String}
    (clean : ∀ character ∈ publicUrl.toList, ¬ IsControl character) {generatedAt : Instant}
    {text : String}
    (written : meetingInviteIcs chrono formatIcsTime bundle publicUrl generatedAt = .ok text)
    : WellFormed bundle text ↔ CleanAttendees bundle := by
  obtain ⟨startsAt, endsAt, lines⟩ := toList_of_meetingInviteIcs written
  have digits : OneLine meetingId.simple.toList := by
    rw [Uuid.simple, String.toList_ofList]
    exact oneLine_hexDigits meetingId
  have slug : OneLine bundle.meeting.joinSlug.toList := by
    rw [joinSlug_of_newBundle created, oneLine_toList_append]
    exact ⟨by decide, digits⟩
  have headOneLine := oneLine_headLines bundle.meeting (oneLine_joinUrl clean slug)
    (plain generatedAt) (plain startsAt) (plain endsAt)
  have isHead := isHead_headLines bundle.meeting (joinUrl publicUrl bundle.meeting.joinSlug)
    (formatIcsTime generatedAt) (formatIcsTime startsAt) (formatIcsTime endsAt)
  constructor
  · exact WellFormed.cleanAttendees isHead lines
  · exact CleanAttendees.wellFormed isHead headOneLine lines

end Times

-----------------------------------------------------------------------------------------
-- Invites to an offsite
-----------------------------------------------------------------------------------------

/-- The times of the offsite as calendars print them. -/
def icsTime (minutes : Int) : String :=
  if minutes = 480 then "20260624T080000Z"
  else if minutes = 540 then "20260624T090000Z"
  else "20260624T093000Z"

theorem oneLine_icsTime (minutes : Int) : OneLine (icsTime minutes).toList := by
  rw [icsTime]
  split_ifs <;> decide

def publicUrl : String := "https://chat.example.com/"

/-- The offsite with some guests. -/
def offsiteWith (guests : List NewMeetingAttendee) : NewMeeting :=
  { Offsite.input with attendees := guests.map fun guest => (.ofNat 80, guest) }

/-- A guest with a name of several parts, and a host without an email. -/
def guests : List NewMeetingAttendee :=
  [⟨none, some " Ada@example.com", some "Lovelace,  Ada; guest", none⟩,
    ⟨some (.ofNat 1), none, none, some "host"⟩]

/-- A guest whose email goes on in a line of its own. -/
def intruder : NewMeetingAttendee :=
  ⟨none, some "eve@example.com\r\nlocation:elsewhere", none, none⟩

/-- A guest whose name ends its quotes. -/
def quoter : NewMeetingAttendee := ⟨none, some "eve@example.com", some "Eve\";CUTYPE=ROOM", none⟩

/-- The invite to the offsite with some guests. -/
def written (guests : List NewMeetingAttendee) : Except MeetingError (MeetingBundle × String) := do
  let bundle ← MeetingService.newBundle Offsite.clock Offsite.meetingId (offsiteWith guests)
  let text ← meetingInviteIcs Offsite.clock icsTime bundle publicUrl 480
  return (bundle, text)

theorem created_of_written {guests : List NewMeetingAttendee} {invite : MeetingBundle × String}
    (made : written guests = .ok invite)
    : MeetingService.newBundle Offsite.clock Offsite.meetingId (offsiteWith guests)
          = .ok invite.1
        ∧ meetingInviteIcs Offsite.clock icsTime invite.1 publicUrl 480 = .ok invite.2 := by
  obtain ⟨bundle, created, made⟩ := Eff.check_bind_eq_ok.mp made
  obtain ⟨text, wrote, made⟩ := Eff.check_bind_eq_ok.mp made
  cases made
  exact ⟨created, wrote⟩

theorem guests_wellFormed
    : ∃ invite, written guests = .ok invite ∧ withEmail invite.1.attendees ≠ []
        ∧ WellFormed invite.1 invite.2 := by
  have facts : (written guests).toOption.any fun invite =>
      withEmail invite.1.attendees ≠ [] ∧ CleanAttendees invite.1 := by
    decide
  obtain ⟨invite, made, facts⟩ := (Option.any_eq_true _ _).mp facts
  obtain ⟨invited, cleanAttendees⟩ := of_decide_eq_true facts
  have made := Eff.toOption_eq_some.mp made
  obtain ⟨created, wrote⟩ := created_of_written made
  have clean : ∀ character ∈ publicUrl.toList, ¬ IsControl character :=
    List.all_iff_forall_prop.mp (by decide)
  exact ⟨invite, made, invited,
    (wellFormed_iff oneLine_icsTime created clean wrote).mpr cleanAttendees⟩

/-- An email with line ends, and a name with a quote, are written as they are. -/
theorem intruder_notWellFormed
    : (∃ invite, written [intruder] = .ok invite ∧ ¬ WellFormed invite.1 invite.2)
      ∧ ∃ invite, written [quoter] = .ok invite ∧ ¬ WellFormed invite.1 invite.2 := by
  have notWellFormed {guests : List NewMeetingAttendee}
      (facts : (written guests).toOption.any fun invite => ¬ CleanAttendees invite.1)
      : ∃ invite, written guests = .ok invite ∧ ¬ WellFormed invite.1 invite.2 := by
    obtain ⟨invite, made, facts⟩ := (Option.any_eq_true _ _).mp facts
    have made := Eff.toOption_eq_some.mp made
    obtain ⟨_, wrote⟩ := created_of_written made
    obtain ⟨_, _, lines⟩ := toList_of_meetingInviteIcs wrote
    refine ⟨invite, made, fun wellFormed => of_decide_eq_true facts ?_⟩
    exact wellFormed.cleanAttendees (isHead_headLines ..) lines
  exact ⟨notWellFormed (by decide), notWellFormed (by decide +kernel)⟩

end OpenCord.Meetings.Invite

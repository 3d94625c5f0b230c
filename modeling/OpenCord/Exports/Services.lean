import OpenCord.Attachments.Attachment
import OpenCord.Audit.Store
import OpenCord.Exports.Windows
import OpenCord.Messages.Message

/-! The exports of an organization: its messages with their files, and its audit events. On
canonical times an export holds exactly the records of the window it declares.
-/

namespace OpenCord.Exports

open OpenCord.Library OpenCord.Platform OpenCord.Attachments OpenCord.Audit OpenCord.Messages

-----------------------------------------------------------------------------------------
-- The stores
-----------------------------------------------------------------------------------------

def messageRecord : Recorded Message where
  id message := message.id
  organizationId message := message.organizationId
  createdAt message := message.createdAt

def eventRecord : Recorded AuditEvent where
  id event := event.id
  organizationId event := event.organizationId
  createdAt event := event.createdAt

end OpenCord.Exports

namespace OpenCord.Messages.MessageStore

open OpenCord.Platform OpenCord.Exports

/-- Deleted messages are listed too. -/
def listForOrganizationBetween (store : MessageStore) (organizationId : Uuid)
    (fromTime toTime : String) : List Message :=
  messageRecord.listBetween organizationId fromTime toTime store.messagesById.values

end OpenCord.Messages.MessageStore

namespace OpenCord.Audit.AuditStore

open OpenCord.Platform OpenCord.Exports

def listForOrganizationBetween (store : AuditStore) (organizationId : Uuid)
    (fromTime toTime : String) : List AuditEvent :=
  eventRecord.listBetween organizationId fromTime toTime store.events

end OpenCord.Audit.AuditStore

namespace OpenCord.Exports

open OpenCord.Library OpenCord.Platform OpenCord.Attachments OpenCord.Audit OpenCord.Messages

-----------------------------------------------------------------------------------------
-- The services
-----------------------------------------------------------------------------------------

structure DataExport where
  organizationId : Uuid
  format : String
  fromTime : String
  toTime : String
  messages : List Message
  files : List Attachment

inductive DataExportError where
  | invalidInput (message : String)
  | storeUnavailable

structure AuditExport where
  organizationId : Uuid
  format : String
  fromTime : String
  toTime : String
  auditEvents : List AuditEvent

def DataExportService.windowMessages : WindowMessages where
  fromMessage := "data export from must be RFC3339"
  toMessage := "data export to must be RFC3339"
  orderMessage := "data export from must be before to"

def AuditService.windowMessages : WindowMessages where
  fromMessage := "audit export from must be RFC3339"
  toMessage := "audit export to must be RFC3339"
  orderMessage := "audit export from must be before to"

section Services

variable (chrono : Chrono) (organizationId : Uuid) (asked : Window)

/-- The two stores are read after one another. -/
def DataExportService.exportForOrganization (messages : MessageStore)
    (attachments : AttachmentStore) : Except DataExportError DataExport := do
  let window ← declaredWindow chrono .invalidInput windowMessages asked
  let messages :=
    messages.listForOrganizationBetween organizationId window.fromTime window.toTime
  let files := attachments.listForMessageIds (messages.map fun message => message.id)
  return ⟨organizationId, "json", window.fromTime, window.toTime, messages, files⟩

def AuditService.exportForOrganization (store : AuditStore) : Except AuditError AuditExport := do
  let window ← declaredWindow chrono .invalidInput windowMessages asked
  let auditEvents :=
    store.listForOrganizationBetween organizationId window.fromTime window.toTime
  return ⟨organizationId, "json", window.fromTime, window.toTime, auditEvents⟩

end Services

-----------------------------------------------------------------------------------------
-- Exact exports
-----------------------------------------------------------------------------------------

/-- All stored messages have canonical times. -/
def CanonicalMessages (store : MessageStore) : Prop :=
  ∀ id message, store.messagesById.lookup id = some message → IsCanonical message.createdAt

def CanonicalEvents (store : AuditStore) : Prop :=
  ∀ spaceId events, store.eventsBySpaceId.lookup spaceId = some events →
    ∀ event ∈ events, IsCanonical event.createdAt

/-- An export holds the messages of the organization in the window that it declares, deleted
ones too, and their files.
-/
structure DataExport.IsExact (chrono : Chrono) (organizationId : Uuid) (asked : Window)
    (stored : MessageStore) (attachments : AttachmentStore) (exported : DataExport) : Prop where
  declares : asked.Declares chrono ⟨exported.fromTime, exported.toTime⟩
  organization : exported.organizationId = organizationId
  messages : messageRecord.ListsExactly organizationId ⟨exported.fromTime, exported.toTime⟩
    stored.messagesById.values exported.messages
  once : stored.Keyed → (exported.messages.map fun message => message.id).Nodup
  files : exported.files.Perm (attachments.attachmentsById.values.filter fun attachment =>
    ∃ message ∈ exported.messages, attachment.messageId = some message.id)

/-- An export holds the audit events of the organization in the window that it declares. -/
structure AuditExport.IsExact (chrono : Chrono) (organizationId : Uuid) (asked : Window)
    (store : AuditStore) (exported : AuditExport) : Prop where
  declares : asked.Declares chrono ⟨exported.fromTime, exported.toTime⟩
  organization : exported.organizationId = organizationId
  events : eventRecord.ListsExactly organizationId ⟨exported.fromTime, exported.toTime⟩
    store.events exported.auditEvents

/-- Messages with canonical times are stored one after the other. -/
theorem CanonicalMessages.withMessage {store : MessageStore} (canonical : CanonicalMessages store)
    (message : Message) (written : IsCanonical message.createdAt)
    : CanonicalMessages (store.withMessage message) :=
  Table.forall_insert written canonical

theorem CanonicalEvents.of_mem {store : AuditStore} (canonical : CanonicalEvents store)
    {event : AuditEvent} (stored : event ∈ store.events)
    : IsCanonical event.createdAt := by
  obtain ⟨events, listed, mem⟩ := List.mem_flatten.mp stored
  obtain ⟨spaceId, found⟩ := Table.mem_values.mp listed
  exact canonical spaceId events found event mem

/-- The files are the ones of the exported messages. -/
theorem perm_listForMessageIds (store : AttachmentStore) (messages : List Message)
    : (store.listForMessageIds (messages.map fun message => message.id)).Perm
        (store.attachmentsById.values.filter fun attachment =>
          ∃ message ∈ messages, attachment.messageId = some message.id) := by
  refine (List.perm_insertionSort _ _).trans (.of_eq (List.filter_congr fun attachment _ => ?_))
  rw [Bool.eq_iff_iff, decide_eq_true_iff, Option.any_eq_true]
  constructor
  · intro linked
    obtain ⟨messageId, same, listed⟩ := linked
    obtain ⟨message, mem, rfl⟩ := List.mem_map.mp (of_decide_eq_true listed)
    exact ⟨message, mem, same⟩
  · intro linked
    obtain ⟨message, mem, same⟩ := linked
    exact ⟨message.id, same, decide_eq_true (List.mem_map_of_mem mem)⟩

section Exact

variable {chrono : Chrono} {organizationId : Uuid} {asked : Window}

theorem DataExport.isExact (prints : chrono.PrintsInYears) (inYears : asked.InYears chrono)
    {messages : MessageStore} {attachments : AttachmentStore}
    (canonical : CanonicalMessages messages) {exported : DataExport}
    (done : DataExportService.exportForOrganization chrono organizationId asked messages attachments
      = .ok exported)
    : exported.IsExact chrono organizationId asked messages attachments := by
  obtain ⟨window, declared, done⟩ := Eff.check_bind_eq_ok.mp done
  obtain rfl := Except.ok.inj done
  have declares := declares_of_declaredWindow prints inYears declared
  have exactly : messageRecord.ListsExactly organizationId window messages.messagesById.values
      (messages.listForOrganizationBetween organizationId window.fromTime window.toTime) := by
    refine Recorded.listBetween_listsExactly declares organizationId fun message stored => ?_
    obtain ⟨id, found⟩ := Table.mem_values.mp stored
    exact canonical id message found
  refine ⟨declares, rfl, exactly, fun keyed => ?_, perm_listForMessageIds ..⟩
  rw [(exactly.perm.map _).nodup_iff]
  exact (Table.nodup_map_values keyed).sublist (List.filter_sublist.map _)

theorem AuditExport.isExact (prints : chrono.PrintsInYears) (inYears : asked.InYears chrono)
    {store : AuditStore} (canonical : CanonicalEvents store) {exported : AuditExport}
    (done : AuditService.exportForOrganization chrono organizationId asked store = .ok exported)
    : exported.IsExact chrono organizationId asked store := by
  obtain ⟨window, declared, done⟩ := Eff.check_bind_eq_ok.mp done
  obtain rfl := Except.ok.inj done
  have declares := declares_of_declaredWindow prints inYears declared
  exact ⟨declares, rfl, Recorded.listBetween_listsExactly declares organizationId fun _ stored =>
    canonical.of_mem stored⟩

/-- What is exported for times of the years 0 to 9999 is exactly what is stored of the window
that is declared.
-/
theorem exports_areExact (prints : chrono.PrintsInYears) (inYears : asked.InYears chrono)
    {messages : MessageStore} {attachments : AttachmentStore} {audit : AuditStore}
    (canonicalMessages : CanonicalMessages messages) (canonicalEvents : CanonicalEvents audit)
    : (∀ exported,
        DataExportService.exportForOrganization chrono organizationId asked messages attachments
            = .ok exported →
          exported.IsExact chrono organizationId asked messages attachments)
        ∧ ∀ exported,
          AuditService.exportForOrganization chrono organizationId asked audit = .ok exported →
            exported.IsExact chrono organizationId asked audit :=
  ⟨fun _ => DataExport.isExact prints inYears canonicalMessages,
    fun _ => AuditExport.isExact prints inYears canonicalEvents⟩

end Exact

-----------------------------------------------------------------------------------------
-- A second of two organizations
-----------------------------------------------------------------------------------------

namespace Morning

/-- Nanoseconds of a day from nine o'clock on, in the first minute. -/
def moment (nanos : Nat) (inMinute : nanos < 61 * 1000000000) : DateTime :=
  ⟨29704860, nanos, inMinute⟩

def first : DateTime := moment 500000000 (by decide)

def second : DateTime := moment 1000000000 (by decide)

def early : DateTime := moment 499000000 (by decide)

def asked : Window := ⟨" 2026-06-24T11:00:00.5009+02:00", "2026-06-24T09:00:01.0004Z"⟩

def times : List (String × DateTime) :=
  [("2026-06-24T11:00:00.5009+02:00", moment 500900000 (by decide)),
    ("2026-06-24T09:00:01.0004Z", moment 1000400000 (by decide))]

def clock : Chrono where
  parseFromRfc3339 text := (times.find? fun time => time.1 = text).map fun time => time.2
  toRfc3339Millis time := time.millisText

def message (id organization : Nat) (time : DateTime) (deletedAt : Option String) : Message where
  id := .ofNat id
  organizationId := .ofNat organization
  spaceId := none
  channelId := .ofNat 30
  authorUserId := .ofNat 1
  content := "hello"
  contentFormat := "markdown"
  embeds := []
  components := []
  webhookUsername := none
  webhookAvatarUrl := none
  mentionUserIds := []
  mentionRoleIds := []
  mentionEveryone := false
  replyToMessageId := none
  editedAt := none
  deletedAt := deletedAt
  createdAt := time.millisText

def stored : List Message :=
  [message 73 10 early none, message 72 11 first none, message 71 10 second none,
    message 70 10 first (some second.millisText)]

def messages : MessageStore := stored.foldl MessageStore.withMessage .empty

def attachment (id messageId : Nat) : Attachment :=
  ⟨.ofNat id, .ofNat 10, .ofNat 20, .ofNat 30, some (.ofNat messageId), .ofNat 1, "notes.txt",
    "text/plain", 2, .linked, first.millisText⟩

def attachments : AttachmentStore where
  attachmentsById :=
    AList.insert (Uuid.ofNat 81) (attachment 81 72)
      (AList.insert (Uuid.ofNat 80) (attachment 80 70) ∅)
  contentById := ∅

def event (id organization : Nat) (time : DateTime) : AuditEvent :=
  ⟨.ofNat id, .ofNat organization, .ofNat 20, .ofNat 1, "space.updated", "space", .ofNat 20,
    .null, time.millisText⟩

def audit : AuditStore :=
  ⟨AList.insert (Uuid.ofNat 21) [event 93 11 first]
    (AList.insert (Uuid.ofNat 20) [event 91 10 second, event 90 10 first, event 92 10 early] ∅)⟩

theorem prints : clock.PrintsInYears := fun _ _ => rfl

theorem inYears_asked : asked.InYears clock := by
  intro text _ time parsed
  obtain ⟨entry, found, rfl⟩ := Option.map_eq_some_iff.mp parsed
  have inYears : ∀ entry ∈ times, entry.2.InYears := by decide +kernel
  exact inYears entry (List.mem_of_find?_eq_some found)

theorem isCanonical {time : DateTime} (listed : time ∈ [first, second, early])
    : IsCanonical time.millisText := by
  have whole : ∀ time ∈ [first, second, early], time.InYears ∧ time.wholeMilli = time := by
    decide +kernel
  obtain ⟨inYears, same⟩ := whole time listed
  exact ⟨time, inYears, same, rfl⟩

theorem canonical_messages : CanonicalMessages messages := by
  have empty : CanonicalMessages .empty := Table.forall_empty
  have one := empty.withMessage (message 73 10 early none) (isCanonical (by simp))
  have two := one.withMessage (message 72 11 first none) (isCanonical (by simp))
  have three := two.withMessage (message 71 10 second none) (isCanonical (by simp))
  exact three.withMessage (message 70 10 first _) (isCanonical (by simp))

theorem canonical_audit : CanonicalEvents audit := by
  refine Table.forall_insert ?_ (Table.forall_insert ?_ Table.forall_empty)
  · simp [event, isCanonical]
  · simp [event, isCanonical]

end Morning

/-- The deleted message of the first half second is exported with its file, and neither what
was created before nor what is of the other organization.
-/
theorem morning_areExact
    : ∃ exported audited,
        (DataExportService.exportForOrganization Morning.clock (.ofNat 10) Morning.asked
              Morning.messages Morning.attachments = .ok exported
          ∧ AuditService.exportForOrganization Morning.clock (.ofNat 10) Morning.asked
              Morning.audit = .ok audited)
          ∧ (exported.messages.map (fun message => message.id) = [.ofNat 70, .ofNat 71]
            ∧ exported.files.map (fun file => file.id) = [.ofNat 80]
            ∧ audited.auditEvents.map (fun event => event.id) = [.ofNat 90, .ofNat 91])
          ∧ exported.IsExact Morning.clock (.ofNat 10) Morning.asked Morning.messages
            Morning.attachments
          ∧ audited.IsExact Morning.clock (.ofNat 10) Morning.asked Morning.audit := by
  have dataExports : (DataExportService.exportForOrganization Morning.clock (.ofNat 10) Morning.asked
      Morning.messages Morning.attachments).toOption.any fun exported =>
        exported.messages.map (fun message => message.id) = [.ofNat 70, .ofNat 71]
          ∧ exported.files.map (fun file => file.id) = [.ofNat 80] := by
    decide +kernel
  have audits : (AuditService.exportForOrganization Morning.clock (.ofNat 10) Morning.asked
      Morning.audit).toOption.any fun audited =>
        audited.auditEvents.map (fun event => event.id) = [.ofNat 90, .ofNat 91] := by
    decide +kernel
  obtain ⟨exported, done, listed⟩ := (Option.any_eq_true _ _).mp dataExports
  obtain ⟨audited, auditDone, events⟩ := (Option.any_eq_true _ _).mp audits
  obtain ⟨messages, files⟩ := of_decide_eq_true listed
  have done := Eff.toOption_eq_some.mp done
  have auditDone := Eff.toOption_eq_some.mp auditDone
  obtain ⟨dataExact, auditExact⟩ := @exports_areExact Morning.clock (.ofNat 10) Morning.asked
    Morning.prints Morning.inYears_asked Morning.messages Morning.attachments Morning.audit
    Morning.canonical_messages Morning.canonical_audit
  exact ⟨exported, audited, ⟨done, auditDone⟩, ⟨messages, files, of_decide_eq_true events⟩,
    dataExact exported done, auditExact audited auditDone⟩

end OpenCord.Exports

import OpenCord.Attachments.Attachment
import OpenCord.Audit.Store
import OpenCord.Messages.Message

/-! Retention: the policies of organizations, and the worker that purges what is older than
they allow.
-/

namespace OpenCord.Retention

open OpenCord.Library OpenCord.Platform OpenCord.Attachments OpenCord.Audit OpenCord.Messages

/-- What the worker uses of the calendar library. Instants are nanoseconds since the epoch; they
are read from timestamps, and printed to the millisecond.
-/
structure Chrono where
  parseFromRfc3339 : String → Option Int
  toRfc3339Millis : Int → String

structure RetentionPolicy where
  organizationId : Uuid
  messagesRetainDays : Option Int
  filesRetainDays : Option Int
  auditLogsRetainDays : Option Int
  deletedMessagePurgeDays : Option Int

structure RetentionRun where
  id : Uuid
  organizationId : Uuid
  dryRun : Bool
  messagesPurged : Nat
  filesPurged : Nat
  auditEventsPurged : Nat
  ranAt : String

structure RetentionRunSummary where
  organizationsScanned : Nat
  messagesPurged : Nat
  filesPurged : Nat
  auditEventsPurged : Nat
  dryRun : Bool

inductive RetentionError where
  | invalidInput (message : String)
  | notFound
  | storeUnavailable

namespace RetentionError

def ofMessageError : MessageError → RetentionError
  | .invalidInput message => .invalidInput message
  | .notFound | .storeUnavailable => .storeUnavailable

def ofAttachmentError : AttachmentError → RetentionError
  | .invalidInput message => .invalidInput message
  | .notFound | .storeUnavailable => .storeUnavailable

def ofAuditError : AuditError → RetentionError
  | .invalidInput message => .invalidInput message
  | .storeUnavailable => .storeUnavailable

end RetentionError

structure RetentionStore where
  policiesByOrganizationId : Table Uuid RetentionPolicy
  runsByOrganizationId : Table Uuid (List RetentionRun)

namespace RetentionStore

def upsertPolicy (policy : RetentionPolicy)
    : Eff RetentionStore RetentionError RetentionPolicy := do
  Eff.writes fun store => { store with
    policiesByOrganizationId :=
      store.policiesByOrganizationId.insert policy.organizationId policy }
  return policy

def getPolicy (store : RetentionStore) (organizationId : Uuid) : Option RetentionPolicy :=
  store.policiesByOrganizationId.lookup organizationId

/-- The policies by their organizations. -/
def listPolicies (store : RetentionStore) : List RetentionPolicy :=
  store.policiesByOrganizationId.values.insertionSort fun left right =>
    left.organizationId.bits ≤ right.organizationId.bits

def recordRun (run : RetentionRun) : Eff RetentionStore RetentionError Unit :=
  Eff.writes fun store => { store with
    runsByOrganizationId := store.runsByOrganizationId.insert run.organizationId
      ((store.runsByOrganizationId.lookup run.organizationId).getD [] ++ [run]) }

end RetentionStore

-----------------------------------------------------------------------------------------
-- Policies
-----------------------------------------------------------------------------------------

def daysMessage : String → String
  | "messages_retain_days" => "messages_retain_days must be between 1 and 3650"
  | "files_retain_days" => "files_retain_days must be between 1 and 3650"
  | "audit_logs_retain_days" => "audit_logs_retain_days must be between 1 and 3650"
  | "deleted_message_purge_days" => "deleted_message_purge_days must be between 1 and 3650"
  | _ => "retention days must be between 1 and 3650"

def normalizeDays (value : Option Int) (fieldName : String)
    : Except RetentionError (Option Int) :=
  match value with
  | some days =>
      if 1 ≤ days ∧ days ≤ 3650 then .ok (some days)
      else .error (.invalidInput (daysMessage fieldName))
  | none => .ok none

def normalizePolicy (policy : RetentionPolicy) : Except RetentionError RetentionPolicy := do
  let messagesRetainDays ← normalizeDays policy.messagesRetainDays "messages_retain_days"
  let filesRetainDays ← normalizeDays policy.filesRetainDays "files_retain_days"
  let auditLogsRetainDays ← normalizeDays policy.auditLogsRetainDays "audit_logs_retain_days"
  let deletedMessagePurgeDays ←
    normalizeDays policy.deletedMessagePurgeDays "deleted_message_purge_days"
  return ⟨policy.organizationId, messagesRetainDays, filesRetainDays, auditLogsRetainDays,
    deletedMessagePurgeDays⟩

theorem normalizeDays_ok {value normalized : Option Int} {fieldName : String}
    (checked : normalizeDays value fieldName = .ok normalized)
    : normalized = value := by
  cases value with
  | none => exact (Except.ok.inj checked).symm
  | some days =>
      rw [normalizeDays] at checked
      split at checked
      · exact (Except.ok.inj checked).symm
      · cases checked

/-- A policy that is normalized is left as it is. -/
theorem normalizePolicy_ok {policy normalized : RetentionPolicy}
    (checked : normalizePolicy policy = .ok normalized)
    : normalized = policy := by
  rw [normalizePolicy] at checked
  obtain ⟨messages, messagesChecked, checked⟩ := Eff.check_bind_eq_ok.mp checked
  obtain ⟨files, filesChecked, checked⟩ := Eff.check_bind_eq_ok.mp checked
  obtain ⟨audit, auditChecked, checked⟩ := Eff.check_bind_eq_ok.mp checked
  obtain ⟨deleted, deletedChecked, checked⟩ := Eff.check_bind_eq_ok.mp checked
  rw [← Except.ok.inj checked, normalizeDays_ok messagesChecked, normalizeDays_ok filesChecked,
    normalizeDays_ok auditChecked, normalizeDays_ok deletedChecked]

namespace RetentionService

def upsertPolicy (policy : RetentionPolicy)
    : Eff RetentionStore RetentionError RetentionPolicy := do
  let policy ← normalizePolicy policy
  RetentionStore.upsertPolicy policy

end RetentionService

-----------------------------------------------------------------------------------------
-- The worker
-----------------------------------------------------------------------------------------

/-- The stores that the worker works on. -/
structure RetentionStores where
  retention : RetentionStore
  messages : MessageStore
  attachments : AttachmentStore
  audit : AuditStore

namespace RetentionStores

def onRetention {α : Type} : Eff RetentionStore RetentionError α
    → Eff RetentionStores RetentionError α :=
  Eff.zoom retention (fun stores store => { stores with retention := store }) id

def onMessages {α : Type} : Eff MessageStore MessageError α
    → Eff RetentionStores RetentionError α :=
  Eff.zoom messages (fun stores store => { stores with messages := store })
    RetentionError.ofMessageError

def onAttachments {α : Type} : Eff AttachmentStore AttachmentError α
    → Eff RetentionStores RetentionError α :=
  Eff.zoom attachments (fun stores store => { stores with attachments := store })
    RetentionError.ofAttachmentError

def onAudit {α : Type} : Eff AuditStore AuditError α
    → Eff RetentionStores RetentionError α :=
  Eff.zoom audit (fun stores store => { stores with audit := store })
    RetentionError.ofAuditError

end RetentionStores

namespace RetentionWorker

/-- An instant a number of days earlier. -/
def minusDays (now days : Int) : Int := now - days * (86400 * 1000000000)

variable (chrono : Chrono)

def parseTime (value message : String) : Except RetentionError Int :=
  match chrono.parseFromRfc3339 (Text.trim value) with
  | some time => .ok time
  | none => .error (.invalidInput message)

def cutoff (now : Int) (days : Option Int) : Option String :=
  days.map fun days => chrono.toRfc3339Millis (minusDays now days)

/-- Purges what one policy no longer allows, and records the run under the identifier that is
drawn for it.
-/
def purgePolicy (drawRunId : Uuid → Uuid) (now : Int) (ranAt : String) (dryRun : Bool)
    (policy : RetentionPolicy) (summary : RetentionRunSummary)
    : Eff RetentionStores RetentionError RetentionRunSummary := do
  let policy ← normalizePolicy policy
  let messagesCutoff := cutoff chrono now policy.messagesRetainDays
  let deletedCutoff := cutoff chrono now policy.deletedMessagePurgeDays
  let filesCutoff := cutoff chrono now policy.filesRetainDays
  let auditCutoff := cutoff chrono now policy.auditLogsRetainDays
  let messagesPurged ← RetentionStores.onMessages (MessageStore.purgeForRetention
    policy.organizationId messagesCutoff deletedCutoff dryRun)
  let filesPurged ← RetentionStores.onAttachments (AttachmentStore.purgeForRetention
    policy.organizationId filesCutoff dryRun)
  let auditEventsPurged ← RetentionStores.onAudit (AuditStore.purgeForRetention
    policy.organizationId auditCutoff dryRun)
  RetentionStores.onRetention (RetentionStore.recordRun
    ⟨drawRunId policy.organizationId, policy.organizationId, dryRun, messagesPurged, filesPurged,
      auditEventsPurged, ranAt⟩)
  return { summary with
    messagesPurged := summary.messagesPurged + messagesPurged
    filesPurged := summary.filesPurged + filesPurged
    auditEventsPurged := summary.auditEventsPurged + auditEventsPurged }

/-- The loop over the policies, up to the first failure. -/
def purgePolicies (drawRunId : Uuid → Uuid) (now : Int) (ranAt : String) (dryRun : Bool)
    : List RetentionPolicy → RetentionRunSummary
      → Eff RetentionStores RetentionError RetentionRunSummary
  | [], summary => return summary
  | policy :: policies, summary => do
      let summary ← purgePolicy chrono drawRunId now ranAt dryRun policy summary
      purgePolicies drawRunId now ranAt dryRun policies summary

def runOnceAt (drawRunId : Uuid → Uuid) (now : String) (dryRun : Bool)
    : Eff RetentionStores RetentionError RetentionRunSummary := do
  let now ← parseTime chrono now "retention run timestamp must be RFC3339"
  let ranAt := chrono.toRfc3339Millis now
  let stores ← get
  let policies := stores.retention.listPolicies
  purgePolicies chrono drawRunId now ranAt dryRun policies ⟨policies.length, 0, 0, 0, dryRun⟩

end RetentionWorker

end OpenCord.Retention

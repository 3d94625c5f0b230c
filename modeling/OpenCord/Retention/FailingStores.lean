import Mathlib.Algebra.BigOperators.Group.List.Basic
import OpenCord.Retention.DryRuns

/-! Runs of the retention worker in which calls of the stores fail. A purge deletes before its
run is recorded, so what the last organization of a failing run has lost may be in no record.
-/

namespace OpenCord.Retention

open OpenCord.Library OpenCord.Platform OpenCord.Attachments OpenCord.Audit OpenCord.Messages

-----------------------------------------------------------------------------------------
-- The worker over stores that fail
-----------------------------------------------------------------------------------------

/-- Which calls of a run the stores answer; the calls for an organization happen once in a run. A
call that is not answered is taken to change nothing.
-/
structure StoreAnswers where
  listPolicies : Bool
  purgeMessages : Uuid → Bool
  purgeFiles : Uuid → Bool
  purgeAudit : Uuid → Bool
  recordRun : Uuid → Bool

namespace StoreAnswers

def answering {α : Type} (answered : Bool) (call : Eff RetentionStores RetentionError α)
    : Eff RetentionStores RetentionError α :=
  if answered then call else throw .storeUnavailable

section Worker

variable (answers : StoreAnswers) (chrono : Chrono) (drawRunId : Uuid → Uuid)

def purgePolicy (now : Int) (ranAt : String) (dryRun : Bool) (policy : RetentionPolicy)
    (summary : RetentionRunSummary) : Eff RetentionStores RetentionError RetentionRunSummary := do
  let policy ← normalizePolicy policy
  let messagesCutoff := RetentionWorker.cutoff chrono now policy.messagesRetainDays
  let deletedCutoff := RetentionWorker.cutoff chrono now policy.deletedMessagePurgeDays
  let filesCutoff := RetentionWorker.cutoff chrono now policy.filesRetainDays
  let auditCutoff := RetentionWorker.cutoff chrono now policy.auditLogsRetainDays
  let messagesPurged ← answering (answers.purgeMessages policy.organizationId)
    (RetentionStores.onMessages (MessageStore.purgeForRetention policy.organizationId
      messagesCutoff deletedCutoff dryRun))
  let filesPurged ← answering (answers.purgeFiles policy.organizationId)
    (RetentionStores.onAttachments (AttachmentStore.purgeForRetention policy.organizationId
      filesCutoff dryRun))
  let auditEventsPurged ← answering (answers.purgeAudit policy.organizationId)
    (RetentionStores.onAudit (AuditStore.purgeForRetention policy.organizationId auditCutoff
      dryRun))
  answering (answers.recordRun policy.organizationId)
    (RetentionStores.onRetention (RetentionStore.recordRun
      ⟨drawRunId policy.organizationId, policy.organizationId, dryRun, messagesPurged,
        filesPurged, auditEventsPurged, ranAt⟩))
  return { summary with
    messagesPurged := summary.messagesPurged + messagesPurged
    filesPurged := summary.filesPurged + filesPurged
    auditEventsPurged := summary.auditEventsPurged + auditEventsPurged }

def purgePolicies (now : Int) (ranAt : String) (dryRun : Bool)
    : List RetentionPolicy → RetentionRunSummary
      → Eff RetentionStores RetentionError RetentionRunSummary
  | [], summary => return summary
  | policy :: policies, summary => do
      let summary ← answers.purgePolicy chrono drawRunId now ranAt dryRun policy summary
      purgePolicies now ranAt dryRun policies summary

def runOnceAt (now : String) (dryRun : Bool)
    : Eff RetentionStores RetentionError RetentionRunSummary := do
  let now ← RetentionWorker.parseTime chrono now "retention run timestamp must be RFC3339"
  let ranAt := chrono.toRfc3339Millis now
  let policies ← answering answers.listPolicies
    (Eff.reads fun stores => .ok stores.retention.listPolicies)
  answers.purgePolicies chrono drawRunId now ranAt dryRun policies
    ⟨policies.length, 0, 0, 0, dryRun⟩

end Worker

variable {answers : StoreAnswers} {chrono : Chrono} {drawRunId : Uuid → Uuid} {now : Int}
  {ranAt : String} {policy : RetentionPolicy} {stores : RetentionStores}

/-- The stores answer all the calls for an organization. -/
def Answers (answers : StoreAnswers) (organizationId : Uuid) : Prop :=
  answers.purgeMessages organizationId ∧ answers.purgeFiles organizationId
    ∧ answers.purgeAudit organizationId ∧ answers.recordRun organizationId

instance (answers : StoreAnswers) (organizationId : Uuid)
    : Decidable (answers.Answers organizationId) :=
  inferInstanceAs (Decidable (_ ∧ _ ∧ _ ∧ _))

/-- With all its calls answered the worker does with a policy what it does with stores that do not
fail.
-/
theorem exec_purgePolicy_of_answers (answered : answers.Answers policy.organizationId)
    (dryRun : Bool) (summary : RetentionRunSummary) (stores : RetentionStores)
    : (answers.purgePolicy chrono drawRunId now ranAt dryRun policy summary).exec stores
        = (RetentionWorker.purgePolicy chrono drawRunId now ranAt dryRun policy summary).exec
            stores := by
  obtain ⟨messages, files, audit, record⟩ := answered
  rw [purgePolicy, RetentionWorker.purgePolicy, Eff.exec_check_bind, Eff.exec_check_bind]
  cases checked : normalizePolicy policy with
  | error problem => rfl
  | ok normalized =>
      obtain rfl := normalizePolicy_ok checked
      simp only [answering, messages, files, audit, record, if_true]

/-- So it goes on over any list of policies, by induction over it. -/
theorem exec_purgePolicies_of_answers {policies : List RetentionPolicy}
    (answered : ∀ policy ∈ policies, answers.Answers policy.organizationId) (dryRun : Bool)
    (summary : RetentionRunSummary) (stores : RetentionStores)
    : (answers.purgePolicies chrono drawRunId now ranAt dryRun policies summary).exec stores
        = (RetentionWorker.purgePolicies chrono drawRunId now ranAt dryRun policies summary).exec
            stores := by
  induction policies generalizing summary stores with
  | nil => rfl
  | cons policy policies ih =>
      obtain ⟨own, others⟩ := List.forall_mem_cons.mp answered
      rw [purgePolicies, RetentionWorker.purgePolicies, Eff.exec_bind, Eff.exec_bind,
        exec_purgePolicy_of_answers own]
      split
      · exact ih others _ _
      · rfl

/-- The worker over stores that answer every call is the worker over stores that do not fail. -/
theorem exec_runOnceAt_of_answers (listed : answers.listPolicies)
    (answered : ∀ organizationId, answers.Answers organizationId) (text : String) (dryRun : Bool)
    (stores : RetentionStores)
    : (answers.runOnceAt chrono drawRunId text dryRun).exec stores
        = (RetentionWorker.runOnceAt chrono drawRunId text dryRun).exec stores := by
  rw [runOnceAt, RetentionWorker.runOnceAt, Eff.exec_check_bind, Eff.exec_check_bind]
  cases RetentionWorker.parseTime chrono text "retention run timestamp must be RFC3339" with
  | error problem => rfl
  | ok now =>
      simp only [answering, listed, if_true]
      exact exec_purgePolicies_of_answers (fun policy _ => answered policy.organizationId) ..

-----------------------------------------------------------------------------------------
-- Where a run stops
-----------------------------------------------------------------------------------------

end StoreAnswers

/-- What the worker purges. -/
inductive RecordKind where
  | message
  | file
  | auditEvent
  deriving DecidableEq

def PurgeCounts.of (counts : PurgeCounts) : RecordKind → Nat
  | .message => counts.messages
  | .file => counts.files
  | .auditEvent => counts.auditEvents

/-- A message, an attachment or an audit event, and where it lies. -/
inductive StoredRecord where
  | message (id : Uuid) (message : Message)
  | file (id : Uuid) (file : Attachment)
  | auditEvent (spaceId : Uuid) (event : AuditEvent)

namespace StoredRecord

def kind : StoredRecord → RecordKind
  | message _ _ => .message
  | file _ _ => .file
  | auditEvent _ _ => .auditEvent

def organizationId : StoredRecord → Uuid
  | message _ stored => stored.organizationId
  | file _ stored => stored.organizationId
  | auditEvent _ stored => stored.organizationId

end StoredRecord

namespace RetentionStores

def Holds (stores : RetentionStores) : StoredRecord → Prop
  | .message id message => stores.messages.messagesById.lookup id = some message
  | .file id file => stores.attachments.getAttachment id = some file
  | .auditEvent spaceId event => ∃ events ∈ stores.audit.eventsBySpaceId.lookup spaceId,
      event ∈ events

/-- How many records of an organization the stores hold. -/
def held (stores : RetentionStores) (organizationId : Uuid) : PurgeCounts where
  messages := (stores.messages.messagesById.keysWhere (fun message => message.id)
    fun message => message.organizationId = organizationId).length
  files := (stores.attachments.attachmentsById.keysWhere (fun attachment => attachment.id)
    fun attachment => attachment.organizationId = organizationId).length
  auditEvents := (stores.audit.eventsBySpaceId.values.map fun events =>
    events.countP fun event => event.organizationId = organizationId).sum

end RetentionStores

namespace RetentionPolicy

variable {chrono : Chrono} {now : Int} {drawRunId : Uuid → Uuid} {ranAt : String}
  {policy : RetentionPolicy} {stores : RetentionStores}

def Expires (chrono : Chrono) (now : Int) (policy : RetentionPolicy) : StoredRecord → Prop
  | .message _ message => policy.ExpiresMessage chrono now message
  | .file _ file => policy.ExpiresFile chrono now file
  | .auditEvent _ event => policy.ExpiresAuditEvent chrono now event

/-- A policy concerns its own organization. -/
theorem Expires.organizationId_eq {record : StoredRecord}
    (expires : policy.Expires chrono now record)
    : record.organizationId = policy.organizationId := by
  cases record <;> exact expires.1

/-- The policy counts the records that it lets expire. -/
theorem expiredCounts_of_eq_zero_iff {kind : RecordKind}
    : (policy.expiredCounts chrono now stores).of kind = 0
      ↔ ∀ record : StoredRecord, record.kind = kind → stores.Holds record →
          ¬ policy.Expires chrono now record := by
  cases kind with
  | message =>
      refine List.length_eq_zero_iff.trans (Table.keysWhere_eq_nil_iff.trans ?_)
      constructor
      · intro none record same held
        cases record with
        | message id message => exact none id message held
        | _ => cases same
      · exact fun none id message held => none (.message id message) rfl held
  | file =>
      refine List.length_eq_zero_iff.trans (Table.keysWhere_eq_nil_iff.trans ?_)
      constructor
      · intro none record same held
        cases record with
        | file id file => exact none id file held
        | _ => cases same
      · exact fun none id file held => none (.file id file) rfl held
  | auditEvent =>
      refine List.sum_eq_zero_iff_forall_eq_nat.trans ?_
      simp only [List.forall_mem_map, List.countP_eq_zero, decide_eq_true_eq, Table.mem_values]
      constructor
      · intro none record same held
        cases record with
        | auditEvent spaceId event =>
            obtain ⟨events, found, listed⟩ := held
            exact none events ⟨spaceId, found⟩ event listed
        | _ => cases same
      · rintro none events ⟨spaceId, found⟩ event listed
        exact none (.auditEvent spaceId event) rfl ⟨events, found, listed⟩

/-- The stores after purges of some kinds of records. -/
def purgedWhere (chrono : Chrono) (now : Int) (policy : RetentionPolicy)
    (reached : RecordKind → Bool) (stores : RetentionStores) : RetentionStores where
  retention := stores.retention
  messages := if reached .message then (policy.purgeMessages chrono now false).after stores.messages
    else stores.messages
  attachments := if reached .file then
    (policy.purgeFiles chrono now false).after stores.attachments else stores.attachments
  audit := if reached .auditEvent then (policy.purgeAudit chrono now false).after stores.audit
    else stores.audit

/-- Purges remove what expires of the kinds they reach. -/
theorem holds_purgedWhere (keyed : stores.Keyed) (reached : RecordKind → Bool)
    (record : StoredRecord)
    : (policy.purgedWhere chrono now reached stores).Holds record
      ↔ stores.Holds record ∧ ¬ (reached record.kind ∧ policy.Expires chrono now record) := by
  cases record with
  | message id message =>
      cases purges : reached .message with
      | false => simp [purgedWhere, RetentionStores.Holds, StoredRecord.kind, purges]
      | true =>
          rw [RetentionStores.Holds, purgedWhere]
          simp only [purges, if_true, lookup_purgeMessages keyed.messages,
            Option.filter_eq_some_iff, StoredRecord.kind, true_and, decide_eq_true_eq]
          rfl
  | file id file =>
      cases purges : reached .file with
      | false => simp [purgedWhere, RetentionStores.Holds, StoredRecord.kind, purges]
      | true =>
          rw [RetentionStores.Holds, purgedWhere]
          simp only [purges, if_true, getAttachment_purgeFiles keyed.attachments,
            Option.filter_eq_some_iff, StoredRecord.kind, true_and, decide_eq_true_eq]
          rfl
  | auditEvent spaceId event =>
      cases purges : reached .auditEvent with
      | false => simp [purgedWhere, RetentionStores.Holds, StoredRecord.kind, purges]
      | true =>
          rw [RetentionStores.Holds, purgedWhere]
          simp only [purges, if_true, lookup_purgeAudit, StoredRecord.kind, true_and,
            Option.mem_def, Option.map_eq_some_iff]
          constructor
          · rintro ⟨_, ⟨events, found, rfl⟩, listed⟩
            obtain ⟨listed, kept⟩ := List.mem_filter.mp listed
            have retained := of_decide_eq_true kept
            exact ⟨⟨events, found, listed⟩, retained⟩
          · rintro ⟨⟨events, found, listed⟩, kept⟩
            have retained : ¬ policy.ExpiresAuditEvent chrono now event := kept
            exact ⟨_, ⟨events, found, rfl⟩, List.mem_filter.mpr ⟨listed, decide_eq_true retained⟩⟩

theorem holds_purged (keyed : stores.Keyed) (record : StoredRecord)
    : (policy.purged chrono now drawRunId ranAt false stores).Holds record
      ↔ stores.Holds record ∧ ¬ policy.Expires chrono now record := by
  have same : (policy.purged chrono now drawRunId ranAt false stores).Holds record
      = (policy.purgedWhere chrono now (fun _ => true) stores).Holds record := by
    cases record <;> rfl
  rw [same, holds_purgedWhere keyed]
  simp

/-- A purge that reaches a kind of records takes as many from its organization as it counts. -/
theorem held_purgedWhere_self (keyed : stores.Keyed) (reached : RecordKind → Bool)
    {kind : RecordKind} (purges : reached kind)
    : ((policy.purgedWhere chrono now reached stores).held policy.organizationId).of kind
          + (policy.expiredCounts chrono now stores).of kind
        = (stores.held policy.organizationId).of kind := by
  cases kind with
  | message =>
      rw [PurgeCounts.of, PurgeCounts.of, PurgeCounts.of, RetentionStores.held, purgedWhere]
      simp only [purges, if_true]
      rw [purgeMessages, Eff.after, MessageStore.exec_purgeForRetention]
      exact Table.length_keysWhere_eraseAll keyed.messages fun message expired => expired.1
  | file =>
      rw [PurgeCounts.of, PurgeCounts.of, PurgeCounts.of, RetentionStores.held, purgedWhere]
      simp only [purges, if_true]
      rw [purgeFiles, Eff.after, AttachmentStore.exec_purgeForRetention]
      exact Table.length_keysWhere_eraseAll keyed.attachments fun file expired => expired.1
  | auditEvent =>
      rw [PurgeCounts.of, PurgeCounts.of, PurgeCounts.of, RetentionStores.held, purgedWhere]
      simp only [purges, if_true]
      rw [countP_purgeAudit, expiredCounts, AuditStore.expiredCount, ← List.sum_map_add]
      refine congrArg List.sum (List.map_congr_left fun events _ => ?_)
      have expired : events.countP (fun event => policy.ExpiresAuditEvent chrono now event)
          = (events.filter fun event => policy.ExpiresAuditEvent chrono now event).countP
            fun event => event.organizationId = policy.organizationId := by
        rw [List.countP_filter]
        refine List.countP_congr fun event _ => ?_
        rw [Bool.and_eq_true, decide_eq_true_eq, decide_eq_true_eq]
        exact (and_iff_right_of_imp fun expires => expires.1).symm
      have kept : events.countP (fun event => event.organizationId = policy.organizationId
            ∧ ¬ policy.ExpiresAuditEvent chrono now event)
          = (events.filter fun event => !decide (policy.ExpiresAuditEvent chrono now event)).countP
            fun event => event.organizationId = policy.organizationId := by
        rw [List.countP_filter]
        exact List.countP_congr fun event _ => by simp
      rw [kept, expired, Nat.add_comm, ← List.countP_eq_countP_filter_add]

theorem keyed_purgedWhere (keyed : stores.Keyed) (reached : RecordKind → Bool)
    : (policy.purgedWhere chrono now reached stores).Keyed where
  messages id message found :=
    keyed.messages id message ((holds_purgedWhere keyed reached (.message id message)).mp found).1
  attachments id file found :=
    keyed.attachments id file ((holds_purgedWhere keyed reached (.file id file)).mp found).1

/-- A purge leaves what the other organizations hold. -/
theorem held_purgedWhere_of_ne (keyed : stores.Keyed) (reached : RecordKind → Bool)
    {organizationId : Uuid} (apart : organizationId ≠ policy.organizationId)
    : (policy.purgedWhere chrono now reached stores).held organizationId
        = stores.held organizationId := by
  have kept : ∀ record : StoredRecord, record.organizationId = organizationId →
      ((policy.purgedWhere chrono now reached stores).Holds record ↔ stores.Holds record) := by
    intro record own
    rw [holds_purgedWhere keyed reached]
    exact and_iff_left fun removed => apart (own.symm.trans removed.2.organizationId_eq)
  have keyedNext := @keyed_purgedWhere chrono now policy stores keyed reached
  refine PurgeCounts.mk.injEq .. ▸ ⟨?_, ?_, ?_⟩
  · refine Table.length_keysWhere_congr keyedNext.messages keyed.messages fun id => ?_
    exact exists_congr fun message => and_congr_left fun own => kept (.message id message) own
  · refine Table.length_keysWhere_congr keyedNext.attachments keyed.attachments fun id => ?_
    exact exists_congr fun file => and_congr_left fun own => kept (.file id file) own
  · rw [purgedWhere]
    dsimp only
    split
    · rw [countP_purgeAudit]
      refine congrArg List.sum (List.map_congr_left fun events _ => ?_)
      refine List.countP_congr fun event _ => ?_
      rw [decide_eq_true_eq, decide_eq_true_eq]
      exact and_iff_left_of_imp fun own expires => apart (own.symm.trans expires.1)
    · rfl

/-- What the two counts of a complete purge are. -/
theorem held_purged_self (keyed : stores.Keyed) (kind : RecordKind)
    : ((policy.purged chrono now drawRunId ranAt false stores).held policy.organizationId).of kind
          + (policy.expiredCounts chrono now stores).of kind
        = (stores.held policy.organizationId).of kind :=
  held_purgedWhere_self keyed (fun _ => true) rfl

theorem held_purged_of_ne (keyed : stores.Keyed) {organizationId : Uuid}
    (apart : organizationId ≠ policy.organizationId)
    : (policy.purged chrono now drawRunId ranAt false stores).held organizationId
        = stores.held organizationId :=
  held_purgedWhere_of_ne keyed (fun _ => true) apart

end RetentionPolicy

-----------------------------------------------------------------------------------------
-- What a run has done before it stops
-----------------------------------------------------------------------------------------

/-- What complete purges under some policies have done: they removed what the policies let expire,
and recorded how many records of the organizations these were.
-/
structure PurgedCompletely (chrono : Chrono) (now : Int) (drawRunId : Uuid → Uuid)
    (ranAt : String) (policies : List RetentionPolicy) (stores next : RetentionStores)
    : Prop where
  keyed : next.Keyed
  adds : RetentionStore.Adds
    (policies.map fun policy => policy.record chrono now drawRunId ranAt false stores)
    stores.retention next.retention
  holds : ∀ record, next.Holds record
    ↔ stores.Holds record ∧ ∀ policy ∈ policies, ¬ policy.Expires chrono now record
  held : ∀ policy ∈ policies, ∀ kind, (next.held policy.organizationId).of kind
      + (policy.expiredCounts chrono now stores).of kind
    = (stores.held policy.organizationId).of kind
  others : ∀ other : RetentionPolicy,
    (∀ policy ∈ policies, other.organizationId ≠ policy.organizationId) →
      other.expiredCounts chrono now next = other.expiredCounts chrono now stores
        ∧ next.held other.organizationId = stores.held other.organizationId

namespace PurgedCompletely

variable {chrono : Chrono} {now : Int} {drawRunId : Uuid → Uuid} {ranAt : String}
  {policies : List RetentionPolicy} {stores next : RetentionStores}

theorem nil (keyed : stores.Keyed)
    : PurgedCompletely chrono now drawRunId ranAt [] stores stores where
  keyed := keyed
  adds := .nil _
  holds record := by simp
  held policy listed := absurd listed List.not_mem_nil
  others _ _ := ⟨rfl, rfl⟩

/-- A complete purge under one more policy, of another organization, before the others. -/
theorem cons {policy : RetentionPolicy} (keyed : stores.Keyed)
    (apart : ∀ other ∈ policies, other.organizationId ≠ policy.organizationId)
    (rest : PurgedCompletely chrono now drawRunId ranAt policies
      (policy.purged chrono now drawRunId ranAt false stores) next)
    : PurgedCompletely chrono now drawRunId ranAt (policy :: policies) stores next where
  keyed := rest.keyed
  adds := by
    refine .cons _ ?_
    have same : ∀ other ∈ policies, other.record chrono now drawRunId ranAt false
        (policy.purged chrono now drawRunId ranAt false stores)
        = other.record chrono now drawRunId ranAt false stores := by
      intro other listed
      rw [RetentionPolicy.record, RetentionPolicy.record,
        RetentionPolicy.expiredCounts_purged_of_ne keyed false (apart other listed)]
    rw [← List.map_congr_left same]
    exact rest.adds
  holds record := by
    rw [rest.holds, RetentionPolicy.holds_purged keyed, List.forall_mem_cons, and_assoc]
  held := by
    refine List.forall_mem_cons.mpr ⟨fun kind => ?_, fun other listed kind => ?_⟩
    · rw [(rest.others policy fun other listed => (apart other listed).symm).2]
      exact RetentionPolicy.held_purged_self keyed kind
    · rw [← RetentionPolicy.held_purged_of_ne keyed (apart other listed),
        ← rest.held other listed kind,
        RetentionPolicy.expiredCounts_purged_of_ne keyed false (apart other listed)]
  others other different := by
    obtain ⟨own, others⟩ := List.forall_mem_cons.mp different
    obtain ⟨counts, held⟩ := rest.others other others
    rw [counts, held, RetentionPolicy.expiredCounts_purged_of_ne keyed false own,
      RetentionPolicy.held_purged_of_ne keyed own]
    exact ⟨rfl, rfl⟩

end PurgedCompletely

namespace StoreAnswers

variable {answers : StoreAnswers} {chrono : Chrono} {drawRunId : Uuid → Uuid} {now : Int}
  {ranAt : String} {policy : RetentionPolicy} {policies : List RetentionPolicy}
  {stores : RetentionStores}

/-- A policy that can be purged and recorded. -/
def Completes (answers : StoreAnswers) (policy : RetentionPolicy) : Prop :=
  (normalizePolicy policy).toBool ∧ answers.Answers policy.organizationId

instance (answers : StoreAnswers) : DecidablePred answers.Completes :=
  fun _ => inferInstanceAs (Decidable (_ ∧ _))

/-- The purges of a policy that happen before its part of a run stops. -/
def reaches (answers : StoreAnswers) (policy : RetentionPolicy) : RecordKind → Bool
  | .message => (normalizePolicy policy).toBool && answers.purgeMessages policy.organizationId
  | .file => (normalizePolicy policy).toBool && answers.purgeMessages policy.organizationId
      && answers.purgeFiles policy.organizationId
  | .auditEvent => (normalizePolicy policy).toBool
      && answers.purgeMessages policy.organizationId && answers.purgeFiles policy.organizationId
      && answers.purgeAudit policy.organizationId

/-- A policy that completes is purged and recorded. -/
theorem exec_purgePolicy_of_completes (completes : answers.Completes policy)
    (summary : RetentionRunSummary)
    : (answers.purgePolicy chrono drawRunId now ranAt false policy summary).exec stores
        = (.ok (summary.plus (policy.expiredCounts chrono now stores)),
          policy.purged chrono now drawRunId ranAt false stores) := by
  rw [exec_purgePolicy_of_answers completes.2]
  cases checked : normalizePolicy policy with
  | error problem =>
      have passed := completes.1
      rw [checked] at passed
      cases passed
  | ok normalized =>
      obtain rfl := normalizePolicy_ok checked
      exact exec_purgePolicy drawRunId now ranAt false checked summary stores

/-- A policy that does not complete stops the run, after the purges that it reaches. -/
theorem exec_purgePolicy_of_not_completes (stops : ¬ answers.Completes policy)
    (summary : RetentionRunSummary)
    : ∃ error, (answers.purgePolicy chrono drawRunId now ranAt false policy summary).exec stores
        = (.error error, policy.purgedWhere chrono now (answers.reaches policy) stores) := by
  rw [purgePolicy, Eff.exec_check_bind]
  cases checked : normalizePolicy policy with
  | error problem =>
      refine ⟨problem, ?_⟩
      simp [RetentionPolicy.purgedWhere, reaches, checked, Except.toBool]
  | ok normalized =>
      obtain rfl := normalizePolicy_ok checked
      rw [RetentionPolicy.purgedWhere]
      cases messages : answers.purgeMessages normalized.organizationId with
      | false =>
          refine ⟨.storeUnavailable, ?_⟩
          simp only [reaches, checked, messages, answering, Bool.and_false, Bool.false_and]
          rfl
      | true =>
          cases files : answers.purgeFiles normalized.organizationId with
          | false =>
              refine ⟨.storeUnavailable, ?_⟩
              simp only [reaches, checked, messages, files, answering, Bool.and_false,
                Bool.false_and, Except.toBool, Bool.and_true, if_true]
              rfl
          | true =>
              cases audit : answers.purgeAudit normalized.organizationId with
              | false =>
                  refine ⟨.storeUnavailable, ?_⟩
                  simp only [reaches, checked, messages, files, audit, answering, Bool.and_false,
                    Except.toBool, Bool.and_true, if_true]
                  rfl
              | true =>
                  cases recorded : answers.recordRun normalized.organizationId with
                  | false =>
                      refine ⟨.storeUnavailable, ?_⟩
                      simp only [reaches, checked, messages, files, audit, recorded, answering,
                        Except.toBool, Bool.and_true, if_true]
                      rfl
                  | true =>
                      refine absurd ⟨?_, messages, files, audit, recorded⟩ stops
                      rw [checked]
                      rfl

/-- A run over policies that complete, by induction over them. -/
theorem exec_purgePolicies_complete (completes : ∀ policy ∈ policies, answers.Completes policy)
    (apart : policies.Pairwise fun policy other => other.organizationId ≠ policy.organizationId)
    (rest : List RetentionPolicy) (summary : RetentionRunSummary) (keyed : stores.Keyed)
    : ∃ counted next,
        (answers.purgePolicies chrono drawRunId now ranAt false (policies ++ rest) summary).exec
            stores
          = (answers.purgePolicies chrono drawRunId now ranAt false rest counted).exec next
        ∧ PurgedCompletely chrono now drawRunId ranAt policies stores next := by
  induction policies generalizing summary stores with
  | nil => exact ⟨summary, stores, rfl, .nil keyed⟩
  | cons policy policies ih =>
      obtain ⟨own, others⟩ := List.forall_mem_cons.mp completes
      obtain ⟨ownApart, othersApart⟩ := List.pairwise_cons.mp apart
      obtain ⟨counted, next, ran, purged⟩ := ih others othersApart
        (summary.plus (policy.expiredCounts chrono now stores))
        (@RetentionPolicy.keyed_purged chrono now policy drawRunId ranAt stores keyed false)
      refine ⟨counted, next, ?_, .cons keyed ownApart purged⟩
      rw [List.cons_append, purgePolicies, Eff.exec_bind, exec_purgePolicy_of_completes own]
      exact ran

end StoreAnswers

-----------------------------------------------------------------------------------------
-- What a failing run accounts for
-----------------------------------------------------------------------------------------

def RetentionRun.counts (run : RetentionRun) : PurgeCounts :=
  ⟨run.messagesPurged, run.filesPurged, run.auditEventsPurged⟩

/-- Whatever was deleted was counted: a run is recorded for its organization, with as many records
of its kind as the organization has lost.
-/
def DeletionsAccounted (runs : List RetentionRun) (stores next : RetentionStores) : Prop :=
  ∀ record, stores.Holds record → ¬ next.Holds record →
    ∃ run ∈ runs, run.organizationId = record.organizationId
      ∧ (next.held record.organizationId).of record.kind + run.counts.of record.kind
        = (stores.held record.organizationId).of record.kind

/-- All deletions of a run are accounted for by the runs it has recorded. -/
def Accounted (stores next : RetentionStores) : Prop :=
  ∃ runs, RetentionStore.Adds runs stores.retention next.retention
    ∧ DeletionsAccounted runs stores next

namespace StoreAnswers

variable {answers : StoreAnswers} {chrono : Chrono} {drawRunId : Uuid → Uuid} {now : Int}
  {ranAt : String} {policy : RetentionPolicy} {policies : List RetentionPolicy}
  {stores middle : RetentionStores}

/-- The policy that stops a run deletes nothing before it does. -/
def StopsClean (answers : StoreAnswers) (chrono : Chrono) (now : Int) (policy : RetentionPolicy)
    (stores : RetentionStores) : Prop :=
  ∀ kind, answers.reaches policy kind → (policy.expiredCounts chrono now stores).of kind = 0

/-- If the policy that stops a run deletes nothing, all that is gone is in the records of the
policies before it.
-/
theorem accounted_of_stopsClean
    (purged : PurgedCompletely chrono now drawRunId ranAt policies stores middle)
    (apart : ∀ other ∈ policies, policy.organizationId ≠ other.organizationId)
    (clean : answers.StopsClean chrono now policy stores)
    : Accounted stores (policy.purgedWhere chrono now (answers.reaches policy) middle) := by
  refine ⟨_, purged.adds, fun record held gone => ?_⟩
  rw [RetentionPolicy.holds_purgedWhere purged.keyed, not_and, not_not] at gone
  by_cases left : middle.Holds record
  · obtain ⟨reached, expires⟩ := gone left
    have nothing := clean record.kind reached
    rw [← (purged.others policy apart).1] at nothing
    exact absurd expires
      (RetentionPolicy.expiredCounts_of_eq_zero_iff.mp nothing record rfl left)
  · obtain ⟨other, listed, expires⟩ : ∃ other ∈ policies, other.Expires chrono now record := by
      rw [purged.holds, not_and] at left
      simpa using left held
    refine ⟨other.record chrono now drawRunId ranAt false stores, List.mem_map_of_mem listed,
      expires.organizationId_eq.symm, ?_⟩
    rw [expires.organizationId_eq, RetentionPolicy.held_purgedWhere_of_ne purged.keyed _
      (apart other listed).symm]
    exact purged.held other listed record.kind

/-- If it does delete something, that is in no record. -/
theorem stopsClean_of_accounted
    (purged : PurgedCompletely chrono now drawRunId ranAt policies stores middle)
    (apart : ∀ other ∈ policies, policy.organizationId ≠ other.organizationId)
    (accounted : Accounted stores
      (policy.purgedWhere chrono now (answers.reaches policy) middle))
    : answers.StopsClean chrono now policy stores := by
  intro kind reached
  by_contra counted
  rw [← (purged.others policy apart).1, RetentionPolicy.expiredCounts_of_eq_zero_iff] at counted
  push Not at counted
  obtain ⟨record, rfl, left, expires⟩ := counted
  obtain ⟨runs, adds, deletions⟩ := accounted
  have gone : ¬ (policy.purgedWhere chrono now (answers.reaches policy) middle).Holds record := by
    rw [RetentionPolicy.holds_purgedWhere purged.keyed, not_and, not_not]
    exact fun _ => ⟨reached, expires⟩
  obtain ⟨run, listed, own, _⟩ := deletions record ((purged.holds record).mp left).1 gone
  rw [expires.organizationId_eq] at own
  -- No run was recorded for the organization of the policy.
  have same := (adds.runs policy.organizationId).symm.trans (purged.adds.runs policy.organizationId)
  have none : (runs.filter fun run => run.organizationId = policy.organizationId) = [] := by
    rw [List.append_cancel_left same, List.filter_eq_nil_iff]
    intro other recorded
    obtain ⟨before, earlier, rfl⟩ := List.mem_map.mp recorded
    exact fun same => apart before earlier (of_decide_eq_true same).symm
  exact absurd (decide_eq_true own) (List.filter_eq_nil_iff.mp none run listed)

/-- A run stops at the first policy that does not complete, and its deletions are accounted for
exactly if that one deletes nothing before.
-/
theorem exec_purgePolicies_stopped {rest : List RetentionPolicy}
    (completes : ∀ policy ∈ policies, answers.Completes policy)
    (stops : ¬ answers.Completes policy)
    (apart : (policies ++ policy :: rest).Pairwise fun policy other =>
      other.organizationId ≠ policy.organizationId)
    (summary : RetentionRunSummary) (keyed : stores.Keyed)
    : ∃ error next,
        (answers.purgePolicies chrono drawRunId now ranAt false (policies ++ policy :: rest)
            summary).exec stores = (.error error, next)
          ∧ (Accounted stores next ↔ answers.StopsClean chrono now policy stores) := by
  obtain ⟨done, _, across⟩ := List.pairwise_append.mp apart
  obtain ⟨counted, middle, ran, purged⟩ := @exec_purgePolicies_complete answers chrono drawRunId
    now ranAt policies stores completes done (policy :: rest) summary keyed
  obtain ⟨error, failed⟩ := @exec_purgePolicy_of_not_completes answers chrono drawRunId now ranAt
    policy middle stops counted
  have different : ∀ other ∈ policies, policy.organizationId ≠ other.organizationId :=
    fun other listed => across other listed policy List.mem_cons_self
  refine ⟨error, _, ?_, stopsClean_of_accounted purged different,
    accounted_of_stopsClean purged different⟩
  rw [ran, purgePolicies, Eff.exec_bind, failed]

/-- A run that has done nothing has nothing to account for. -/
theorem accounted_refl (stores : RetentionStores) : Accounted stores stores :=
  ⟨[], .nil _, fun _ held gone => absurd held gone⟩

theorem exec_runOnceAt_listed {text : String}
    (parsed : chrono.parseFromRfc3339 (Text.trim text) = some now) (listed : answers.listPolicies)
    : (answers.runOnceAt chrono drawRunId text false).exec stores
        = (answers.purgePolicies chrono drawRunId now (chrono.toRfc3339Millis now) false
            stores.retention.listPolicies
            ⟨stores.retention.listPolicies.length, 0, 0, 0, false⟩).exec stores := by
  rw [runOnceAt, RetentionWorker.parseTime, parsed, Eff.exec_check_bind]
  simp only [answering, listed, if_true]
  rfl

/-- A run over the stored policies fails at the first of them that it cannot complete. -/
theorem exec_runOnceAt_stopped (keyed : stores.Keyed)
    (single : Table.Keyed (fun policy => policy.organizationId)
      stores.retention.policiesByOrganizationId)
    {text : String} (parsed : chrono.parseFromRfc3339 (Text.trim text) = some now)
    (listed : answers.listPolicies)
    (found : (stores.retention.listPolicies.find? fun policy => ¬ answers.Completes policy)
      = some policy)
    : ∃ error next,
        (answers.runOnceAt chrono drawRunId text false).exec stores = (.error error, next)
          ∧ (Accounted stores next ↔ answers.StopsClean chrono now policy stores) := by
  have apart := RetentionStore.pairwise_listPolicies single
  obtain ⟨stops, before, rest, split, completes⟩ := List.find?_eq_some_iff_append.mp found
  rw [exec_runOnceAt_listed parsed listed, split]
  rw [split] at apart
  exact exec_purgePolicies_stopped (by simpa using completes) (of_decide_eq_true stops) apart _
    keyed

/-- Whenever a run that is not dry fails, all that it deleted is in the runs it recorded, exactly if
the first policy that it cannot complete deletes nothing before the run stops.
-/
theorem failure_accounted_iff (answers : StoreAnswers) (chrono : Chrono)
    (drawRunId : Uuid → Uuid) (text : String) {stores : RetentionStores} (keyed : stores.Keyed)
    (single : Table.Keyed (fun policy => policy.organizationId)
      stores.retention.policiesByOrganizationId)
    : (∀ error next, (answers.runOnceAt chrono drawRunId text false).exec stores
          = (.error error, next) → Accounted stores next)
      ↔ ∀ now, chrono.parseFromRfc3339 (Text.trim text) = some now → answers.listPolicies →
          ∀ policy ∈ stores.retention.listPolicies.find? fun policy => ¬ answers.Completes policy,
            answers.StopsClean chrono now policy stores := by
  have idle : ∀ error, (answers.runOnceAt chrono drawRunId text false).exec stores
      = (.error error, stores) → ∀ other next,
        (answers.runOnceAt chrono drawRunId text false).exec stores = (.error other, next) →
          Accounted stores next := by
    intro error failed other next again
    obtain ⟨-, rfl⟩ := Prod.mk.inj (failed.symm.trans again)
    exact accounted_refl stores
  cases parsed : chrono.parseFromRfc3339 (Text.trim text) with
  | none =>
      refine iff_of_true (idle (.invalidInput "retention run timestamp must be RFC3339") ?_) ?_
      · rw [runOnceAt, RetentionWorker.parseTime, parsed, Eff.exec_check_bind]
      · intro now same
        cases same
  | some now =>
      cases listed : answers.listPolicies with
      | false =>
          refine iff_of_true (idle .storeUnavailable ?_) ?_
          · rw [runOnceAt, RetentionWorker.parseTime, parsed, Eff.exec_check_bind]
            simp only [answering, listed]
            rfl
          · intro _ _ same
            cases same
      | true =>
          simp only [Option.some.injEq, forall_eq', true_imp_iff]
          cases found : stores.retention.listPolicies.find? fun policy =>
            ¬ answers.Completes policy with
          | none =>
              refine iff_of_true (fun error next failed => ?_) fun policy stops => ?_
              · have completes : ∀ policy ∈ stores.retention.listPolicies,
                    answers.Completes policy := by
                  simpa using List.find?_eq_none.mp found
                obtain ⟨counted, last, ended, _⟩ := @exec_purgePolicies_complete answers chrono
                  drawRunId now (chrono.toRfc3339Millis now) _ stores completes
                  (RetentionStore.pairwise_listPolicies single) []
                  ⟨stores.retention.listPolicies.length, 0, 0, 0, false⟩ keyed
                rw [exec_runOnceAt_listed parsed listed] at failed
                rw [List.append_nil] at ended
                cases ended.symm.trans failed
              · cases stops
          | some policy =>
              obtain ⟨error, next, failed, accounted⟩ :=
                @exec_runOnceAt_stopped answers chrono drawRunId now policy stores keyed single text
                  parsed listed found
              simp only [Option.mem_some_iff, forall_eq', ← accounted]
              constructor
              · exact fun always => always error next failed
              · intro holds other last again
                obtain ⟨-, rfl⟩ := Prod.mk.inj (failed.symm.trans again)
                exact holds

end StoreAnswers

namespace Nightly

def otherPolicy : RetentionPolicy := ⟨.ofNat 11, some 30, none, none, none⟩

/-- Both organizations have a policy. -/
def bothLimited : RetentionStores :=
  { stores with
    retention := ⟨AList.insert (.ofNat 11) otherPolicy (AList.insert (.ofNat 10) policy ∅), ∅⟩ }

theorem keyed_bothLimited : bothLimited.Keyed :=
  ⟨keyed_stores.messages, keyed_stores.attachments⟩

theorem single_bothLimited
    : Table.Keyed (fun policy => policy.organizationId)
        bothLimited.retention.policiesByOrganizationId :=
  Table.forall_insert rfl (Table.forall_insert rfl Table.forall_empty)

/-- Stores that answer all calls but the purge of the messages of one organization. -/
def messagesDown : StoreAnswers :=
  ⟨true, fun organizationId => organizationId ≠ .ofNat 11, fun _ => true, fun _ => true,
    fun _ => true⟩

/-- Stores that answer all calls but the record of a run. -/
def recordsDown : StoreAnswers :=
  ⟨true, fun _ => true, fun _ => true, fun _ => true, fun _ => false⟩

end Nightly

/-- A run completes the first organization, and fails where it cannot purge the messages of the
second. The message that it deleted is in the record of the first.
-/
theorem messagesDown_accounted
    : ∃ error next, (Nightly.messagesDown.runOnceAt Nightly.calendar id
          "2026-06-24T09:00:00.000Z" false).exec Nightly.bothLimited = (.error error, next)
        ∧ next.messages.messagesById.lookup (.ofNat 70) = none
        ∧ Accounted Nightly.bothLimited next := by
  have found : (Nightly.bothLimited.retention.listPolicies.find? fun policy =>
      ¬ Nightly.messagesDown.Completes policy) = some Nightly.otherPolicy := by
    rfl
  obtain ⟨error, next, failed, _⟩ :=
    @StoreAnswers.exec_runOnceAt_stopped Nightly.messagesDown Nightly.calendar id
      (Nightly.now.epochMillis * 1000000) Nightly.otherPolicy Nightly.bothLimited
      Nightly.keyed_bothLimited Nightly.single_bothLimited "2026-06-24T09:00:00.000Z" (by decide)
      rfl found
  have gone : (((Nightly.messagesDown.runOnceAt Nightly.calendar id
      "2026-06-24T09:00:00.000Z" false).exec
        Nightly.bothLimited).2.messages.messagesById.lookup (.ofNat 70)).isNone := by
    decide +kernel
  rw [failed] at gone
  refine ⟨error, next, failed, Option.isNone_iff_eq_none.mp gone,
    (StoreAnswers.failure_accounted_iff Nightly.messagesDown Nightly.calendar id
      "2026-06-24T09:00:00.000Z" Nightly.keyed_bothLimited Nightly.single_bothLimited).mpr ?_ error
      next failed⟩
  intro now parsed listed policy stops kind reached
  obtain rfl := Option.some.inj (found.symm.trans stops)
  -- The messages are purged first, so that the second organization loses nothing.
  cases kind <;> cases reached

/-- A run that cannot be recorded fails, and the message, the file and the audit event that it
deleted are in no record.
-/
theorem recordsDown_unaccounted
    : ∃ error next, (Nightly.recordsDown.runOnceAt Nightly.calendar id
          "2026-06-24T09:00:00.000Z" false).exec Nightly.stores = (.error error, next)
        ∧ ¬ Accounted Nightly.stores next := by
  have found : (Nightly.stores.retention.listPolicies.find? fun policy =>
      ¬ Nightly.recordsDown.Completes policy) = some Nightly.policy := by
    rfl
  obtain ⟨error, next, failed, accounted⟩ :=
    @StoreAnswers.exec_runOnceAt_stopped Nightly.recordsDown Nightly.calendar id
      (Nightly.now.epochMillis * 1000000) Nightly.policy Nightly.stores Nightly.keyed_stores
      Nightly.sound_stores.keyed "2026-06-24T09:00:00.000Z" (by decide) rfl found
  refine ⟨error, next, failed, fun holds => ?_⟩
  have clean := accounted.mp holds .message (by decide)
  revert clean
  decide +kernel

end OpenCord.Retention

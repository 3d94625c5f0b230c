import OpenCord.Library.Calendar
import OpenCord.Retention.Worker

/-! What a run of the retention worker removes. The stores compare the texts of timestamps; on
canonical timestamps this is the order in time.
-/

namespace OpenCord.Retention

open OpenCord.Library OpenCord.Platform OpenCord.Attachments OpenCord.Audit OpenCord.Messages

-----------------------------------------------------------------------------------------
-- What the policies remove, by the texts of timestamps
-----------------------------------------------------------------------------------------

section Cutoffs

variable (chrono : Chrono) (now : Int)

/-- Some policy of a list lets a message expire. -/
def MessageExpired (policies : List RetentionPolicy) (message : Message) : Prop :=
  ∃ policy ∈ policies, MessageStore.IsExpired policy.organizationId
    (RetentionWorker.cutoff chrono now policy.messagesRetainDays)
    (RetentionWorker.cutoff chrono now policy.deletedMessagePurgeDays) message

def FileExpired (policies : List RetentionPolicy) (attachment : Attachment) : Prop :=
  ∃ policy ∈ policies, AttachmentStore.IsExpired policy.organizationId
    (RetentionWorker.cutoff chrono now policy.filesRetainDays) attachment

def AuditExpired (policies : List RetentionPolicy) (event : AuditEvent) : Prop :=
  ∃ policy ∈ policies, AuditStore.IsExpired policy.organizationId
    (RetentionWorker.cutoff chrono now policy.auditLogsRetainDays) event

end Cutoffs

open Classical in
/-- The next stores are the stores without what has expired; what is under the other keys, and
the policies, are unchanged.
-/
structure RemovesExactly (message : Message → Prop) (file : Attachment → Prop)
    (audit : AuditEvent → Prop) (stores next : RetentionStores) : Prop where
  messages : ∀ id found, next.messages.messagesById.lookup id = some found
    ↔ stores.messages.messagesById.lookup id = some found ∧ ¬ message found
  attachments : ∀ id found, next.attachments.getAttachment id = some found
    ↔ stores.attachments.getAttachment id = some found ∧ ¬ file found
  contents : ∀ id content, next.attachments.contentForAttachment id = some content
    ↔ stores.attachments.contentForAttachment id = some content
      ∧ ∀ found, stores.attachments.getAttachment id = some found → ¬ file found
  audit : ∀ spaceId, next.audit.eventsBySpaceId.lookup spaceId
    = (stores.audit.eventsBySpaceId.lookup spaceId).map fun events =>
        events.filter fun event => ¬ audit event
  policies : next.retention.policiesByOrganizationId
    = stores.retention.policiesByOrganizationId

variable {chrono : Chrono}

/-- How many records of each kind a purge removes, or would remove. -/
structure PurgeCounts where
  messages : Nat
  files : Nat
  auditEvents : Nat
  deriving DecidableEq

def RetentionRunSummary.plus (summary : RetentionRunSummary) (counts : PurgeCounts)
    : RetentionRunSummary :=
  { summary with
    messagesPurged := summary.messagesPurged + counts.messages
    filesPurged := summary.filesPurged + counts.files
    auditEventsPurged := summary.auditEventsPurged + counts.auditEvents }

namespace RetentionPolicy

variable (chrono : Chrono) (now : Int) (policy : RetentionPolicy)

abbrev ExpiresMessage : Message → Prop :=
  MessageStore.IsExpired policy.organizationId
    (RetentionWorker.cutoff chrono now policy.messagesRetainDays)
    (RetentionWorker.cutoff chrono now policy.deletedMessagePurgeDays)

abbrev ExpiresFile : Attachment → Prop :=
  AttachmentStore.IsExpired policy.organizationId
    (RetentionWorker.cutoff chrono now policy.filesRetainDays)

abbrev ExpiresAuditEvent : AuditEvent → Prop :=
  AuditStore.IsExpired policy.organizationId
    (RetentionWorker.cutoff chrono now policy.auditLogsRetainDays)

/-- How many records of its organization a policy lets expire. -/
def expiredCounts (stores : RetentionStores) : PurgeCounts where
  messages := (stores.messages.expiredIds policy.organizationId
    (RetentionWorker.cutoff chrono now policy.messagesRetainDays)
    (RetentionWorker.cutoff chrono now policy.deletedMessagePurgeDays)).length
  files := (stores.attachments.expiredIds policy.organizationId
    (RetentionWorker.cutoff chrono now policy.filesRetainDays)).length
  auditEvents := stores.audit.expiredCount policy.organizationId
    (RetentionWorker.cutoff chrono now policy.auditLogsRetainDays)

def purgeMessages (dryRun : Bool) : Eff MessageStore MessageError Nat :=
  MessageStore.purgeForRetention policy.organizationId
    (RetentionWorker.cutoff chrono now policy.messagesRetainDays)
    (RetentionWorker.cutoff chrono now policy.deletedMessagePurgeDays) dryRun

def purgeFiles (dryRun : Bool) : Eff AttachmentStore AttachmentError Nat :=
  AttachmentStore.purgeForRetention policy.organizationId
    (RetentionWorker.cutoff chrono now policy.filesRetainDays) dryRun

def purgeAudit (dryRun : Bool) : Eff AuditStore AuditError Nat :=
  AuditStore.purgeForRetention policy.organizationId
    (RetentionWorker.cutoff chrono now policy.auditLogsRetainDays) dryRun

/-- What is recorded of a purge under the policy. -/
def record (drawRunId : Uuid → Uuid) (ranAt : String) (dryRun : Bool)
    (stores : RetentionStores) : RetentionRun :=
  let counts := policy.expiredCounts chrono now stores
  ⟨drawRunId policy.organizationId, policy.organizationId, dryRun, counts.messages, counts.files,
    counts.auditEvents, ranAt⟩

/-- The stores after a purge under the policy. -/
def purged (drawRunId : Uuid → Uuid) (ranAt : String) (dryRun : Bool)
    (stores : RetentionStores) : RetentionStores where
  retention := (RetentionStore.recordRun
    (policy.record chrono now drawRunId ranAt dryRun stores)).after stores.retention
  messages := (policy.purgeMessages chrono now dryRun).after stores.messages
  attachments := (policy.purgeFiles chrono now dryRun).after stores.attachments
  audit := (policy.purgeAudit chrono now dryRun).after stores.audit

variable {chrono now policy}

theorem lookup_purgeMessages {store : MessageStore} (keyed : store.Keyed) (id : Uuid)
    : ((policy.purgeMessages chrono now false).after store).messagesById.lookup id
        = (store.messagesById.lookup id).filter fun message =>
            ¬ policy.ExpiresMessage chrono now message := by
  rw [purgeMessages, Eff.after, MessageStore.exec_purgeForRetention]
  exact Table.lookup_eraseAll_keysWhere keyed id

theorem getAttachment_purgeFiles {store : AttachmentStore} (keyed : store.Keyed) (id : Uuid)
    : ((policy.purgeFiles chrono now false).after store).getAttachment id
        = (store.getAttachment id).filter fun attachment =>
            ¬ policy.ExpiresFile chrono now attachment := by
  rw [purgeFiles, Eff.after, AttachmentStore.exec_purgeForRetention]
  exact Table.lookup_eraseAll_keysWhere keyed id

theorem contentForAttachment_purgeFiles {store : AttachmentStore} (keyed : store.Keyed)
    (id : Uuid) (content : AttachmentContent)
    : ((policy.purgeFiles chrono now false).after store).contentForAttachment id = some content
      ↔ store.contentForAttachment id = some content
        ∧ ∀ found, store.getAttachment id = some found →
          ¬ policy.ExpiresFile chrono now found := by
  rw [purgeFiles, Eff.after, AttachmentStore.exec_purgeForRetention]
  change (store.contentById.eraseAll (store.expiredIds _ _)).lookup id = some content ↔ _
  rw [Table.lookup_eraseAll]
  split
  · next listed =>
      obtain ⟨found, stored, expired⟩ := (Table.mem_keysWhere keyed).mp listed
      refine iff_of_false (fun kept => ?_) fun kept => kept.2 found stored expired
      cases kept
  · next unlisted =>
      refine (and_iff_left fun found stored expired => unlisted ?_).symm
      exact (Table.mem_keysWhere keyed).mpr ⟨found, stored, expired⟩

theorem lookup_purgeAudit (store : AuditStore) (spaceId : Uuid)
    : ((policy.purgeAudit chrono now false).after store).eventsBySpaceId.lookup spaceId
        = (store.eventsBySpaceId.lookup spaceId).map fun events =>
            events.filter fun event => ¬ policy.ExpiresAuditEvent chrono now event := by
  rw [purgeAudit, Eff.after, AuditStore.exec_purgeForRetention]
  refine (Table.lookup_mapValues ..).trans ?_
  refine congrArg (fun change => Option.map change _) (funext fun events => ?_)
  exact List.filter_congr fun event _ => decide_eq_decide.mpr AuditStore.isRetained_iff

end RetentionPolicy

/-- What one policy does to the stores. -/
theorem exec_purgePolicy (drawRunId : Uuid → Uuid) (now : Int) (ranAt : String) (dryRun : Bool)
    {policy : RetentionPolicy} (normalized : normalizePolicy policy = .ok policy)
    (summary : RetentionRunSummary) (stores : RetentionStores)
    : (RetentionWorker.purgePolicy chrono drawRunId now ranAt dryRun policy summary).exec stores
        = (.ok (summary.plus (policy.expiredCounts chrono now stores)),
          policy.purged chrono now drawRunId ranAt dryRun stores) := by
  rw [RetentionWorker.purgePolicy, Eff.exec_check_bind, normalized]
  cases dryRun <;> rfl

/-- A policy that is not normalized stops the run before anything is purged. -/
theorem exec_purgePolicy_of_error (drawRunId : Uuid → Uuid) (now : Int) (ranAt : String)
    (dryRun : Bool) {policy : RetentionPolicy} {problem : RetentionError}
    (checked : normalizePolicy policy = .error problem) (summary : RetentionRunSummary)
    (stores : RetentionStores)
    : (RetentionWorker.purgePolicy chrono drawRunId now ranAt dryRun policy summary).exec stores
        = (.error problem, stores) := by
  rw [RetentionWorker.purgePolicy, Eff.exec_check_bind, checked]

/-- The records of the stores lie under their own identifiers. -/
structure RetentionStores.Keyed (stores : RetentionStores) : Prop where
  messages : stores.messages.Keyed
  attachments : stores.attachments.Keyed

namespace RemovesExactly

variable {stores middle next : RetentionStores} {message laterMessage : Message → Prop}
  {file laterFile : Attachment → Prop} {audit laterAudit : AuditEvent → Prop}

theorem refl (stores : RetentionStores)
    : RemovesExactly (fun _ => False) (fun _ => False) (fun _ => False) stores stores where
  messages id found := by simp
  attachments id found := by simp
  contents id content := by simp
  audit spaceId := by simp
  policies := rfl

/-- Two removals after one another remove what either of them removes. -/
theorem trans (first : RemovesExactly message file audit stores middle)
    (second : RemovesExactly laterMessage laterFile laterAudit middle next)
    : RemovesExactly (fun found => message found ∨ laterMessage found)
        (fun found => file found ∨ laterFile found)
        (fun event => audit event ∨ laterAudit event) stores next where
  messages id found := by
    rw [second.messages, first.messages, not_or, and_assoc]
  attachments id found := by
    rw [second.attachments, first.attachments, not_or, and_assoc]
  contents id content := by
    rw [second.contents, first.contents, and_assoc]
    refine and_congr_right fun _ => ?_
    simp only [first.attachments, not_or]
    constructor
    · intro kept found stored
      exact ⟨kept.1 found stored, kept.2 found ⟨stored, kept.1 found stored⟩⟩
    · intro kept
      exact ⟨fun found stored => (kept found stored).1,
        fun found stored => (kept found stored.1).2⟩
  audit spaceId := by
    rw [second.audit, first.audit, Option.map_map]
    refine congrArg (fun change => Option.map change _) (funext fun events => ?_)
    rw [Function.comp_apply, List.filter_filter]
    refine List.filter_congr fun event _ => ?_
    by_cases own : audit event
    · simp [own]
    · simp [own]
  policies := second.policies.trans first.policies

/-- What is removed matters for stored records only. -/
theorem congr (removes : RemovesExactly message file audit stores next)
    (sameMessages : ∀ id found, stores.messages.messagesById.lookup id = some found →
      (message found ↔ laterMessage found))
    (sameFiles : ∀ id found, stores.attachments.getAttachment id = some found →
      (file found ↔ laterFile found))
    (sameEvents : ∀ spaceId events, stores.audit.eventsBySpaceId.lookup spaceId = some events →
      ∀ event ∈ events, (audit event ↔ laterAudit event))
    : RemovesExactly laterMessage laterFile laterAudit stores next where
  messages id found := by
    rw [removes.messages]
    exact and_congr_right fun stored => not_congr (sameMessages id found stored)
  attachments id found := by
    rw [removes.attachments]
    exact and_congr_right fun stored => not_congr (sameFiles id found stored)
  contents id content := by
    rw [removes.contents]
    refine and_congr_right fun _ => forall_congr' fun found => imp_congr_right fun stored => ?_
    exact not_congr (sameFiles id found stored)
  audit spaceId := by
    rw [removes.audit]
    cases stored : stores.audit.eventsBySpaceId.lookup spaceId with
    | none => rfl
    | some events =>
        refine congrArg some (List.filter_congr fun event listed => ?_)
        exact decide_eq_decide.mpr (not_congr (sameEvents spaceId events stored event listed))
  policies := removes.policies

/-- What remains lies where it lay. -/
theorem keyed (removes : RemovesExactly message file audit stores next) (keyed : stores.Keyed)
    : next.Keyed :=
  ⟨fun id found stored => keyed.messages id found ((removes.messages id found).mp stored).1,
    fun id found stored =>
      keyed.attachments id found ((removes.attachments id found).mp stored).1⟩

end RemovesExactly

/-- The stores after one policy. -/
theorem removesExactly_policy {stores : RetentionStores} (keyed : stores.Keyed)
    (policy : RetentionPolicy) (now : Int) (drawRunId : Uuid → Uuid) (ranAt : String)
    : RemovesExactly (policy.ExpiresMessage chrono now) (policy.ExpiresFile chrono now)
        (policy.ExpiresAuditEvent chrono now) stores
        (policy.purged chrono now drawRunId ranAt false stores) where
  messages id found := by
    rw [RetentionPolicy.purged, RetentionPolicy.lookup_purgeMessages keyed.messages,
      Option.filter_eq_some_iff]
    simp
  attachments id found := by
    rw [RetentionPolicy.purged, RetentionPolicy.getAttachment_purgeFiles keyed.attachments,
      Option.filter_eq_some_iff]
    simp
  contents id content :=
    RetentionPolicy.contentForAttachment_purgeFiles keyed.attachments id content
  audit spaceId := by
    rw [RetentionPolicy.purged, RetentionPolicy.lookup_purgeAudit]
    exact congrArg (fun change => Option.map change _)
      (funext fun events => List.filter_congr fun event _ => decide_eq_decide.mpr Iff.rfl)
  policies := rfl

/-- Every run over normalized policies comes to its end, and removes what any of them lets
expire; by induction over the policies.
-/
theorem exec_purgePolicies (drawRunId : Uuid → Uuid) (now : Int) (ranAt : String)
    {policies : List RetentionPolicy}
    (normalized : ∀ policy ∈ policies, normalizePolicy policy = .ok policy)
    (summary : RetentionRunSummary) {stores : RetentionStores} (keyed : stores.Keyed)
    : ∃ counted next,
        (RetentionWorker.purgePolicies chrono drawRunId now ranAt false policies summary).exec
            stores = (.ok counted, next)
          ∧ RemovesExactly (MessageExpired chrono now policies) (FileExpired chrono now policies)
              (AuditExpired chrono now policies) stores next := by
  induction policies generalizing summary stores with
  | nil =>
      refine ⟨summary, stores, rfl, (RemovesExactly.refl stores).congr ?_ ?_ ?_⟩
      · exact fun _ _ _ => by simp [MessageExpired]
      · exact fun _ _ _ => by simp [FileExpired]
      · exact fun _ _ _ _ _ => by simp [AuditExpired]
  | cons policy rest ih =>
      obtain ⟨own, others⟩ := List.forall_mem_cons.mp normalized
      have first := @removesExactly_policy chrono stores keyed policy now drawRunId ranAt
      obtain ⟨last, next, rested, second⟩ :=
        ih others (summary.plus (policy.expiredCounts chrono now stores)) (first.keyed keyed)
      refine ⟨last, next, ?_, (first.trans second).congr ?_ ?_ ?_⟩
      · rw [RetentionWorker.purgePolicies, Eff.exec_bind, exec_purgePolicy _ _ _ _ own]
        exact rested
      · exact fun _ _ _ => by simp [MessageExpired]
      · exact fun _ _ _ => by simp [FileExpired]
      · exact fun _ _ _ _ _ => by simp [AuditExpired]

-----------------------------------------------------------------------------------------
-- What the policies remove, by time
-----------------------------------------------------------------------------------------

/-- A text is the text of a timestamp. -/
def IsCanonical (text : String) : Prop :=
  ∃ timestamp : Timestamp, timestamp.toString = text

/-- A text is the text of a timestamp before an instant, to the millisecond. -/
def IsBefore (text : String) (instant : Int) : Prop :=
  ∃ timestamp : Timestamp, timestamp.toString = text ∧ timestamp.epochMillis < instant / 1000000

/-- The calendar library prints the timestamp of the millisecond that an instant lies in. -/
def Chrono.PrintsCanonical (chrono : Chrono) : Prop :=
  ∀ instant (timestamp : Timestamp), timestamp.epochMillis = instant / 1000000 →
    chrono.toRfc3339Millis instant = timestamp.toString

/-- A text is smaller than a cutoff exactly when it is the text of an earlier time. -/
theorem lt_toRfc3339Millis (prints : chrono.PrintsCanonical) {text : String} {instant : Int}
    (canonical : IsCanonical text) (inRange : Timestamp.InRange (instant / 1000000))
    : text < chrono.toRfc3339Millis instant ↔ IsBefore text instant := by
  obtain ⟨limit, atLimit⟩ := Timestamp.exists_of_inRange inRange
  rw [prints instant limit atLimit]
  constructor
  · intro less
    obtain ⟨timestamp, rfl⟩ := canonical
    refine ⟨timestamp, rfl, ?_⟩
    rw [← atLimit]
    exact Timestamp.toString_lt_toString.mp less
  · intro before
    obtain ⟨timestamp, rfl, earlier⟩ := before
    rw [← atLimit] at earlier
    exact Timestamp.toString_lt_toString.mpr earlier

/-- A text is smaller than the cutoff of a limit exactly when the limit makes it too old. -/
theorem lt_cutoff (prints : chrono.PrintsCanonical) {text : String} {now : Int}
    {limit : Option Int} (canonical : IsCanonical text)
    (inRange : ∀ days ∈ limit, Timestamp.InRange (RetentionWorker.minusDays now days / 1000000))
    : (∃ cutoff ∈ RetentionWorker.cutoff chrono now limit, text < cutoff)
        ↔ ∃ days ∈ limit, IsBefore text (RetentionWorker.minusDays now days) := by
  cases limit with
  | none => exact iff_of_false nofun nofun
  | some days =>
      have same := lt_toRfc3339Millis prints canonical (inRange days rfl)
      simpa [RetentionWorker.cutoff] using same

section Expiry

variable (store : RetentionStore) (now : Int)

/-- The policy of its organization lets a message expire, for its age or for the time since it
was deleted.
-/
def MessageExpires (message : Message) : Prop :=
  ∃ policy ∈ store.getPolicy message.organizationId,
    (∃ days ∈ policy.messagesRetainDays,
        IsBefore message.createdAt (RetentionWorker.minusDays now days))
      ∨ ∃ days ∈ policy.deletedMessagePurgeDays, ∃ deletedAt ∈ message.deletedAt,
        IsBefore deletedAt (RetentionWorker.minusDays now days)

def FileExpires (attachment : Attachment) : Prop :=
  ∃ policy ∈ store.getPolicy attachment.organizationId, ∃ days ∈ policy.filesRetainDays,
    IsBefore attachment.createdAt (RetentionWorker.minusDays now days)

def AuditExpires (event : AuditEvent) : Prop :=
  ∃ policy ∈ store.getPolicy event.organizationId, ∃ days ∈ policy.auditLogsRetainDays,
    IsBefore event.createdAt (RetentionWorker.minusDays now days)

/-- The cutoffs of the stored policies lie in the years of the calendar. -/
def CutoffsInRange : Prop :=
  ∀ organizationId, ∀ policy ∈ store.getPolicy organizationId,
    ∀ limit ∈ [policy.messagesRetainDays, policy.filesRetainDays, policy.auditLogsRetainDays,
      policy.deletedMessagePurgeDays], ∀ days ∈ limit,
      Timestamp.InRange (RetentionWorker.minusDays now days / 1000000)

end Expiry

/-- The timestamps of the stored records are canonical. -/
structure RetentionStores.Canonical (stores : RetentionStores) : Prop where
  messages : ∀ id message, stores.messages.messagesById.lookup id = some message →
    IsCanonical message.createdAt ∧ ∀ deletedAt ∈ message.deletedAt, IsCanonical deletedAt
  attachments : ∀ id attachment, stores.attachments.getAttachment id = some attachment →
    IsCanonical attachment.createdAt
  audit : ∀ spaceId events, stores.audit.eventsBySpaceId.lookup spaceId = some events →
    ∀ event ∈ events, IsCanonical event.createdAt

/-- The stored policies lie under their organizations, and keep to the bounds of a policy. -/
structure RetentionStore.Sound (store : RetentionStore) : Prop where
  keyed : Table.Keyed (fun policy => policy.organizationId) store.policiesByOrganizationId
  normalized : ∀ organizationId policy, store.getPolicy organizationId = some policy →
    normalizePolicy policy = .ok policy

/-- The policies are sound as long as they are stored through their service. -/
theorem RetentionService.sound_upsertPolicy {policy : RetentionPolicy} {store : RetentionStore}
    (sound : store.Sound)
    : ((RetentionService.upsertPolicy policy).after store).Sound := by
  rw [RetentionService.upsertPolicy, Eff.after, Eff.exec_check_bind]
  cases checked : normalizePolicy policy with
  | error problem => exact sound
  | ok stored =>
      obtain rfl := normalizePolicy_ok checked
      exact ⟨sound.keyed.insert stored, Table.forall_insert checked sound.normalized⟩

theorem RetentionStore.mem_listPolicies {store : RetentionStore} (sound : store.Sound)
    {policy : RetentionPolicy}
    : policy ∈ store.listPolicies ↔ store.getPolicy policy.organizationId = some policy := by
  rw [listPolicies, List.mem_insertionSort, Table.mem_values]
  constructor
  · intro listed
    obtain ⟨organizationId, found⟩ := listed
    obtain rfl := sound.keyed organizationId policy found
    exact found
  · intro stored
    exact ⟨policy.organizationId, stored⟩

-----------------------------------------------------------------------------------------
-- The worker
-----------------------------------------------------------------------------------------

/-- What holds for a listed policy of an organization holds for the policy that is stored for it.
-/
theorem RetentionStore.exists_listed_iff {store : RetentionStore} (sound : store.Sound)
    {organizationId : Uuid} {listed stored : RetentionPolicy → Prop}
    (same : ∀ policy ∈ store.getPolicy organizationId, (listed policy ↔ stored policy))
    : (∃ policy ∈ store.listPolicies, organizationId = policy.organizationId ∧ listed policy)
        ↔ ∃ policy ∈ store.getPolicy organizationId, stored policy := by
  constructor
  · intro found
    obtain ⟨policy, mem, rfl, holds⟩ := found
    have own := (mem_listPolicies sound).mp mem
    exact ⟨policy, own, (same policy own).mp holds⟩
  · intro found
    obtain ⟨policy, own, holds⟩ := found
    obtain rfl := sound.keyed organizationId policy own
    exact ⟨policy, (mem_listPolicies sound).mpr own, rfl, (same policy own).mpr holds⟩

section Agreement

variable {store : RetentionStore} {now : Int} (prints : chrono.PrintsCanonical)
  (sound : store.Sound) (inRange : CutoffsInRange store now)

include prints sound inRange

theorem messageExpired_iff {message : Message} (created : IsCanonical message.createdAt)
    (deleted : ∀ deletedAt ∈ message.deletedAt, IsCanonical deletedAt)
    : MessageExpired chrono now store.listPolicies message ↔ MessageExpires store now message := by
  refine RetentionStore.exists_listed_iff sound fun policy stored => ?_
  have limits := inRange message.organizationId policy stored
  refine or_congr (lt_cutoff prints created (limits _ (by simp))) ?_
  cases removed : message.deletedAt with
  | none => simp
  | some deletedAt =>
      have same := lt_cutoff prints (deleted deletedAt removed)
        (limits policy.deletedMessagePurgeDays (by simp))
      simpa using same

theorem fileExpired_iff {attachment : Attachment} (created : IsCanonical attachment.createdAt)
    : FileExpired chrono now store.listPolicies attachment
      ↔ FileExpires store now attachment := by
  refine RetentionStore.exists_listed_iff sound fun policy stored => ?_
  exact lt_cutoff prints created (inRange attachment.organizationId policy stored _ (by simp))

theorem auditExpired_iff {event : AuditEvent} (created : IsCanonical event.createdAt)
    : AuditExpired chrono now store.listPolicies event ↔ AuditExpires store now event := by
  refine RetentionStore.exists_listed_iff sound fun policy stored => ?_
  exact lt_cutoff prints created (inRange event.organizationId policy stored _ (by simp))

end Agreement

/-- A run that is not dry comes to its end, and removes exactly what the stored policies let
expire: what is older than their limits at the time of the run.
-/
theorem removesExactly_runOnceAt (prints : chrono.PrintsCanonical) (drawRunId : Uuid → Uuid)
    {text : String} {now : Int} (parsed : chrono.parseFromRfc3339 (Text.trim text) = some now)
    {stores : RetentionStores} (keyed : stores.Keyed) (sound : stores.retention.Sound)
    (canonical : stores.Canonical) (inRange : CutoffsInRange stores.retention now)
    : ∃ summary next,
        (RetentionWorker.runOnceAt chrono drawRunId text false).exec stores = (.ok summary, next)
          ∧ RemovesExactly (MessageExpires stores.retention now)
              (FileExpires stores.retention now) (AuditExpires stores.retention now)
              stores next := by
  have normalized : ∀ policy ∈ stores.retention.listPolicies,
      normalizePolicy policy = .ok policy := by
    intro policy listed
    exact sound.normalized _ policy ((RetentionStore.mem_listPolicies sound).mp listed)
  obtain ⟨summary, next, ran, removes⟩ :=
    @exec_purgePolicies chrono drawRunId now (chrono.toRfc3339Millis now)
      stores.retention.listPolicies normalized
      ⟨stores.retention.listPolicies.length, 0, 0, 0, false⟩ stores keyed
  refine ⟨summary, next, ?_, removes.congr ?_ ?_ ?_⟩
  · rw [RetentionWorker.runOnceAt, RetentionWorker.parseTime, parsed, Eff.exec_check_bind]
    exact ran
  · intro id message stored
    obtain ⟨created, deleted⟩ := canonical.messages id message stored
    exact messageExpired_iff prints sound inRange created deleted
  · intro id attachment stored
    exact fileExpired_iff prints sound inRange (canonical.attachments id attachment stored)
  · intro spaceId events stored event listed
    exact auditExpired_iff prints sound inRange
      (canonical.audit spaceId events stored event listed)

namespace Nightly

/-- The time of a run, of a message that it removes, and of one that it leaves. -/
def now : Timestamp :=
  ⟨2026, 6, 24, 9, 0, 0, 0, by decide, by decide, by decide, by decide, by decide, by decide,
    by decide, by decide, by decide⟩

def lastYear : Timestamp :=
  ⟨2025, 12, 31, 23, 59, 59, 999, by decide, by decide, by decide, by decide, by decide,
    by decide, by decide, by decide, by decide⟩

def yesterday : Timestamp :=
  ⟨2026, 6, 23, 9, 0, 0, 0, by decide, by decide, by decide, by decide, by decide, by decide,
    by decide, by decide, by decide⟩

def calendar : Chrono where
  parseFromRfc3339 text :=
    if text = "2026-06-24T09:00:00.000Z" then some (now.epochMillis * 1000000) else none
  toRfc3339Millis instant := Timestamp.print (instant / 1000000)

def policy : RetentionPolicy := ⟨.ofNat 10, some 30, some 30, some 90, some 7⟩

def message (id organization : Nat) (createdAt : Timestamp) : Message where
  id := .ofNat id
  organizationId := .ofNat organization
  spaceId := none
  channelId := .ofNat 30
  authorUserId := .ofNat 1
  content := "hello"
  contentFormat := "markdown"
  embeds := []
  components := []
  webhookUsername := none
  webhookAvatarUrl := none
  mentionUserIds := []
  mentionRoleIds := []
  mentionEveryone := false
  replyToMessageId := none
  editedAt := none
  deletedAt := some yesterday.toString
  createdAt := createdAt.toString

def attachment : Attachment :=
  ⟨.ofNat 80, .ofNat 10, .ofNat 20, .ofNat 30, none, .ofNat 1, "receipt.txt", "text/plain", 2,
    .pending, lastYear.toString⟩

def event : AuditEvent :=
  ⟨.ofNat 90, .ofNat 10, .ofNat 20, .ofNat 1, "space.updated", "space", .ofNat 20, .null,
    lastYear.toString⟩

/-- One of two organizations has a policy, and both have a message from last year. -/
def stores : RetentionStores where
  retention := ⟨AList.insert (.ofNat 10) policy ∅, ∅⟩
  messages := ⟨AList.insert (.ofNat 71) (message 71 11 lastYear)
    (AList.insert (.ofNat 70) (message 70 10 lastYear) ∅)⟩
  attachments := ⟨AList.insert (.ofNat 80) attachment ∅, ∅⟩
  audit := ⟨AList.insert (.ofNat 20) [event] ∅⟩

theorem keyed_stores : stores.Keyed where
  messages := Table.forall_insert rfl (Table.forall_insert rfl Table.forall_empty)
  attachments := Table.forall_insert rfl Table.forall_empty

theorem canonical_stores : stores.Canonical where
  messages := by
    have canonical : ∀ id organization, IsCanonical (message id organization lastYear).createdAt
        ∧ ∀ deletedAt ∈ (message id organization lastYear).deletedAt, IsCanonical deletedAt := by
      intro id organization
      refine ⟨⟨lastYear, rfl⟩, fun deletedAt deleted => ?_⟩
      exact ⟨yesterday, Option.some.inj deleted⟩
    exact Table.forall_insert (canonical 71 11)
      (Table.forall_insert (canonical 70 10) Table.forall_empty)
  attachments := Table.forall_insert ⟨lastYear, rfl⟩ Table.forall_empty
  audit := by
    refine Table.forall_insert (fun other listed => ?_) Table.forall_empty
    rw [List.mem_singleton.mp listed]
    exact ⟨lastYear, rfl⟩

theorem sound_stores : stores.retention.Sound where
  keyed := Table.forall_insert rfl Table.forall_empty
  normalized := Table.forall_insert rfl Table.forall_empty

theorem inRange_stores : CutoffsInRange stores.retention (now.epochMillis * 1000000) := by
  refine Table.forall_insert ?_ Table.forall_empty
  have inRange : ∀ days : Int, days = 30 ∨ days = 90 ∨ days = 7 →
      Timestamp.InRange
        (RetentionWorker.minusDays (now.epochMillis * 1000000) days / 1000000) := by
    intro days either
    rcases either with rfl | rfl | rfl <;> exact ⟨by decide, by decide⟩
  simp [policy, inRange]

end Nightly

theorem nightly_removesExactly
    : ∃ summary next,
        (RetentionWorker.runOnceAt Nightly.calendar id "2026-06-24T09:00:00.000Z" false).exec
            Nightly.stores = (.ok summary, next)
          ∧ next.messages.messagesById.lookup (.ofNat 70) = none
          ∧ next.messages.messagesById.lookup (.ofNat 71)
              = some (Nightly.message 71 11 Nightly.lastYear) := by
  have prints : Nightly.calendar.PrintsCanonical := by
    intro instant timestamp same
    rw [← timestamp.print_epochMillis, same]
    rfl
  have parsed : Nightly.calendar.parseFromRfc3339 (Text.trim "2026-06-24T09:00:00.000Z")
      = some (Nightly.now.epochMillis * 1000000) := by
    decide
  obtain ⟨summary, next, ran, removes⟩ := removesExactly_runOnceAt prints id parsed
    Nightly.keyed_stores Nightly.sound_stores Nightly.canonical_stores Nightly.inRange_stores
  refine ⟨summary, next, ran, ?_, ?_⟩
  · refine Option.eq_none_iff_forall_ne_some.mpr fun found kept => ?_
    obtain ⟨stored, notExpired⟩ := (removes.messages _ found).mp kept
    obtain rfl := Option.some.inj stored
    exact notExpired ⟨Nightly.policy, rfl, .inl ⟨30, rfl, Nightly.lastYear, rfl, by decide⟩⟩
  · refine (removes.messages _ _).mpr ⟨rfl, fun expired => ?_⟩
    obtain ⟨policy, stored, _⟩ := expired
    cases stored

end OpenCord.Retention

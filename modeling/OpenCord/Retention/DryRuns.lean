import OpenCord.Retention.Expiry

/-! What a run of the retention worker counts. Each organization has one policy, so a purge does
not change what the other policies let expire; what a run counts is therefore settled by the
stores it starts from, whether it is dry or not.
-/

namespace OpenCord.Retention

open OpenCord.Library OpenCord.Platform OpenCord.Attachments OpenCord.Audit OpenCord.Messages

variable {chrono : Chrono} {now : Int}

-----------------------------------------------------------------------------------------
-- What is left to purge
-----------------------------------------------------------------------------------------

namespace RetentionPolicy

variable {policy other : RetentionPolicy} {drawRunId : Uuid → Uuid} {ranAt : String}
  {stores : RetentionStores}

theorem keyed_purged (keyed : stores.Keyed) (dryRun : Bool)
    : (policy.purged chrono now drawRunId ranAt dryRun stores).Keyed := by
  cases dryRun with
  | true => exact ⟨keyed.messages, keyed.attachments⟩
  | false => exact (removesExactly_policy keyed policy now drawRunId ranAt).keyed keyed

/-- How many events with a property a purge leaves. -/
theorem countP_purgeAudit (store : AuditStore) (property : AuditEvent → Prop)
    [DecidablePred property]
    : (((policy.purgeAudit chrono now false).after store).eventsBySpaceId.values.map
          fun events => events.countP fun event => property event).sum
        = (store.eventsBySpaceId.values.map fun events => events.countP fun event =>
            property event ∧ ¬ policy.ExpiresAuditEvent chrono now event).sum := by
  rw [purgeAudit, Eff.after, AuditStore.exec_purgeForRetention]
  change (List.map _ (Table.values (Table.mapValues _ _))).sum = _
  rw [Table.values_mapValues, List.map_map]
  refine congrArg List.sum (List.map_congr_left fun events _ => ?_)
  rw [Function.comp_apply, List.countP_filter]
  refine List.countP_congr fun event _ => ?_
  rw [Bool.and_eq_true, decide_eq_true_eq, decide_eq_true_eq, decide_eq_true_eq,
    AuditStore.isRetained_iff]

/-- A purge leaves what the policy of another organization counts. -/
theorem expiredCounts_purged_of_ne (keyed : stores.Keyed) (dryRun : Bool)
    (apart : other.organizationId ≠ policy.organizationId)
    : other.expiredCounts chrono now (policy.purged chrono now drawRunId ranAt dryRun stores)
        = other.expiredCounts chrono now stores := by
  cases dryRun with
  | true => rfl
  | false =>
      have purgedKeyed := @keyed_purged chrono now policy drawRunId ranAt stores keyed false
      refine PurgeCounts.mk.injEq .. ▸ ⟨?_, ?_, ?_⟩
      · refine Table.length_keysWhere_congr purgedKeyed.messages keyed.messages fun id => ?_
        simp only [purged, lookup_purgeMessages keyed.messages, Option.mem_def,
          Option.filter_eq_some_iff, decide_eq_true_eq]
        refine exists_congr fun message => and_congr_left fun expired => and_iff_left ?_
        exact fun expiredHere => apart (expired.1.symm.trans expiredHere.1)
      · refine Table.length_keysWhere_congr purgedKeyed.attachments keyed.attachments fun id => ?_
        change (∃ attachment ∈ AttachmentStore.getAttachment _ id, _)
          ↔ ∃ attachment ∈ AttachmentStore.getAttachment _ id, _
        simp only [purged, getAttachment_purgeFiles keyed.attachments, Option.mem_def,
          Option.filter_eq_some_iff, decide_eq_true_eq]
        refine exists_congr fun attachment => and_congr_left fun expired => and_iff_left ?_
        exact fun expiredHere => apart (expired.1.symm.trans expiredHere.1)
      · refine (countP_purgeAudit ..).trans (congrArg List.sum ?_)
        refine List.map_congr_left fun events _ => List.countP_congr fun event _ => ?_
        rw [decide_eq_true_eq, decide_eq_true_eq]
        exact and_iff_left_of_imp fun expired expiredHere =>
          apart (expired.1.symm.trans expiredHere.1)

/-- A purge leaves nothing for its policy to count. -/
theorem expiredCounts_purged_self (keyed : stores.Keyed)
    : policy.expiredCounts chrono now (policy.purged chrono now drawRunId ranAt false stores)
        = ⟨0, 0, 0⟩ := by
  refine PurgeCounts.mk.injEq .. ▸ ⟨?_, ?_, ?_⟩
  · refine List.length_eq_zero_iff.mpr (Table.keysWhere_eq_nil_iff.mpr fun id message found => ?_)
    rw [purged, lookup_purgeMessages keyed.messages, Option.mem_def,
      Option.filter_eq_some_iff] at found
    exact of_decide_eq_true found.2
  · refine List.length_eq_zero_iff.mpr (Table.keysWhere_eq_nil_iff.mpr fun id file found => ?_)
    change file ∈ AttachmentStore.getAttachment _ id at found
    rw [purged, getAttachment_purgeFiles keyed.attachments, Option.mem_def,
      Option.filter_eq_some_iff] at found
    exact of_decide_eq_true found.2
  · refine (countP_purgeAudit ..).trans
      (List.sum_eq_zero_iff_forall_eq_nat.mpr fun count listed => ?_)
    obtain ⟨events, _, rfl⟩ := List.mem_map.mp listed
    refine List.countP_eq_zero.mpr fun event _ kept => ?_
    obtain ⟨expired, retained⟩ := of_decide_eq_true kept
    exact retained expired

end RetentionPolicy

-----------------------------------------------------------------------------------------
-- What a run answers
-----------------------------------------------------------------------------------------

def PurgeCounts.plus (counts more : PurgeCounts) : PurgeCounts :=
  ⟨counts.messages + more.messages, counts.files + more.files,
    counts.auditEvents + more.auditEvents⟩

theorem PurgeCounts.nothing_plus (counts : PurgeCounts) : plus ⟨0, 0, 0⟩ counts = counts := by
  simp [plus]

namespace RetentionRunSummary

/-- The summary with other counts. -/
def withCounts (summary : RetentionRunSummary) (counts : PurgeCounts) : RetentionRunSummary :=
  { summary with
    messagesPurged := counts.messages
    filesPurged := counts.files
    auditEventsPurged := counts.auditEvents }

/-- The summary of a run without its counts. -/
def purgingNothing (summary : RetentionRunSummary) : RetentionRunSummary :=
  summary.withCounts ⟨0, 0, 0⟩

/-- The summary as a dry run returns it. -/
def dry (summary : RetentionRunSummary) : RetentionRunSummary :=
  { summary with dryRun := true }

def counts (summary : RetentionRunSummary) : PurgeCounts :=
  ⟨summary.messagesPurged, summary.filesPurged, summary.auditEventsPurged⟩

end RetentionRunSummary

/-- The counts of a run over the policies, up to the first that is not normalized; all are taken
in the same stores.
-/
def countPolicies (chrono : Chrono) (now : Int) (stores : RetentionStores)
    : List RetentionPolicy → PurgeCounts → Except RetentionError PurgeCounts
  | [], counts => .ok counts
  | policy :: policies, counts => do
      let policy ← normalizePolicy policy
      countPolicies chrono now stores policies
        (counts.plus (policy.expiredCounts chrono now stores))

/-- Only what expires matters for the counts. -/
theorem countPolicies_congr {policies : List RetentionPolicy} {stores other : RetentionStores}
    (same : ∀ policy ∈ policies,
      policy.expiredCounts chrono now stores = policy.expiredCounts chrono now other)
    (counts : PurgeCounts)
    : countPolicies chrono now stores policies counts
        = countPolicies chrono now other policies counts := by
  induction policies generalizing counts with
  | nil => rfl
  | cons policy policies ih =>
      obtain ⟨own, others⟩ := List.forall_mem_cons.mp same
      rw [countPolicies, countPolicies]
      cases checked : normalizePolicy policy with
      | error problem => rfl
      | ok normalized =>
          obtain rfl := normalizePolicy_ok checked
          change countPolicies _ _ _ _ (counts.plus (normalized.expiredCounts chrono now stores))
            = _
          rw [own]
          exact ih others _

/-- What a run answers is settled by the stores it starts from, by induction over the policies:
each purge leaves what the other policies count.
-/
theorem answer_purgePolicies (drawRunId : Uuid → Uuid) (ranAt : String) (dryRun : Bool)
    {policies : List RetentionPolicy}
    (apart : policies.Pairwise fun policy other => other.organizationId ≠ policy.organizationId)
    (summary : RetentionRunSummary) {stores : RetentionStores} (keyed : stores.Keyed)
    : ((RetentionWorker.purgePolicies chrono drawRunId now ranAt dryRun policies summary).exec
          stores).1
        = (countPolicies chrono now stores policies summary.counts).map summary.withCounts := by
  induction policies generalizing summary stores with
  | nil => rfl
  | cons policy policies ih =>
      obtain ⟨own, others⟩ := List.pairwise_cons.mp apart
      rw [RetentionWorker.purgePolicies, Eff.exec_bind, countPolicies]
      cases checked : normalizePolicy policy with
      | error problem =>
          rw [exec_purgePolicy_of_error _ _ _ _ checked]
          rfl
      | ok normalized =>
          obtain rfl := normalizePolicy_ok checked
          rw [exec_purgePolicy _ _ _ _ checked]
          refine (ih others _ (RetentionPolicy.keyed_purged keyed dryRun)).trans ?_
          rw [countPolicies_congr fun other listed =>
            RetentionPolicy.expiredCounts_purged_of_ne keyed dryRun (own other listed)]
          rfl

/-- Where the policies fail does not depend on the stores. -/
theorem countPolicies_eq_error {policies : List RetentionPolicy} {stores other : RetentionStores}
    {given start : PurgeCounts} {problem : RetentionError}
    (failed : countPolicies chrono now stores policies given = .error problem)
    : countPolicies chrono now other policies start = .error problem := by
  induction policies generalizing given start with
  | nil => cases failed
  | cons policy policies ih =>
      rw [countPolicies] at failed ⊢
      cases checked : normalizePolicy policy with
      | error own =>
          rw [checked] at failed
          exact failed
      | ok normalized =>
          rw [checked] at failed
          exact ih failed

/-- Policies that let nothing expire add nothing to the counts. -/
theorem countPolicies_of_nothing {policies : List RetentionPolicy}
    {stores other : RetentionStores} {given total start : PurgeCounts}
    (counted : countPolicies chrono now other policies given = .ok total)
    (nothing : ∀ policy ∈ policies, policy.expiredCounts chrono now stores = ⟨0, 0, 0⟩)
    : countPolicies chrono now stores policies start = .ok start := by
  induction policies generalizing given with
  | nil => rfl
  | cons policy policies ih =>
      obtain ⟨own, others⟩ := List.forall_mem_cons.mp nothing
      rw [countPolicies] at counted ⊢
      obtain ⟨normalized, checked, rest⟩ := Eff.check_bind_eq_ok.mp counted
      obtain rfl := normalizePolicy_ok checked
      rw [checked]
      change countPolicies _ _ _ _ (start.plus (normalized.expiredCounts chrono now stores)) = _
      rw [own]
      exact ih rest others

/-- A run leaves what the policies of other organizations count, wherever it ends; by induction
over its policies.
-/
theorem expiredCounts_after_of_ne (drawRunId : Uuid → Uuid) (ranAt : String) (dryRun : Bool)
    {policies : List RetentionPolicy} {other : RetentionPolicy}
    (apart : ∀ policy ∈ policies, other.organizationId ≠ policy.organizationId)
    (summary : RetentionRunSummary) {stores : RetentionStores} (keyed : stores.Keyed)
    : other.expiredCounts chrono now
          ((RetentionWorker.purgePolicies chrono drawRunId now ranAt dryRun policies summary).after
            stores)
        = other.expiredCounts chrono now stores := by
  induction policies generalizing summary stores with
  | nil => rfl
  | cons policy policies ih =>
      obtain ⟨own, others⟩ := List.forall_mem_cons.mp apart
      rw [RetentionWorker.purgePolicies]
      cases checked : normalizePolicy policy with
      | error problem =>
          rw [Eff.after_bind_of_error
            (exec_purgePolicy_of_error drawRunId now ranAt dryRun checked summary stores)]
      | ok normalized =>
          obtain rfl := normalizePolicy_ok checked
          rw [Eff.after_bind_of_ok (exec_purgePolicy drawRunId now ranAt dryRun checked _ stores),
            ih others _ (RetentionPolicy.keyed_purged keyed dryRun),
            RetentionPolicy.expiredCounts_purged_of_ne keyed dryRun own]

/-- Records stay under their identifiers, by induction over the policies. -/
theorem keyed_purgePolicies (drawRunId : Uuid → Uuid) (ranAt : String) (dryRun : Bool)
    (policies : List RetentionPolicy) (summary : RetentionRunSummary) {stores : RetentionStores}
    (keyed : stores.Keyed)
    : ((RetentionWorker.purgePolicies chrono drawRunId now ranAt dryRun policies summary).after
        stores).Keyed := by
  induction policies generalizing summary stores with
  | nil => exact keyed
  | cons policy policies ih =>
      rw [RetentionWorker.purgePolicies]
      cases checked : normalizePolicy policy with
      | error problem =>
          rw [Eff.after_bind_of_error
            (exec_purgePolicy_of_error drawRunId now ranAt dryRun checked summary stores)]
          exact keyed
      | ok normalized =>
          obtain rfl := normalizePolicy_ok checked
          rw [Eff.after_bind_of_ok (exec_purgePolicy drawRunId now ranAt dryRun checked _ stores)]
          exact ih _ (RetentionPolicy.keyed_purged keyed dryRun)

/-- A run that comes to its end leaves nothing that its policies count, by induction over them:
what a policy has purged the later ones do not bring back.
-/
theorem expiredCounts_after_run (drawRunId : Uuid → Uuid) (ranAt : String)
    {policies : List RetentionPolicy}
    (apart : policies.Pairwise fun policy other => other.organizationId ≠ policy.organizationId)
    (summary : RetentionRunSummary) {answer : RetentionRunSummary}
    {stores next : RetentionStores} (keyed : stores.Keyed)
    (ran : (RetentionWorker.purgePolicies chrono drawRunId now ranAt false policies summary).exec
      stores = (.ok answer, next))
    : ∀ policy ∈ policies, policy.expiredCounts chrono now next = ⟨0, 0, 0⟩ := by
  induction policies generalizing summary stores with
  | nil => exact fun policy listed => absurd listed List.not_mem_nil
  | cons policy policies ih =>
      obtain ⟨own, others⟩ := List.pairwise_cons.mp apart
      rw [RetentionWorker.purgePolicies, Eff.exec_bind] at ran
      cases checked : normalizePolicy policy with
      | error problem =>
          rw [exec_purgePolicy_of_error _ _ _ _ checked] at ran
          cases ran
      | ok normalized =>
          obtain rfl := normalizePolicy_ok checked
          rw [exec_purgePolicy _ _ _ _ checked] at ran
          have nextKeyed :=
            @RetentionPolicy.keyed_purged chrono now normalized drawRunId ranAt stores keyed false
          refine List.forall_mem_cons.mpr ⟨?_, ih others _ nextKeyed ran⟩
          have ended : next = (RetentionWorker.purgePolicies chrono drawRunId now ranAt false
              policies (summary.plus (normalized.expiredCounts chrono now stores))).after
                (normalized.purged chrono now drawRunId ranAt false stores) :=
            (congrArg Prod.snd ran).symm
          rw [ended, expiredCounts_after_of_ne _ _ _ (fun other listed => (own other listed).symm) _
            nextKeyed]
          exact RetentionPolicy.expiredCounts_purged_self keyed

-----------------------------------------------------------------------------------------
-- What a run records
-----------------------------------------------------------------------------------------

/-- The counts of some recorded runs together. -/
def recordedCounts (records : List RetentionRun) : PurgeCounts :=
  ⟨(records.map RetentionRun.messagesPurged).sum, (records.map RetentionRun.filesPurged).sum,
    (records.map RetentionRun.auditEventsPurged).sum⟩

namespace RetentionStore

/-- The runs that are recorded for an organization. -/
def runs (store : RetentionStore) (organizationId : Uuid) : List RetentionRun :=
  (store.runsByOrganizationId.lookup organizationId).getD []

/-- All that happened to a store is that runs were recorded in it. -/
structure Adds (records : List RetentionRun) (store next : RetentionStore) : Prop where
  policies : next.policiesByOrganizationId = store.policiesByOrganizationId
  runs : ∀ organizationId, next.runs organizationId = store.runs organizationId
    ++ records.filter fun record => record.organizationId = organizationId

namespace Adds

theorem nil (store : RetentionStore) : Adds [] store store :=
  ⟨rfl, fun organizationId => by simp⟩

theorem cons {records : List RetentionRun} {store next : RetentionStore} (record : RetentionRun)
    (adds : Adds records ((recordRun record).after store) next)
    : Adds (record :: records) store next where
  policies := adds.policies
  runs organizationId := by
    rw [adds.runs, recordRun, RetentionStore.runs, Eff.after, Eff.exec_writes]
    dsimp only
    rw [Table.lookup_insert_eq, List.filter_cons]
    by_cases own : organizationId = record.organizationId
    · subst own
      simp [RetentionStore.runs]
    · simp [own, Ne.symm own, RetentionStore.runs]

end Adds

end RetentionStore

/-- A run records what it counts, and leaves the policies; by induction over the policies, up to
the one it fails at.
-/
theorem records_purgePolicies (drawRunId : Uuid → Uuid) (ranAt : String) (dryRun : Bool)
    (policies : List RetentionPolicy) (summary : RetentionRunSummary) (stores : RetentionStores)
    : ∃ records,
        RetentionStore.Adds records stores.retention
            ((RetentionWorker.purgePolicies chrono drawRunId now ranAt dryRun policies
              summary).after stores).retention
          ∧ ∀ answer,
              ((RetentionWorker.purgePolicies chrono drawRunId now ranAt dryRun policies
                summary).exec stores).1 = .ok answer →
                answer.counts = summary.counts.plus (recordedCounts records) := by
  induction policies generalizing summary stores with
  | nil =>
      refine ⟨[], .nil _, fun answer same => ?_⟩
      cases same
      rfl
  | cons policy policies ih =>
      rw [RetentionWorker.purgePolicies]
      cases checked : normalizePolicy policy with
      | error problem =>
          have failed : (RetentionWorker.purgePolicy chrono drawRunId now ranAt dryRun policy
              summary).exec stores = (.error problem, stores) :=
            exec_purgePolicy_of_error drawRunId now ranAt dryRun checked summary stores
          refine ⟨[], ?_, fun answer same => ?_⟩
          · rw [Eff.after_bind_of_error failed]
            exact .nil _
          · rw [Eff.exec_bind, failed] at same
            cases same
      | ok normalized =>
          obtain rfl := normalizePolicy_ok checked
          have ran := @exec_purgePolicy chrono drawRunId now ranAt dryRun normalized checked summary
            stores
          obtain ⟨records, adds, totals⟩ := ih
            (summary.plus (normalized.expiredCounts chrono now stores))
            (normalized.purged chrono now drawRunId ranAt dryRun stores)
          refine ⟨normalized.record chrono now drawRunId ranAt dryRun stores :: records, ?_,
            fun answer same => ?_⟩
          · rw [Eff.after_bind_of_ok ran]
            exact .cons _ adds
          · rw [Eff.exec_bind, ran] at same
            refine (totals answer same).trans ?_
            simp [RetentionRunSummary.counts, RetentionRunSummary.plus, PurgeCounts.plus,
              recordedCounts, RetentionPolicy.record, Nat.add_assoc]

/-- A dry run leaves all but the records of runs. -/
theorem after_dryRun (drawRunId : Uuid → Uuid) (ranAt : String) (policies : List RetentionPolicy)
    (summary : RetentionRunSummary) (stores : RetentionStores)
    : ∃ retention, (RetentionWorker.purgePolicies chrono drawRunId now ranAt true policies
          summary).after stores = { stores with retention := retention } := by
  induction policies generalizing summary stores with
  | nil => exact ⟨_, rfl⟩
  | cons policy policies ih =>
      rw [RetentionWorker.purgePolicies]
      cases checked : normalizePolicy policy with
      | error problem =>
          rw [Eff.after_bind_of_error
            (exec_purgePolicy_of_error drawRunId now ranAt true checked summary stores)]
          exact ⟨_, rfl⟩
      | ok normalized =>
          obtain rfl := normalizePolicy_ok checked
          rw [Eff.after_bind_of_ok (exec_purgePolicy drawRunId now ranAt true checked _ stores)]
          obtain ⟨retention, same⟩ := ih
            (summary.plus (normalized.expiredCounts chrono now stores))
            (normalized.purged chrono now drawRunId ranAt true stores)
          exact ⟨retention, same⟩

-----------------------------------------------------------------------------------------
-- The worker
-----------------------------------------------------------------------------------------

/-- An organization has one policy in the list that a run works on. -/
theorem RetentionStore.pairwise_listPolicies {store : RetentionStore}
    (single : Table.Keyed (fun policy => policy.organizationId) store.policiesByOrganizationId)
    : store.listPolicies.Pairwise fun policy other =>
        other.organizationId ≠ policy.organizationId := by
  have sorted : (store.listPolicies.map RetentionPolicy.organizationId).Nodup :=
    (((List.perm_insertionSort _ _).map _).nodup_iff).mpr (Table.nodup_map_values single)
  exact (List.pairwise_map.mp sorted).imp Ne.symm

/-- A run over the stored policies, at a time that is read. -/
theorem exec_runOnceAt {text : String}
    (parsed : chrono.parseFromRfc3339 (Text.trim text) = some now)
    (drawRunId : Uuid → Uuid) (dryRun : Bool) (stores : RetentionStores)
    : (RetentionWorker.runOnceAt chrono drawRunId text dryRun).exec stores
        = (RetentionWorker.purgePolicies chrono drawRunId now (chrono.toRfc3339Millis now) dryRun
            stores.retention.listPolicies
            ⟨stores.retention.listPolicies.length, 0, 0, 0, dryRun⟩).exec stores := by
  rw [RetentionWorker.runOnceAt, RetentionWorker.parseTime, parsed, Eff.exec_check_bind]
  rfl

/-- A dry run changes nothing but the records of runs, and answers what the run itself answers
from the same stores. A second run then fails as the first one or purges nothing. What the runs
answer they have recorded.
-/
theorem dryRun_predicts (chrono : Chrono) (dryIds runIds laterIds : Uuid → Uuid) (text : String)
    {stores : RetentionStores} (keyed : stores.Keyed)
    (single : Table.Keyed (fun policy => policy.organizationId)
      stores.retention.policiesByOrganizationId)
    : ∃ answer afterDry afterRun dryRecords runRecords,
        (RetentionWorker.runOnceAt chrono dryIds text true).exec stores
            = (answer.map RetentionRunSummary.dry, { stores with retention := afterDry })
          ∧ (RetentionWorker.runOnceAt chrono runIds text false).exec stores = (answer, afterRun)
          ∧ ((RetentionWorker.runOnceAt chrono laterIds text false).exec afterRun).1
            = answer.map RetentionRunSummary.purgingNothing
          ∧ RetentionStore.Adds dryRecords stores.retention afterDry
          ∧ RetentionStore.Adds runRecords stores.retention afterRun.retention
          ∧ ∀ summary, answer = .ok summary →
              summary.counts = recordedCounts dryRecords
                ∧ summary.counts = recordedCounts runRecords := by
  cases parsed : chrono.parseFromRfc3339 (Text.trim text) with
  | none =>
      have failed : ∀ ids dryRun stores,
          (RetentionWorker.runOnceAt chrono ids text dryRun).exec stores
            = (.error (.invalidInput "retention run timestamp must be RFC3339"), stores) := by
        intro ids dryRun stores
        rw [RetentionWorker.runOnceAt, RetentionWorker.parseTime, parsed, Eff.exec_check_bind]
      refine ⟨.error (.invalidInput "retention run timestamp must be RFC3339"), stores.retention,
        stores, [], [], failed dryIds true stores, failed runIds false stores, ?_, .nil _, .nil _,
        fun summary same => ?_⟩
      · rw [failed]
        rfl
      · cases same
  | some now =>
      have apart := RetentionStore.pairwise_listPolicies single
      let policies := stores.retention.listPolicies
      let ranAt := chrono.toRfc3339Millis now
      let start (dryRun : Bool) : RetentionRunSummary := ⟨policies.length, 0, 0, 0, dryRun⟩
      let afterRun := (RetentionWorker.purgePolicies chrono runIds now ranAt false policies
        (start false)).after stores
      obtain ⟨afterDry, unchanged⟩ :=
        @after_dryRun chrono now dryIds ranAt policies (start true) stores
      obtain ⟨dryRecords, dryAdds, dryTotals⟩ :=
        @records_purgePolicies chrono now dryIds ranAt true policies (start true) stores
      obtain ⟨runRecords, runAdds, runTotals⟩ :=
        @records_purgePolicies chrono now runIds ranAt false policies (start false) stores
      have dryAnswer :=
        @answer_purgePolicies chrono now dryIds ranAt true policies apart (start true) stores keyed
      have runAnswer :=
        @answer_purgePolicies chrono now runIds ranAt false policies apart (start false) stores
          keyed
      rw [unchanged] at dryAdds
      -- The second run works on the same policies.
      have listed : afterRun.retention.listPolicies = policies := by
        rw [RetentionStore.listPolicies, runAdds.policies]
        rfl
      have laterAnswer := @answer_purgePolicies chrono now laterIds ranAt false policies apart
        (start false) afterRun (keyed_purgePolicies runIds ranAt false policies (start false) keyed)
      have noCounts : ∀ dryRun, (start dryRun).counts = ⟨0, 0, 0⟩ := fun _ => rfl
      rw [noCounts] at dryAnswer runAnswer laterAnswer
      refine ⟨(countPolicies chrono now stores policies ⟨0, 0, 0⟩).map (start false).withCounts,
        afterDry, afterRun, dryRecords, runRecords,
        (exec_runOnceAt parsed dryIds true stores).trans (Prod.ext ?_ unchanged),
        (exec_runOnceAt parsed runIds false stores).trans (Prod.ext runAnswer rfl), ?_, dryAdds,
        runAdds, fun summary same => ?_⟩
      · refine dryAnswer.trans ?_
        cases countPolicies chrono now stores policies ⟨0, 0, 0⟩ <;> rfl
      · rw [exec_runOnceAt parsed, listed]
        refine laterAnswer.trans ?_
        cases counted : countPolicies chrono now stores policies ⟨0, 0, 0⟩ with
        | error problem =>
            rw [countPolicies_eq_error counted]
            rfl
        | ok total =>
            rw [counted] at runAnswer
            have nothing : ∀ policy ∈ policies,
                policy.expiredCounts chrono now afterRun = ⟨0, 0, 0⟩ :=
              expiredCounts_after_run runIds ranAt apart (start false) keyed
                (Prod.ext runAnswer rfl)
            rw [countPolicies_of_nothing counted nothing]
            rfl
      · cases counted : countPolicies chrono now stores policies ⟨0, 0, 0⟩ with
        | error problem =>
            rw [counted] at same
            cases same
        | ok total =>
            rw [counted] at same dryAnswer runAnswer
            cases same
            exact ⟨(dryTotals _ dryAnswer).trans (PurgeCounts.nothing_plus _),
              (runTotals _ runAnswer).trans (PurgeCounts.nothing_plus _)⟩

/-- The dry run of the nightly worker counts the message, the file and the audit event that the run
removes, and nothing is left for a second run.
-/
theorem nightly_predicted
    : ∃ summary afterDry afterRun,
        (RetentionWorker.runOnceAt Nightly.calendar id "2026-06-24T09:00:00.000Z" true).exec
            Nightly.stores = (.ok summary.dry, { Nightly.stores with retention := afterDry })
          ∧ (RetentionWorker.runOnceAt Nightly.calendar id "2026-06-24T09:00:00.000Z" false).exec
            Nightly.stores = (.ok summary, afterRun)
          ∧ summary.counts = ⟨1, 1, 1⟩
          ∧ ((RetentionWorker.runOnceAt Nightly.calendar id "2026-06-24T09:00:00.000Z"
            false).exec afterRun).1 = .ok summary.purgingNothing := by
  have counts : ((RetentionWorker.runOnceAt Nightly.calendar id "2026-06-24T09:00:00.000Z"
      false).exec Nightly.stores).1.toOption.map RetentionRunSummary.counts = some ⟨1, 1, 1⟩ := by
    decide +kernel
  obtain ⟨answer, afterDry, afterRun, _, _, dry, ran, later, _⟩ :=
    dryRun_predicts Nightly.calendar id id id "2026-06-24T09:00:00.000Z" Nightly.keyed_stores
      Nightly.sound_stores.keyed
  rw [ran] at counts
  cases answer with
  | error problem => cases counts
  | ok summary =>
      exact ⟨summary, afterDry, afterRun, dry, ran, Option.some.inj counts, later⟩

end OpenCord.Retention

import OpenCord.Library.Effects
import OpenCord.Library.Tables
import OpenCord.Platform.Json
import OpenCord.Platform.Uuid

/-! The in-memory store of audit events, and its purge. -/

namespace OpenCord.Audit

open OpenCord.Library OpenCord.Platform

inductive AuditError where
  | invalidInput (message : String)
  | storeUnavailable

structure AuditEvent where
  id : Uuid
  organizationId : Uuid
  spaceId : Uuid
  actorUserId : Uuid
  action : String
  targetType : String
  targetId : Uuid
  metadata : Json
  createdAt : String

structure AuditStore where
  eventsBySpaceId : Table Uuid (List AuditEvent)

namespace AuditStore

/-- The events of all spaces. -/
def events (store : AuditStore) : List AuditEvent :=
  store.eventsBySpaceId.values.flatten

/-- An event that a purge counts. -/
def IsExpired (organizationId : Uuid) (createdBefore : Option String) (event : AuditEvent)
    : Prop :=
  event.organizationId = organizationId ∧ ∃ cutoff ∈ createdBefore, event.createdAt < cutoff

instance (organizationId : Uuid) (createdBefore : Option String)
    : DecidablePred (IsExpired organizationId createdBefore) :=
  fun event => inferInstanceAs (Decidable (_ ∧ ∃ cutoff ∈ createdBefore, event.createdAt < cutoff))

/-- An event that a purge leaves. -/
def IsRetained (organizationId : Uuid) (createdBefore : Option String) (event : AuditEvent)
    : Prop :=
  event.organizationId ≠ organizationId ∨ ∀ cutoff ∈ createdBefore, cutoff ≤ event.createdAt

instance (organizationId : Uuid) (createdBefore : Option String)
    : DecidablePred (IsRetained organizationId createdBefore) :=
  fun event => inferInstanceAs (Decidable (_ ∨ ∀ cutoff ∈ createdBefore, cutoff ≤ event.createdAt))

def expiredCount (store : AuditStore) (organizationId : Uuid) (createdBefore : Option String)
    : Nat :=
  (store.eventsBySpaceId.values.map fun events =>
    events.countP fun event => IsExpired organizationId createdBefore event).sum

def purgeForRetention (organizationId : Uuid) (createdBefore : Option String) (dryRun : Bool)
    : Eff AuditStore AuditError Nat := do
  let store ← get
  let purged := store.expiredCount organizationId createdBefore
  unless dryRun do
    set (⟨store.eventsBySpaceId.mapValues fun events =>
      events.filter fun event => IsRetained organizationId createdBefore event⟩ : AuditStore)
  return purged

/-- What a purge counts is what it does not leave. -/
theorem isRetained_iff {organizationId : Uuid} {createdBefore : Option String}
    {event : AuditEvent}
    : IsRetained organizationId createdBefore event
      ↔ ¬ IsExpired organizationId createdBefore event := by
  simp only [IsRetained, IsExpired, not_and_or, not_exists, String.not_lt, ne_eq, imp_iff_not_or]

theorem exec_purgeForRetention (organizationId : Uuid) (createdBefore : Option String)
    (dryRun : Bool) (store : AuditStore)
    : (purgeForRetention organizationId createdBefore dryRun).exec store
        = (.ok (store.expiredCount organizationId createdBefore),
          if dryRun then store
          else ⟨store.eventsBySpaceId.mapValues fun events =>
            events.filter fun event => IsRetained organizationId createdBefore event⟩) := by
  rw [purgeForRetention, Eff.exec_get_bind]
  cases dryRun <;> rfl

end AuditStore

end OpenCord.Audit

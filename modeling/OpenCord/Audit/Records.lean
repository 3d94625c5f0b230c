import OpenCord.Audit.Store
import OpenCord.Library.Text

/-! Recording audit events, and reading them back. -/

namespace OpenCord.Audit

open OpenCord.Library OpenCord.Platform

structure NewAuditEvent where
  organizationId : Uuid
  spaceId : Uuid
  actorUserId : Uuid
  action : String
  targetType : String
  targetId : Uuid
  metadata : Json

namespace AuditStore

def empty : AuditStore := ⟨∅⟩

/-- Events of a space, in the order they were created. -/
def eventsOf (store : AuditStore) (spaceId : Uuid) : List AuditEvent :=
  (store.eventsBySpaceId.lookup spaceId).getD []

def withEvent (store : AuditStore) (event : AuditEvent) : AuditStore :=
  ⟨store.eventsBySpaceId.insert event.spaceId (store.eventsOf event.spaceId ++ [event])⟩

def createEvent (event : AuditEvent) : Eff AuditStore AuditError Unit :=
  Eff.writes fun store => store.withEvent event

/-- An event is added to the ones of its space. -/
theorem eventsOf_withEvent (store : AuditStore) (event : AuditEvent) (spaceId : Uuid)
    : (store.withEvent event).eventsOf spaceId
        = if spaceId = event.spaceId then store.eventsOf spaceId ++ [event]
          else store.eventsOf spaceId := by
  rw [withEvent, eventsOf, Table.lookup_insert_eq]
  split
  · next same => rw [same, Option.getD_some]
  · rfl

end AuditStore

namespace AuditService

def normalizeLabel (value message : String) : Except AuditError String :=
  let value := Text.trim value
  if value = "" ∨ 120 < value.utf8ByteSize then .error (.invalidInput message) else .ok value

/-- Records an event under a drawn identifier and the time. -/
def record (eventId : Uuid) (createdAt : String) (input : NewAuditEvent)
    : Eff AuditStore AuditError AuditEvent := do
  let action ← normalizeLabel input.action "audit action is required"
  let targetType ← normalizeLabel input.targetType "audit target_type is required"
  let event : AuditEvent := ⟨eventId, input.organizationId, input.spaceId, input.actorUserId,
    action, targetType, input.targetId, input.metadata, createdAt⟩
  AuditStore.createEvent event
  return event

end AuditService

end OpenCord.Audit

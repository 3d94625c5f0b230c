import OpenCord.Platform.Json
import OpenCord.Platform.Uuid

/-! Events as the controllers publish them to the hub. -/

namespace OpenCord.Realtime

open OpenCord.Platform

structure RealtimeScope where
  spaceId : Option String
  channelId : Option String

structure RealtimeEvent where
  id : String
  eventType : String
  organizationId : String
  scope : RealtimeScope
  occurredAt : String
  data : Json

/-- What building an event draws: its identifier and the time. -/
structure EventStamp where
  id : Uuid
  occurredAt : String

/-- How many events the hub retains for the connections that read it. -/
def RealtimeHub.capacity : Nat := 1024

namespace RealtimeEvent

def space (stamp : EventStamp) (eventType : String) (organizationId spaceId : Uuid)
    (data : Json) : RealtimeEvent :=
  ⟨"evt_" ++ stamp.id.toString, eventType, organizationId.toString,
    ⟨some spaceId.toString, none⟩, stamp.occurredAt, data⟩

def channel (stamp : EventStamp) (eventType : String)
    (organizationId spaceId channelId : Uuid) (data : Json) : RealtimeEvent :=
  ⟨"evt_" ++ stamp.id.toString, eventType, organizationId.toString,
    ⟨some spaceId.toString, some channelId.toString⟩, stamp.occurredAt, data⟩

end RealtimeEvent

end OpenCord.Realtime

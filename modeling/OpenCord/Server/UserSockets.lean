import OpenCord.Server.State

/-! The WebSocket connections of users: what they may publish and which events they get. -/

namespace OpenCord.Server

open OpenCord.Library OpenCord.Platform OpenCord.Tenancy OpenCord.Realtime

/-- What a user reports while writing. -/
inductive TypingActivity where
  | started
  | stopped

/-- The type of the event that reports it. -/
def TypingActivity.eventType : TypingActivity → String
  | started => "typing.started"
  | stopped => "typing.stopped"

namespace RealtimeController

/-- A typing message names a channel the user may write in, else an error frame answers
it and nothing is published.
-/
def publishTyping (stamp : EventStamp) (userId : Uuid) (channelId : Option String)
    (activity : TypingActivity) : Handler Unit := do
  let state ← get
  match channelId.bind Uuid.parseStr with
  | none => return ()
  | some channelId =>
      match state.enterChannel userId channelId .sendMessages with
      | .error _ => return ()
      | .ok (channel, _) =>
          Handler.publish (.channel stamp activity.eventType channel.organizationId channel.spaceId
            channel.id (.object [("user_id", .string userId.toString)]))

/-- The filter between the hub and a user's connection. -/
def canReceiveEvent (state : AppState) (userId : Uuid) (event : RealtimeEvent) : Bool :=
  match event.scope.channelId with
  | none => true
  | some channelId =>
      match Uuid.parseStr channelId with
      | none => false
      | some channelId =>
          match state.channel channelId with
          | .error _ => false
          | .ok channel =>
              match state.spaceForUser userId channel.spaceId with
              | .error _ => false
              | .ok space =>
                  PermissionService.canInChannel state.permissions userId space channel
                    .viewChannel

end RealtimeController

end OpenCord.Server

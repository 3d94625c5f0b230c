import OpenCord.Server.InteractionLifecycle

/-! The callback and the follow-up of an interaction as whole requests, when no other request
comes between their steps.
-/

namespace OpenCord.Server.CommandController

open OpenCord.Library OpenCord.Platform OpenCord.Auth OpenCord.Tenancy OpenCord.Bots
  OpenCord.Messages OpenCord.Realtime

variable (crypto : Crypto)

/-- A callback defers the answer, or creates and publishes the original response. -/
def createInteractionCallback (messageId : Uuid) (createdAt : String) (stamp : EventStamp)
    (respondedAt : String) (interactionId : Uuid) (token : String)
    (request : CreateInteractionCallbackRequest) : Handler Unit := do
  let state ← get
  let interaction ← (CommandService.interactionForCallback crypto state.commands interactionId
    token).mapError ApiError.command
  if request.kind = interactionCallbackDeferredChannelMessage then
    let _ ← Handler.onCommands
      (CommandStore.markInteractionDeferred interaction.id respondedAt)
    return ()
  else if request.kind ≠ interactionCallbackChannelMessage then
    throw (.command (.invalidInput
      "only channel message and deferred interaction callbacks are supported"))
  else
    match request.data with
    | none => throw (.command (.invalidInput "interaction callback data is required"))
    | some data =>
        let message ← createAnswer messageId createdAt interaction data.content
        Handler.publish (messageCreated stamp interaction message)
        let _ ← Handler.onCommands (CommandStore.markInteractionResponded interaction.id
          (some message.id) respondedAt)
        return ()

/-- A follow-up is recorded before it is published, and answers a deferred interaction. -/
def createInteractionFollowup (messageId : Uuid) (createdAt : String) (stamp : EventStamp)
    (respondedAt : String) (applicationId : Uuid) (token content : String) : Handler Json := do
  let state ← get
  let interaction ← (CommandService.interactionForFollowup crypto state.commands applicationId
    token).mapError ApiError.command
  let application ← (BotService.applicationForOrganization state.bots
    interaction.applicationId interaction.organizationId).mapError ApiError.bot
  let message ← createAnswer messageId createdAt interaction content
  Handler.onCommands
    (CommandStore.recordInteractionFollowupMessage interaction.id message.id)
  let response := interactionFollowupResponse message application
  Handler.publish (messageCreated stamp interaction message)
  if interaction.status = "deferred" ∧ interaction.responseMessageId = none then
    let _ ← Handler.onCommands (CommandStore.markInteractionResponded interaction.id
      (some message.id) respondedAt)
    return response
  else
    return response

end OpenCord.Server.CommandController

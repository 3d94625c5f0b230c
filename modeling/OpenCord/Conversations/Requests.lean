import OpenCord.Conversations.AppRequests
import OpenCord.Server.AttachmentEndpoints
import OpenCord.Server.InteractionAnswers
import OpenCord.Server.MessageChanges
import OpenCord.Server.WebhookEndpoints

/-! Runs of everything that writes in channels: messages of users, bots, webhooks and
interactions, their files, and the retention purges, one whole request after another. The
other requests of the server come in between.
-/

namespace OpenCord.Conversations

open OpenCord.Library OpenCord.Platform OpenCord.Auth OpenCord.Tenancy OpenCord.Bots
  OpenCord.Messages OpenCord.Attachments OpenCord.Realtime OpenCord.RateLimits
  OpenCord.Webhooks OpenCord.Server

/-- What the server is run with. -/
structure Deployment where
  crypto : Crypto
  readers : BodyReaders
  toUtcMillis : String → Option String
  publicUrl : String

inductive ConversationRequest where
  | app (request : AppRequest)
  | createMessage (drawn : DrawnRecord) (stamp : EventStamp) (rateLimit : RateLimitDecision)
      (authorization : Option String) (channelId : Uuid) (request : CreateMessageRequest)
  | updateMessage (stamp : EventStamp) (authorization : Option String) (messageId : Uuid)
      (content : String)
  | deleteMessage (stamp : EventStamp) (deletedAt : String) (authorization : Option String)
      (messageId : Uuid)
  | createBotMessage (drawn : CompatController.DrawnMessage) (rateLimit : RateLimitDecision)
      (channelId : Uuid) (request : CompatRequest)
  | updateBotMessage (stamp : EventStamp) (rateLimit : RateLimitDecision)
      (authorization : Option String) (channelId messageId : Uuid)
      (request : PatchCompatMessageRequest)
  | deleteBotMessage (stamp : EventStamp) (deletedAt : String) (rateLimit : RateLimitDecision)
      (authorization : Option String) (channelId messageId : Uuid)
  | presignAttachment (drawn : DrawnRecord) (rateLimit : RateLimitDecision)
      (authorization : Option String) (request : PresignAttachmentRequest)
  | uploadAttachment (rateLimit : RateLimitDecision)
      (authorization contentType : Option String) (attachmentId : Uuid) (body : List UInt8)
  | upsertWebhookPolicy (recorded : DrawnRecord) (authorization : Option String)
      (organizationId : Uuid) (allowIdentityOverrides : Bool)
  | createWebhook (drawn : DrawnWebhook) (recorded : DrawnRecord)
      (authorization : Option String) (channelId : Uuid) (name : String)
  | rotateWebhookToken (bytes : BitVec 256) (recorded : DrawnRecord)
      (authorization : Option String) (channelId webhookId : Uuid)
  | deleteWebhook (recorded : DrawnRecord) (authorization : Option String)
      (channelId webhookId : Uuid)
  | executeWebhook (drawn : DrawnRecord) (stamp : EventStamp) (rateLimit : RateLimitDecision)
      (webhookId : Uuid) (token : String) (request : ExecuteIncomingWebhookRequest)
  | interactionCallback (drawn : DrawnRecord) (stamp : EventStamp) (respondedAt : String)
      (interactionId : Uuid) (token : String) (request : CreateInteractionCallbackRequest)
  | interactionFollowup (drawn : DrawnRecord) (stamp : EventStamp) (respondedAt : String)
      (applicationId : Uuid) (token content : String)
  | updateOriginalResponse (stamp : EventStamp) (applicationId : Uuid) (token content : String)
  | deleteOriginalResponse (stamp : EventStamp) (deletedAt : String) (applicationId : Uuid)
      (token : String)
  | updateFollowup (stamp : EventStamp) (applicationId : Uuid) (token : String)
      (messageId : Uuid) (content : String)
  | deleteFollowup (stamp : EventStamp) (deletedAt : String) (applicationId : Uuid)
      (token : String) (messageId : Uuid)
  | purgeMessages (organizationId : Uuid) (createdBefore deletedBefore : Option String)
      (dryRun : Bool)
  | purgeAttachments (organizationId : Uuid) (createdBefore : Option String) (dryRun : Bool)

end OpenCord.Conversations

namespace OpenCord.Server.ConversationState

open OpenCord.Library OpenCord.Platform OpenCord.Messages OpenCord.Attachments

def messages (state : ConversationState) : MessageStore := state.messaging.app.messages

def attachments (state : ConversationState) : AttachmentStore := state.messaging.attachments

/-- An identifier under which no message is stored, and that no record refers to. -/
def NewMessage (state : ConversationState) (messageId : Uuid) : Prop :=
  messageId ∉ state.messages.messagesById
    ∧ (∀ message ∈ state.messages.messagesById.values,
        message.replyToMessageId ≠ some messageId)
    ∧ ∀ attachment ∈ state.attachments.attachmentsById.values,
        attachment.messageId ≠ some messageId

instance (state : ConversationState) (messageId : Uuid)
    : Decidable (state.NewMessage messageId) :=
  inferInstanceAs (Decidable (_ ∧ _ ∧ _))

end OpenCord.Server.ConversationState

namespace OpenCord.Conversations

open OpenCord.Library OpenCord.Platform OpenCord.Auth OpenCord.Tenancy OpenCord.Bots
  OpenCord.Messages OpenCord.Attachments OpenCord.Realtime OpenCord.RateLimits
  OpenCord.Webhooks OpenCord.Server

namespace ConversationRequest

/-- Drawn identifiers are new. -/
def Admissible (state : ConversationState) : ConversationRequest → Prop
  | .app request => request.Admissible state.messaging.app ∧ request.BesidesMessages
  | .createMessage drawn _ _ _ _ _ => state.NewMessage drawn.id
  | .createBotMessage drawn _ _ _ =>
      state.NewMessage drawn.message.id
        ∧ ∀ index < maxAttachmentsPerMessage,
          (drawn.attachment index).id ∉ state.attachments.attachmentsById
  | .presignAttachment drawn _ _ _ => drawn.id ∉ state.attachments.attachmentsById
  | .createWebhook drawn _ _ _ _ =>
      drawn.id ∉ state.webhooks.webhooks
        ∧ drawn.botUserId ∉ state.messaging.app.auth.usersById
  | .executeWebhook drawn _ _ _ _ _ => state.NewMessage drawn.id
  | .interactionCallback drawn _ _ _ _ _ => state.NewMessage drawn.id
  | .interactionFollowup drawn _ _ _ _ _ => state.NewMessage drawn.id
  | _ => True

instance (state : ConversationState) (request : ConversationRequest)
    : Decidable (request.Admissible state) := by
  cases request <;> unfold Admissible <;> infer_instance

open ConversationHandler in
/-- The state after a request, whether or not the request succeeds. -/
def perform (deployment : Deployment) (state : ConversationState)
    : ConversationRequest → ConversationState
  | .app request =>
      { state with
        messaging.app := request.perform deployment.crypto state.messaging.app }
  | .createMessage drawn stamp rateLimit authorization channelId request =>
      (onMessaging (MessageController.create deployment.crypto deployment.publicUrl drawn stamp
        rateLimit authorization channelId request)).after state
  | .updateMessage stamp authorization messageId content =>
      (onMessaging (MessageController.update deployment.crypto deployment.publicUrl stamp
        authorization messageId content)).after state
  | .deleteMessage stamp deletedAt authorization messageId =>
      (onMessaging (MessageController.delete deployment.crypto stamp deletedAt authorization
        messageId)).after state
  | .createBotMessage drawn rateLimit channelId request =>
      (onMessaging (CompatController.createMessage deployment.crypto deployment.readers
        deployment.toUtcMillis deployment.publicUrl drawn rateLimit channelId request)).after
        state
  | .updateBotMessage stamp rateLimit authorization channelId messageId request =>
      (onMessaging (CompatController.updateMessage deployment.crypto deployment.publicUrl stamp
        rateLimit authorization channelId messageId request)).after state
  | .deleteBotMessage stamp deletedAt rateLimit authorization channelId messageId =>
      (onMessaging (CompatController.deleteMessage deployment.crypto stamp deletedAt rateLimit
        authorization channelId messageId)).after state
  | .presignAttachment drawn rateLimit authorization request =>
      (onMessaging (AttachmentController.presign deployment.crypto deployment.publicUrl drawn
        rateLimit authorization request)).after state
  | .uploadAttachment rateLimit authorization contentType attachmentId body =>
      (onMessaging (AttachmentController.uploadContent deployment.crypto deployment.publicUrl
        rateLimit authorization contentType attachmentId body)).after state
  | .upsertWebhookPolicy recorded authorization organizationId allowIdentityOverrides =>
      (OrganizationController.upsertWebhookPolicy deployment.crypto recorded authorization
        organizationId allowIdentityOverrides).after state
  | .createWebhook drawn recorded authorization channelId name =>
      (WebhookController.create deployment.crypto drawn recorded authorization channelId
        name).after state
  | .rotateWebhookToken bytes recorded authorization channelId webhookId =>
      (WebhookController.rotateToken deployment.crypto bytes recorded authorization channelId
        webhookId).after state
  | .deleteWebhook recorded authorization channelId webhookId =>
      (WebhookController.delete deployment.crypto recorded authorization channelId
        webhookId).after state
  | .executeWebhook drawn stamp rateLimit webhookId token request =>
      (WebhookController.execute deployment.crypto deployment.toUtcMillis deployment.publicUrl
        drawn stamp rateLimit webhookId token request).after state
  | .interactionCallback drawn stamp respondedAt interactionId token request =>
      (onApp (CommandController.createInteractionCallback deployment.crypto drawn.id
        drawn.createdAt stamp respondedAt interactionId token request)).after state
  | .interactionFollowup drawn stamp respondedAt applicationId token content =>
      (onApp (CommandController.createInteractionFollowup deployment.crypto drawn.id
        drawn.createdAt stamp respondedAt applicationId token content)).after state
  | .updateOriginalResponse stamp applicationId token content =>
      (onApp (CommandController.updateOriginalInteractionResponse deployment.crypto stamp
        applicationId token content)).after state
  | .deleteOriginalResponse stamp deletedAt applicationId token =>
      (onApp (CommandController.deleteOriginalInteractionResponse deployment.crypto stamp
        deletedAt applicationId token)).after state
  | .updateFollowup stamp applicationId token messageId content =>
      (onApp (CommandController.updateInteractionFollowupResponse deployment.crypto stamp
        applicationId token messageId content)).after state
  | .deleteFollowup stamp deletedAt applicationId token messageId =>
      (onApp (CommandController.deleteInteractionFollowupResponse deployment.crypto stamp
        deletedAt applicationId token messageId)).after state
  | .purgeMessages organizationId createdBefore deletedBefore dryRun =>
      (onApp (Handler.onMessages (MessageStore.purgeForRetention organizationId createdBefore
        deletedBefore dryRun))).after state
  | .purgeAttachments organizationId createdBefore dryRun =>
      (onMessaging (MessageHandler.onAttachments (AttachmentStore.purgeForRetention
        organizationId createdBefore dryRun))).after state

end ConversationRequest

/-- One request on the server. -/
def step (deployment : Deployment) (state : ConversationState)
    (request : ConversationRequest) : Option ConversationState :=
  if request.Admissible state then some (request.perform deployment state) else none

end OpenCord.Conversations

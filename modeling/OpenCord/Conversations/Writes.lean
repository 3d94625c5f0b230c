import Mathlib.Logic.Relation
import OpenCord.Conversations.Requests
import OpenCord.Server.Invariants

/-! What requests write in channels. Every request is a chain of single writes to the messages,
the files and the published events, each with the right that the request has to it: its
credential, and what it gives access to at the start of the request.
-/

namespace OpenCord.Messages

open OpenCord.Platform

/-- What of a message no change touches. -/
structure Message.SameOrigin (old message : Message) : Prop where
  id : message.id = old.id
  organizationId : message.organizationId = old.organizationId
  spaceId : message.spaceId = old.spaceId
  channelId : message.channelId = old.channelId
  authorUserId : message.authorUserId = old.authorUserId
  webhookUsername : message.webhookUsername = old.webhookUsername
  webhookAvatarUrl : message.webhookAvatarUrl = old.webhookAvatarUrl
  replyToMessageId : message.replyToMessageId = old.replyToMessageId
  createdAt : message.createdAt = old.createdAt

theorem Message.SameOrigin.refl (message : Message) : message.SameOrigin message :=
  ⟨rfl, rfl, rfl, rfl, rfl, rfl, rfl, rfl, rfl⟩

theorem Message.SameOrigin.trans {first middle last : Message} (same : first.SameOrigin middle)
    (further : middle.SameOrigin last)
    : first.SameOrigin last :=
  ⟨further.id.trans same.id, further.organizationId.trans same.organizationId,
    further.spaceId.trans same.spaceId, further.channelId.trans same.channelId,
    further.authorUserId.trans same.authorUserId,
    further.webhookUsername.trans same.webhookUsername,
    further.webhookAvatarUrl.trans same.webhookAvatarUrl,
    further.replyToMessageId.trans same.replyToMessageId,
    further.createdAt.trans same.createdAt⟩

/-- The fields of a stored message in responses and events. -/
def messageFields : List String :=
  ["id", "organization_id", "space_id", "channel_id", "author_user_id", "content",
    "content_format", "embeds", "components", "webhook_username", "webhook_avatar_url",
    "reply_to_message_id", "edited_at", "deleted_at", "created_at"]

/-- A value shows a message as it is stored. -/
def Message.ShownBy (message : Message) (payload : Json) : Prop :=
  ∀ field ∈ messageFields, payload.get field = (Json.object (messageResponse message)).get field

end OpenCord.Messages

namespace OpenCord.Attachments

/-- A content has the size and the type that the record says. -/
structure AttachmentContent.Fits (content : AttachmentContent) (attachment : Attachment)
    : Prop where
  size : (content.bytes.length : Int) = attachment.sizeBytes
  contentType : content.contentType = attachment.contentType

end OpenCord.Attachments

namespace OpenCord.Realtime

open OpenCord.Platform OpenCord.Messages

/-- An event of its channel shows a message. -/
structure RealtimeEvent.Tells (event : RealtimeEvent) (eventType : String) (message : Message)
    : Prop where
  eventType : event.eventType = eventType
  channel : event.scope.channelId = some message.channelId.toString
  payload : ∃ payload, event.data.get "message" = some payload ∧ message.ShownBy payload

/-- An event of its channel names a message that is deleted. -/
structure RealtimeEvent.TellsDeletion (event : RealtimeEvent) (message : Message) : Prop where
  eventType : event.eventType = "message.deleted"
  channel : event.scope.channelId = some message.channelId.toString
  id : event.data.get "id" = some (.string message.id.toString)

end OpenCord.Realtime

namespace OpenCord.Conversations

open Relation
open OpenCord.Library OpenCord.Platform OpenCord.Auth OpenCord.Tenancy OpenCord.Bots
  OpenCord.Messages OpenCord.Attachments OpenCord.Realtime OpenCord.RateLimits
  OpenCord.Webhooks OpenCord.Server

-----------------------------------------------------------------------------------------
-- Credentials
-----------------------------------------------------------------------------------------

section

variable (crypto : Crypto) (state : AppState)

/-- A header has the session token of a user. -/
def SessionOf (authorization : Option String) (userId : Uuid) : Prop :=
  ∃ token user, bearerToken authorization = .ok token
    ∧ state.userForToken crypto token = .ok user ∧ user.id = userId

/-- A header has the token of a bot. -/
def BotOf (authorization : Option String) (botUserId : Uuid) : Prop :=
  ∃ token bot, botToken authorization = .ok token
    ∧ state.botForToken crypto token = .ok bot ∧ bot.botUserId = botUserId

/-- A user is a member of the channel's space and has a permission in the channel. -/
def Enters (userId channelId : Uuid) (permission : Permission) : Prop :=
  ∃ channel space, state.enterChannel userId channelId permission = .ok (channel, space)

/-- The bot user of the application that an interaction is for. -/
def AnswersFor (interaction : CommandInteraction) (botUserId : Uuid) : Prop :=
  ∃ application, BotService.applicationForOrganization state.bots interaction.applicationId
      interaction.organizationId = .ok application
    ∧ application.botUserId = botUserId

end

variable (deployment : Deployment) (start : ConversationState)

/-- A message has an identifier and a time that were drawn for it, and a text that was sent. -/
structure Composed (message : Message) (drawn : DrawnRecord) (text : String) : Prop where
  id : message.id = drawn.id
  createdAt : message.createdAt = drawn.createdAt
  content : message.content = Text.trim text

/-- A message shows the name and the avatar of an execution, or those of its author where the
policy of the organization does not allow others.
-/
structure ShowsIdentity (message : Message) (policy : OrganizationWebhookPolicy)
    (request : ExecuteIncomingWebhookRequest) : Prop where
  username : MessageService.normalizeWebhookUsername
    (if policy.allowIdentityOverrides then request.username else none)
      = .ok message.webhookUsername
  avatarUrl : MessageService.normalizeWebhookAvatarUrl
    (if policy.allowIdentityOverrides then request.avatarUrl else none)
      = .ok message.webhookAvatarUrl

/-- A message shows no name or avatar but those of its author. -/
def Plain (message : Message) : Prop :=
  message.webhookUsername = none ∧ message.webhookAvatarUrl = none

/-- A request may post a message that it composes, with a credential of the author. Users and bots
must be members who may send messages to the channel. A webhook posts in the channel that it was
made for, and an answer belongs in the channel of its interaction; nobody's permissions are looked
up for them.
-/
def MayPost (message : Message) : ConversationRequest → Prop
  | .createMessage drawn _ _ authorization channelId request =>
      Composed message drawn request.content ∧ message.channelId = channelId
        ∧ SessionOf deployment.crypto start.messaging.app authorization message.authorUserId
        ∧ Enters start.messaging.app message.authorUserId message.channelId .sendMessages
        ∧ Plain message
  | .createBotMessage drawn _ channelId request =>
      (∃ payload, CompatController.parseCreateMessagePayload deployment.readers request
            = .ok payload
          ∧ Composed message drawn.message (payload.request.content.getD ""))
        ∧ message.channelId = channelId
        ∧ BotOf deployment.crypto start.messaging.app request.authorization message.authorUserId
        ∧ Enters start.messaging.app message.authorUserId message.channelId .sendMessages
        ∧ Plain message
  | .executeWebhook drawn _ _ webhookId token request =>
      Composed message drawn (request.content.getD "")
        ∧ ∃ webhook policy, IncomingWebhookService.verify deployment.crypto start.webhooks
              webhookId token = .ok webhook
            ∧ start.webhookPolicyForOrganization webhook.organizationId = .ok policy
            ∧ message.authorUserId = webhook.botUserId ∧ message.channelId = webhook.channelId
            ∧ ShowsIdentity message policy request
  | .interactionCallback drawn _ _ interactionId token request =>
      (∃ data ∈ request.data, Composed message drawn data.content)
        ∧ ∃ interaction, CommandService.interactionForCallback deployment.crypto
              start.messaging.app.commands interactionId token = .ok interaction
            ∧ AnswersFor start.messaging.app interaction message.authorUserId
            ∧ interaction.channelId = message.channelId ∧ Plain message
  | .interactionFollowup drawn _ _ applicationId token content =>
      Composed message drawn content
        ∧ ∃ interaction, CommandService.interactionForFollowup deployment.crypto
              start.messaging.app.commands applicationId token = .ok interaction
            ∧ AnswersFor start.messaging.app interaction message.authorUserId
            ∧ interaction.channelId = message.channelId ∧ Plain message
  | _ => False

/-- A request may change or delete a message: its credential is the author's, or that of another
user or bot who may manage messages in the channel.
-/
def MayChange (message : Message) : ConversationRequest → Prop
  | .updateMessage _ authorization messageId _
  | .deleteMessage _ _ authorization messageId =>
      messageId = message.id ∧ ∃ userId,
        SessionOf deployment.crypto start.messaging.app authorization userId
          ∧ Enters start.messaging.app userId message.channelId (changePermission message userId)
  | .updateBotMessage _ _ authorization _ messageId _
  | .deleteBotMessage _ _ _ authorization _ messageId =>
      messageId = message.id ∧ ∃ userId,
        BotOf deployment.crypto start.messaging.app authorization userId
          ∧ Enters start.messaging.app userId message.channelId (changePermission message userId)
  | .updateOriginalResponse _ applicationId token _
  | .deleteOriginalResponse _ _ applicationId token =>
      ∃ interaction, CommandService.interactionForOriginalResponse deployment.crypto
          start.messaging.app.commands applicationId token = .ok interaction
        ∧ AnswersFor start.messaging.app interaction message.authorUserId
        ∧ interaction.channelId = message.channelId
        ∧ interaction.responseMessageId = some message.id
  | .updateFollowup _ applicationId token messageId _
  | .deleteFollowup _ _ applicationId token messageId =>
      messageId = message.id ∧ ∃ interaction,
        CommandService.interactionForFollowup deployment.crypto start.messaging.app.commands
            applicationId token = .ok interaction
          ∧ AnswersFor start.messaging.app interaction message.authorUserId
          ∧ interaction.channelId = message.channelId
          ∧ start.messaging.app.commands.interactionHasFollowupMessage interaction.id message.id
  | _ => False

/-- A request may bring files of a user into a channel. -/
def MayUpload (userId channelId : Uuid) : ConversationRequest → Prop
  | .presignAttachment _ _ authorization _
  | .uploadAttachment _ authorization _ _ _ =>
      SessionOf deployment.crypto start.messaging.app authorization userId
        ∧ Enters start.messaging.app userId channelId .sendMessages
  | .createBotMessage _ _ _ request =>
      BotOf deployment.crypto start.messaging.app request.authorization userId
        ∧ Enters start.messaging.app userId channelId .sendMessages
  | _ => False

/-- A request has a content in its body, of the type that the request says. -/
def Carries (content : AttachmentContent) : ConversationRequest → Prop
  | .uploadAttachment _ _ contentType _ body =>
      body = content.bytes
        ∧ AttachmentService.normalizeContentType (contentType.getD "") = .ok content.contentType
  | .createBotMessage _ _ _ request =>
      ∃ payload, CompatController.parseCreateMessagePayload deployment.readers request
          = .ok payload
        ∧ ∃ file ∈ payload.files, file.bytes = content.bytes
          ∧ AttachmentService.normalizeContentType file.contentType = .ok content.contentType
  | _ => False

/-- A retention purge of messages. -/
def ConversationRequest.PurgesMessages : ConversationRequest → Prop
  | .purgeMessages _ _ _ dryRun => dryRun = false
  | _ => False

/-- A retention purge of attachments. -/
def ConversationRequest.PurgesAttachments : ConversationRequest → Prop
  | .purgeAttachments _ _ dryRun => dryRun = false
  | _ => False

-----------------------------------------------------------------------------------------
-- Single writes
-----------------------------------------------------------------------------------------

end OpenCord.Conversations

namespace OpenCord.Server.ConversationState

open OpenCord.Platform OpenCord.Messages OpenCord.Attachments OpenCord.Realtime

/-- The state with other messages, and an event that tells of the change. -/
def withMessages (state : ConversationState) (messages : MessageStore) (event : RealtimeEvent)
    : ConversationState :=
  { state with
    messaging.app.messages := messages
    messaging.app.published := state.messaging.app.published ++ [event] }

def withAttachments (state : ConversationState) (attachments : AttachmentStore)
    : ConversationState :=
  { state with messaging.attachments := attachments }

/-- Messages, files and interactions lie under their own identifiers, as spaces and channels do. -/
structure Keyed (state : ConversationState) : Prop where
  app : state.messaging.app.Keyed
  messages : state.messages.Keyed
  attachments : state.attachments.Keyed
  commands : state.messaging.app.commands.Keyed

end OpenCord.Server.ConversationState

namespace OpenCord.Conversations

open Relation
open OpenCord.Library OpenCord.Platform OpenCord.Auth OpenCord.Tenancy OpenCord.Bots
  OpenCord.Messages OpenCord.Attachments OpenCord.Realtime OpenCord.RateLimits
  OpenCord.Webhooks OpenCord.Server

variable (deployment : Deployment) (start : ConversationState)

/-- One write of a request that started in a given state. -/
inductive Write (request : ConversationRequest) (before : ConversationState)
    : ConversationState → Prop where
  | elsewhere (after : ConversationState)
      (quiet : before.messaging.app.Quiet after.messaging.app)
      (keyed : before.messaging.app.Keyed → after.messaging.app.Keyed)
      (attachments : after.attachments = before.attachments)
      : Write request before after
  | posted (message : Message) (event : RealtimeEvent) (new : before.NewMessage message.id)
      (may : MayPost deployment start message request) (undeleted : message.deletedAt = none)
      (reply : ∀ referencedId ∈ message.replyToMessageId, ∃ referenced,
        before.messages.getMessage referencedId = some referenced
          ∧ referenced.channelId = message.channelId)
      (tells : event.Tells "message.created" message)
      : Write request before
          (before.withMessages (before.messages.withMessage message) event)
  | changed (old message : Message) (event : RealtimeEvent)
      (stored : before.messages.getMessage old.id = some old)
      (may : MayChange deployment start old request) (same : old.SameOrigin message)
      (undeleted : message.deletedAt = none) (tells : event.Tells "message.updated" message)
      : Write request before
          (before.withMessages (before.messages.withMessage message) event)
  | deleted (message : Message) (deletedAt : String) (event : RealtimeEvent)
      (stored : before.messages.getMessage message.id = some message)
      (may : MayChange deployment start message request) (tells : event.TellsDeletion message)
      : Write request before
          (before.withMessages
            (before.messages.withMessage { message with deletedAt := some deletedAt }) event)
  | purged (messageIds : List Uuid) (purges : request.PurgesMessages)
      : Write request before
          { before with
            messaging.app.messages := ⟨before.messages.messagesById.eraseAll messageIds⟩ }
  | presigned (attachment : Attachment)
      (new : attachment.id ∉ start.attachments.attachmentsById)
      (may : MayUpload deployment start attachment.uploaderUserId attachment.channelId request)
      (pending : attachment.status = .pending) (unlinked : attachment.messageId = none)
      : Write request before
          (before.withAttachments { before.attachments with
            attachmentsById :=
              before.attachments.attachmentsById.insert attachment.id attachment })
  | uploaded (attachment : Attachment) (content : AttachmentContent)
      (stored : before.attachments.attachmentsById.lookup attachment.id = some attachment)
      (unlinked : attachment.status ≠ .linked) (fits : content.Fits attachment)
      (may : MayUpload deployment start attachment.uploaderUserId attachment.channelId request)
      (carried : Carries deployment content request)
      : Write request before
          (before.withAttachments
            ⟨before.attachments.attachmentsById.insert attachment.id
                { attachment with status := .uploaded },
              before.attachments.contentById.insert attachment.id content⟩)
  | linked (message : Message) (attachmentIds : List Uuid) (attachments : AttachmentStore)
      (stored : before.messages.getMessage message.id = some message)
      (linkable : ∀ attachmentId ∈ attachmentIds, ∃ attachment,
        before.attachments.attachmentsById.lookup attachmentId = some attachment
          ∧ attachment.status = .uploaded ∧ attachment.channelId = message.channelId
          ∧ attachment.uploaderUserId = message.authorUserId)
      (contents : attachments.contentById = before.attachments.contentById)
      (records : ∀ attachmentId, attachments.attachmentsById.lookup attachmentId
        = (before.attachments.attachmentsById.lookup attachmentId).map fun attachment =>
            if attachmentId ∈ attachmentIds then AttachmentStore.linkedTo message.id attachment
            else attachment)
      : Write request before (before.withAttachments attachments)
  | filesPurged (attachmentIds : List Uuid) (purges : request.PurgesAttachments)
      : Write request before
          (before.withAttachments
            ⟨before.attachments.attachmentsById.eraseAll attachmentIds,
              before.attachments.contentById.eraseAll attachmentIds⟩)

/-- A chain of writes of one request. -/
abbrev Writes (request : ConversationRequest) (before : ConversationState)
    : ConversationState → Prop :=
  ReflTransGen (Write deployment start request) before

end OpenCord.Conversations

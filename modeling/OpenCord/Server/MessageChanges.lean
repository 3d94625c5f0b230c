import OpenCord.Server.MessageEndpoints

/-! The endpoints that list, change and delete the messages of channels: the native ones for
users, and the compatibility ones for bots.
-/

namespace OpenCord.Server

open OpenCord.Library OpenCord.Platform OpenCord.Auth OpenCord.Tenancy OpenCord.Bots
  OpenCord.Messages OpenCord.Attachments OpenCord.Realtime OpenCord.Compat OpenCord.RateLimits

/-- The attachments under the messages that they are linked to, each in the order given. -/
def attachmentsByMessageId (attachments : List Attachment) : Table Uuid (List Attachment) :=
  attachments.foldl
    (fun grouped attachment =>
      match attachment.messageId with
      | some messageId =>
          grouped.insert messageId ((grouped.lookup messageId).getD [] ++ [attachment])
      | none => grouped) ∅

/-- Others change a message only if they may manage messages. -/
def changePermission (message : Message) (userId : Uuid) : Permission :=
  if message.authorUserId ≠ userId then .manageMessages else .sendMessages

/-- The event of a deleted message. -/
def messageDeleted (stamp : EventStamp) (messageId : Uuid) (channel : Channel) : RealtimeEvent :=
  .channel stamp "message.deleted" channel.organizationId channel.spaceId channel.id
    (.object [("id", .string messageId.toString), ("channel_id", .string channel.id.toString),
      ("guild_id", .string channel.spaceId.toString)])

def deleteMessage (stamp : EventStamp) (deletedAt : String) (message : Message)
    (channel : Channel) : MessageHandler Unit := do
  MessageHandler.onApp (Handler.onMessages (MessageService.delete deletedAt message))
  MessageHandler.onApp (Handler.publish (messageDeleted stamp message.id channel))

variable (crypto : Crypto) (publicUrl : String)

-----------------------------------------------------------------------------------------
-- Messages of users
-----------------------------------------------------------------------------------------

namespace MessageController

/-- The responses of messages, each of which takes its attachments out of the table. -/
def listed (publicUrl : String) : Table Uuid (List Attachment) → List Message → List Json
  | _, [] => []
  | grouped, message :: messages =>
      Compat.messageResponse message ((grouped.lookup message.id).getD []) publicUrl
        :: listed publicUrl (grouped.erase message.id) messages

def list (state : MessagingState) (authorization : Option String) (channelId : Uuid)
    : Except MessageApiError (List Json) := do
  let token ← bearerToken authorization
  let user ← (state.app.userForToken crypto token).mapError .service
  let _ ← (state.app.enterChannel user.id channelId .viewChannel).mapError .service
  let messages := state.app.messages.listForChannel channelId
  let attachments :=
    state.attachments.listForMessageIds (messages.map fun message => message.id)
  return listed publicUrl (attachmentsByMessageId attachments) messages

/-- The message that a user wants to change, and its channel. -/
def changeable (state : AppState) (authorization : Option String) (messageId : Uuid)
    : Except MessageApiError (Message × Channel) := do
  let token ← bearerToken authorization
  let user ← (state.userForToken crypto token).mapError .service
  let message ← (MessageService.get state.messages messageId).mapError fun error =>
    MessageApiError.service (.message error)
  let (channel, _) ← (state.enterChannel user.id message.channelId
    (changePermission message user.id)).mapError .service
  return (message, channel)

def update (stamp : EventStamp) (authorization : Option String) (messageId : Uuid)
    (content : String) : MessageHandler Json := do
  let state ← get
  let (message, channel) ← changeable crypto state.app authorization messageId
  let message ←
    MessageHandler.onApp (Handler.onMessages (MessageService.update message content))
  let attachments := state.attachments.listForMessageIds [message.id]
  let response := Compat.messageResponse message attachments publicUrl
  MessageHandler.onApp (Handler.publish (.channel stamp "message.updated"
    channel.organizationId channel.spaceId channel.id (.object [("message", response)])))
  return response

def delete (stamp : EventStamp) (deletedAt : String) (authorization : Option String)
    (messageId : Uuid) : MessageHandler Unit := do
  let state ← get
  let (message, channel) ← changeable crypto state.app authorization messageId
  deleteMessage stamp deletedAt message channel

end MessageController

-----------------------------------------------------------------------------------------
-- Messages of bots
-----------------------------------------------------------------------------------------

structure PatchCompatMessageRequest where
  content : String
  allowedMentions : Option Json
  components : Option (List PlainJson)

namespace CompatController

/-- The messages under their identifiers, looked up once each; missing ones are left out. -/
def referencedMessagesById (store : MessageStore) (messageIds : List Uuid)
    : Table Uuid Message :=
  messageIds.eraseDups.foldl
    (fun found messageId =>
      match store.getMessage messageId with
      | some message => found.insert message.id message
      | none => found) ∅

def referencedMessageById (store : MessageStore) (messageId : Option Uuid) : Option Message :=
  messageId.bind store.getMessage

def compatMentionsByMessageId (store : AuthStore) (messages : List Message)
    (currentBot : AuthenticatedBot) : Table Uuid CompatResolvedMentions :=
  messages.foldl
    (fun mentions message =>
      mentions.insert message.id (compatMentionsForMessage store message currentBot)) ∅

def noMentions : CompatResolvedMentions := ⟨[], [], false⟩

/-- What is looked up before a channel is listed. -/
structure ListedChannel where
  attachments : Table Uuid (List Attachment)
  mentions : Table Uuid CompatResolvedMentions
  referenced : Table Uuid Message

namespace ListedChannel

def attachmentsOf (listed : ListedChannel) (message : Message) : List Attachment :=
  (listed.attachments.lookup message.id).getD []

def mentionsOf (listed : ListedChannel) (message : Message) : CompatResolvedMentions :=
  (listed.mentions.lookup message.id).getD noMentions

def referencedBy (listed : ListedChannel) (message : Message) : Option ReferencedCompatMessage :=
  (message.replyToMessageId.bind listed.referenced.lookup).map fun referenced =>
    ⟨referenced, listed.attachmentsOf referenced, listed.mentionsOf referenced⟩

end ListedChannel

/-- All that the listing of some messages needs, looked up together. -/
def lookedUp (state : MessagingState) (bot : AuthenticatedBot) (messages : List Message)
    : ListedChannel :=
  let referenced := referencedMessagesById state.app.messages
    (messages.filterMap fun message => message.replyToMessageId)
  let messageIds := messages.map (fun message => message.id) ++ referenced.keys
  { attachments := attachmentsByMessageId (state.attachments.listForMessageIds messageIds)
    mentions := compatMentionsByMessageId state.app.auth (messages ++ referenced.values) bot
    referenced := referenced }

/-- A bot whose request passes the rate limit, and a channel that it sees. -/
def visibleChannel (state : AppState) (rateLimit : RateLimitDecision)
    (authorization : Option String) (channelId : Uuid)
    : Except MessageApiError (AuthenticatedBot × Channel × SpaceMembership) := do
  let token ← botToken authorization
  let bot ← (state.botForToken crypto token).mapError .service
  checkRateLimit rateLimit
  let (channel, space) ← (visibleChannelForBot state bot channelId).mapError .service
  return (bot, channel, space)

def listMessages (state : MessagingState) (rateLimit : RateLimitDecision)
    (authorization : Option String) (channelId : Uuid)
    : Except MessageApiError (RateLimitDecision × List CompatMessageResponse) := do
  let (bot, channel, space) ←
    visibleChannel crypto state.app rateLimit authorization channelId
  (state.app.requireChannel bot.botUserId space channel .viewChannel).mapError .service
  let messages := state.app.messages.listForChannel channel.id
  let listed := lookedUp state bot messages
  return (rateLimit, messages.map fun message => compatMessageResponse message
    (listed.attachmentsOf message) (listed.mentionsOf message) (listed.referencedBy message) bot
    publicUrl)

/-- What a bot that changes a message has been admitted to. -/
structure ChangeableMessage where
  bot : AuthenticatedBot
  channel : Channel
  space : SpaceMembership
  message : Message

def changeable (state : AppState) (rateLimit : RateLimitDecision)
    (authorization : Option String) (channelId messageId : Uuid)
    : Except MessageApiError ChangeableMessage := do
  let (bot, channel, space) ← visibleChannel crypto state rateLimit authorization channelId
  let message ← (messageInChannel state.messages messageId channel.id).mapError fun error =>
    MessageApiError.service (.message error)
  (state.requireChannel bot.botUserId space channel
    (changePermission message bot.botUserId)).mapError .service
  return ⟨bot, channel, space, message⟩

def updateMessage (stamp : EventStamp) (rateLimit : RateLimitDecision)
    (authorization : Option String) (channelId messageId : Uuid)
    (request : PatchCompatMessageRequest)
    : MessageHandler (RateLimitDecision × CompatMessageResponse) := do
  let state ← get
  let change ← changeable crypto state.app rateLimit authorization channelId messageId
  let channel := change.channel
  let mentionIds := resolveAllowedMentions state.app change.space request.content
    request.allowedMentions
  let message ← MessageHandler.onApp (Handler.onMessages (MessageService.updateWithMentions
    change.message ⟨request.content, mentionIds.userIds, mentionIds.roleIds,
      mentionIds.everyone, request.components⟩))
  let state ← get
  let attachments := state.attachments.listForMessageIds [message.id]
  let mentions := compatMentionsForMessage state.app.auth message change.bot
  let referencedMessage := referencedMessageById state.app.messages message.replyToMessageId
  let referenced := referencedMessage.map fun message => ReferencedCompatMessage.mk message
    (state.attachments.listForMessageIds [message.id])
    (compatMentionsForMessage state.app.auth message change.bot)
  MessageHandler.onApp (Handler.publish (.channel stamp "message.updated"
    channel.organizationId channel.spaceId channel.id
    (.object [("message",
      realtimeMessagePayload message attachments mentions referenced publicUrl)])))
  return (rateLimit,
    compatMessageResponse message attachments mentions referenced change.bot publicUrl)

def deleteMessage (stamp : EventStamp) (deletedAt : String) (rateLimit : RateLimitDecision)
    (authorization : Option String) (channelId messageId : Uuid)
    : MessageHandler RateLimitDecision := do
  let state ← get
  let change ← changeable crypto state.app rateLimit authorization channelId messageId
  Server.deleteMessage stamp deletedAt change.message change.channel
  return rateLimit

end CompatController

end OpenCord.Server

import OpenCord.Compat.Mentions
import OpenCord.Compat.Messages
import OpenCord.Messages.Creation
import OpenCord.RateLimits.Limiter
import OpenCord.Server.State

/-! The two endpoints that create messages in channels: the native one for users, and the
compatibility one for bots, whose requests may carry files.
-/

namespace OpenCord.Server

open OpenCord.Library OpenCord.Platform OpenCord.Auth OpenCord.Tenancy OpenCord.Bots
  OpenCord.Messages OpenCord.Attachments OpenCord.Realtime OpenCord.Compat OpenCord.RateLimits

/-- The failures of both endpoints. -/
inductive MessageApiError where
  | service (error : ApiError)
  | attachment (error : AttachmentError)
  | rateLimited (decision : RateLimitDecision)
  | invalidRequest (status : Nat) (message : String)

/-- The stores of the server together with the one of attachments. -/
structure MessagingState where
  app : AppState
  attachments : AttachmentStore

abbrev MessageHandler (α : Type) := Eff MessagingState MessageApiError α

namespace MessageHandler

variable {α : Type}

def onApp (action : Handler α) : MessageHandler α :=
  action.zoom MessagingState.app (fun state app => { state with app := app }) .service

def onAttachments (action : Eff AttachmentStore AttachmentError α) : MessageHandler α :=
  action.zoom MessagingState.attachments
    (fun state attachments => { state with attachments := attachments }) .attachment

end MessageHandler

def checkRateLimit (decision : RateLimitDecision) : Except MessageApiError Unit :=
  if decision.allowed then .ok () else .error (.rateLimited decision)

/-- The token of an authorization header with a scheme, if it is not empty. -/
def headerToken (scheme : String) (authorization : Option String) : Option String :=
  ((authorization.bind (Text.stripStart scheme)).map Text.trim).filter fun token => token ≠ ""

def bearerToken (authorization : Option String) : Except MessageApiError String :=
  match headerToken "Bearer " authorization with
  | some token => .ok token
  | none => .error (.service (.auth .unauthorized))

def botToken (authorization : Option String) : Except MessageApiError String :=
  match headerToken "Bot " authorization with
  | some token => .ok token
  | none => .error (.service (.bot .unauthorized))

/-- A record as it is drawn: its identifier and the time. -/
structure DrawnRecord where
  id : Uuid
  createdAt : String

variable (crypto : Crypto)

-----------------------------------------------------------------------------------------
-- Messages of users
-----------------------------------------------------------------------------------------

structure CreateMessageRequest where
  content : String
  attachmentIds : List Uuid

namespace MessageController

/-- What is checked before the message is stored: the user, the channel, the rate and the
attachments.
-/
def admission (state : MessagingState) (rateLimit : RateLimitDecision)
    (authorization : Option String) (channelId : Uuid) (request : CreateMessageRequest)
    : Except MessageApiError (AuthUser × Channel) := do
  let token ← bearerToken authorization
  let user ← (state.app.userForToken crypto token).mapError .service
  let (channel, _) ← (state.app.enterChannel user.id channelId .sendMessages).mapError .service
  checkRateLimit rateLimit
  (AttachmentService.validateForMessage state.attachments
    ⟨channel.organizationId, channel.spaceId, channel.id, user.id⟩
    request.attachmentIds).mapError .attachment
  return (user, channel)

def create (publicUrl : String) (drawn : DrawnRecord) (stamp : EventStamp)
    (rateLimit : RateLimitDecision) (authorization : Option String) (channelId : Uuid)
    (request : CreateMessageRequest) : MessageHandler (RateLimitDecision × Json) := do
  let state ← get
  let (user, channel) ← admission crypto state rateLimit authorization channelId request
  let message ← MessageHandler.onApp (Handler.onMessages (MessageService.create drawn.id
    drawn.createdAt channel.organizationId (some channel.spaceId) channel.id user.id
    request.content (request.attachmentIds ≠ [])))
  let attachments ← MessageHandler.onAttachments
    (AttachmentService.linkToMessage message.id request.attachmentIds)
  let response := Compat.messageResponse message attachments publicUrl
  MessageHandler.onApp (Handler.publish (.channel stamp "message.created"
    channel.organizationId channel.spaceId channel.id (.object [("message", response)])))
  return (rateLimit, response)

end MessageController

-----------------------------------------------------------------------------------------
-- Requests of bots
-----------------------------------------------------------------------------------------

structure CompatMessageReferenceRequest where
  messageId : Uuid
  channelId : Option Uuid

structure CreateCompatMessageRequest where
  content : Option String
  embeds : List PlainJson
  components : List PlainJson
  allowedMentions : Option Json
  messageReference : Option CompatMessageReferenceRequest

structure CompatMultipartFile where
  fileName : String
  contentType : String
  bytes : List UInt8

structure CompatCreateMessagePayload where
  request : CreateCompatMessageRequest
  files : List CompatMultipartFile

/-- A field of a multipart body; its own body may be unreadable. -/
structure MultipartField where
  name : Option String
  fileName : Option String
  contentType : Option String
  bytes : Option (List UInt8)

/-- A request of a bot: the headers that are texts, and the body unless it cannot be read. -/
structure CompatRequest where
  authorization : Option String
  contentType : Option String
  body : Option (List UInt8)

/-- The readers of request bodies. A multipart body is read for its content type, and each of its
fields may turn out to be none.
-/
structure BodyReaders where
  fromSlice : List UInt8 → Option CreateCompatMessageRequest
  multipart : Option String → Option (List UInt8) → Option (List (Option MultipartField))

def maxCompatMessageBodyBytes : Nat :=
  maxAttachmentSizeBytes.toNat * maxAttachmentsPerMessage + 64 * 1024

namespace CompatController

def badRequest (message : String) : MessageApiError := .invalidRequest 400 message

variable (readers : BodyReaders)

def parseJsonMessagePayload (request : CompatRequest)
    : Except MessageApiError CompatCreateMessagePayload :=
  match request.body.filter fun body => body.length ≤ maxCompatMessageBodyBytes with
  | none => .error (badRequest "compatibility message JSON body is too large")
  | some body =>
      match readers.fromSlice body with
      | none => .error (badRequest "compatibility message JSON body is invalid")
      | some request => .ok ⟨request, []⟩

/-- What has been read of a multipart body: the request, if it has come already, and the files. -/
structure ReadParts where
  payload : Option CreateCompatMessageRequest
  files : List CompatMultipartFile

def readMultipartField (parts : ReadParts) (field : Option MultipartField)
    : Except MessageApiError ReadParts :=
  match field with
  | none => .error (badRequest "compatibility multipart field is invalid")
  | some field =>
      let name := field.name.getD ""
      match field.bytes with
      | none => .error (badRequest "compatibility multipart field body is invalid")
      | some bytes =>
          if name = "payload_json" then
            match readers.fromSlice bytes with
            | none => .error (badRequest "compatibility multipart payload_json is invalid")
            | some request => .ok { parts with payload := some request }
          else if Text.startsWith name "files[" ∨ name = "file" then
            match field.fileName with
            | none => .error (badRequest "compatibility multipart file requires a filename")
            | some fileName =>
                let contentType := field.contentType.getD "application/octet-stream"
                .ok { parts with files := parts.files ++ [⟨fileName, contentType, bytes⟩] }
          else
            .ok parts

def parseMultipartMessagePayload (request : CompatRequest)
    : Except MessageApiError CompatCreateMessagePayload :=
  match readers.multipart request.contentType request.body with
  | none => .error (badRequest "compatibility multipart message body is invalid")
  | some fields => do
      let parts ← fields.foldlM (readMultipartField readers) ⟨none, []⟩
      if maxAttachmentsPerMessage < parts.files.length then
        throw (.attachment (.invalidInput "message cannot include more than 10 attachments"))
      else
        match parts.payload with
        | none => throw (badRequest "compatibility multipart message requires payload_json")
        | some request => return ⟨request, parts.files⟩

def parseCreateMessagePayload (request : CompatRequest)
    : Except MessageApiError CompatCreateMessagePayload :=
  let contentType := Text.toAsciiLowercase (request.contentType.getD "")
  if Text.startsWith contentType "multipart/form-data" then
    parseMultipartMessagePayload readers request
  else if Text.startsWith contentType "application/json"
      ∨ Text.endsWith contentType "+json" then
    parseJsonMessagePayload readers request
  else
    .error (.invalidRequest 415
      "compatibility message request must be JSON or multipart form data")

-----------------------------------------------------------------------------------------
-- Files
-----------------------------------------------------------------------------------------

/-- Stores the record of one file and then its content. -/
def uploadFile (channel : Channel) (bot : AuthenticatedBot) (drawn : DrawnRecord)
    (file : CompatMultipartFile) : Eff AttachmentStore AttachmentError Uuid :=
  if maxAttachmentSizeBytes < file.bytes.length then
    throw (.invalidInput "attachment size must be between 1 byte and 10 MiB")
  else do
    let attachment ← AttachmentService.createPending drawn.id drawn.createdAt
      ⟨channel.organizationId, channel.spaceId, channel.id, bot.botUserId, file.fileName,
        file.contentType, file.bytes.length⟩
    let attachment ← AttachmentService.upload attachment bot.botUserId file.contentType file.bytes
    return attachment.id

/-- Uploads the files one by one, up to the first that is not accepted. -/
def uploadCompatMultipartAttachments (channel : Channel) (bot : AuthenticatedBot)
    (draw : Nat → DrawnRecord)
    : Nat → List CompatMultipartFile → Eff AttachmentStore AttachmentError (List Uuid)
  | _, [] => return []
  | index, file :: files => do
      let attachmentId ← uploadFile channel bot (draw index) file
      let attachmentIds ← uploadCompatMultipartAttachments channel bot draw (index + 1) files
      return attachmentId :: attachmentIds

-----------------------------------------------------------------------------------------
-- Mentions and references
-----------------------------------------------------------------------------------------

structure CompatMentionIds where
  userIds : List Uuid
  roleIds : List Uuid
  everyone : Bool

/-- The ids that pass a test, each once, in the order of their first mentions. -/
def mentionedOnce (passes : Uuid → Bool) (ids : List Uuid) : List Uuid :=
  ids.foldl (fun found id => if passes id ∧ id ∉ found then found ++ [id] else found) []

def resolveAllowedMentions (state : AppState) (space : SpaceMembership) (content : String)
    (allowedMentions : Option Json) : CompatMentionIds :=
  let policy := allowedMentionPolicy allowedMentions
  let roleIdsInSpace := (state.permissions.rolesById.values.filter fun role =>
    role.spaceId = space.id).map fun role => role.id
  { userIds := mentionedOnce (fun userId => policy.allowsUser userId
      && (state.spaceForUser userId space.id).isOk && (state.auth.findUserById userId).isSome)
      (extractMentionIds content .user)
    roleIds := mentionedOnce (fun roleId => policy.allowsRole roleId
      && roleIdsInSpace.contains roleId) (extractMentionIds content .role)
    everyone := hasEveryoneMention content && policy.parseEveryone }

def messageInChannel (store : MessageStore) (messageId channelId : Uuid)
    : Except MessageError Message := do
  let message ← MessageService.get store messageId
  if message.channelId = channelId then return message else throw .notFound

def validateMessageReference (store : MessageStore) (channelId : Uuid)
    (messageReference : Option CompatMessageReferenceRequest)
    : Except MessageError (Option Message) :=
  match messageReference with
  | none => .ok none
  | some messageReference =>
      if messageReference.channelId.any fun referencedId => referencedId ≠ channelId then
        .error .notFound
      else do
        let message ← messageInChannel store messageReference.messageId channelId
        return some message

def attachmentsForMessage (store : AttachmentStore) (message : Option Message)
    : List Attachment :=
  match message with
  | none => []
  | some message => store.listForMessageIds [message.id]

def compatUserForAuthUser (user : AuthUser) (currentBot : AuthenticatedBot)
    : CompatUserResponse :=
  if user.id = currentBot.botUserId then
    compatUserResponse currentBot
  else
    ⟨user.id.toString, user.displayName, false⟩

def compatMentionsForMessage (store : AuthStore) (message : Message)
    (currentBot : AuthenticatedBot) : CompatResolvedMentions :=
  ⟨message.mentionUserIds.filterMap fun userId => (store.findUserById userId).map fun user =>
      compatUserForAuthUser (AuthUser.from user) currentBot,
    message.mentionRoleIds.map Uuid.toString, message.mentionEveryone⟩

-----------------------------------------------------------------------------------------
-- Messages of bots
-----------------------------------------------------------------------------------------

def visibleChannelForBot (state : AppState) (bot : AuthenticatedBot) (channelId : Uuid)
    : Except ApiError (Channel × SpaceMembership) := do
  let channel ← state.channel channelId
  if channel.organizationId ≠ bot.organizationId then
    throw (.channel .notFound)
  else
    let space ← state.spaceForUser bot.botUserId channel.spaceId
    return (channel, space)

/-- A request of a bot that may write to a channel. -/
structure AdmittedMessage where
  bot : AuthenticatedBot
  channel : Channel
  space : SpaceMembership
  payload : CompatCreateMessagePayload

/-- What is checked before anything is stored. -/
def admission (state : AppState) (rateLimit : RateLimitDecision) (channelId : Uuid)
    (request : CompatRequest) : Except MessageApiError AdmittedMessage := do
  let token ← botToken request.authorization
  let bot ← (state.botForToken crypto token).mapError .service
  checkRateLimit rateLimit
  let (channel, space) ← (visibleChannelForBot state bot channelId).mapError .service
  (state.requireChannel bot.botUserId space channel .sendMessages).mapError .service
  let payload ← parseCreateMessagePayload readers request
  return ⟨bot, channel, space, payload⟩

/-- What the creation of a message of a bot draws. -/
structure DrawnMessage where
  attachment : Nat → DrawnRecord
  message : DrawnRecord
  stamp : EventStamp

def allowEmptyContent (request : CreateCompatMessageRequest) (attachmentIds : List Uuid)
    : Bool :=
  !request.embeds.isEmpty || !request.components.isEmpty || !attachmentIds.isEmpty

variable (toUtcMillis : String → Option String) (publicUrl : String)

/-- Everything after the upload of the files. -/
def postMessage (drawn : DrawnMessage) (admitted : AdmittedMessage) (attachmentIds : List Uuid)
    : MessageHandler CompatMessageResponse := do
  let state ← get
  let channel := admitted.channel
  let request := admitted.payload.request
  let content := request.content.getD ""
  let mentionIds :=
    resolveAllowedMentions state.app admitted.space content request.allowedMentions
  let referencedMessage ← (validateMessageReference state.app.messages channel.id
    request.messageReference).mapError fun error => MessageApiError.service (.message error)
  let referencedAttachments := attachmentsForMessage state.attachments referencedMessage
  let message ← MessageHandler.onApp (Handler.onMessages
    (MessageService.createWithEmbeds toUtcMillis drawn.message.id drawn.message.createdAt
      { organizationId := channel.organizationId
        spaceId := some channel.spaceId
        channelId := channel.id
        authorUserId := admitted.bot.botUserId
        content := content
        allowEmptyContent := allowEmptyContent request attachmentIds
        embeds := request.embeds
        components := request.components
        webhookUsername := none
        webhookAvatarUrl := none
        mentionUserIds := mentionIds.userIds
        mentionRoleIds := mentionIds.roleIds
        mentionEveryone := mentionIds.everyone
        replyToMessageId := referencedMessage.map fun message => message.id }))
  let attachments ← MessageHandler.onAttachments
    (AttachmentService.linkToMessage message.id attachmentIds)
  let mentions := compatMentionsForMessage state.app.auth message admitted.bot
  let referenced := referencedMessage.map fun message => ReferencedCompatMessage.mk message
    referencedAttachments (compatMentionsForMessage state.app.auth message admitted.bot)
  MessageHandler.onApp (Handler.publish (.channel drawn.stamp "message.created"
    channel.organizationId channel.spaceId channel.id
    (.object [("message",
      realtimeMessagePayload message attachments mentions referenced publicUrl)])))
  return compatMessageResponse message attachments mentions referenced admitted.bot publicUrl

def createMessage (drawn : DrawnMessage) (rateLimit : RateLimitDecision) (channelId : Uuid)
    (request : CompatRequest) : MessageHandler (RateLimitDecision × CompatMessageResponse) := do
  let state ← get
  let admitted ← admission crypto readers state.app rateLimit channelId request
  let attachmentIds ← MessageHandler.onAttachments (uploadCompatMultipartAttachments
    admitted.channel admitted.bot drawn.attachment 0 admitted.payload.files)
  let response ← postMessage toUtcMillis publicUrl drawn admitted attachmentIds
  return (rateLimit, response)

end CompatController

end OpenCord.Server

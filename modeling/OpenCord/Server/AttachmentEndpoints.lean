import OpenCord.Server.MessageEndpoints

/-! The endpoints of attachments: a user presigns a file for a channel, uploads its content, and
members of the channel download it.
-/

namespace OpenCord.Server

open OpenCord.Library OpenCord.Platform OpenCord.Auth OpenCord.Tenancy OpenCord.Attachments
  OpenCord.RateLimits

structure PresignAttachmentRequest where
  channelId : Uuid
  fileName : String
  contentType : String
  sizeBytes : Int

structure AttachmentUploadResponse where
  method : String
  url : String

variable (crypto : Crypto) (publicUrl : String)

namespace AttachmentController

/-- A user who may send messages to a channel, and whose request passes the rate limit. -/
def sender (state : AppState) (rateLimit : RateLimitDecision) (authorization : Option String)
    (channelId : Uuid) : Except MessageApiError (AuthUser × Channel) := do
  let token ← bearerToken authorization
  let user ← (state.userForToken crypto token).mapError .service
  let (channel, _) ← (state.enterChannel user.id channelId .sendMessages).mapError .service
  checkRateLimit rateLimit
  return (user, channel)

def presign (drawn : DrawnRecord) (rateLimit : RateLimitDecision)
    (authorization : Option String) (request : PresignAttachmentRequest)
    : MessageHandler (RateLimitDecision × Json × AttachmentUploadResponse) := do
  let state ← get
  let (user, channel) ← sender crypto state.app rateLimit authorization request.channelId
  let attachment ← MessageHandler.onAttachments (AttachmentService.createPending drawn.id
    drawn.createdAt ⟨channel.organizationId, channel.spaceId, channel.id, user.id,
      request.fileName, request.contentType, request.sizeBytes⟩)
  return (rateLimit, Compat.attachmentResponse publicUrl attachment,
    ⟨"PUT", Compat.attachmentDownloadUrl publicUrl attachment.id⟩)

/-- The attachment of an upload and the user that uploads it. The user is known before the
attachment is looked up.
-/
def uploading (state : MessagingState) (rateLimit : RateLimitDecision)
    (authorization : Option String) (attachmentId : Uuid)
    : Except MessageApiError (AuthUser × Attachment) := do
  let token ← bearerToken authorization
  let user ← (state.app.userForToken crypto token).mapError .service
  let attachment ←
    (AttachmentService.get state.attachments attachmentId).mapError MessageApiError.attachment
  let _ ← (state.app.enterChannel user.id attachment.channelId .sendMessages).mapError .service
  checkRateLimit rateLimit
  return (user, attachment)

def uploadContent (rateLimit : RateLimitDecision) (authorization contentType : Option String)
    (attachmentId : Uuid) (body : List UInt8)
    : MessageHandler (RateLimitDecision × Json) := do
  let state ← get
  let (user, attachment) ← uploading crypto state rateLimit authorization attachmentId
  let attachment ← MessageHandler.onAttachments
    (AttachmentService.upload attachment user.id (contentType.getD "") body)
  return (rateLimit, Compat.attachmentResponse publicUrl attachment)

def content (store : AttachmentStore) (attachmentId : Uuid)
    : Except AttachmentError AttachmentContent :=
  match store.contentForAttachment attachmentId with
  | some content => .ok content
  | none => .error .notFound

def downloadContent (state : MessagingState) (authorization : Option String)
    (attachmentId : Uuid) : Except MessageApiError AttachmentContent := do
  let token ← bearerToken authorization
  let user ← (state.app.userForToken crypto token).mapError .service
  let attachment ←
    (AttachmentService.get state.attachments attachmentId).mapError MessageApiError.attachment
  let _ ← (state.app.enterChannel user.id attachment.channelId .viewChannel).mapError .service
  (content state.attachments attachmentId).mapError .attachment

end AttachmentController

end OpenCord.Server

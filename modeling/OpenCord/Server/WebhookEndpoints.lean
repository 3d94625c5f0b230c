import OpenCord.Audit.Records
import OpenCord.Server.MessageEndpoints
import OpenCord.Webhooks.Webhook

/-! The endpoints of incoming webhooks: members who manage a channel create, rotate and delete
them, whoever has the token of one posts messages with it, and the administrators of an
organization decide whether such messages may show another name and avatar.
-/

namespace OpenCord.Server

open OpenCord.Library OpenCord.Platform OpenCord.Auth OpenCord.Tenancy OpenCord.Messages
  OpenCord.Realtime OpenCord.RateLimits OpenCord.Webhooks OpenCord.Audit

structure OrganizationWebhookPolicy where
  organizationId : Uuid
  allowIdentityOverrides : Bool
  deriving DecidableEq

/-- The failures of the endpoints that answer in channels. -/
inductive ConversationError where
  | messaging (error : MessageApiError)
  | webhook (error : WebhookError)
  | audit (error : AuditError)

/-- The stores of the server with those of attachments, webhooks and audit events. -/
structure ConversationState where
  messaging : MessagingState
  webhooks : IncomingWebhookStore
  webhookPoliciesByOrganization : Table Uuid OrganizationWebhookPolicy
  audit : AuditStore

def ConversationState.empty : ConversationState :=
  ⟨⟨.empty, .empty⟩, .empty, ∅, .empty⟩

abbrev ConversationHandler (α : Type) := Eff ConversationState ConversationError α

namespace ConversationHandler

variable {α : Type}

def onMessaging (action : MessageHandler α) : ConversationHandler α :=
  action.zoom ConversationState.messaging
    (fun state messaging => { state with messaging := messaging }) .messaging

def onApp (action : Handler α) : ConversationHandler α :=
  onMessaging (MessageHandler.onApp action)

def onWebhooks (action : Eff IncomingWebhookStore WebhookError α) : ConversationHandler α :=
  action.zoom ConversationState.webhooks
    (fun state webhooks => { state with webhooks := webhooks }) .webhook

/-- Webhooks come with users of their own. -/
def onWebhookUsers (action : Eff (AuthStore × IncomingWebhookStore) WebhookError α)
    : ConversationHandler α :=
  action.zoom (fun state => (state.messaging.app.auth, state.webhooks))
    (fun state stores =>
      { state with
        messaging.app.auth := stores.1
        webhooks := stores.2 })
    .webhook

def onAudit (action : Eff AuditStore AuditError α) : ConversationHandler α :=
  action.zoom ConversationState.audit (fun state audit => { state with audit := audit }) .audit

end ConversationHandler

namespace ConversationError

def service (error : ApiError) : ConversationError := .messaging (.service error)

end ConversationError

/-- The policy of a stored organization; overrides are allowed unless it says otherwise. -/
def ConversationState.webhookPolicyForOrganization (state : ConversationState)
    (organizationId : Uuid) : Except OrganizationError OrganizationWebhookPolicy :=
  if organizationId ∈ state.messaging.app.organizations.organizationsById then
    .ok ((state.webhookPoliciesByOrganization.lookup organizationId).getD
      ⟨organizationId, true⟩)
  else
    .error .notFound

variable (crypto : Crypto)

-----------------------------------------------------------------------------------------
-- Policies
-----------------------------------------------------------------------------------------

namespace OrganizationController

/-- An administrator of an organization. -/
def administrator (state : ConversationState) (authorization : Option String)
    (organizationId : Uuid) : Except ConversationError AuthUser := do
  let token ← (bearerToken authorization).mapError .messaging
  let user ← (state.messaging.app.userForToken crypto token).mapError .service
  let _ ← (state.messaging.app.requireAdmin user.id organizationId).mapError .service
  return user

/-- An organization with an administrator is stored, so the policy is always written. -/
def upsertWebhookPolicy (drawn : DrawnRecord) (authorization : Option String)
    (organizationId : Uuid) (allowIdentityOverrides : Bool)
    : ConversationHandler OrganizationWebhookPolicy := do
  let state ← get
  let user ← administrator crypto state authorization organizationId
  let policy : OrganizationWebhookPolicy := ⟨organizationId, allowIdentityOverrides⟩
  if organizationId ∉ state.messaging.app.organizations.organizationsById then
    throw (.service (.organization .notFound))
  set { state with webhookPoliciesByOrganization :=
    state.webhookPoliciesByOrganization.insert organizationId policy }
  let _ ← ConversationHandler.onAudit (AuditService.record drawn.id drawn.createdAt
    { organizationId := organizationId
      spaceId := organizationId
      actorUserId := user.id
      action := "organization.webhook_policy_updated"
      targetType := "organization"
      targetId := organizationId
      metadata := .object [("allow_identity_overrides", .bool policy.allowIdentityOverrides)] })
  return policy

end OrganizationController

-----------------------------------------------------------------------------------------
-- Webhooks
-----------------------------------------------------------------------------------------

structure ExecuteIncomingWebhookRequest where
  content : Option String
  embeds : List PlainJson
  username : Option String
  avatarUrl : Option String

namespace WebhookController

def ensureTextChannel (channel : Channel) : Except WebhookError Unit :=
  if channel.kind = "text" then .ok ()
  else .error (.invalidInput "incoming webhooks can only be created for text channels")

def ensureWebhookMatchesChannel (webhook : IncomingWebhook) (channel : Channel)
    : Except WebhookError Unit :=
  if channel.kind = "text" ∧ channel.organizationId = webhook.organizationId
      ∧ channel.spaceId = webhook.spaceId ∧ channel.id = webhook.channelId then
    .ok ()
  else
    .error .notFound

def manageableTextChannel (state : ConversationState) (authorization : Option String)
    (channelId : Uuid) : Except ConversationError (Uuid × Channel) := do
  let token ← (bearerToken authorization).mapError .messaging
  let user ← (state.messaging.app.userForToken crypto token).mapError .service
  let (channel, _) ←
    (state.messaging.app.enterChannel user.id channelId .manageChannels).mapError .service
  (ensureTextChannel channel).mapError .webhook
  return (user.id, channel)

/-- What an audit event tells of a webhook. -/
def auditOf (webhook : IncomingWebhook) (actorUserId : Uuid) (action : String)
    (metadata : List (String × Json)) : NewAuditEvent where
  organizationId := webhook.organizationId
  spaceId := webhook.spaceId
  actorUserId := actorUserId
  action := action
  targetType := "incoming_webhook"
  targetId := webhook.id
  metadata := .object metadata

def create (drawn : DrawnWebhook) (recorded : DrawnRecord) (authorization : Option String)
    (channelId : Uuid) (name : String) : ConversationHandler (IncomingWebhook × String) := do
  let state ← get
  let (userId, channel) ← manageableTextChannel crypto state authorization channelId
  let (webhook, token) ← ConversationHandler.onWebhookUsers (IncomingWebhookService.create
    crypto drawn channel.organizationId channel.spaceId channel.id userId name)
  let _ ← ConversationHandler.onAudit (AuditService.record recorded.id recorded.createdAt
    (auditOf webhook userId "webhook.created"
      [("channel_id", .string webhook.channelId.toString),
        ("bot_user_id", .string webhook.botUserId.toString), ("name", .string webhook.name),
        ("token_last_four", .string webhook.tokenLastFour)]))
  return (webhook, token)

/-- The active webhooks of a channel, by creation time and then by identifier. -/
def listForChannel (state : ConversationState) (authorization : Option String)
    (channelId : Uuid) : Except ConversationError (List IncomingWebhook) := do
  let (_, channel) ← manageableTextChannel crypto state authorization channelId
  let listed := state.webhooks.webhooks.values.filter fun webhook =>
    webhook.channelId = channel.id ∧ webhook.status = .active
  return listed.insertionSort fun left right =>
    left.createdAt < right.createdAt
      ∨ left.createdAt = right.createdAt ∧ left.id.bits ≤ right.id.bits

def rotateToken (bytes : BitVec 256) (recorded : DrawnRecord) (authorization : Option String)
    (channelId webhookId : Uuid) : ConversationHandler (IncomingWebhook × String) := do
  let state ← get
  let (userId, channel) ← manageableTextChannel crypto state authorization channelId
  let (webhook, token) ← ConversationHandler.onWebhooks
    (IncomingWebhookService.rotateToken crypto bytes webhookId channel.id)
  (ensureWebhookMatchesChannel webhook channel).mapError ConversationError.webhook
  let _ ← ConversationHandler.onAudit (AuditService.record recorded.id recorded.createdAt
    (auditOf webhook userId "webhook.token_rotated"
      [("channel_id", .string webhook.channelId.toString),
        ("token_last_four", .string webhook.tokenLastFour)]))
  return (webhook, token)

def delete (recorded : DrawnRecord) (authorization : Option String)
    (channelId webhookId : Uuid) : ConversationHandler Unit := do
  let state ← get
  let (userId, channel) ← manageableTextChannel crypto state authorization channelId
  let webhook ←
    ConversationHandler.onWebhooks (IncomingWebhookService.disable webhookId channel.id)
  let _ ← ConversationHandler.onAudit (AuditService.record recorded.id recorded.createdAt
    (auditOf webhook userId "webhook.deleted"
      [("channel_id", .string webhook.channelId.toString),
        ("bot_user_id", .string webhook.botUserId.toString), ("name", .string webhook.name)]))

/-- The webhook that a token posts with, and the policy of its organization. -/
def executable (state : ConversationState) (rateLimit : RateLimitDecision) (webhookId : Uuid)
    (token : String)
    : Except ConversationError (IncomingWebhook × OrganizationWebhookPolicy) := do
  (checkRateLimit rateLimit).mapError .messaging
  let webhook ←
    (IncomingWebhookService.verify crypto state.webhooks webhookId token).mapError
      ConversationError.webhook
  let channel ← (state.messaging.app.channel webhook.channelId).mapError .service
  (ensureWebhookMatchesChannel webhook channel).mapError ConversationError.webhook
  let policy ← (state.webhookPolicyForOrganization webhook.organizationId).mapError
    fun error => .service (.organization error)
  return (webhook, policy)

/-- The message that an execution creates; the request's name and avatar count only if the
policy allows them.
-/
def executedInput (webhook : IncomingWebhook) (policy : OrganizationWebhookPolicy)
    (request : ExecuteIncomingWebhookRequest) : CreateMessageInput where
  organizationId := webhook.organizationId
  spaceId := some webhook.spaceId
  channelId := webhook.channelId
  authorUserId := webhook.botUserId
  content := request.content.getD ""
  allowEmptyContent := !request.embeds.isEmpty
  embeds := request.embeds
  components := []
  webhookUsername := if policy.allowIdentityOverrides then request.username else none
  webhookAvatarUrl := if policy.allowIdentityOverrides then request.avatarUrl else none
  mentionUserIds := []
  mentionRoleIds := []
  mentionEveryone := false
  replyToMessageId := none

variable (toUtcMillis : String → Option String) (publicUrl : String)

def execute (drawn : DrawnRecord) (stamp : EventStamp) (rateLimit : RateLimitDecision)
    (webhookId : Uuid) (token : String) (request : ExecuteIncomingWebhookRequest)
    : ConversationHandler (RateLimitDecision × Json) := do
  let state ← get
  let (webhook, policy) ← executable crypto state rateLimit webhookId token
  let message ← ConversationHandler.onApp (Handler.onMessages (MessageService.createWithEmbeds
    toUtcMillis drawn.id drawn.createdAt (executedInput webhook policy request)))
  let response := Compat.messageResponse message [] publicUrl
  ConversationHandler.onApp (Handler.publish (.channel stamp "message.created"
    webhook.organizationId webhook.spaceId webhook.channelId
    (.object [("message", response)])))
  return (rateLimit, response)

end WebhookController

end OpenCord.Server

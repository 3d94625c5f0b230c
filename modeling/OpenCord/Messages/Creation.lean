import OpenCord.Library.Failures
import OpenCord.Messages.Embeds

/-! Creating messages with embeds, components and mentions: what is checked, in which order, and
what is stored.
-/

namespace OpenCord.Messages

open OpenCord.Library OpenCord.Platform

/-- What a message is made of. -/
structure CreateMessageInput where
  organizationId : Uuid
  spaceId : Option Uuid
  channelId : Uuid
  authorUserId : Uuid
  content : String
  allowEmptyContent : Bool
  embeds : List PlainJson
  components : List PlainJson
  webhookUsername : Option String
  webhookAvatarUrl : Option String
  mentionUserIds : List Uuid
  mentionRoleIds : List Uuid
  mentionEveryone : Bool
  replyToMessageId : Option Uuid

namespace MessageService

/-- An optional text, trimmed, that is left out when empty. -/
def normalizeWebhookText (accepts : String → Bool) (message : String) (text : Option String)
    : Except MessageError (Option String) :=
  match text with
  | none => .ok none
  | some text =>
      let text := Text.trim text
      if text = "" then
        .ok none
      else if accepts text then
        .ok (some text)
      else
        .error (.invalidInput message)

def normalizeWebhookUsername (username : Option String)
    : Except MessageError (Option String) :=
  normalizeWebhookText (fun username => username.utf8ByteSize ≤ 80)
    "webhook username must be 80 characters or fewer" username

def normalizeWebhookAvatarUrl (avatarUrl : Option String)
    : Except MessageError (Option String) :=
  normalizeWebhookText isHttpUrl
    "webhook avatar_url must be an HTTP or HTTPS URL up to 2048 characters" avatarUrl

variable (toUtcMillis : String → Option String)

/-- The message of an input, before it is stored. -/
def newMessageWithEmbeds (messageId : Uuid) (createdAt : String) (input : CreateMessageInput)
    : Except MessageError Message := do
  let embeds ← normalizeEmbeds toUtcMillis input.embeds
  let components ← normalizeComponents input.components
  let content ← normalizeContent input.content input.allowEmptyContent
  let webhookUsername ← normalizeWebhookUsername input.webhookUsername
  let webhookAvatarUrl ← normalizeWebhookAvatarUrl input.webhookAvatarUrl
  return {
    id := messageId
    organizationId := input.organizationId
    spaceId := input.spaceId
    channelId := input.channelId
    authorUserId := input.authorUserId
    content := content
    contentFormat := "plain"
    embeds := embeds
    components := components
    webhookUsername := webhookUsername
    webhookAvatarUrl := webhookAvatarUrl
    mentionUserIds := normalizeMentionIds input.mentionUserIds
    mentionRoleIds := normalizeMentionIds input.mentionRoleIds
    mentionEveryone := input.mentionEveryone
    replyToMessageId := input.replyToMessageId
    editedAt := none
    deletedAt := none
    createdAt := createdAt }

def createWithEmbeds (messageId : Uuid) (createdAt : String) (input : CreateMessageInput)
    : Eff MessageStore MessageError Message := do
  let message ← newMessageWithEmbeds toUtcMillis messageId createdAt input
  MessageStore.createMessage message
  return message

/-- Plain messages are created without anything else. -/
theorem create_eq_createWithEmbeds (messageId : Uuid) (createdAt : String)
    (organizationId : Uuid) (spaceId : Option Uuid) (channelId authorUserId : Uuid)
    (content : String) (allowEmptyContent : Bool)
    : create messageId createdAt organizationId spaceId channelId authorUserId content
          allowEmptyContent
        = createWithEmbeds toUtcMillis messageId createdAt
          ⟨organizationId, spaceId, channelId, authorUserId, content, allowEmptyContent, [], [],
            none, none, [], [], false, none⟩ := by
  have embeds : normalizeEmbeds toUtcMillis [] = .ok [] := rfl
  have built : newMessage messageId createdAt organizationId spaceId channelId authorUserId
        content allowEmptyContent
      = newMessageWithEmbeds toUtcMillis messageId createdAt
        ⟨organizationId, spaceId, channelId, authorUserId, content, allowEmptyContent, [], [],
          none, none, [], [], false, none⟩ := by
    rw [newMessage, newMessageWithEmbeds, embeds]
    cases normalizeContent content allowEmptyContent <;> rfl
  rw [create, createWithEmbeds, built]

end MessageService

/-- Everything that a message is made of passes its check. -/
structure CreateMessageInput.Valid (input : CreateMessageInput)
    (toUtcMillis : String → Option String) : Prop where
  embeds : (MessageService.normalizeEmbeds toUtcMillis input.embeds).isOk
  components : (MessageService.normalizeComponents input.components).isOk
  content : (MessageService.normalizeContent input.content input.allowEmptyContent).isOk
  webhookUsername : (MessageService.normalizeWebhookUsername input.webhookUsername).isOk
  webhookAvatarUrl : (MessageService.normalizeWebhookAvatarUrl input.webhookAvatarUrl).isOk

namespace MessageService

variable {toUtcMillis : String → Option String} {messageId : Uuid} {createdAt : String}
  {input : CreateMessageInput}

/-- A message is built of valid input, under the drawn identifier. -/
theorem newMessageWithEmbeds_ok {message : Message}
    (built : newMessageWithEmbeds toUtcMillis messageId createdAt input = .ok message)
    : message.id = messageId ∧ input.Valid toUtcMillis := by
  obtain ⟨_, embeds, built⟩ := Eff.check_bind_eq_ok.mp built
  obtain ⟨_, components, built⟩ := Eff.check_bind_eq_ok.mp built
  obtain ⟨_, content, built⟩ := Eff.check_bind_eq_ok.mp built
  obtain ⟨_, username, built⟩ := Eff.check_bind_eq_ok.mp built
  obtain ⟨_, avatarUrl, built⟩ := Eff.check_bind_eq_ok.mp built
  cases built
  exact ⟨rfl, Eff.isOk_of_eq_ok embeds, Eff.isOk_of_eq_ok components, Eff.isOk_of_eq_ok content,
    Eff.isOk_of_eq_ok username, Eff.isOk_of_eq_ok avatarUrl⟩

theorem newMessageWithEmbeds_of_valid (messageId : Uuid) (createdAt : String)
    (valid : input.Valid toUtcMillis)
    : ∃ message, newMessageWithEmbeds toUtcMillis messageId createdAt input = .ok message := by
  obtain ⟨_, embeds⟩ := Eff.isOk_iff.mp valid.embeds
  obtain ⟨_, components⟩ := Eff.isOk_iff.mp valid.components
  obtain ⟨_, content⟩ := Eff.isOk_iff.mp valid.content
  obtain ⟨_, username⟩ := Eff.isOk_iff.mp valid.webhookUsername
  obtain ⟨_, avatarUrl⟩ := Eff.isOk_iff.mp valid.webhookAvatarUrl
  rw [newMessageWithEmbeds, embeds, components, content, username, avatarUrl]
  exact ⟨_, rfl⟩

/-- A message is stored exactly if its input is valid. -/
theorem exec_createWithEmbeds (store : MessageStore) (toUtcMillis : String → Option String)
    (messageId : Uuid) (createdAt : String) (input : CreateMessageInput)
    : (∃ error, (createWithEmbeds toUtcMillis messageId createdAt input).exec store
            = (.error error, store)
          ∧ ¬ input.Valid toUtcMillis)
      ∨ ∃ message, (createWithEmbeds toUtcMillis messageId createdAt input).exec store
            = (.ok message, store.withMessage message)
          ∧ message.id = messageId ∧ input.Valid toUtcMillis := by
  rw [createWithEmbeds, Eff.exec_check_bind]
  cases built : newMessageWithEmbeds toUtcMillis messageId createdAt input with
  | error error =>
      refine .inl ⟨error, rfl, fun valid => ?_⟩
      obtain ⟨message, other⟩ := newMessageWithEmbeds_of_valid messageId createdAt valid
      rw [built] at other
      cases other
  | ok message =>
      obtain ⟨id, valid⟩ := newMessageWithEmbeds_ok built
      exact .inr ⟨message, rfl, id, valid⟩

end MessageService

end OpenCord.Messages

import Mathlib.Data.List.Sort
import OpenCord.Library.Effects
import OpenCord.Library.Tables
import OpenCord.Library.Text
import OpenCord.Platform.Json
import OpenCord.Platform.Uuid

/-! Messages: the in-memory store, the service over it, and how responses and events show
messages.
-/

namespace OpenCord.Messages

open OpenCord.Library OpenCord.Platform

inductive MessageError where
  | invalidInput (message : String)
  | notFound
  | storeUnavailable
  deriving DecidableEq

structure Message where
  id : Uuid
  organizationId : Uuid
  spaceId : Option Uuid
  channelId : Uuid
  authorUserId : Uuid
  content : String
  contentFormat : String
  embeds : List PlainJson
  components : List PlainJson
  webhookUsername : Option String
  webhookAvatarUrl : Option String
  mentionUserIds : List Uuid
  mentionRoleIds : List Uuid
  mentionEveryone : Bool
  replyToMessageId : Option Uuid
  editedAt : Option String
  deletedAt : Option String
  createdAt : String

structure MessageStore where
  messagesById : Table Uuid Message

namespace MessageStore

def empty : MessageStore := ⟨∅⟩

/-- The store with a message in place of the one under its identifier. -/
def withMessage (store : MessageStore) (message : Message) : MessageStore :=
  ⟨store.messagesById.insert message.id message⟩

/-- A deleted message is kept, but not found. -/
def getMessage (store : MessageStore) (messageId : Uuid) : Option Message :=
  (store.messagesById.lookup messageId).filter fun message => message.deletedAt.isNone

/-- The messages of a channel that are not deleted, by identifier. -/
def listForChannel (store : MessageStore) (channelId : Uuid) : List Message :=
  (store.messagesById.values.filter fun message =>
    message.channelId = channelId ∧ message.deletedAt.isNone).insertionSort
      fun left right => left.id.bits ≤ right.id.bits

def createMessage (message : Message) : Eff MessageStore MessageError Unit :=
  Eff.writes fun store => store.withMessage message

/-- The whole record is written back, whatever is stored by now. -/
def updateMessage (message : Message) : Eff MessageStore MessageError Message := do
  let store ← get
  if message.id ∈ store.messagesById then
    set (store.withMessage message)
    return message
  else
    throw .notFound

def deleteMessage (message : Message) : Eff MessageStore MessageError Unit := do
  let store ← get
  if message.id ∈ store.messagesById then
    set (store.withMessage message)
  else
    throw .notFound

/-- A message of the organization that was created or deleted before a cutoff, where there is
one.
-/
def IsExpired (organizationId : Uuid) (createdBefore deletedBefore : Option String)
    (message : Message) : Prop :=
  message.organizationId = organizationId
    ∧ ((∃ cutoff ∈ createdBefore, message.createdAt < cutoff)
      ∨ ∃ cutoff ∈ deletedBefore, ∃ deletedAt ∈ message.deletedAt, deletedAt < cutoff)

instance (organizationId : Uuid) (createdBefore deletedBefore : Option String)
    : DecidablePred (IsExpired organizationId createdBefore deletedBefore) :=
  fun message => inferInstanceAs (Decidable (_ ∧ ((∃ cutoff ∈ createdBefore, _)
    ∨ ∃ cutoff ∈ deletedBefore, ∃ deletedAt ∈ message.deletedAt, _)))

def expiredIds (store : MessageStore) (organizationId : Uuid)
    (createdBefore deletedBefore : Option String) : List Uuid :=
  store.messagesById.keysWhere (fun message => message.id)
    (IsExpired organizationId createdBefore deletedBefore)

def purgeForRetention (organizationId : Uuid) (createdBefore deletedBefore : Option String)
    (dryRun : Bool) : Eff MessageStore MessageError Nat := do
  let store ← get
  let expiredIds := store.expiredIds organizationId createdBefore deletedBefore
  unless dryRun do
    set (⟨store.messagesById.eraseAll expiredIds⟩ : MessageStore)
  return expiredIds.length

/-- A purge answers how many messages have expired, and erases them unless it is dry. -/
theorem exec_purgeForRetention (organizationId : Uuid) (createdBefore deletedBefore : Option String)
    (dryRun : Bool) (store : MessageStore)
    : (purgeForRetention organizationId createdBefore deletedBefore dryRun).exec store
        = (.ok (store.expiredIds organizationId createdBefore deletedBefore).length,
          if dryRun then store
          else ⟨store.messagesById.eraseAll
            (store.expiredIds organizationId createdBefore deletedBefore)⟩) := by
  rw [purgeForRetention, Eff.exec_get_bind]
  cases dryRun <;> rfl

/-- Messages lie under their own identifiers. -/
def Keyed (store : MessageStore) : Prop :=
  Table.Keyed (fun message => message.id) store.messagesById

theorem Keyed.withMessage {store : MessageStore} (keyed : store.Keyed) (message : Message)
    : (store.withMessage message).Keyed :=
  Table.Keyed.insert keyed message

end MessageStore

/-- What an update asks for; `components` are left alone when absent. -/
structure MessageUpdate where
  content : String
  mentionUserIds : List Uuid
  mentionRoleIds : List Uuid
  mentionEveryone : Bool
  components : Option (List PlainJson)

namespace MessageService

def normalizeContent (content : String) (allowEmpty : Bool) : Except MessageError String :=
  let content := Text.trim content
  let minLen := if allowEmpty then 0 else 1
  if minLen ≤ content.utf8ByteSize ∧ content.utf8ByteSize ≤ 4000 then
    .ok content
  else
    .error (.invalidInput
      "message content must be between 1 and 4000 characters unless attachments are present")

def normalizeComponents (components : List PlainJson) : Except MessageError (List PlainJson) :=
  if 5 < components.length then
    .error (.invalidInput "message components must contain 5 or fewer action rows")
  else if components.any fun component => !component.value.isObject then
    .error (.invalidInput "message components must be objects")
  else
    .ok components

/-- The identifiers without repetitions, in the order of their first occurrences. -/
def normalizeMentionIds (ids : List Uuid) : List Uuid := ids.eraseDups

/-- A plain message of a user, before it is stored. -/
def newMessage (messageId : Uuid) (createdAt : String) (organizationId : Uuid)
    (spaceId : Option Uuid) (channelId authorUserId : Uuid) (content : String)
    (allowEmptyContent : Bool) : Except MessageError Message := do
  let content ← normalizeContent content allowEmptyContent
  return ⟨messageId, organizationId, spaceId, channelId, authorUserId, content, "plain", [], [],
    none, none, [], [], false, none, none, none, createdAt⟩

def create (messageId : Uuid) (createdAt : String) (organizationId : Uuid)
    (spaceId : Option Uuid) (channelId authorUserId : Uuid) (content : String)
    (allowEmptyContent : Bool) : Eff MessageStore MessageError Message := do
  let message ← newMessage messageId createdAt organizationId spaceId channelId authorUserId
    content allowEmptyContent
  MessageStore.createMessage message
  return message

/-- A message is stored exactly if its content is valid. -/
theorem exec_create (store : MessageStore) (messageId : Uuid) (createdAt : String)
    (organizationId : Uuid) (spaceId : Option Uuid) (channelId authorUserId : Uuid)
    (content : String) (allowEmptyContent : Bool)
    : (∃ error, (create messageId createdAt organizationId spaceId channelId authorUserId content
            allowEmptyContent).exec store = (.error error, store)
        ∧ ¬ (normalizeContent content allowEmptyContent).isOk)
      ∨ ∃ message, (create messageId createdAt organizationId spaceId channelId authorUserId
            content allowEmptyContent).exec store = (.ok message, store.withMessage message)
        ∧ message.id = messageId ∧ (normalizeContent content allowEmptyContent).isOk := by
  rw [create, newMessage]
  cases normalizeContent content allowEmptyContent with
  | error error => exact .inl ⟨error, rfl, nofun⟩
  | ok content =>
      let message : Message := ⟨messageId, organizationId, spaceId, channelId, authorUserId,
        content, "plain", [], [], none, none, [], [], false, none, none, none, createdAt⟩
      exact .inr ⟨message, rfl, rfl, rfl⟩

def get (store : MessageStore) (messageId : Uuid) : Except MessageError Message :=
  match store.getMessage messageId with
  | some message => .ok message
  | none => .error .notFound

def updatedComponents (message : Message) (update : MessageUpdate)
    : Except MessageError (List PlainJson) :=
  match update.components with
  | some components => normalizeComponents components
  | none => .ok message.components

/-- The record that an update writes, made from the one that was read. -/
def updated (message : Message) (update : MessageUpdate) : Except MessageError Message := do
  let content ← normalizeContent update.content false
  let components ← updatedComponents message update
  return { message with
    content := content
    mentionUserIds := normalizeMentionIds update.mentionUserIds
    mentionRoleIds := normalizeMentionIds update.mentionRoleIds
    mentionEveryone := update.mentionEveryone
    components := components
    editedAt := some "now" }

def updateWithMentions (message : Message) (update : MessageUpdate)
    : Eff MessageStore MessageError Message := do
  let message ← updated message update
  MessageStore.updateMessage message

def update (message : Message) (content : String) : Eff MessageStore MessageError Message :=
  updateWithMentions message ⟨content, [], [], false, none⟩

def delete (deletedAt : String) (message : Message) : Eff MessageStore MessageError Unit :=
  MessageStore.deleteMessage { message with deletedAt := some deletedAt }

/-- A deletion of a stored message succeeds and writes the record it holds as deleted. -/
theorem exec_delete {store : MessageStore} {message : Message} (now : String)
    (stored : message.id ∈ store.messagesById)
    : (delete now message).exec store
      = (.ok (), store.withMessage { message with deletedAt := some now }) := by
  simp only [delete, MessageStore.deleteMessage, Eff.exec_get_bind, if_pos stored]
  rfl

end MessageService

/-- A message without attachments as responses show it. -/
def messageResponse (message : Message) : List (String × Json) :=
  [("id", .string message.id.toString),
    ("organization_id", .string message.organizationId.toString),
    ("space_id", .ofOption (message.spaceId.map Uuid.toString)),
    ("channel_id", .string message.channelId.toString),
    ("author_user_id", .string message.authorUserId.toString),
    ("content", .string message.content), ("content_format", .string message.contentFormat),
    ("embeds", .array (message.embeds.map PlainJson.value)),
    ("components", .array (message.components.map PlainJson.value))]
    ++ Json.optionalField "webhook_username" (message.webhookUsername.map .string)
    ++ Json.optionalField "webhook_avatar_url" (message.webhookAvatarUrl.map .string)
    ++ [("reply_to_message_id", .ofOption (message.replyToMessageId.map Uuid.toString)),
      ("edited_at", .ofOption message.editedAt), ("deleted_at", .ofOption message.deletedAt),
      ("created_at", .string message.createdAt), ("attachments", .array [])]

/-- A message as the event of a component interaction shows it. Its components and embeds
are the ones of the response.
-/
def realtimeMessageValue (message : Message) : Json :=
  .object (messageResponse message
    ++ [("mention_everyone", .bool false), ("mentions", .array []),
      ("mention_roles", .array [])])

/-- Unmarked values make an unmarked array. -/
theorem tokens_plainItems (values : List PlainJson)
    : (values.map PlainJson.value).flatMap Json.tokens = [] := by
  rw [List.flatMap_eq_nil_iff]
  intro value listed
  obtain ⟨plain, _, rfl⟩ := List.mem_map.mp listed
  exact plain.plain

/-- A message has no marked strings. -/
@[simp] theorem tokens_realtimeMessageValue (message : Message)
    : (realtimeMessageValue message).tokens = [] := by
  simp only [realtimeMessageValue, messageResponse, Json.tokens_object, List.flatMap_append,
    List.flatMap_cons, List.flatMap_nil, Json.tokens_string, Json.tokens_ofOption,
    Json.tokens_bool, Json.tokens_array, tokens_plainItems, Json.tokens_optionalField_string,
    List.append_nil]

end OpenCord.Messages

import OpenCord.Conversations.Writes

/-! What the operations on messages make of them, and what the events show of the result. -/

namespace OpenCord.Messages

open OpenCord.Library OpenCord.Platform OpenCord.Attachments

/-- A message as it is made of an input. -/
structure Message.MadeOf (message : Message) (messageId : Uuid) (createdAt : String)
    (input : CreateMessageInput) : Prop where
  id : message.id = messageId
  createdAt : message.createdAt = createdAt
  content : message.content = Text.trim input.content
  channelId : message.channelId = input.channelId
  authorUserId : message.authorUserId = input.authorUserId
  webhookUsername : MessageService.normalizeWebhookUsername input.webhookUsername
    = .ok message.webhookUsername
  webhookAvatarUrl : MessageService.normalizeWebhookAvatarUrl input.webhookAvatarUrl
    = .ok message.webhookAvatarUrl
  replyToMessageId : message.replyToMessageId = input.replyToMessageId
  deletedAt : message.deletedAt = none

namespace MessageService

/-- Content is only trimmed. -/
theorem eq_trim_of_normalizeContent {content normalized : String} {allowEmpty : Bool}
    (passed : normalizeContent content allowEmpty = .ok normalized)
    : normalized = Text.trim content := by
  simp only [normalizeContent] at passed
  split_ifs at passed <;> cases passed <;> rfl

theorem newMessageWithEmbeds_made {toUtcMillis : String → Option String} {messageId : Uuid}
    {createdAt : String} {input : CreateMessageInput} {message : Message}
    (built : newMessageWithEmbeds toUtcMillis messageId createdAt input = .ok message)
    : message.MadeOf messageId createdAt input := by
  obtain ⟨_, _, built⟩ := Eff.check_bind_eq_ok.mp built
  obtain ⟨_, _, built⟩ := Eff.check_bind_eq_ok.mp built
  obtain ⟨_, content, built⟩ := Eff.check_bind_eq_ok.mp built
  obtain ⟨_, username, built⟩ := Eff.check_bind_eq_ok.mp built
  obtain ⟨_, avatarUrl, built⟩ := Eff.check_bind_eq_ok.mp built
  cases built
  exact ⟨rfl, rfl, eq_trim_of_normalizeContent content, rfl, rfl, username, avatarUrl, rfl, rfl⟩

/-- A creation stores the message that it made, or fails and stores nothing. -/
theorem createWithEmbeds_made (store : MessageStore) (toUtcMillis : String → Option String)
    (messageId : Uuid) (createdAt : String) (input : CreateMessageInput)
    : (∃ error, (createWithEmbeds toUtcMillis messageId createdAt input).exec store
          = (.error error, store))
      ∨ ∃ message, (createWithEmbeds toUtcMillis messageId createdAt input).exec store
            = (.ok message, store.withMessage message)
          ∧ message.MadeOf messageId createdAt input := by
  rw [createWithEmbeds, Eff.exec_check_bind]
  cases built : newMessageWithEmbeds toUtcMillis messageId createdAt input with
  | error error => exact .inl ⟨error, rfl⟩
  | ok message => exact .inr ⟨message, rfl, newMessageWithEmbeds_made built⟩

/-- A plain creation makes a message without anything else. -/
theorem create_made (store : MessageStore) (messageId : Uuid) (createdAt : String)
    (organizationId : Uuid) (spaceId : Option Uuid) (channelId authorUserId : Uuid)
    (content : String) (allowEmptyContent : Bool)
    : (∃ error, (create messageId createdAt organizationId spaceId channelId authorUserId content
          allowEmptyContent).exec store = (.error error, store))
      ∨ ∃ message, (create messageId createdAt organizationId spaceId channelId authorUserId
            content allowEmptyContent).exec store = (.ok message, store.withMessage message)
          ∧ message.MadeOf messageId createdAt ⟨organizationId, spaceId, channelId, authorUserId,
            content, allowEmptyContent, [], [], none, none, [], [], false, none⟩ := by
  rw [create_eq_createWithEmbeds fun _ => none]
  exact createWithEmbeds_made store _ messageId createdAt _

theorem get_eq_ok {store : MessageStore} {messageId : Uuid} {message : Message}
    : get store messageId = .ok message ↔ store.getMessage messageId = some message := by
  rw [get]
  split
  · next found => rw [found, Except.ok.injEq, Option.some.injEq]
  · next missing => rw [missing]; exact ⟨nofun, nofun⟩

/-- A changed message has the origin of the old one. -/
theorem updated_sameOrigin {message changed : Message} {update : MessageUpdate}
    (built : updated message update = .ok changed)
    : message.SameOrigin changed ∧ changed.deletedAt = message.deletedAt := by
  obtain ⟨_, _, built⟩ := Eff.check_bind_eq_ok.mp built
  obtain ⟨_, _, built⟩ := Eff.check_bind_eq_ok.mp built
  cases built
  exact ⟨⟨rfl, rfl, rfl, rfl, rfl, rfl, rfl, rfl, rfl⟩, rfl⟩

/-- A change of a stored message is stored, or fails and stores nothing. -/
theorem updateWithMentions_made {store : MessageStore} {message : Message}
    (stored : message.id ∈ store.messagesById) (update : MessageUpdate)
    : (∃ error, (updateWithMentions message update).exec store = (.error error, store))
      ∨ ∃ changed, (updateWithMentions message update).exec store
            = (.ok changed, store.withMessage changed)
          ∧ message.SameOrigin changed ∧ changed.deletedAt = message.deletedAt := by
  rw [updateWithMentions, Eff.exec_check_bind]
  cases built : updated message update with
  | error error => exact .inl ⟨error, rfl⟩
  | ok changed =>
      have made := updated_sameOrigin built
      refine .inr ⟨changed, ?_, made⟩
      dsimp only
      rw [MessageStore.updateMessage, Eff.exec_get_bind, made.1.id, if_pos stored]
      rfl

end MessageService

namespace MessageStore

theorem getMessage_eq_some {store : MessageStore} {messageId : Uuid} {message : Message}
    : store.getMessage messageId = some message
      ↔ store.messagesById.lookup messageId = some message ∧ message.deletedAt = none := by
  simp [getMessage, Option.filter_eq_some_iff]

/-- A found message is stored under its own identifier. -/
theorem Keyed.found {store : MessageStore} (keyed : store.Keyed) {messageId : Uuid}
    {message : Message} (found : store.getMessage messageId = some message)
    : message.id = messageId ∧ store.getMessage message.id = some message
      ∧ message.id ∈ store.messagesById := by
  have stored := (getMessage_eq_some.mp found).1
  obtain rfl := keyed messageId message stored
  exact ⟨rfl, found, Table.mem_of_lookup stored⟩

end MessageStore

-----------------------------------------------------------------------------------------
-- Payloads
-----------------------------------------------------------------------------------------

/-- Responses show a message whatever is attached to it. -/
theorem shownBy_messageResponse (message : Message) (attachments : List Attachment)
    (publicUrl : String)
    : message.ShownBy (Compat.messageResponse message attachments publicUrl) := by
  intro field listed
  have other : field ≠ "attachments" := by
    rintro rfl
    revert listed
    decide
  rw [Compat.messageResponse, messageResponse]
  simp only [Json.get_append, Json.get_cons, Json.get_nil, other.symm, if_false]

/-- Inserting a field that shows nothing of the record leaves what is shown. -/
theorem Message.ShownBy.insert {message : Message} {payload : Json}
    (shown : message.ShownBy payload)
    (isObject : payload.isObject = true) {name : String} (other : name ∉ messageFields)
    (field : Json)
    : message.ShownBy (payload.insert name field) := by
  intro key listed
  have different : name ≠ key := by
    rintro rfl
    exact other listed
  rw [Json.get_insert isObject, if_neg different]
  exact shown key listed

/-- So does inserting a field of the record as it is. -/
theorem Message.ShownBy.insert_same {message : Message} {payload : Json}
    (shown : message.ShownBy payload) (isObject : payload.isObject = true) {name : String}
    {field : Json} (same : (Json.object (messageResponse message)).get name = some field)
    : message.ShownBy (payload.insert name field) := by
  intro key listed
  rw [Json.get_insert isObject]
  split
  · next asked => rw [← asked, same]
  · exact shown key listed

theorem shownBy_realtimeMessageValue (message : Message) (attachments : List Attachment)
    (mentions : Compat.CompatResolvedMentions) (publicUrl : String)
    : message.ShownBy
        (Compat.realtimeMessageValue message attachments mentions publicUrl) := by
  have embeds : (Json.object (messageResponse message)).get "embeds"
      = some (.array (message.embeds.map PlainJson.value)) := by
    simp [messageResponse]
  have components : (Json.object (messageResponse message)).get "components"
      = some (.array (message.components.map PlainJson.value)) := by
    simp [messageResponse]
  have response := shownBy_messageResponse message attachments publicUrl
  have recorded := (response.insert_same rfl embeds).insert_same (by simp [Compat.messageResponse])
    components
  refine ((recorded.insert ?_ (by decide) _).insert ?_ (by decide) _).insert ?_ (by decide) _
  all_goals simp [Compat.messageResponse]

theorem shownBy_realtimeMessagePayload (message : Message) (attachments : List Attachment)
    (mentions : Compat.CompatResolvedMentions)
    (referenced : Option Compat.ReferencedCompatMessage) (publicUrl : String)
    : message.ShownBy
        (Compat.realtimeMessagePayload message attachments mentions referenced publicUrl) := by
  have shown := shownBy_realtimeMessageValue message attachments mentions publicUrl
  cases referenced with
  | none => exact shown
  | some referenced =>
      refine shown.insert ?_ (by decide) _
      simp [Compat.realtimeMessageValue, Compat.messageResponse]

end OpenCord.Messages

namespace OpenCord.Realtime

open OpenCord.Platform OpenCord.Messages

/-- An event of a channel with a value that shows a message of the channel. -/
theorem tells_channel {message : Message} {payload : Json} (shown : message.ShownBy payload)
    (stamp : EventStamp) (eventType : String) (organizationId spaceId : Uuid) {channelId : Uuid}
    (same : message.channelId = channelId)
    : (RealtimeEvent.channel stamp eventType organizationId spaceId channelId
        (.object [("message", payload)])).Tells eventType message :=
  ⟨rfl, by rw [same]; rfl, payload, rfl, shown⟩

theorem tellsDeletion_channel {message : Message} (stamp : EventStamp)
    (organizationId spaceId : Uuid) {channelId : Uuid} (same : message.channelId = channelId)
    (fields : List (String × Json))
    : (RealtimeEvent.channel stamp "message.deleted" organizationId spaceId channelId
        (.object (("id", .string message.id.toString) :: fields))).TellsDeletion message :=
  ⟨rfl, by rw [same]; rfl, rfl⟩

end OpenCord.Realtime

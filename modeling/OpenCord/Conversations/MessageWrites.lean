import OpenCord.Conversations.Payloads
import OpenCord.Server.FailedMessages

/-! The requests of users for messages are chains of writes. -/

namespace OpenCord.Attachments

open OpenCord.Library OpenCord.Platform

/-- A stored file that a message of its uploader in its channel may link. -/
def AttachmentStore.Linkable (store : AttachmentStore) (channelId uploaderUserId : Uuid)
    (attachmentId : Uuid) : Prop :=
  ∃ attachment, store.attachmentsById.lookup attachmentId = some attachment
    ∧ attachment.status = .uploaded ∧ attachment.channelId = channelId
    ∧ attachment.uploaderUserId = uploaderUserId

namespace AttachmentService

theorem linkable_of_checkForMessage {store : AttachmentStore} {owner : AttachmentOwner}
    {seen : List Uuid} {attachmentId : Uuid}
    (passed : checkForMessage store owner seen attachmentId = .ok ())
    : store.Linkable owner.channelId owner.uploaderUserId attachmentId := by
  rw [checkForMessage] at passed
  split at passed
  · cases passed
  · obtain ⟨attachment, found, passed⟩ := Eff.check_bind_eq_ok.mp passed
    split at passed
    · cases passed
    · next fits =>
        simp only [not_or, not_not] at fits
        obtain ⟨_, _, channel, uploader, _, uploaded⟩ := fits
        exact ⟨attachment, get_eq_ok.mp found, uploaded, channel, uploader⟩

/-- The attachments that pass may be linked, by induction over them. -/
theorem linkable_of_checkAllForMessage {store : AttachmentStore} {owner : AttachmentOwner}
    {seen attachmentIds : List Uuid}
    (passed : checkAllForMessage store owner seen attachmentIds = .ok ())
    : ∀ id ∈ attachmentIds, store.Linkable owner.channelId owner.uploaderUserId id := by
  induction attachmentIds generalizing seen with
  | nil => exact fun _ listed => absurd listed List.not_mem_nil
  | cons first rest ih =>
      obtain ⟨_, checked, passed⟩ := Eff.check_bind_eq_ok.mp passed
      exact List.forall_mem_cons.mpr ⟨linkable_of_checkForMessage checked, ih passed⟩

end AttachmentService

end OpenCord.Attachments

namespace OpenCord.Messages

open OpenCord.Server OpenCord.Conversations

variable {message : Message} {drawn : DrawnRecord} {input : CreateMessageInput}

theorem Message.MadeOf.composed (made : message.MadeOf drawn.id drawn.createdAt input)
    : Composed message drawn input.content :=
  ⟨made.id, made.createdAt, made.content⟩

/-- What is not given is not shown. -/
theorem Message.MadeOf.plain (made : message.MadeOf drawn.id drawn.createdAt input)
    (username : input.webhookUsername = none) (avatarUrl : input.webhookAvatarUrl = none)
    : Plain message := by
  have shownName := made.webhookUsername
  have shownAvatar := made.webhookAvatarUrl
  rw [username] at shownName
  rw [avatarUrl] at shownAvatar
  exact ⟨(Except.ok.inj shownName).symm, (Except.ok.inj shownAvatar).symm⟩

end OpenCord.Messages

namespace OpenCord.Conversations

open Relation
open OpenCord.Library OpenCord.Platform OpenCord.Auth OpenCord.Tenancy OpenCord.Bots
  OpenCord.Messages OpenCord.Attachments OpenCord.Realtime OpenCord.RateLimits
  OpenCord.Webhooks OpenCord.Server

variable {deployment : Deployment} {start : ConversationState} {request : ConversationRequest}

/-- A chain of writes leads to other stores of messages and files. -/
abbrev Reaches (deployment : Deployment) (start : ConversationState)
    (request : ConversationRequest) (messaging : MessagingState) : Prop :=
  Writes deployment start request start { start with messaging := messaging }

/-- The channel that a user enters. -/
theorem channel_of_enterChannel {state : AppState} {userId channelId : Uuid}
    {permission : Permission} {channel : Channel} {space : SpaceMembership}
    (entered : state.enterChannel userId channelId permission = .ok (channel, space))
    : state.channel channelId = .ok channel ∧ state.spaceForUser userId channel.spaceId = .ok space
      ∧ state.requireChannel userId space channel permission = .ok () := by
  obtain ⟨_, found, entered⟩ := Eff.check_bind_eq_ok.mp entered
  obtain ⟨_, member, entered⟩ := Eff.check_bind_eq_ok.mp entered
  obtain ⟨⟨⟩, required, entered⟩ := Eff.check_bind_eq_ok.mp entered
  cases entered
  exact ⟨found, member, required⟩

/-- A channel is found under its own identifier. -/
theorem keyed_channel (keyed : start.Keyed) {channelId : Uuid} {channel : Channel}
    (found : start.messaging.app.channel channelId = .ok channel)
    : channel.id = channelId :=
  keyed.app.channels channelId channel (channel_eq_ok.mp found)

-----------------------------------------------------------------------------------------
-- Posting
-----------------------------------------------------------------------------------------

variable {crypto : Crypto} {rateLimit : RateLimitDecision} {authorization : Option String}
  {channelId messageId : Uuid}

/-- An admitted user has a session, may write in the channel, and may link the attachments. -/
theorem admission_ok (keyed : start.Keyed) {content : CreateMessageRequest} {user : AuthUser}
    {channel : Channel}
    (admitted : MessageController.admission crypto start.messaging rateLimit authorization
      channelId content = .ok (user, channel))
    : channel.id = channelId ∧ SessionOf crypto start.messaging.app authorization user.id
      ∧ Enters start.messaging.app user.id channelId .sendMessages
      ∧ ∀ id ∈ content.attachmentIds, start.attachments.Linkable channel.id user.id id := by
  obtain ⟨token, bearer, admitted⟩ := Eff.check_bind_eq_ok.mp admitted
  obtain ⟨_, session, admitted⟩ := Eff.check_bind_eq_ok.mp admitted
  obtain ⟨⟨_, space⟩, entered, admitted⟩ := Eff.check_bind_eq_ok.mp admitted
  obtain ⟨_, _, admitted⟩ := Eff.check_bind_eq_ok.mp admitted
  obtain ⟨_, validated, admitted⟩ := Eff.check_bind_eq_ok.mp admitted
  obtain ⟨_, _, checked⟩ := Eff.check_bind_eq_ok.mp (Eff.mapError_eq_ok.mp validated)
  cases admitted
  have entered := Eff.mapError_eq_ok.mp entered
  refine ⟨keyed_channel keyed (channel_of_enterChannel entered).1, ?_, ⟨_, _, entered⟩, ?_⟩
  · exact ⟨token, _, bearer, Eff.mapError_eq_ok.mp session, rfl⟩
  · exact AttachmentService.linkable_of_checkAllForMessage checked

/-- A message is posted together with its event, and its files are linked to it then. -/
theorem Reaches.post {before : MessagingState} (reaches : Reaches deployment start request before)
    {message : Message} {event : RealtimeEvent}
    (new : ConversationState.NewMessage { start with messaging := before } message.id)
    (may : MayPost deployment start message request) (undeleted : message.deletedAt = none)
    (reply : ∀ referencedId ∈ message.replyToMessageId, ∃ referenced,
      before.app.messages.getMessage referencedId = some referenced
        ∧ referenced.channelId = message.channelId)
    (tells : event.Tells "message.created" message) {attachmentIds : List Uuid}
    (linkable : ∀ id ∈ attachmentIds,
      before.attachments.Linkable message.channelId message.authorUserId id)
    {attachments : AttachmentStore}
    (contents : attachments.contentById = before.attachments.contentById)
    (records : ∀ id, attachments.attachmentsById.lookup id
      = (before.attachments.attachmentsById.lookup id).map fun attachment =>
          if id ∈ attachmentIds then AttachmentStore.linkedTo message.id attachment
          else attachment)
    : Reaches deployment start request
        ⟨{ before.app with
            messages := before.app.messages.withMessage message
            published := before.app.published ++ [event] }, attachments⟩ := by
  have posted := reaches.tail (.posted message event new may undeleted reply tells)
  refine posted.tail (.linked message attachmentIds attachments ?_ linkable contents records)
  exact MessageStore.getMessage_eq_some.mpr ⟨AList.lookup_insert _, undeleted⟩

theorem createMessage_writes (keyed : start.Keyed) {drawn : DrawnRecord} {stamp : EventStamp}
    {content : CreateMessageRequest} (new : start.NewMessage drawn.id)
    : Reaches deployment start
        (.createMessage drawn stamp rateLimit authorization channelId content)
        ((MessageController.create deployment.crypto deployment.publicUrl drawn stamp rateLimit
          authorization channelId content).after start.messaging) := by
  rw [MessageController.create, Eff.after_get_bind]
  refine Eff.after_check_bind .refl ?_
  rintro ⟨user, channel⟩ admitted
  obtain ⟨rfl, session, enters, linkable⟩ := admission_ok keyed admitted
  rcases MessageService.create_made start.messages drawn.id drawn.createdAt channel.organizationId
    (some channel.spaceId) channel.id user.id content.content (content.attachmentIds ≠ []) with
    ⟨error, failed⟩ | ⟨message, created, made⟩
  · exact Eff.after_bind_stop (MessageHandler.exec_onMessages_of_error failed) .refl
  · refine Eff.after_bind_to (MessageHandler.exec_onMessages_of_ok created) ?_
    have stored := MessageController.stored_of_admission admitted
    obtain ⟨attachments, last, linked, contents, records⟩ :=
      AttachmentService.exec_linkToMessage message.id stored
    refine Eff.after_bind_to (MessageHandler.exec_onAttachments_of_ok linked) ?_
    have reply : message.replyToMessageId = none := made.replyToMessageId
    refine Reaches.post .refl (made.id ▸ new) ?_ made.deletedAt ?_
      (tells_channel (shownBy_messageResponse message attachments _) stamp "message.created" _ _
        made.channelId) ?_ contents records
    · rw [MayPost, made.authorUserId, made.channelId]
      exact ⟨made.composed, rfl, session, enters, made.plain rfl rfl⟩
    · intro id refers
      rw [reply] at refers
      cases refers
    · rw [made.authorUserId, made.channelId]
      exact linkable

-----------------------------------------------------------------------------------------
-- Changing and deleting
-----------------------------------------------------------------------------------------

/-- A message that a user may change is stored in its channel, which the user enters. -/
theorem changeable_ok (keyed : start.Keyed) {message : Message} {channel : Channel}
    (admitted : MessageController.changeable crypto start.messaging.app authorization messageId
      = .ok (message, channel))
    : message.id = messageId ∧ start.messages.getMessage message.id = some message
      ∧ message.channelId = channel.id ∧ ∃ userId,
        SessionOf crypto start.messaging.app authorization userId
          ∧ Enters start.messaging.app userId message.channelId
            (changePermission message userId) := by
  obtain ⟨token, bearer, admitted⟩ := Eff.check_bind_eq_ok.mp admitted
  obtain ⟨user, session, admitted⟩ := Eff.check_bind_eq_ok.mp admitted
  obtain ⟨_, found, admitted⟩ := Eff.check_bind_eq_ok.mp admitted
  obtain ⟨⟨_, space⟩, entered, admitted⟩ := Eff.check_bind_eq_ok.mp admitted
  cases admitted
  have entered := Eff.mapError_eq_ok.mp entered
  obtain ⟨own, stored, -⟩ :=
    keyed.messages.found (MessageService.get_eq_ok.mp (Eff.mapError_eq_ok.mp found))
  exact ⟨own, stored, (keyed_channel keyed (channel_of_enterChannel entered).1).symm, user.id,
    ⟨token, user, bearer, Eff.mapError_eq_ok.mp session, rfl⟩, _, _, entered⟩

/-- A change of a message is stored together with its event, or nothing is. -/
theorem Reaches.change {message : Message}
    (stored : start.messages.getMessage message.id = some message)
    (may : MayChange deployment start message request) (update : MessageUpdate)
    {α : Type} {next : Message → MessageHandler α}
    (publishes : ∀ changed middle, message.SameOrigin changed →
      ∃ event : RealtimeEvent, event.Tells "message.updated" changed
        ∧ (next changed).after middle
          = { middle with app.published := middle.app.published ++ [event] })
    : Reaches deployment start request
        ((MessageHandler.onApp (Handler.onMessages
          (MessageService.updateWithMentions message update)) >>= next).after
            start.messaging) := by
  obtain ⟨found, undeleted⟩ := MessageStore.getMessage_eq_some.mp stored
  rcases MessageService.updateWithMentions_made (Table.mem_of_lookup found) update with
    ⟨error, failed⟩ | ⟨changed, done, same, kept⟩
  · exact Eff.after_bind_stop (MessageHandler.exec_onMessages_of_error failed) .refl
  · refine Eff.after_bind_to (MessageHandler.exec_onMessages_of_ok done) ?_
    obtain ⟨event, tells, published⟩ := publishes changed _ same
    rw [published]
    exact .single (.changed message changed event stored may same (kept.trans undeleted) tells)

theorem updateMessage_writes (keyed : start.Keyed) {stamp : EventStamp} {content : String}
    : Reaches deployment start (.updateMessage stamp authorization messageId content)
        ((MessageController.update deployment.crypto deployment.publicUrl stamp authorization
          messageId content).after start.messaging) := by
  rw [MessageController.update, Eff.after_get_bind]
  refine Eff.after_check_bind .refl fun ⟨message, channel⟩ admitted => ?_
  obtain ⟨own, stored, same, right⟩ := changeable_ok keyed admitted
  have may : MayChange deployment start message
      (.updateMessage stamp authorization messageId content) :=
    ⟨own.symm, right⟩
  refine Reaches.change stored may _ fun changed middle origin => ⟨_, ?_, rfl⟩
  exact tells_channel (shownBy_messageResponse changed _ _) stamp "message.updated" _ _
    (origin.channelId.trans same)

/-- A deletion is stored together with its event. -/
theorem Reaches.delete {message : Message} {channel : Channel}
    (stored : start.messages.getMessage message.id = some message)
    (may : MayChange deployment start message request) (same : message.channelId = channel.id)
    (stamp : EventStamp) (deletedAt : String)
    : Reaches deployment start request
        ((deleteMessage stamp deletedAt message channel).after start.messaging) := by
  have present := Table.mem_of_lookup (MessageStore.getMessage_eq_some.mp stored).1
  have deleted := MessageService.exec_delete deletedAt present
  refine Eff.after_bind_to (MessageHandler.exec_onMessages_of_ok deleted) ?_
  exact .single (.deleted message deletedAt (messageDeleted stamp message.id channel) stored may
    (tellsDeletion_channel stamp _ _ same _))

theorem deleteMessage_writes (keyed : start.Keyed) {stamp : EventStamp} {deletedAt : String}
    : Reaches deployment start (.deleteMessage stamp deletedAt authorization messageId)
        ((MessageController.delete deployment.crypto stamp deletedAt authorization
          messageId).after start.messaging) := by
  rw [MessageController.delete, Eff.after_get_bind]
  refine Eff.after_check_bind .refl fun ⟨message, channel⟩ admitted => ?_
  obtain ⟨own, stored, same, right⟩ := changeable_ok keyed admitted
  have may : MayChange deployment start message
      (.deleteMessage stamp deletedAt authorization messageId) :=
    ⟨own.symm, right⟩
  exact Reaches.delete stored may same stamp deletedAt

end OpenCord.Conversations

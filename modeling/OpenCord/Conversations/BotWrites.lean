import OpenCord.Conversations.MessageWrites

/-! The requests of bots for messages, and the ones for files, are chains of writes. -/

namespace OpenCord.Conversations

open Relation
open OpenCord.Library OpenCord.Platform OpenCord.Auth OpenCord.Tenancy OpenCord.Bots
  OpenCord.Messages OpenCord.Attachments OpenCord.Realtime OpenCord.Compat OpenCord.RateLimits
  OpenCord.Webhooks OpenCord.Server

variable {deployment : Deployment} {start : ConversationState} {request : ConversationRequest}
  {rateLimit : RateLimitDecision} {authorization : Option String} {channelId messageId : Uuid}

-----------------------------------------------------------------------------------------
-- Files
-----------------------------------------------------------------------------------------

/-- A new attachment waits for its content, in the place and with the uploader of its input. -/
theorem newAttachment_made {attachmentId : Uuid} {createdAt : String} {input : NewAttachment}
    {attachment : Attachment}
    (built : AttachmentService.newAttachment attachmentId createdAt input = .ok attachment)
    : attachment.id = attachmentId ∧ attachment.channelId = input.channelId
      ∧ attachment.uploaderUserId = input.uploaderUserId ∧ attachment.status = .pending
      ∧ attachment.messageId = none := by
  obtain ⟨_, _, built⟩ := Eff.check_bind_eq_ok.mp built
  obtain ⟨_, _, built⟩ := Eff.check_bind_eq_ok.mp built
  obtain ⟨_, _, built⟩ := Eff.check_bind_eq_ok.mp built
  cases built
  exact ⟨rfl, rfl, rfl, rfl, rfl⟩

/-- What an upload stores are the bytes with their type, of the size and the type that the uploader
said before, for a file that no message has.
-/
theorem uploadedContent_ok {attachment : Attachment} {uploaderUserId : Uuid}
    {contentType : String} {bytes : List UInt8} {content : AttachmentContent}
    (passed : AttachmentService.uploadedContent attachment uploaderUserId contentType bytes
      = .ok content)
    : attachment.uploaderUserId = uploaderUserId ∧ attachment.status ≠ .linked
      ∧ content.Fits attachment ∧ content.bytes = bytes
      ∧ AttachmentService.normalizeContentType contentType = .ok content.contentType := by
  rw [AttachmentService.uploadedContent] at passed
  split at passed
  · cases passed
  · next own =>
      split at passed
      · cases passed
      · next unlinked =>
          split at passed
          · cases passed
          · next size =>
              obtain ⟨_, normal, passed⟩ := Eff.check_bind_eq_ok.mp passed
              split at passed
              · cases passed
              · next same =>
                  cases passed
                  exact ⟨not_not.mp own, unlinked, ⟨not_not.mp size, not_not.mp same⟩, rfl, normal⟩

/-- A chain of writes leads to other files. -/
abbrev ReachesFiles (deployment : Deployment) (start : ConversationState)
    (request : ConversationRequest) (attachments : AttachmentStore) : Prop :=
  Reaches deployment start request ⟨start.messaging.app, attachments⟩

/-- A new attachment under a new identifier. -/
theorem createPending_writes {store : AttachmentStore}
    (reaches : ReachesFiles deployment start request store) {drawn : DrawnRecord}
    (new : drawn.id ∉ start.attachments.attachmentsById) (input : NewAttachment)
    (may : MayUpload deployment start input.uploaderUserId input.channelId request)
    : ReachesFiles deployment start request
        ((AttachmentService.createPending drawn.id drawn.createdAt input).after store) := by
  refine Eff.after_check_bind reaches fun attachment built => ?_
  obtain ⟨own, channel, uploader, pending, unlinked⟩ := newAttachment_made built
  refine reaches.tail (.presigned attachment (own ▸ new) ?_ pending unlinked)
  rw [channel, uploader]
  exact may

/-- The content of a stored attachment. -/
theorem upload_writes {store : AttachmentStore}
    (reaches : ReachesFiles deployment start request store) {attachment : Attachment}
    (stored : store.attachmentsById.lookup attachment.id = some attachment)
    {uploaderUserId : Uuid} {bytes : List UInt8}
    (may : MayUpload deployment start uploaderUserId attachment.channelId request)
    {contentType : String}
    (carried : ∀ content : AttachmentContent, content.bytes = bytes →
      AttachmentService.normalizeContentType contentType = .ok content.contentType →
        Carries deployment content request)
    : ReachesFiles deployment start request
        ((AttachmentService.upload attachment uploaderUserId contentType bytes).after
          store) := by
  refine Eff.after_check_bind reaches fun content passed => ?_
  obtain ⟨rfl, unlinked, fits, same, type⟩ := uploadedContent_ok passed
  rw [AttachmentStore.uploadContent, Eff.after_get_bind, if_pos (Table.mem_of_lookup stored)]
  exact reaches.tail (.uploaded attachment content stored unlinked fits may
    (carried content same type))

/-- What the upload of files leaves: a chain of writes led there, files that may be linked may
still be linked, and only files that were there are linked to messages.
-/
structure Uploaded (deployment : Deployment) (start : ConversationState)
    (request : ConversationRequest) (channelId uploaderUserId : Uuid)
    (before after : AttachmentStore) : Prop where
  reaches : ReachesFiles deployment start request after
  linkable : ∀ id, before.Linkable channelId uploaderUserId id →
    after.Linkable channelId uploaderUserId id
  unlinked : ∀ id attachment, after.attachmentsById.lookup id = some attachment →
    attachment.messageId ≠ none → before.attachmentsById.lookup id = some attachment

theorem Uploaded.refl {uploaderUserId : Uuid} {store : AttachmentStore}
    (reaches : ReachesFiles deployment start request store)
    : Uploaded deployment start request channelId uploaderUserId store store :=
  ⟨reaches, fun _ linkable => linkable, fun _ _ stored _ => stored⟩

theorem Uploaded.trans {uploaderUserId : Uuid} {before middle after : AttachmentStore}
    (first : Uploaded deployment start request channelId uploaderUserId before middle)
    (second : Uploaded deployment start request channelId uploaderUserId middle after)
    : Uploaded deployment start request channelId uploaderUserId before after :=
  ⟨second.reaches, fun id linkable => second.linkable id (first.linkable id linkable),
    fun id attachment stored linked =>
      first.unlinked id attachment (second.unlinked id attachment stored linked) linked⟩

/-- The files with a new one and its content. -/
def withUpload (store : AttachmentStore) (attachment : Attachment) (content : AttachmentContent)
    : AttachmentStore :=
  ⟨(store.attachmentsById.insert attachment.id attachment).insert attachment.id
      { attachment with status := .uploaded },
    store.contentById.insert attachment.id content⟩

/-- One file is stored and uploaded, or nothing is. -/
theorem exec_uploadFile_made (channel : Channel) (bot : AuthenticatedBot) (drawn : DrawnRecord)
    (file : CompatMultipartFile) (store : AttachmentStore)
    : (∃ error, (CompatController.uploadFile channel bot drawn file).exec store
          = (.error error, store))
      ∨ ∃ attachment content, (attachment.id = drawn.id ∧ attachment.channelId = channel.id
            ∧ attachment.uploaderUserId = bot.botUserId ∧ attachment.status = .pending
            ∧ attachment.messageId = none)
          ∧ content.Fits attachment ∧ content.bytes = file.bytes
          ∧ AttachmentService.normalizeContentType file.contentType = .ok content.contentType
          ∧ (CompatController.uploadFile channel bot drawn file).exec store
            = (.ok attachment.id, withUpload store attachment content) := by
  by_cases acceptable : file.Acceptable
  · obtain ⟨last, ran, -⟩ := CompatController.exec_uploadFile_of_acceptable acceptable channel
      bot drawn store
    have done := ran
    rw [CompatController.uploadFile] at done
    split at done
    · cases done
    · obtain ⟨attachment, middle, created, done⟩ := Eff.exec_bind_eq_ok.mp done
      obtain ⟨_, built, created⟩ := Eff.exec_check_bind_eq_ok.mp created
      cases created
      have made := newAttachment_made built
      obtain ⟨_, ended, written, done⟩ := Eff.exec_bind_eq_ok.mp done
      obtain ⟨content, passed, written⟩ := Eff.exec_check_bind_eq_ok.mp written
      have stored : attachment.id ∈ store.attachmentsById.insert attachment.id attachment :=
        (AList.mem_insert _).mpr (.inl rfl)
      rw [AttachmentStore.uploadContent, Eff.exec_get_bind, if_pos stored] at written
      cases written
      obtain rfl : last = withUpload store attachment content :=
        (congrArg Prod.snd done).symm
      obtain ⟨-, -, fits, bytes, type⟩ := uploadedContent_ok passed
      exact .inr ⟨attachment, content, made, fits, bytes, type, made.1 ▸ ran⟩
  · exact .inl (CompatController.exec_uploadFile_of_not_acceptable acceptable channel bot drawn
      store)

/-- An uploaded file may be linked, and leaves the others. -/
theorem withUpload_writes {store : AttachmentStore} {uploaderUserId : Uuid}
    (reaches : ReachesFiles deployment start request store) {attachment : Attachment}
    (new : attachment.id ∉ start.attachments.attachmentsById)
    (may : MayUpload deployment start uploaderUserId channelId request)
    (channel : attachment.channelId = channelId)
    (uploader : attachment.uploaderUserId = uploaderUserId)
    (pending : attachment.status = .pending) (unlinked : attachment.messageId = none)
    {content : AttachmentContent} (fits : content.Fits attachment)
    (carried : Carries deployment content request)
    : Uploaded deployment start request channelId uploaderUserId store
          (withUpload store attachment content)
        ∧ (withUpload store attachment content).Linkable channelId uploaderUserId
          attachment.id := by
  subst channel uploader
  have ready : (withUpload store attachment content).Linkable attachment.channelId
      attachment.uploaderUserId attachment.id :=
    ⟨_, AList.lookup_insert _, rfl, rfl, rfl⟩
  have waiting : attachment.status ≠ .linked := by
    rw [pending]
    decide
  refine ⟨⟨?_, fun id linkable => ?_, fun id other found linked => ?_⟩, ready⟩
  · refine (reaches.tail (.presigned attachment new may pending unlinked)).tail ?_
    exact .uploaded attachment content (AList.lookup_insert _) waiting fits may carried
  · obtain rfl | differs := eq_or_ne id attachment.id
    · exact ready
    · obtain ⟨other, found, rest⟩ := linkable
      refine ⟨other, ?_, rest⟩
      rw [withUpload, AList.lookup_insert_ne differs, AList.lookup_insert_ne differs]
      exact found
  · obtain rfl | differs := eq_or_ne id attachment.id
    · rw [withUpload, AList.lookup_insert] at found
      obtain rfl := Option.some.inj found
      exact absurd unlinked linked
    · rw [withUpload, AList.lookup_insert_ne differs, AList.lookup_insert_ne differs] at found
      exact found

/-- The files of a request are uploaded, up to the first that is not accepted; by induction over
them.
-/
theorem uploads_writes {channel : Channel} {bot : AuthenticatedBot} {draw : Nat → DrawnRecord}
    (may : MayUpload deployment start bot.botUserId channel.id request)
    {files : List CompatMultipartFile}
    (carried : ∀ file ∈ files, ∀ content : AttachmentContent, file.bytes = content.bytes →
      AttachmentService.normalizeContentType file.contentType = .ok content.contentType →
        Carries deployment content request) {index : Nat}
    (new : ∀ number < index + files.length,
      (draw number).id ∉ start.attachments.attachmentsById)
    {store last : AttachmentStore} (reaches : ReachesFiles deployment start request store)
    {answer : Except AttachmentError (List Uuid)}
    (ran : (CompatController.uploadCompatMultipartAttachments channel bot draw index files).exec
      store = (answer, last))
    : Uploaded deployment start request channel.id bot.botUserId store last
      ∧ ∀ ids, answer = .ok ids → ∀ id ∈ ids, last.Linkable channel.id bot.botUserId id := by
  induction files generalizing index store answer last with
  | nil =>
      cases ran
      refine ⟨.refl reaches, ?_⟩
      rintro ids same id listed
      cases same
      cases listed
  | cons file files ih =>
      rw [CompatController.uploadCompatMultipartAttachments, Eff.exec_bind] at ran
      rcases exec_uploadFile_made channel bot (draw index) file store with
        ⟨error, failed⟩ | ⟨attachment, content, ⟨own, channelSame, uploader, pending, unlinked⟩,
          fits, bytes, type, done⟩
      · rw [failed] at ran
        cases ran
        refine ⟨.refl reaches, fun ids same => ?_⟩
        cases same
      · obtain ⟨first, later⟩ := List.forall_mem_cons.mp carried
        have fresh : attachment.id ∉ start.attachments.attachmentsById := by
          rw [own]
          exact new index (by simp)
        obtain ⟨uploaded, ready⟩ := withUpload_writes reaches fresh may channelSame uploader
          pending unlinked fits (first content bytes.symm type)
        rw [done] at ran
        dsimp only at ran
        rw [Eff.exec_bind] at ran
        rcases ended : (CompatController.uploadCompatMultipartAttachments channel bot draw
          (index + 1) files).exec (withUpload store attachment content) with ⟨error | ids, middle⟩
        · rw [ended] at ran
          cases ran
          have rest := ih later (fun number bound => new number (by simp; omega))
            uploaded.reaches ended
          refine ⟨uploaded.trans rest.1, fun ids same => ?_⟩
          cases same
        · rw [ended] at ran
          cases ran
          obtain ⟨rest, linkable⟩ := ih later (fun number bound => new number (by simp; omega))
            uploaded.reaches ended
          refine ⟨uploaded.trans rest, ?_⟩
          rintro all same
          cases same
          exact List.forall_mem_cons.mpr ⟨rest.linkable _ ready, linkable ids rfl⟩

-----------------------------------------------------------------------------------------
-- Posting
-----------------------------------------------------------------------------------------

variable {crypto : Crypto} {readers : BodyReaders}

/-- A parsed request has no more files than a message may include. -/
theorem length_files_of_parse {body : CompatRequest} {payload : CompatCreateMessagePayload}
    (parsed : CompatController.parseCreateMessagePayload readers body = .ok payload)
    : payload.files.length ≤ maxAttachmentsPerMessage := by
  rw [CompatController.parseCreateMessagePayload] at parsed
  split at parsed
  · rw [CompatController.parseMultipartMessagePayload] at parsed
    split at parsed
    · cases parsed
    · obtain ⟨parts, _, parsed⟩ := Eff.check_bind_eq_ok.mp parsed
      split at parsed
      · cases parsed
      · next within =>
          split at parsed
          · cases parsed
          · cases parsed
            exact not_lt.mp within
  · split at parsed
    · rw [CompatController.parseJsonMessagePayload] at parsed
      split at parsed
      · cases parsed
      · split at parsed
        · cases parsed
        · cases parsed
          exact Nat.zero_le _
    · cases parsed

/-- A bot enters the channels that it sees and has a permission in. -/
theorem enters_of_visible {state : AppState} {bot : AuthenticatedBot} {channel : Channel}
    {space : SpaceMembership} {permission : Permission}
    (visible : CompatController.visibleChannelForBot state bot channelId = .ok (channel, space))
    (required : state.requireChannel bot.botUserId space channel permission = .ok ())
    : state.channel channelId = .ok channel ∧ Enters state bot.botUserId channelId permission := by
  obtain ⟨_, found, visible⟩ := Eff.check_bind_eq_ok.mp visible
  split at visible
  · cases visible
  · obtain ⟨_, member, visible⟩ := Eff.check_bind_eq_ok.mp visible
    cases visible
    refine ⟨found, channel, space, Eff.check_bind_eq_ok.mpr ⟨channel, found, ?_⟩⟩
    exact Eff.check_bind_eq_ok.mpr ⟨space, member, Eff.check_bind_eq_ok.mpr ⟨(), required, rfl⟩⟩

/-- An admitted bot has a token, and may write in the channel. -/
theorem bot_admission_ok (keyed : start.Keyed) {body : CompatRequest}
    {admitted : CompatController.AdmittedMessage}
    (passed : CompatController.admission crypto readers start.messaging.app rateLimit channelId
      body = .ok admitted)
    : admitted.channel.id = channelId
      ∧ BotOf crypto start.messaging.app body.authorization admitted.bot.botUserId
      ∧ Enters start.messaging.app admitted.bot.botUserId channelId .sendMessages
      ∧ CompatController.parseCreateMessagePayload readers body = .ok admitted.payload := by
  obtain ⟨token, bearer, passed⟩ := Eff.check_bind_eq_ok.mp passed
  obtain ⟨bot, known, passed⟩ := Eff.check_bind_eq_ok.mp passed
  obtain ⟨_, _, passed⟩ := Eff.check_bind_eq_ok.mp passed
  obtain ⟨⟨channel, space⟩, visible, passed⟩ := Eff.check_bind_eq_ok.mp passed
  obtain ⟨⟨⟩, required, passed⟩ := Eff.check_bind_eq_ok.mp passed
  obtain ⟨payload, parsed, passed⟩ := Eff.check_bind_eq_ok.mp passed
  cases passed
  obtain ⟨found, enters⟩ :=
    enters_of_visible (Eff.mapError_eq_ok.mp visible) (Eff.mapError_eq_ok.mp required)
  exact ⟨keyed_channel keyed found, ⟨token, bot, bearer, Eff.mapError_eq_ok.mp known, rfl⟩, enters,
    parsed⟩

/-- A message that a request refers to is stored in the channel. -/
theorem validateMessageReference_ok {store : MessageStore} (keyed : store.Keyed)
    {reference : Option CompatMessageReferenceRequest} {referenced : Option Message}
    (passed : CompatController.validateMessageReference store channelId reference
      = .ok referenced)
    : ∀ referencedId ∈ referenced.map fun message => message.id,
        ∃ message, store.getMessage referencedId = some message
          ∧ message.channelId = channelId := by
  cases reference with
  | none =>
      cases passed
      nofun
  | some reference =>
      rw [CompatController.validateMessageReference] at passed
      split at passed
      · cases passed
      · obtain ⟨message, found, passed⟩ := Eff.check_bind_eq_ok.mp passed
        cases passed
        obtain ⟨_, got, found⟩ := Eff.check_bind_eq_ok.mp found
        split at found
        · next same =>
            cases found
            rintro _ ⟨⟩
            exact ⟨message, (keyed.found (MessageService.get_eq_ok.mp got)).2.1, same⟩
        · cases found

/-- With its files uploaded, a message is posted or nothing more is written. -/
theorem postMessage_writes (keyed : start.Keyed) {drawn : CompatController.DrawnMessage}
    {admitted : CompatController.AdmittedMessage} {attachmentIds : List Uuid}
    {store : AttachmentStore}
    (uploaded : Uploaded deployment start request admitted.channel.id admitted.bot.botUserId
      start.attachments store)
    (linkable : ∀ id ∈ attachmentIds,
      store.Linkable admitted.channel.id admitted.bot.botUserId id)
    (new : start.NewMessage drawn.message.id)
    (may : ∀ message, message.authorUserId = admitted.bot.botUserId →
      message.channelId = admitted.channel.id →
        Composed message drawn.message (admitted.payload.request.content.getD "") →
          Plain message → MayPost deployment start message request)
    : Reaches deployment start request
        ((CompatController.postMessage deployment.toUtcMillis deployment.publicUrl drawn admitted
          attachmentIds).after ⟨start.messaging.app, store⟩) := by
  rw [CompatController.postMessage, Eff.after_get_bind]
  refine Eff.after_check_bind uploaded.reaches fun referenced found => ?_
  have replies := validateMessageReference_ok keyed.messages (Eff.mapError_eq_ok.mp found)
  rcases MessageService.createWithEmbeds_made start.messages deployment.toUtcMillis
    drawn.message.id drawn.message.createdAt _ with ⟨error, failed⟩ | ⟨message, created, made⟩
  · exact Eff.after_bind_stop (MessageHandler.exec_onMessages_of_error failed) uploaded.reaches
  · refine Eff.after_bind_to (MessageHandler.exec_onMessages_of_ok created) ?_
    have stored : ∀ id ∈ attachmentIds, id ∈ store.attachmentsById := by
      intro id listed
      obtain ⟨attachment, found, -⟩ := linkable id listed
      exact Table.mem_of_lookup found
    obtain ⟨attachments, last, linked, contents, records⟩ :=
      AttachmentService.exec_linkToMessage message.id stored
    refine Eff.after_bind_to (MessageHandler.exec_onAttachments_of_ok linked) ?_
    have author : message.authorUserId = admitted.bot.botUserId := made.authorUserId
    have place : message.channelId = admitted.channel.id := made.channelId
    have allowed := may message author place made.composed (made.plain rfl rfl)
    refine Reaches.post uploaded.reaches ?_ allowed made.deletedAt ?_
      (tells_channel (shownBy_realtimeMessagePayload message attachments _ _ _) drawn.stamp
        "message.created" _ _ place) ?_ contents records
    · rw [made.id]
      refine ⟨new.1, new.2.1, fun attachment listed linkedTo => ?_⟩
      obtain ⟨id, found⟩ := Table.mem_values.mp listed
      have earlier := uploaded.unlinked id attachment found (linkedTo ▸ Option.some_ne_none _)
      exact new.2.2 attachment (Table.mem_values.mpr ⟨id, earlier⟩) linkedTo
    · rw [made.replyToMessageId, place]
      exact replies
    · rw [author, place]
      exact linkable

theorem createBotMessage_writes (keyed : start.Keyed) {drawn : CompatController.DrawnMessage}
    {body : CompatRequest} (new : start.NewMessage drawn.message.id)
    (files : ∀ index < maxAttachmentsPerMessage,
      (drawn.attachment index).id ∉ start.attachments.attachmentsById)
    : Reaches deployment start (.createBotMessage drawn rateLimit channelId body)
        ((CompatController.createMessage deployment.crypto deployment.readers
          deployment.toUtcMillis deployment.publicUrl drawn rateLimit channelId body).after
            start.messaging) := by
  rw [CompatController.createMessage, Eff.after_get_bind]
  refine Eff.after_check_bind .refl fun admitted passed => ?_
  obtain ⟨rfl, bot, enters, parsed⟩ := bot_admission_ok keyed passed
  have may : MayUpload deployment start admitted.bot.botUserId admitted.channel.id
      (.createBotMessage drawn rateLimit admitted.channel.id body) :=
    ⟨bot, enters⟩
  have carried : ∀ file ∈ admitted.payload.files, ∀ content : AttachmentContent,
      file.bytes = content.bytes →
        AttachmentService.normalizeContentType file.contentType = .ok content.contentType →
          Carries deployment content
            (.createBotMessage drawn rateLimit admitted.channel.id body) :=
    fun file listed content bytes type =>
      ⟨admitted.payload, parsed, file, listed, bytes, type⟩
  have bound := length_files_of_parse parsed
  have fresh : ∀ number < 0 + admitted.payload.files.length,
      (drawn.attachment number).id ∉ start.attachments.attachmentsById :=
    fun number within => files number (by omega)
  rcases ended : (CompatController.uploadCompatMultipartAttachments admitted.channel admitted.bot
    drawn.attachment 0 admitted.payload.files).exec start.attachments with ⟨error | ids, store⟩
  · have uploaded := (uploads_writes may carried fresh .refl ended).1
    exact Eff.after_bind_stop (MessageHandler.exec_onAttachments_of_error ended) uploaded.reaches
  · obtain ⟨uploaded, linkable⟩ := uploads_writes may carried fresh .refl ended
    refine Eff.after_bind_to (MessageHandler.exec_onAttachments_of_ok ended) ?_
    rw [Eff.after_map]
    refine postMessage_writes keyed uploaded (linkable ids rfl) new ?_
    intro message author place composed plain
    rw [MayPost, author, place]
    exact ⟨⟨admitted.payload, parsed, composed⟩, rfl, bot, enters, plain⟩

-----------------------------------------------------------------------------------------
-- Changing and deleting
-----------------------------------------------------------------------------------------

/-- A message that a bot may change is stored in its channel, which the bot enters. -/
theorem bot_changeable_ok (keyed : start.Keyed) {change : CompatController.ChangeableMessage}
    (admitted : CompatController.changeable crypto start.messaging.app rateLimit authorization
      channelId messageId = .ok change)
    : change.message.id = messageId
      ∧ start.messages.getMessage change.message.id = some change.message
      ∧ change.message.channelId = change.channel.id ∧ ∃ userId,
        BotOf crypto start.messaging.app authorization userId
          ∧ Enters start.messaging.app userId change.message.channelId
            (changePermission change.message userId) := by
  obtain ⟨⟨bot, channel, space⟩, visible, admitted⟩ := Eff.check_bind_eq_ok.mp admitted
  obtain ⟨message, found, admitted⟩ := Eff.check_bind_eq_ok.mp admitted
  obtain ⟨⟨⟩, required, admitted⟩ := Eff.check_bind_eq_ok.mp admitted
  cases admitted
  obtain ⟨token, bearer, visible⟩ := Eff.check_bind_eq_ok.mp visible
  obtain ⟨_, known, visible⟩ := Eff.check_bind_eq_ok.mp visible
  obtain ⟨_, _, visible⟩ := Eff.check_bind_eq_ok.mp visible
  obtain ⟨⟨_, _⟩, sees, visible⟩ := Eff.check_bind_eq_ok.mp visible
  cases visible
  obtain ⟨_, got, found⟩ := Eff.check_bind_eq_ok.mp (Eff.mapError_eq_ok.mp found)
  split at found
  · next same =>
      cases found
      obtain ⟨own, stored, -⟩ := keyed.messages.found (MessageService.get_eq_ok.mp got)
      obtain ⟨channelFound, enters⟩ :=
        enters_of_visible (Eff.mapError_eq_ok.mp sees) (Eff.mapError_eq_ok.mp required)
      obtain rfl := keyed_channel keyed channelFound
      exact ⟨own, stored, same, bot.botUserId,
        ⟨token, bot, bearer, Eff.mapError_eq_ok.mp known, rfl⟩, same ▸ enters⟩
  · cases found

theorem updateBotMessage_writes (keyed : start.Keyed) {stamp : EventStamp}
    {patch : PatchCompatMessageRequest}
    : Reaches deployment start
        (.updateBotMessage stamp rateLimit authorization channelId messageId patch)
        ((CompatController.updateMessage deployment.crypto deployment.publicUrl stamp rateLimit
          authorization channelId messageId patch).after start.messaging) := by
  rw [CompatController.updateMessage, Eff.after_get_bind]
  refine Eff.after_check_bind .refl fun change admitted => ?_
  obtain ⟨own, stored, same, right⟩ := bot_changeable_ok keyed admitted
  have may : MayChange deployment start change.message
      (.updateBotMessage stamp rateLimit authorization channelId messageId patch) :=
    ⟨own.symm, right⟩
  refine Reaches.change stored may _ fun changed middle origin => ⟨_, ?_, rfl⟩
  exact tells_channel (shownBy_realtimeMessagePayload changed _ _ _ _) stamp "message.updated" _ _
    (origin.channelId.trans same)

theorem deleteBotMessage_writes (keyed : start.Keyed) {stamp : EventStamp} {deletedAt : String}
    : Reaches deployment start
        (.deleteBotMessage stamp deletedAt rateLimit authorization channelId messageId)
        ((CompatController.deleteMessage deployment.crypto stamp deletedAt rateLimit authorization
          channelId messageId).after start.messaging) := by
  rw [CompatController.deleteMessage, Eff.after_get_bind]
  refine Eff.after_check_bind .refl fun change admitted => ?_
  obtain ⟨own, stored, same, right⟩ := bot_changeable_ok keyed admitted
  have may : MayChange deployment start change.message
      (.deleteBotMessage stamp deletedAt rateLimit authorization channelId messageId) :=
    ⟨own.symm, right⟩
  rw [Eff.after_map]
  exact Reaches.delete stored may same stamp deletedAt

-----------------------------------------------------------------------------------------
-- Presigning and uploading
-----------------------------------------------------------------------------------------

theorem presign_writes (keyed : start.Keyed) {drawn : DrawnRecord}
    {presigned : PresignAttachmentRequest}
    (new : drawn.id ∉ start.attachments.attachmentsById)
    : Reaches deployment start (.presignAttachment drawn rateLimit authorization presigned)
        ((AttachmentController.presign deployment.crypto deployment.publicUrl drawn rateLimit
          authorization presigned).after start.messaging) := by
  rw [AttachmentController.presign, Eff.after_get_bind]
  refine Eff.after_check_bind .refl fun ⟨user, channel⟩ admitted => ?_
  obtain ⟨token, bearer, admitted⟩ := Eff.check_bind_eq_ok.mp admitted
  obtain ⟨_, session, admitted⟩ := Eff.check_bind_eq_ok.mp admitted
  obtain ⟨⟨_, space⟩, entered, admitted⟩ := Eff.check_bind_eq_ok.mp admitted
  obtain ⟨_, _, admitted⟩ := Eff.check_bind_eq_ok.mp admitted
  cases admitted
  have entered := Eff.mapError_eq_ok.mp entered
  have own := keyed_channel keyed (channel_of_enterChannel entered).1
  rw [Eff.after_map]
  refine createPending_writes .refl new _ ⟨⟨token, user, bearer, ?_, rfl⟩, channel, space, ?_⟩
  · exact Eff.mapError_eq_ok.mp session
  · exact own ▸ entered

theorem uploadContent_writes (keyed : start.Keyed) {contentType : Option String}
    {attachmentId : Uuid} {body : List UInt8}
    : Reaches deployment start
        (.uploadAttachment rateLimit authorization contentType attachmentId body)
        ((AttachmentController.uploadContent deployment.crypto deployment.publicUrl rateLimit
          authorization contentType attachmentId body).after start.messaging) := by
  rw [AttachmentController.uploadContent, Eff.after_get_bind]
  refine Eff.after_check_bind .refl fun ⟨user, attachment⟩ admitted => ?_
  obtain ⟨token, bearer, admitted⟩ := Eff.check_bind_eq_ok.mp admitted
  obtain ⟨_, session, admitted⟩ := Eff.check_bind_eq_ok.mp admitted
  obtain ⟨_, found, admitted⟩ := Eff.check_bind_eq_ok.mp admitted
  obtain ⟨⟨channel, space⟩, entered, admitted⟩ := Eff.check_bind_eq_ok.mp admitted
  obtain ⟨_, _, admitted⟩ := Eff.check_bind_eq_ok.mp admitted
  cases admitted
  have stored := AttachmentService.get_eq_ok.mp (Eff.mapError_eq_ok.mp found)
  obtain rfl := keyed.attachments attachmentId attachment stored
  have may : MayUpload deployment start user.id attachment.channelId
      (.uploadAttachment rateLimit authorization contentType attachment.id body) :=
    ⟨⟨token, user, bearer, Eff.mapError_eq_ok.mp session, rfl⟩, channel, space,
      Eff.mapError_eq_ok.mp entered⟩
  rw [Eff.after_map]
  exact upload_writes .refl stored may fun content bytes type => ⟨bytes.symm, type⟩

end OpenCord.Conversations

import OpenCord.Library.Failures
import OpenCord.Server.MessageEndpoints
import OpenCord.Server.Requests

/-! What a failed creation of a message leaves behind: nothing of a message of a user, and of a
message of a bot the files that were uploaded before the failure.
-/

namespace OpenCord.Server

open OpenCord.Library OpenCord.Platform OpenCord.Auth OpenCord.Tenancy OpenCord.Bots
  OpenCord.Messages OpenCord.Attachments OpenCord.Realtime OpenCord.Compat OpenCord.RateLimits

/-- What must not change when a message is not created. -/
def MessagingState.stored (state : MessagingState)
    : MessageStore × AttachmentStore × List RealtimeEvent :=
  (state.app.messages, state.attachments, state.app.published)

namespace MessageHandler

variable {α : Type} {state : MessagingState}

theorem exec_onMessages_of_ok {action : Eff MessageStore MessageError α} {value : α}
    {messages : MessageStore} (ran : action.exec state.app.messages = (.ok value, messages))
    : (onApp (Handler.onMessages action)).exec state
        = (.ok value, { state with app := { state.app with messages := messages } }) :=
  Eff.exec_zoom_eq_ok.mpr ⟨_, Eff.exec_zoom_eq_ok.mpr ⟨_, ran, rfl⟩, rfl⟩

theorem exec_onMessages_of_error {action : Eff MessageStore MessageError α}
    {error : MessageError}
    (failed : action.exec state.app.messages = (.error error, state.app.messages))
    : (onApp (Handler.onMessages action)).exec state
        = (.error (.service (.message error)), state) :=
  Eff.exec_zoom_of_error (Eff.exec_zoom_of_error failed)

theorem exec_onAttachments_of_ok {action : Eff AttachmentStore AttachmentError α} {value : α}
    {attachments : AttachmentStore}
    (ran : action.exec state.attachments = (.ok value, attachments))
    : (onAttachments action).exec state = (.ok value, { state with attachments := attachments }) :=
  Eff.exec_zoom_eq_ok.mpr ⟨_, ran, rfl⟩

theorem exec_onAttachments_of_error {action : Eff AttachmentStore AttachmentError α}
    {error : AttachmentError} {attachments : AttachmentStore}
    (failed : action.exec state.attachments = (.error error, attachments))
    : (onAttachments action).exec state
        = (.error (.attachment error), { state with attachments := attachments }) :=
  Eff.exec_zoom_of_error failed

end MessageHandler

-----------------------------------------------------------------------------------------
-- Messages of users
-----------------------------------------------------------------------------------------

namespace MessageController

variable {crypto : Crypto} {state : MessagingState} {rateLimit : RateLimitDecision}
  {authorization : Option String} {channelId : Uuid} {request : CreateMessageRequest}

/-- The attachments of an admitted message are stored. -/
theorem stored_of_admission {user : AuthUser} {channel : Channel}
    (admitted : admission crypto state rateLimit authorization channelId request
      = .ok (user, channel))
    : ∀ id ∈ request.attachmentIds, id ∈ state.attachments.attachmentsById := by
  obtain ⟨token, _, admitted⟩ := Eff.check_bind_eq_ok.mp admitted
  obtain ⟨user, _, admitted⟩ := Eff.check_bind_eq_ok.mp admitted
  obtain ⟨⟨channel, space⟩, _, admitted⟩ := Eff.check_bind_eq_ok.mp admitted
  obtain ⟨_, _, admitted⟩ := Eff.check_bind_eq_ok.mp admitted
  obtain ⟨_, validated, _⟩ := Eff.check_bind_eq_ok.mp admitted
  obtain ⟨_, _, checked⟩ := Eff.check_bind_eq_ok.mp (Eff.mapError_eq_ok.mp validated)
  exact AttachmentService.stored_of_checkAllForMessage checked

/-- All checks come before the first write, so a failure leaves no trace. -/
theorem traceless_create (crypto : Crypto) (publicUrl : String) (drawn : DrawnRecord)
    (stamp : EventStamp) (rateLimit : RateLimitDecision) (authorization : Option String)
    (channelId : Uuid) (request : CreateMessageRequest) (state : MessagingState)
    : (create crypto publicUrl drawn stamp rateLimit authorization channelId request).Traceless
        MessagingState.stored state := by
  rw [create, Eff.traceless_get_bind_iff, Eff.traceless_check_bind_iff]
  rintro ⟨user, channel⟩ admitted
  have stored := stored_of_admission admitted
  rcases MessageService.exec_create state.app.messages drawn.id drawn.createdAt
      channel.organizationId (some channel.spaceId) channel.id user.id request.content
      (request.attachmentIds ≠ []) with ⟨error, failed, _⟩ | ⟨message, created, _⟩
  · rw [Eff.traceless_bind_iff_of_error (MessageHandler.exec_onMessages_of_error failed)]
  · obtain ⟨attachments, last, linked, _⟩ :=
      AttachmentService.exec_linkToMessage message.id stored
    refine Eff.traceless_of_ok (Eff.exec_bind_eq_ok.mpr
      ⟨message, _, MessageHandler.exec_onMessages_of_ok created, Eff.exec_bind_eq_ok.mpr
        ⟨attachments, _, MessageHandler.exec_onAttachments_of_ok linked, rfl⟩⟩)

end MessageController

-----------------------------------------------------------------------------------------
-- Files of bots
-----------------------------------------------------------------------------------------

/-- The name, the type and the size of a file are accepted. -/
def CompatMultipartFile.Acceptable (file : CompatMultipartFile) : Prop :=
  (AttachmentService.normalizeFileName file.fileName).isOk
    ∧ (AttachmentService.normalizeContentType file.contentType).isOk
    ∧ (AttachmentService.normalizeSize file.bytes.length).isOk

instance (file : CompatMultipartFile) : Decidable file.Acceptable :=
  inferInstanceAs (Decidable (_ ∧ _ ∧ _))

namespace CompatController

/-- An accepted file is stored under the drawn identifier, beside what was stored before. -/
theorem exec_uploadFile_of_acceptable {file : CompatMultipartFile} (acceptable : file.Acceptable)
    (channel : Channel) (bot : AuthenticatedBot) (drawn : DrawnRecord) (store : AttachmentStore)
    : ∃ last, (uploadFile channel bot drawn file).exec store = (.ok drawn.id, last)
        ∧ ∀ id, id ∈ last.attachmentsById ↔ id = drawn.id ∨ id ∈ store.attachmentsById := by
  obtain ⟨named, typed, sized⟩ := acceptable
  obtain ⟨fileName, named⟩ := Eff.isOk_iff.mp named
  obtain ⟨contentType, typed⟩ := Eff.isOk_iff.mp typed
  obtain ⟨size, sized⟩ := Eff.isOk_iff.mp sized
  obtain ⟨rfl, -, within⟩ := AttachmentService.normalizeSize_ok sized
  let pending : Attachment := ⟨drawn.id, channel.organizationId, channel.spaceId, channel.id,
    none, bot.botUserId, fileName, contentType, file.bytes.length, .pending, drawn.createdAt⟩
  let created : AttachmentStore := { store with
    attachmentsById := store.attachmentsById.insert drawn.id pending }
  have built : AttachmentService.newAttachment drawn.id drawn.createdAt
        ⟨channel.organizationId, channel.spaceId, channel.id, bot.botUserId, file.fileName,
          file.contentType, file.bytes.length⟩ = .ok pending := by
    rw [AttachmentService.newAttachment, named, typed, sized]
    rfl
  have waiting : AttachmentStatus.pending ≠ .linked := by decide
  have content : AttachmentService.uploadedContent pending bot.botUserId file.contentType
      file.bytes = .ok ⟨contentType, file.bytes⟩ := by
    rw [AttachmentService.uploadedContent, if_neg (not_not_intro rfl), if_neg waiting,
      if_neg (not_not_intro rfl), typed]
    exact if_neg (not_not_intro rfl)
  have present : drawn.id ∈ created.attachmentsById := (AList.mem_insert _).mpr (.inl rfl)
  refine ⟨⟨created.attachmentsById.insert drawn.id { pending with status := .uploaded },
    store.contentById.insert drawn.id ⟨contentType, file.bytes⟩⟩, ?_, fun id => ?_⟩
  · rw [uploadFile, if_neg (not_lt.mpr within)]
    refine Eff.exec_bind_eq_ok.mpr ⟨pending, created, ?_, Eff.exec_bind_eq_ok.mpr
      ⟨{ pending with status := .uploaded }, _, ?_, rfl⟩⟩
    · exact Eff.exec_check_bind_eq_ok.mpr ⟨pending, built, rfl⟩
    · refine Eff.exec_check_bind_eq_ok.mpr ⟨_, content, ?_⟩
      rw [AttachmentStore.uploadContent, Eff.exec_get_bind, if_pos present]
      rfl
  · simp only [created, AList.mem_insert, or_self_left]

/-- A file that is not accepted is not stored. -/
theorem exec_uploadFile_of_not_acceptable {file : CompatMultipartFile}
    (refused : ¬ file.Acceptable) (channel : Channel) (bot : AuthenticatedBot)
    (drawn : DrawnRecord) (store : AttachmentStore)
    : ∃ error, (uploadFile channel bot drawn file).exec store = (.error error, store) := by
  rw [uploadFile]
  split
  · exact ⟨_, rfl⟩
  · rw [Eff.exec_bind, AttachmentService.createPending, Eff.exec_check_bind]
    cases built : AttachmentService.newAttachment drawn.id drawn.createdAt
        ⟨channel.organizationId, channel.spaceId, channel.id, bot.botUserId, file.fileName,
          file.contentType, file.bytes.length⟩ with
    | error error => exact ⟨error, rfl⟩
    | ok attachment =>
        obtain ⟨_, named, built⟩ := Eff.check_bind_eq_ok.mp built
        obtain ⟨_, typed, built⟩ := Eff.check_bind_eq_ok.mp built
        obtain ⟨_, sized, _⟩ := Eff.check_bind_eq_ok.mp built
        exact absurd ⟨Eff.isOk_of_eq_ok named, Eff.isOk_of_eq_ok typed,
          Eff.isOk_of_eq_ok sized⟩ refused

/-- If all files are accepted they are stored, beside what was stored before; by induction over the
files.
-/
theorem exec_uploads_of_acceptable (channel : Channel) (bot : AuthenticatedBot)
    (draw : Nat → DrawnRecord) (index : Nat) {files : List CompatMultipartFile}
    (acceptable : ∀ file ∈ files, file.Acceptable) (store : AttachmentStore)
    : ∃ attachmentIds last,
        (uploadCompatMultipartAttachments channel bot draw index files).exec store
            = (.ok attachmentIds, last)
          ∧ attachmentIds.length = files.length
          ∧ (∀ id ∈ attachmentIds, id ∈ last.attachmentsById)
          ∧ ∀ id ∈ store.attachmentsById, id ∈ last.attachmentsById := by
  induction files generalizing index store with
  | nil => exact ⟨[], store, rfl, rfl, fun _ listed => absurd listed List.not_mem_nil, fun _ => id⟩
  | cons file files ih =>
      rw [List.forall_mem_cons] at acceptable
      obtain ⟨middle, uploaded, ids⟩ :=
        exec_uploadFile_of_acceptable acceptable.1 channel bot (draw index) store
      obtain ⟨attachmentIds, last, others, length, listed, kept⟩ :=
        ih (index + 1) acceptable.2 middle
      refine ⟨(draw index).id :: attachmentIds, last, ?_, congrArg (· + 1) length, ?_, ?_⟩
      · exact Eff.exec_bind_eq_ok.mpr ⟨_, middle, uploaded,
          Eff.exec_bind_eq_ok.mpr ⟨attachmentIds, last, others, rfl⟩⟩
      · exact List.forall_mem_cons.mpr ⟨kept _ ((ids _).mpr (.inl rfl)), listed⟩
      · exact fun id before => kept id ((ids id).mpr (.inr before))

/-- If some file is not accepted the upload fails, and what was stored before stays; by induction
over the files.
-/
theorem exec_uploads_of_not_acceptable (channel : Channel) (bot : AuthenticatedBot)
    (draw : Nat → DrawnRecord) (index : Nat) {files : List CompatMultipartFile}
    (refused : ¬ ∀ file ∈ files, file.Acceptable) (store : AttachmentStore)
    : ∃ error last, (uploadCompatMultipartAttachments channel bot draw index files).exec store
            = (.error error, last)
          ∧ ∀ id ∈ store.attachmentsById, id ∈ last.attachmentsById := by
  induction files generalizing index store with
  | nil => exact absurd (fun _ listed => absurd listed List.not_mem_nil) refused
  | cons file files ih =>
      rw [uploadCompatMultipartAttachments, Eff.exec_bind]
      by_cases acceptable : file.Acceptable
      · obtain ⟨middle, uploaded, ids⟩ :=
          exec_uploadFile_of_acceptable acceptable channel bot (draw index) store
        obtain ⟨error, last, failed, kept⟩ := ih (index + 1)
          (fun others => refused (List.forall_mem_cons.mpr ⟨acceptable, others⟩)) middle
        rw [uploaded]
        refine ⟨error, last, ?_, fun id before => kept id ((ids id).mpr (.inr before))⟩
        change Eff.exec (uploadCompatMultipartAttachments channel bot draw (index + 1) files
          >>= _) middle = _
        rw [Eff.exec_bind, failed]
      · obtain ⟨error, failed⟩ :=
          exec_uploadFile_of_not_acceptable acceptable channel bot (draw index) store
        rw [failed]
        exact ⟨error, store, rfl, fun _ => id⟩

-----------------------------------------------------------------------------------------
-- Messages of bots
-----------------------------------------------------------------------------------------

/-- The message an admitted request refers to is there, and all that its own message is made of
passes its check.
-/
structure AdmittedMessage.Postable (admitted : AdmittedMessage)
    (toUtcMillis : String → Option String) (store : MessageStore) (allowEmptyContent : Bool)
    : Prop where
  reference : (validateMessageReference store admitted.channel.id
    admitted.payload.request.messageReference).isOk
  embeds : (MessageService.normalizeEmbeds toUtcMillis admitted.payload.request.embeds).isOk
  components : (MessageService.normalizeComponents admitted.payload.request.components).isOk
  content : (MessageService.normalizeContent (admitted.payload.request.content.getD "")
    allowEmptyContent).isOk

theorem AdmittedMessage.postable_iff {admitted : AdmittedMessage}
    {toUtcMillis : String → Option String} {store : MessageStore} {allowEmptyContent : Bool}
    : admitted.Postable toUtcMillis store allowEmptyContent
      ↔ (validateMessageReference store admitted.channel.id
          admitted.payload.request.messageReference).isOk
        ∧ (MessageService.normalizeEmbeds toUtcMillis admitted.payload.request.embeds).isOk
        ∧ (MessageService.normalizeComponents admitted.payload.request.components).isOk
        ∧ (MessageService.normalizeContent (admitted.payload.request.content.getD "")
            allowEmptyContent).isOk :=
  ⟨fun postable => ⟨postable.1, postable.2, postable.3, postable.4⟩,
    fun checks => ⟨checks.1, checks.2.1, checks.2.2.1, checks.2.2.2⟩⟩

instance (admitted : AdmittedMessage) (toUtcMillis : String → Option String)
    (store : MessageStore) (allowEmptyContent : Bool)
    : Decidable (admitted.Postable toUtcMillis store allowEmptyContent) :=
  decidable_of_iff' _ AdmittedMessage.postable_iff

/-- With its files stored, a message is posted exactly if it is postable; otherwise nothing
changes any more.
-/
theorem exec_postMessage (toUtcMillis : String → Option String) (publicUrl : String)
    (drawn : DrawnMessage) (admitted : AdmittedMessage) {attachmentIds : List Uuid}
    {state : MessagingState}
    (uploaded : ∀ id ∈ attachmentIds, id ∈ state.attachments.attachmentsById)
    : (∃ error, (postMessage toUtcMillis publicUrl drawn admitted attachmentIds).exec state
            = (.error error, state)
          ∧ ¬ admitted.Postable toUtcMillis state.app.messages
            (allowEmptyContent admitted.payload.request attachmentIds))
      ∨ ∃ response last, (postMessage toUtcMillis publicUrl drawn admitted attachmentIds).exec
            state = (.ok response, last)
          ∧ admitted.Postable toUtcMillis state.app.messages
            (allowEmptyContent admitted.payload.request attachmentIds) := by
  rw [postMessage, Eff.exec_get_bind]
  dsimp only
  rw [Eff.exec_check_bind]
  cases found : validateMessageReference state.app.messages admitted.channel.id
      admitted.payload.request.messageReference with
  | error error =>
      refine .inl ⟨_, rfl, fun postable => ?_⟩
      have reference := postable.reference
      rw [found] at reference
      cases reference
  | ok referenced =>
      have reference := Eff.isOk_of_eq_ok found
      simp only [Except.mapError]
      rw [Eff.exec_bind]
      generalize made : CreateMessageInput.mk admitted.channel.organizationId _ _ _ _ _ _ _ _ _ _ _
        _ _ = input
      rcases MessageService.exec_createWithEmbeds state.app.messages toUtcMillis drawn.message.id
        drawn.message.createdAt input with ⟨error, failed, invalid⟩ | ⟨message, created, _, valid⟩
      · rw [MessageHandler.exec_onMessages_of_error failed]
        refine .inl ⟨_, rfl, fun postable => invalid ?_⟩
        subst made
        exact ⟨postable.embeds, postable.components, postable.content, rfl, rfl⟩
      · rw [MessageHandler.exec_onMessages_of_ok created]
        obtain ⟨attachments, last, linked, _⟩ :=
          AttachmentService.exec_linkToMessage message.id uploaded
        subst made
        refine .inr ⟨_, _, Eff.exec_bind_eq_ok.mpr ⟨attachments, _,
          MessageHandler.exec_onAttachments_of_ok linked, rfl⟩,
          reference, valid.embeds, valid.components, valid.content⟩

/-- No file is left behind: if the first file is accepted, all others are and the message can be
posted.
-/
def AdmittedMessage.LeavesNoFile (admitted : AdmittedMessage)
    (toUtcMillis : String → Option String) (store : MessageStore) : Prop :=
  ∀ first ∈ admitted.payload.files.head?, first.Acceptable →
    (∀ file ∈ admitted.payload.files, file.Acceptable)
      ∧ admitted.Postable toUtcMillis store true

instance (admitted : AdmittedMessage) (toUtcMillis : String → Option String)
    (store : MessageStore) : Decidable (admitted.LeavesNoFile toUtcMillis store) :=
  inferInstanceAs (Decidable (∀ first ∈ admitted.payload.files.head?, _))

/-- Where the first file is accepted its record is seen wherever the upload ends. -/
theorem uploaded_of_first_acceptable (channel : Channel) (bot : AuthenticatedBot)
    (draw : Nat → DrawnRecord) (index : Nat) {first : CompatMultipartFile}
    {rest : List CompatMultipartFile} (acceptable : first.Acceptable) {store last : AttachmentStore}
    {answer : Except AttachmentError (List Uuid)}
    (ended : (uploadCompatMultipartAttachments channel bot draw index (first :: rest)).exec store
      = (answer, last))
    : (draw index).id ∈ last.attachmentsById := by
  obtain ⟨middle, uploaded, ids⟩ :=
    exec_uploadFile_of_acceptable acceptable channel bot (draw index) store
  have present : (draw index).id ∈ middle.attachmentsById := (ids _).mpr (.inl rfl)
  have reached : (uploadCompatMultipartAttachments channel bot draw index (first :: rest)).after
        store
      = (uploadCompatMultipartAttachments channel bot draw (index + 1) rest).after middle := by
    rw [uploadCompatMultipartAttachments, Eff.after_bind_of_ok uploaded, Eff.after_map]
  rw [Eff.after, ended] at reached
  obtain rfl : last = _ := reached
  rw [Eff.after]
  by_cases others : ∀ file ∈ rest, file.Acceptable
  · obtain ⟨_, _, done, _, _, kept⟩ :=
      exec_uploads_of_acceptable channel bot draw (index + 1) others middle
    rw [done]
    exact kept _ present
  · obtain ⟨_, _, failed, kept⟩ :=
      exec_uploads_of_not_acceptable channel bot draw (index + 1) others middle
    rw [failed]
    exact kept _ present

/-- An attachment that was not stored before is seen. -/
theorem stored_ne_of_new {state last : MessagingState} {attachmentId : Uuid}
    (new : attachmentId ∉ state.attachments.attachmentsById)
    (stored : attachmentId ∈ last.attachments.attachmentsById)
    : last.stored ≠ state.stored := by
  intro same
  have attachments : last.attachments = state.attachments :=
    congrArg (fun stored => stored.2.1) same
  exact new (attachments ▸ stored)

variable {crypto : Crypto} {readers : BodyReaders} {toUtcMillis : String → Option String}

/-- A failed creation leaves no trace exactly if no file is left behind, by cases of which files
are accepted.
-/
theorem traceless_createMessage_iff (publicUrl : String) {drawn : DrawnMessage}
    (rateLimit : RateLimitDecision) (channelId : Uuid) (request : CompatRequest)
    {state : MessagingState}
    (new : (drawn.attachment 0).id ∉ state.attachments.attachmentsById)
    : (createMessage crypto readers toUtcMillis publicUrl drawn rateLimit channelId
          request).Traceless MessagingState.stored state
        ↔ ∀ admitted,
            admission crypto readers state.app rateLimit channelId request = .ok admitted →
              admitted.LeavesNoFile toUtcMillis state.app.messages := by
  rw [createMessage, Eff.traceless_get_bind_iff, Eff.traceless_check_bind_iff]
  refine forall_congr' fun admitted => imp_congr_right fun _ => ?_
  rw [AdmittedMessage.LeavesNoFile]
  cases listed : admitted.payload.files with
  | nil =>
      refine iff_of_true ?_ fun first listed => by cases listed
      have unchanged : (MessageHandler.onAttachments (uploadCompatMultipartAttachments
          admitted.channel admitted.bot drawn.attachment 0 [])).exec state = (.ok [], state) :=
        rfl
      rw [Eff.traceless_bind_iff_of_unseen unchanged rfl]
      have noFiles : ∀ id ∈ ([] : List Uuid), id ∈ state.attachments.attachmentsById :=
        fun _ listed => absurd listed List.not_mem_nil
      rcases exec_postMessage toUtcMillis publicUrl drawn admitted noFiles with
        ⟨error, failed, _⟩ | ⟨response, last, posted, _⟩
      · rw [Eff.traceless_bind_iff_of_error failed]
      · exact Eff.traceless_of_ok (Eff.exec_bind_eq_ok.mpr ⟨response, last, posted, rfl⟩)
  | cons first rest =>
      simp only [List.head?_cons, Option.mem_some_iff, forall_eq']
      by_cases acceptable : first.Acceptable
      · rw [forall_prop_of_true acceptable]
        by_cases all : ∀ file ∈ first :: rest, file.Acceptable
        · obtain ⟨attachmentIds, last, uploaded, length, stored, _⟩ := exec_uploads_of_acceptable
            admitted.channel admitted.bot drawn.attachment 0 all state.attachments
          have present := uploaded_of_first_acceptable _ _ _ _ acceptable uploaded
          have allowed : allowEmptyContent admitted.payload.request attachmentIds = true := by
            cases attachmentIds with
            | nil => cases length
            | cons => simp [allowEmptyContent]
          have ran : (MessageHandler.onAttachments (uploadCompatMultipartAttachments
              admitted.channel admitted.bot drawn.attachment 0 (first :: rest))).exec state
                = (.ok attachmentIds, ⟨state.app, last⟩) :=
            MessageHandler.exec_onAttachments_of_ok uploaded
          rw [and_iff_right all, ← allowed]
          have middle : ∀ id ∈ attachmentIds,
              id ∈ (MessagingState.mk state.app last).attachments.attachmentsById :=
            stored
          rcases exec_postMessage toUtcMillis publicUrl drawn admitted middle with
            ⟨error, failed, refused⟩ | ⟨response, ended, posted, postable⟩
          · refine iff_of_false (fun traceless => ?_) refused
            refine stored_ne_of_new new present (traceless error ⟨state.app, last⟩ ?_)
            rw [Eff.exec_bind_of_ok ran, Eff.exec_bind, failed]
          · refine iff_of_true ?_ postable
            exact Eff.traceless_of_ok (Eff.exec_bind_eq_ok.mpr ⟨attachmentIds, _, ran,
              Eff.exec_bind_eq_ok.mpr ⟨response, ended, posted, rfl⟩⟩)
        · obtain ⟨error, last, failed, _⟩ := exec_uploads_of_not_acceptable
            admitted.channel admitted.bot drawn.attachment 0 all state.attachments
          have present := uploaded_of_first_acceptable _ _ _ _ acceptable failed
          rw [Eff.traceless_bind_iff_of_error (MessageHandler.exec_onAttachments_of_error failed)]
          exact iff_of_false (stored_ne_of_new new present) fun leaves => all leaves.1
      · refine iff_of_true ?_ fun accepted => absurd accepted acceptable
        obtain ⟨error, refused⟩ := exec_uploadFile_of_not_acceptable acceptable admitted.channel
          admitted.bot (drawn.attachment 0) state.attachments
        have failed : (uploadCompatMultipartAttachments admitted.channel admitted.bot
            drawn.attachment 0 (first :: rest)).exec state.attachments
              = (.error error, state.attachments) := by
          rw [uploadCompatMultipartAttachments, Eff.exec_bind, refused]
        rw [Eff.traceless_bind_iff_of_error (MessageHandler.exec_onAttachments_of_error failed)]

end CompatController

/-- A failed creation of a message of a user leaves no trace, and one of a message of a bot leaves
none exactly if no file is left behind.
-/
theorem messageCreation_traceless_iff (crypto : Crypto) (readers : BodyReaders)
    (toUtcMillis : String → Option String) (publicUrl : String) (state : MessagingState)
    (rateLimit : RateLimitDecision) (channelId : Uuid)
    : (∀ drawn stamp authorization request,
          (MessageController.create crypto publicUrl drawn stamp rateLimit authorization channelId
            request).Traceless MessagingState.stored state)
        ∧ ∀ (drawn : CompatController.DrawnMessage) (request : CompatRequest),
            (drawn.attachment 0).id ∉ state.attachments.attachmentsById →
              ((CompatController.createMessage crypto readers toUtcMillis publicUrl drawn rateLimit
                  channelId request).Traceless MessagingState.stored state
                ↔ ∀ admitted, CompatController.admission crypto readers state.app rateLimit
                    channelId request = .ok admitted →
                      admitted.LeavesNoFile toUtcMillis state.app.messages) :=
  ⟨fun drawn stamp authorization request => MessageController.traceless_create crypto publicUrl
      drawn stamp rateLimit authorization channelId request state,
    fun _ request new =>
      CompatController.traceless_createMessage_iff publicUrl rateLimit channelId request new⟩

-----------------------------------------------------------------------------------------
-- Acme's bot sends a file
-----------------------------------------------------------------------------------------

namespace Acme

def asciiBytes (text : String) : List UInt8 :=
  text.toList.map fun character => UInt8.ofNat character.toNat

def sentFile : CompatMultipartFile := ⟨"report.txt", "text/plain", asciiBytes "All is well."⟩

/-- A message as a bot writes it, and what is read of it. -/
structure SentMessage where
  json : List UInt8
  request : CreateCompatMessageRequest

def plainMessage : SentMessage where
  json := asciiBytes "\x7b\"content\":\"The report\"\x7d"
  request := ⟨some "The report", [], [], none, none⟩

/-- The message refers to one that is not there. -/
def replyMessage : SentMessage where
  json := asciiBytes "\x7b\"message_reference\":\x7b\"message_id\":"
    ++ asciiBytes "\"00000000-0000-0000-0000-000000000063\"\x7d\x7d"
  request := ⟨none, [], [], none, some ⟨.ofNat 99, none⟩⟩

def multipartType : String := "multipart/form-data; boundary=acme"

/-- A message with the file behind it. -/
def SentMessage.body (message : SentMessage) : List UInt8 :=
  asciiBytes "--acme\r\nContent-Disposition: form-data; name=\"payload_json\"\r\n\r\n"
    ++ message.json ++ asciiBytes "\r\n--acme\r\nContent-Disposition: form-data; "
    ++ asciiBytes "name=\"files[0]\"; filename=\"report.txt\"\r\nContent-Type: text/plain\r\n\r\n"
    ++ sentFile.bytes ++ asciiBytes "\r\n--acme--\r\n"

def SentMessage.fields (message : SentMessage) : List (Option MultipartField) :=
  [some ⟨some "payload_json", none, none, some message.json⟩,
    some ⟨some "files[0]", some "report.txt", some "text/plain", some sentFile.bytes⟩]

def sentMessages : List SentMessage := [plainMessage, replyMessage]

/-- What is read of the messages above. -/
def readers : BodyReaders where
  fromSlice bytes :=
    (sentMessages.find? fun message => message.json = bytes).map SentMessage.request
  multipart contentType body :=
    if contentType = some multipartType then
      (sentMessages.find? fun message => some message.body = body).map SentMessage.fields
    else
      none

def SentMessage.asRequest (message : SentMessage) : CompatRequest :=
  ⟨some ("Bot " ++ botToken), some multipartType, some message.body⟩

def drawnMessage : CompatController.DrawnMessage where
  attachment index := ⟨.ofNat (60 + index), "2026-01-01T00:00:00.000Z"⟩
  message := ⟨.ofNat 50, "2026-01-01T00:00:00.000Z"⟩
  stamp := stamp 301

def withinLimit : RateLimitDecision := ⟨"compat_rest:bot", true, 10, 9, 60⟩

/-- The bot sends a message with the file to the channel. -/
def botSends (message : SentMessage)
    : MessageHandler (RateLimitDecision × CompatMessageResponse) :=
  CompatController.createMessage botCrypto readers (fun _ => none) "https://opencord.test"
    drawnMessage withinLimit general message.asRequest

/-- Both messages are admitted. Only the plain one is asked for nothing that could fail after its
upload.
-/
theorem sentMessages_admitted
    : ∃ app, run (AppState.step botCrypto) .empty (requests ++ botRequests.take 2) = some app
        ∧ (∃ admitted, CompatController.admission botCrypto readers app withinLimit general
              plainMessage.asRequest = .ok admitted
            ∧ admitted.LeavesNoFile (fun _ => none) app.messages)
        ∧ ∃ admitted, CompatController.admission botCrypto readers app withinLimit general
              replyMessage.asRequest = .ok admitted
            ∧ ¬ admitted.LeavesNoFile (fun _ => none) app.messages := by
  have facts : (run (AppState.step botCrypto) .empty (requests ++ botRequests.take 2)).any
      fun app =>
        ((CompatController.admission botCrypto readers app withinLimit general
          plainMessage.asRequest).toOption.any fun admitted =>
            admitted.LeavesNoFile (fun _ => none) app.messages)
        && (CompatController.admission botCrypto readers app withinLimit general
          replyMessage.asRequest).toOption.any fun admitted =>
            ¬ admitted.LeavesNoFile (fun _ => none) app.messages := by
    decide +kernel
  obtain ⟨app, reached, facts⟩ := (Option.any_eq_true _ _).mp facts
  obtain ⟨plain, reply⟩ := Bool.and_eq_true_iff.mp facts
  obtain ⟨first, admitted, leaves⟩ := (Option.any_eq_true _ _).mp plain
  obtain ⟨second, alsoAdmitted, keeps⟩ := (Option.any_eq_true _ _).mp reply
  exact ⟨app, reached, ⟨first, Eff.toOption_eq_some.mp admitted, of_decide_eq_true leaves⟩,
    ⟨second, Eff.toOption_eq_some.mp alsoAdmitted, of_decide_eq_true keeps⟩⟩

end Acme

open Acme in
/-- The bot may send the file, and is asked for nothing that could fail after its upload. -/
theorem plainMessage_traceless
    : ∃ app admitted, run (AppState.step botCrypto) .empty (requests ++ botRequests.take 2)
          = some app
        ∧ CompatController.admission botCrypto readers app withinLimit general
            plainMessage.asRequest = .ok admitted
        ∧ (botSends plainMessage).Traceless MessagingState.stored ⟨app, .empty⟩ := by
  obtain ⟨app, reached, ⟨admitted, passed, leaves⟩, -⟩ := sentMessages_admitted
  refine ⟨app, admitted, reached, passed, ((messageCreation_traceless_iff botCrypto readers
    (fun _ => none) _ ⟨app, .empty⟩ withinLimit general).2 drawnMessage _
      (AList.notMem_empty _)).mpr ?_⟩
  intro other same
  rw [passed] at same
  cases same
  exact leaves

open Acme in
/-- The bot refers to a message that is not there. The request fails, and its file stays. -/
theorem missingReference_leavesFile
    : ∃ app, run (AppState.step botCrypto) .empty (requests ++ botRequests.take 2) = some app
        ∧ ¬ (botSends replyMessage).Traceless MessagingState.stored ⟨app, .empty⟩ := by
  obtain ⟨app, reached, -, ⟨admitted, passed, keeps⟩⟩ := sentMessages_admitted
  refine ⟨app, reached, fun traceless => keeps ?_⟩
  have new : (drawnMessage.attachment 0).id ∉ AttachmentStore.empty.attachmentsById :=
    AList.notMem_empty _
  exact (CompatController.traceless_createMessage_iff _ withinLimit general _ new).mp traceless
    admitted passed

end OpenCord.Server

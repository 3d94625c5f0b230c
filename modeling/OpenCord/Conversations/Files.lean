import OpenCord.Conversations.Listings

/-! The files of a run: whoever downloads one gets what its uploader once sent, every file that a
message shows can be downloaded, and a file stays as it is once a message has it.
-/

namespace OpenCord.Conversations

open Relation
open OpenCord.Library OpenCord.Platform OpenCord.Auth OpenCord.Messages OpenCord.Attachments
  OpenCord.Server

variable {deployment : Deployment} {start before after state next : ConversationState}
  {request : ConversationRequest} {attachmentId : Uuid}

-----------------------------------------------------------------------------------------
-- Records and contents
-----------------------------------------------------------------------------------------

/-- Under an identifier, a content has a record, a record that does not wait for its content has
one that fits, and a record with a message is linked.
-/
structure FilledAt (store : AttachmentStore) (attachmentId : Uuid) : Prop where
  recorded : ∀ content, store.contentById.lookup attachmentId = some content →
    ∃ attachment, store.attachmentsById.lookup attachmentId = some attachment
  filled : ∀ attachment, store.attachmentsById.lookup attachmentId = some attachment →
    attachment.status ≠ .pending →
      ∃ content, store.contentById.lookup attachmentId = some content ∧ content.Fits attachment
  linked : ∀ attachment, store.attachmentsById.lookup attachmentId = some attachment →
    attachment.messageId ≠ none → attachment.status = .linked

/-- By cases of what becomes of the file. -/
theorem FilledAt.write (filled : FilledAt before.attachments attachmentId)
    (write : Write deployment start request before after)
    : FilledAt after.attachments attachmentId := by
  cases write.file attachmentId with
  | kept same =>
      constructor
      · rw [same.record, same.content]
        exact filled.recorded
      · rw [same.record, same.content]
        exact filled.filled
      · rw [same.record]
        exact filled.linked
  | presigned attachment own new may pending unlinked stored content =>
      constructor
      · exact fun _ _ => ⟨attachment, stored⟩
      · intro other found waits
        cases stored.symm.trans found
        exact absurd pending waits
      · intro other found linked
        cases stored.symm.trans found
        exact absurd unlinked linked
  | uploaded attachment content found waiting fits may carried stored written =>
      constructor
      · exact fun _ _ => ⟨_, stored⟩
      · intro other there _
        cases stored.symm.trans there
        exact ⟨content, written, fits.size, fits.contentType⟩
      · intro other there linked
        cases stored.symm.trans there
        exact absurd (filled.linked attachment found linked) waiting
  | linked attachment message found uploaded target channel uploader stored content =>
      constructor
      · exact fun _ _ => ⟨_, stored⟩
      · intro other there _
        cases stored.symm.trans there
        obtain ⟨bytes, written, fits⟩ := filled.filled attachment found (by rw [uploaded]; decide)
        exact ⟨bytes, content.trans written, fits.size, fits.contentType⟩
      · intro other there _
        cases stored.symm.trans there
        rfl
  | purged purges erased dropped =>
      constructor
      · intro content there
        cases dropped.symm.trans there
      · intro other there
        cases erased.symm.trans there
      · intro other there
        cases erased.symm.trans there

theorem filledAt_empty : FilledAt ConversationState.empty.attachments attachmentId := by
  constructor
  · intro content found
    cases found
  · intro attachment found
    cases found
  · intro attachment found
    cases found

/-- Records and contents belong together in every reachable state. -/
theorem filled_of_reachable (reachable : Reachable (step deployment) .empty state)
    (attachmentId : Uuid)
    : FilledAt state.attachments attachmentId :=
  holds_of_reachable (fun state => FilledAt state.attachments attachmentId) filledAt_empty
    (fun _ _ _ _ _ filled write => filled.write write) reachable

-----------------------------------------------------------------------------------------
-- Where contents come from
-----------------------------------------------------------------------------------------

/-- A content is stored for a file of an uploader in a channel. -/
def HeldFor (attachmentId uploaderUserId channelId : Uuid) (content : AttachmentContent)
    (state : ConversationState) : Prop :=
  state.attachments.contentById.lookup attachmentId = some content
    ∧ ∃ attachment, state.attachments.attachmentsById.lookup attachmentId = some attachment
      ∧ attachment.uploaderUserId = uploaderUserId ∧ attachment.channelId = channelId

/-- A request brings a content, with its bytes and its type, for a file of an uploader into a
channel.
-/
def Brings (deployment : Deployment) (uploaderUserId channelId : Uuid)
    (content : AttachmentContent) (state : ConversationState) (request : ConversationRequest)
    : Prop :=
  MayUpload deployment state uploaderUserId channelId request
    ∧ Carries deployment content request

/-- Every content was stored at the start of the request, or the request brings it. -/
structure BroughtAt (deployment : Deployment) (start : ConversationState)
    (request : ConversationRequest) (attachmentId : Uuid) (state : ConversationState)
    : Prop where
  filled : FilledAt state.attachments attachmentId
  brought : ∀ uploaderUserId channelId content,
    HeldFor attachmentId uploaderUserId channelId content state →
      HeldFor attachmentId uploaderUserId channelId content start
        ∨ Brings deployment uploaderUserId channelId content start request

theorem BroughtAt.write (held : BroughtAt deployment start request attachmentId before)
    (write : Write deployment start request before after)
    : BroughtAt deployment start request attachmentId after := by
  refine ⟨held.filled.write write, fun uploaderUserId channelId content there => ?_⟩
  obtain ⟨stored, attachment, found, rfl, rfl⟩ := there
  cases write.file attachmentId with
  | kept same =>
      rw [same.content] at stored
      rw [same.record] at found
      exact held.brought _ _ content ⟨stored, attachment, found, rfl, rfl⟩
  | presigned presigned own new may pending unlinked written kept =>
      cases written.symm.trans found
      -- The record is new, so the content under it was brought by the same request.
      have earlier := kept.symm.trans stored
      obtain ⟨old, there⟩ := held.filled.recorded content earlier
      rcases held.brought _ _ content ⟨earlier, old, there, rfl, rfl⟩ with
        ⟨-, other, present, -⟩ | ⟨-, carried⟩
      · exact absurd (Table.mem_of_lookup present) new
      · exact .inr ⟨may, carried⟩
  | uploaded old uploaded there waiting fits may carried written filled =>
      cases written.symm.trans found
      cases filled.symm.trans stored
      exact .inr ⟨may, carried⟩
  | linked old message there uploaded target channel uploader written kept =>
      cases written.symm.trans found
      exact held.brought _ _ content ⟨kept.symm.trans stored, old, there, rfl, rfl⟩
  | purged purges erased => cases erased.symm.trans found

/-- A request that might upload for the uploader of a file, to its channel, sent the content that is
stored since then.
-/
theorem content_brought {requests : List ConversationRequest} {uploaderUserId channelId : Uuid}
    {content : AttachmentContent} (ran : run (step deployment) .empty requests = some state)
    (held : HeldFor attachmentId uploaderUserId channelId content state)
    : Gained (step deployment) .empty requests
        (HeldFor attachmentId uploaderUserId channelId content)
        (Brings deployment uploaderUserId channelId content) := by
  refine gained_of_run (fun state => state.Keyed ∧ FilledAt state.attachments attachmentId) _
    (fun state request next valid stepped => ?_)
    (fun state request next valid stepped missing there => ?_)
    ⟨keyed_empty, filledAt_empty⟩ ?_ ran held
  · refine ⟨step_keyed valid.1 stepped, ?_⟩
    exact step_preserves (fun state => FilledAt state.attachments attachmentId)
      (fun _ _ filled write => filled.write write) valid.1 valid.2 stepped
  · have initially : BroughtAt deployment state request attachmentId state :=
      ⟨valid.2, fun _ _ _ there => .inl there⟩
    have arrived := step_preserves _ (fun _ _ held write => held.write write) valid.1 initially
      stepped
    exact (arrived.brought _ _ _ there).resolve_left missing
  · rintro ⟨stored, -⟩
    cases stored

/-- What a download answers: the user may view the channel of the file. -/
theorem download_ok {crypto : Crypto} {authorization : Option String}
    {content : AttachmentContent}
    (downloaded : AttachmentController.downloadContent crypto state.messaging authorization
      attachmentId = .ok content)
    : ∃ attachment userId,
        state.attachments.attachmentsById.lookup attachmentId = some attachment
          ∧ SessionOf crypto state.messaging.app authorization userId
          ∧ Enters state.messaging.app userId attachment.channelId .viewChannel
          ∧ state.attachments.contentById.lookup attachmentId = some content := by
  obtain ⟨token, bearer, downloaded⟩ := Eff.check_bind_eq_ok.mp downloaded
  obtain ⟨user, session, downloaded⟩ := Eff.check_bind_eq_ok.mp downloaded
  obtain ⟨attachment, found, downloaded⟩ := Eff.check_bind_eq_ok.mp downloaded
  obtain ⟨⟨channel, space⟩, entered, downloaded⟩ := Eff.check_bind_eq_ok.mp downloaded
  have answered := Eff.mapError_eq_ok.mp downloaded
  refine ⟨attachment, user.id, AttachmentService.get_eq_ok.mp (Eff.mapError_eq_ok.mp found),
    ⟨token, user, bearer, Eff.mapError_eq_ok.mp session, rfl⟩,
    ⟨channel, space, Eff.mapError_eq_ok.mp entered⟩, ?_⟩
  rw [AttachmentController.content] at answered
  split at answered
  · next stored =>
      cases answered
      exact stored
  · cases answered

/-- Whoever downloads a file may view its channel, and gets the bytes and the type that a request
carried with the credential of its uploader, when the uploader might write in the channel, and that
have been stored for the file since.
-/
theorem download_brought {requests : List ConversationRequest} {authorization : Option String}
    {content : AttachmentContent} (ran : run (step deployment) .empty requests = some state)
    (downloaded : AttachmentController.downloadContent deployment.crypto state.messaging
      authorization attachmentId = .ok content)
    : ∃ attachment userId,
        state.attachments.attachmentsById.lookup attachmentId = some attachment
          ∧ SessionOf deployment.crypto state.messaging.app authorization userId
          ∧ Enters state.messaging.app userId attachment.channelId .viewChannel
          ∧ Gained (step deployment) .empty requests
              (HeldFor attachmentId attachment.uploaderUserId attachment.channelId content)
              (Brings deployment attachment.uploaderUserId attachment.channelId content) := by
  obtain ⟨attachment, userId, found, session, enters, stored⟩ := download_ok downloaded
  exact ⟨attachment, userId, found, session, enters,
    content_brought ran ⟨stored, attachment, found, rfl, rfl⟩⟩

-----------------------------------------------------------------------------------------
-- Files of messages
-----------------------------------------------------------------------------------------

/-- A file with a message has a content that fits, and whoever may view the channel of the file
can download it.
-/
theorem downloadContent_of_linked (filled : FilledAt state.attachments attachmentId)
    {attachment : Attachment}
    (stored : state.attachments.attachmentsById.lookup attachmentId = some attachment)
    (linked : attachment.messageId ≠ none) {crypto : Crypto} {authorization : Option String}
    {userId : Uuid} (session : SessionOf crypto state.messaging.app authorization userId)
    (enters : Enters state.messaging.app userId attachment.channelId .viewChannel)
    : ∃ content, AttachmentController.downloadContent crypto state.messaging authorization
          attachmentId = .ok content
        ∧ content.Fits attachment := by
  have status : attachment.status ≠ .pending := by
    rw [filled.linked attachment stored linked]
    decide
  obtain ⟨content, written, fits⟩ := filled.filled attachment stored status
  obtain ⟨token, user, bearer, known, rfl⟩ := session
  obtain ⟨channel, space, entered⟩ := enters
  refine ⟨content, ?_, fits⟩
  refine Eff.check_bind_eq_ok.mpr ⟨token, bearer, ?_⟩
  refine Eff.check_bind_eq_ok.mpr ⟨user, Eff.mapError_eq_ok.mpr known, ?_⟩
  have found := AttachmentService.get_eq_ok.mpr stored
  refine Eff.check_bind_eq_ok.mpr ⟨attachment, Eff.mapError_eq_ok.mpr found, ?_⟩
  refine Eff.check_bind_eq_ok.mpr ⟨(channel, space), Eff.mapError_eq_ok.mpr entered, ?_⟩
  refine Eff.mapError_eq_ok.mpr ?_
  have answers : state.messaging.attachments.contentForAttachment attachmentId = some content :=
    written
  rw [AttachmentController.content, answers]

/-- Every file that a listing shows can be downloaded with the credential of the listing, and has
the size and the type that the listing says.
-/
theorem listed_files_download (reachable : Reachable (step deployment) .empty state)
    {authorization : Option String} {channelId : Uuid} {responses : List Json}
    (listed : MessageController.list deployment.crypto deployment.publicUrl state.messaging
      authorization channelId = .ok responses)
    : ∀ response ∈ responses, ∃ message attachments,
        response = Compat.messageResponse message attachments deployment.publicUrl
          ∧ ∀ attachment ∈ attachments, ∃ content,
              AttachmentController.downloadContent deployment.crypto state.messaging
                  authorization attachment.id = .ok content
                ∧ content.Fits attachment := by
  obtain ⟨userId, session, enters, shown⟩ :=
    (listsWithin_of_reachable reachable authorization channelId).1 responses listed
  intro response answered
  obtain ⟨message, attachments, rfl, within, -⟩ := shown response answered
  refine ⟨message, attachments, rfl, fun attachment attached => ?_⟩
  obtain ⟨stored, linked, place, -⟩ := within.files attachment attached
  refine downloadContent_of_linked (filled_of_reachable reachable attachment.id) stored ?_ session
    (place ▸ enters)
  rw [linked]
  nofun

/-- What a request leaves of a file. -/
inductive FileLeft (state : ConversationState) (request : ConversationRequest)
    (attachmentId : Uuid) (next : ConversationState) : Prop where
  | kept (same : SameFile state.attachments next.attachments attachmentId)
  | erased (purges : request.PurgesAttachments)
      (gone : next.attachments.attachmentsById.lookup attachmentId = none)

/-- By cases of what a write does to the file; one that is linked is not written again. -/
theorem FileLeft.write {attachment : Attachment}
    (stored : start.attachments.attachmentsById.lookup attachmentId = some attachment)
    (status : attachment.status = .linked) (left : FileLeft start request attachmentId before)
    (write : Write deployment start request before after)
    : FileLeft start request attachmentId after := by
  cases left with
  | kept held =>
      have here := held.record.trans stored
      cases write.file attachmentId with
      | kept same => exact .kept ⟨same.record.trans held.record, same.content.trans held.content⟩
      | presigned presigned own new => exact absurd (Table.mem_of_lookup stored) new
      | uploaded other content found waiting =>
          cases here.symm.trans found
          exact absurd status waiting
      | linked other message found uploaded =>
          cases here.symm.trans found
          cases status.symm.trans uploaded
      | purged purges erased => exact .erased purges erased
  | erased purges gone =>
      cases write.file attachmentId with
      | kept same => exact .erased purges (same.record.trans gone)
      | presigned presigned own new => exact absurd (Table.mem_of_lookup stored) new
      | uploaded other content found => cases gone.symm.trans found
      | linked other message found => cases gone.symm.trans found
      | purged _ erased => exact .erased purges erased

/-- A purge erases a file. -/
def ErasesFile (deployment : Deployment) (attachmentId : Uuid) (state : ConversationState)
    (request : ConversationRequest) : Prop :=
  request.PurgesAttachments ∧ attachmentId ∈ state.attachments.attachmentsById
    ∧ (request.perform deployment state).attachments.attachmentsById.lookup attachmentId = none

/-- Unless a purge of the run erases it, a file that is linked to a message stays as it is under its
identifier, with its content.
-/
theorem linked_integrity {last : ConversationState} {requests : List ConversationRequest}
    {attachment : Attachment} (reachable : Reachable (step deployment) .empty state)
    (ran : run (step deployment) state requests = some last)
    (stored : state.attachments.attachmentsById.lookup attachmentId = some attachment)
    (linked : attachment.messageId ≠ none)
    : Happened (step deployment) state requests (ErasesFile deployment attachmentId)
      ∨ SameFile state.attachments last.attachments attachmentId := by
  have status := (filled_of_reachable reachable attachmentId).linked attachment stored linked
  refine or_iff_not_imp_right.mpr fun differs => (gained_of_run ConversationState.Keyed
    (fun other => ¬ SameFile state.attachments other.attachments attachmentId)
    (fun _ _ _ => step_keyed) ?_ (keyed_of_reachable reachable) (not_not_intro ⟨rfl, rfl⟩) ran
    differs).happened
  intro middle request next keyed stepped there gone
  have held := not_not.mp there
  have here := held.record.trans stored
  have left : FileLeft middle request attachmentId next :=
    step_preserves _ (fun _ _ left write => left.write here status write) keyed
      (.kept ⟨rfl, rfl⟩) stepped
  cases left with
  | kept same =>
      exact absurd ⟨same.record.trans held.record, same.content.trans held.content⟩ gone
  | erased purges lost =>
      obtain ⟨_, rfl⟩ := step_eq_some.mp stepped
      exact ⟨purges, Table.mem_of_lookup here, lost⟩

-----------------------------------------------------------------------------------------
-- A file at Acme
-----------------------------------------------------------------------------------------

namespace Acme

open OpenCord.Server.Acme

def report : Uuid := .ofNat 61

/-- Alice presigns a report, uploads it and shows it in a message. -/
def reportShown : List ConversationRequest :=
  conversation ++
    [.presignAttachment ⟨report, noon⟩ withinLimit alicePresents
        ⟨general, "report.txt", "text/plain", 12⟩,
      .uploadAttachment withinLimit alicePresents (some "text/plain") report sentFile.bytes,
      .createMessage ⟨.ofNat 53, noon⟩ (stamp 304) withinLimit alicePresents general
        ⟨"The report", [report]⟩]

end Acme

theorem report_brought
    : ∃ state content attachment userId,
        run (step Acme.server) .empty Acme.reportShown = some state
          ∧ AttachmentController.downloadContent Acme.server.crypto state.messaging
            Acme.alicePresents Acme.report = .ok content
          ∧ state.attachments.attachmentsById.lookup Acme.report = some attachment
          ∧ SessionOf Acme.server.crypto state.messaging.app Acme.alicePresents userId
          ∧ Enters state.messaging.app userId attachment.channelId .viewChannel
          ∧ Gained (step Acme.server) .empty Acme.reportShown
              (HeldFor Acme.report attachment.uploaderUserId attachment.channelId content)
              (Brings Acme.server attachment.uploaderUserId attachment.channelId content) := by
  have facts : (run (step Acme.server) .empty Acme.reportShown).any fun state =>
      (AttachmentController.downloadContent Acme.server.crypto state.messaging
        Acme.alicePresents Acme.report).toOption.isSome := by
    decide +kernel
  obtain ⟨state, ran, facts⟩ := (Option.any_eq_true _ _).mp facts
  obtain ⟨content, answered⟩ := Option.isSome_iff_exists.mp facts
  have downloaded := Eff.toOption_eq_some.mp answered
  obtain ⟨attachment, userId, brought⟩ := download_brought ran downloaded
  exact ⟨state, content, attachment, userId, ran, downloaded, brought⟩

theorem report_download
    : ∃ state responses, Reachable (step Acme.server) .empty state
        ∧ MessageController.list Acme.server.crypto Acme.server.publicUrl state.messaging
            Acme.alicePresents Server.Acme.general = .ok responses
        ∧ responses.length = 3
        ∧ ∀ response ∈ responses, ∃ message attachments,
            response = Compat.messageResponse message attachments Acme.server.publicUrl
              ∧ ∀ attachment ∈ attachments, ∃ content,
                  AttachmentController.downloadContent Acme.server.crypto state.messaging
                      Acme.alicePresents attachment.id = .ok content
                    ∧ content.Fits attachment := by
  have facts : (run (step Acme.server) .empty Acme.reportShown).any fun state =>
      (MessageController.list Acme.server.crypto Acme.server.publicUrl state.messaging
        Acme.alicePresents Server.Acme.general).toOption.any fun responses =>
          responses.length = 3 := by
    decide +kernel
  obtain ⟨state, ran, facts⟩ := (Option.any_eq_true _ _).mp facts
  obtain ⟨responses, answered, length⟩ := (Option.any_eq_true _ _).mp facts
  have listed := Eff.toOption_eq_some.mp answered
  exact ⟨state, responses, ⟨_, ran⟩, listed, of_decide_eq_true length,
    listed_files_download ⟨_, ran⟩ listed⟩

/-- The report stays when somebody tries to upload another one under its identifier. -/
theorem report_integrity
    : ∃ state attachment last, Reachable (step Acme.server) .empty state
        ∧ state.attachments.attachmentsById.lookup Acme.report = some attachment
        ∧ attachment.messageId ≠ none
        ∧ run (step Acme.server) state [.uploadAttachment Server.Acme.withinLimit
            Acme.alicePresents (some "text/plain") Acme.report []] = some last
        ∧ (Happened (step Acme.server) state [.uploadAttachment Server.Acme.withinLimit
              Acme.alicePresents (some "text/plain") Acme.report []]
              (ErasesFile Acme.server Acme.report)
            ∨ SameFile state.attachments last.attachments Acme.report) := by
  have facts : (run (step Acme.server) .empty Acme.reportShown).any fun state =>
      ((state.attachments.attachmentsById.lookup Acme.report).any fun attachment =>
          attachment.messageId ≠ none)
        ∧ (run (step Acme.server) state [.uploadAttachment Server.Acme.withinLimit
            Acme.alicePresents (some "text/plain") Acme.report []]).isSome := by
    decide +kernel
  obtain ⟨state, ran, facts⟩ := (Option.any_eq_true _ _).mp facts
  obtain ⟨found, facts⟩ := of_decide_eq_true facts
  obtain ⟨attachment, stored, linked⟩ := (Option.any_eq_true _ _).mp found
  obtain ⟨last, refused⟩ := Option.isSome_iff_exists.mp facts
  have linked := of_decide_eq_true linked
  exact ⟨state, attachment, last, ⟨_, ran⟩, stored, linked, refused,
    linked_integrity ⟨_, ran⟩ refused stored linked⟩

end OpenCord.Conversations

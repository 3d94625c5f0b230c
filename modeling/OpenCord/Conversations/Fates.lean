import OpenCord.Conversations.Chains
import OpenCord.Library.Origins

/-! What becomes of one message or one file in a write, and from it in a request and a run. -/

namespace OpenCord.Conversations

open Relation
open OpenCord.Library OpenCord.Platform OpenCord.Messages OpenCord.Attachments
  OpenCord.Realtime OpenCord.Server

variable {deployment : Deployment} {start before after : ConversationState}
  {request : ConversationRequest}

-----------------------------------------------------------------------------------------
-- Everything stays under its identifier
-----------------------------------------------------------------------------------------

/-- By cases of the writes. -/
theorem Write.keyed (write : Write deployment start request before after) (keyed : before.Keyed)
    : after.Keyed := by
  obtain ⟨app, messages, attachments, commands⟩ := keyed
  cases write with
  | elsewhere _ quiet appKeyed same =>
      refine ⟨appKeyed app, ?_, by rwa [same], quiet.commands commands⟩
      rwa [ConversationState.messages, quiet.messages]
  | posted message event =>
      exact ⟨⟨app.spaces, app.channels⟩, messages.withMessage message, attachments, commands⟩
  | changed old message event =>
      exact ⟨⟨app.spaces, app.channels⟩, messages.withMessage message, attachments, commands⟩
  | deleted message deletedAt event =>
      exact ⟨⟨app.spaces, app.channels⟩, messages.withMessage _, attachments, commands⟩
  | purged messageIds =>
      refine ⟨⟨app.spaces, app.channels⟩, fun messageId message stored => ?_, attachments,
        commands⟩
      exact messages messageId message (Table.lookup_of_eraseAll stored)
  | presigned attachment =>
      exact ⟨app, messages, Table.Keyed.insert attachments attachment, commands⟩
  | uploaded attachment content =>
      have inserted := Table.Keyed.insert attachments { attachment with status := .uploaded }
      exact ⟨app, messages, inserted, commands⟩
  | linked message attachmentIds linked stored linkable contents records =>
      refine ⟨app, messages, fun attachmentId attachment found => ?_, commands⟩
      obtain ⟨old, present, rfl⟩ :=
        Option.map_eq_some_iff.mp ((records attachmentId).symm.trans found)
      have own := attachments attachmentId old present
      split <;> exact own
  | filesPurged attachmentIds =>
      refine ⟨app, messages, fun attachmentId attachment stored => ?_, commands⟩
      exact attachments attachmentId attachment (Table.lookup_of_eraseAll stored)

/-- The step of a request whose drawn identifiers are new. -/
theorem step_eq_some {state next : ConversationState}
    : step deployment state request = some next
      ↔ request.Admissible state ∧ request.perform deployment state = next := by
  rw [step]
  split
  · next admissible => simp [admissible]
  · next not => simp [not]

/-- What every write of a request preserves, its step preserves, by induction over the chain. -/
theorem step_preserves (property : ConversationState → Prop) {state next : ConversationState}
    (write : ∀ before after, property before → Write deployment state request before after →
      property after)
    (keyed : state.Keyed) (initially : property state)
    (stepped : step deployment state request = some next)
    : property next := by
  obtain ⟨admissible, performed⟩ := step_eq_some.mp stepped
  have writes : Writes deployment state request state next :=
    performed ▸ perform_writes keyed admissible
  clear stepped performed
  induction writes with
  | refl => exact initially
  | tail _ last ih => exact write _ _ ih last

theorem step_keyed {state next : ConversationState} (keyed : state.Keyed)
    (stepped : step deployment state request = some next)
    : next.Keyed :=
  step_preserves _ (fun _ _ kept write => write.keyed kept) keyed keyed stepped

theorem keyed_empty : ConversationState.empty.Keyed :=
  ⟨⟨Table.forall_empty, Table.forall_empty⟩, Table.forall_empty, Table.forall_empty,
    Table.forall_empty⟩

/-- Everything lies under its identifier in every reachable state. -/
theorem keyed_of_reachable {state : ConversationState}
    (reachable : Reachable (step deployment) .empty state)
    : state.Keyed :=
  reachable.invariant keyed_empty fun _ _ _ => step_keyed

/-- What every write preserves where everything lies under its identifier holds in every reachable
state.
-/
theorem holds_of_reachable (property : ConversationState → Prop) {state : ConversationState}
    (initially : property .empty)
    (write : ∀ start request before after, before.Keyed → property before →
      Write deployment start request before after → property after)
    (reachable : Reachable (step deployment) .empty state)
    : property state := by
  have both : state.Keyed ∧ property state := by
    refine @Reachable.invariant _ _ _ (fun state => state.Keyed ∧ property state) _ _ reachable
      ⟨keyed_empty, initially⟩ ?_
    intro start request next held stepped
    refine step_preserves (fun state => state.Keyed ∧ property state)
      (fun before after valid written => ?_) held.1 held stepped
    exact ⟨written.keyed valid.1, write start request before after valid.1 valid.2 written⟩
  exact both.2

-----------------------------------------------------------------------------------------
-- One message
-----------------------------------------------------------------------------------------

/-- What becomes of the message under an identifier. -/
inductive MessageFate (deployment : Deployment) (start : ConversationState)
    (request : ConversationRequest) (before after : ConversationState) (messageId : Uuid)
    : Prop where
  | kept (same : after.messages.messagesById.lookup messageId
      = before.messages.messagesById.lookup messageId)
  | posted (message : Message) (own : message.id = messageId)
      (new : before.NewMessage messageId) (may : MayPost deployment start message request)
      (undeleted : message.deletedAt = none)
      (reply : ∀ referencedId ∈ message.replyToMessageId, ∃ referenced,
        before.messages.getMessage referencedId = some referenced
          ∧ referenced.channelId = message.channelId)
      (stored : after.messages.messagesById.lookup messageId = some message)
  | changed (old message : Message) (own : old.id = messageId)
      (found : before.messages.getMessage messageId = some old)
      (may : MayChange deployment start old request) (same : old.SameOrigin message)
      (stored : after.messages.messagesById.lookup messageId = some message)
  | purged (purges : request.PurgesMessages)
      (erased : after.messages.messagesById.lookup messageId = none)

theorem lookup_withMessages {state : ConversationState} {message : Message}
    {event : RealtimeEvent} {messageId : Uuid}
    : (state.withMessages (state.messages.withMessage message) event).messages.messagesById.lookup
        messageId
      = if messageId = message.id then some message
        else state.messages.messagesById.lookup messageId :=
  Table.lookup_insert_eq state.messages.messagesById message.id messageId message

/-- By cases of the writes. -/
theorem Write.message (write : Write deployment start request before after) (messageId : Uuid)
    : MessageFate deployment start request before after messageId := by
  cases write with
  | elsewhere _ quiet =>
      exact .kept (by rw [ConversationState.messages, quiet.messages]; rfl)
  | posted message event new may undeleted reply =>
      by_cases own : messageId = message.id
      · subst own
        exact .posted message rfl new may undeleted reply (by simp [lookup_withMessages])
      · exact .kept (by simp [lookup_withMessages, own])
  | changed old message event stored may same =>
      by_cases own : messageId = old.id
      · subst own
        exact .changed old message rfl stored may same (by simp [lookup_withMessages, same.id])
      · exact .kept (by simp [lookup_withMessages, same.id, own])
  | deleted message deletedAt event stored may =>
      by_cases own : messageId = message.id
      · subst own
        refine .changed message _ rfl stored may ?_ (by rw [lookup_withMessages, if_pos rfl])
        exact ⟨rfl, rfl, rfl, rfl, rfl, rfl, rfl, rfl, rfl⟩
      · exact .kept (by simp [lookup_withMessages, own])
  | purged messageIds purges =>
      have erased := Table.lookup_eraseAll messageIds before.messages.messagesById messageId
      by_cases listed : messageId ∈ messageIds
      · exact .purged purges (by rwa [if_pos listed] at erased)
      · exact .kept (by rwa [if_neg listed] at erased)
  | presigned => exact .kept rfl
  | uploaded => exact .kept rfl
  | linked => exact .kept rfl
  | filesPurged => exact .kept rfl

-----------------------------------------------------------------------------------------
-- One file
-----------------------------------------------------------------------------------------

/-- The record and the content under an identifier stay as they are. -/
structure SameFile (before after : AttachmentStore) (attachmentId : Uuid) : Prop where
  record : after.attachmentsById.lookup attachmentId = before.attachmentsById.lookup attachmentId
  content : after.contentById.lookup attachmentId = before.contentById.lookup attachmentId

/-- What becomes of the file under an identifier. -/
inductive FileFate (deployment : Deployment) (start : ConversationState)
    (request : ConversationRequest) (before after : ConversationState) (attachmentId : Uuid)
    : Prop where
  | kept (same : SameFile before.attachments after.attachments attachmentId)
  | presigned (attachment : Attachment) (own : attachment.id = attachmentId)
      (new : attachmentId ∉ start.attachments.attachmentsById)
      (may : MayUpload deployment start attachment.uploaderUserId attachment.channelId request)
      (pending : attachment.status = .pending) (unlinked : attachment.messageId = none)
      (stored : after.attachments.attachmentsById.lookup attachmentId = some attachment)
      (content : after.attachments.contentById.lookup attachmentId
        = before.attachments.contentById.lookup attachmentId)
  | uploaded (attachment : Attachment) (content : AttachmentContent)
      (found : before.attachments.attachmentsById.lookup attachmentId = some attachment)
      (unlinked : attachment.status ≠ .linked) (fits : content.Fits attachment)
      (may : MayUpload deployment start attachment.uploaderUserId attachment.channelId request)
      (carried : Carries deployment content request)
      (stored : after.attachments.attachmentsById.lookup attachmentId
        = some { attachment with status := .uploaded })
      (written : after.attachments.contentById.lookup attachmentId = some content)
  | linked (attachment : Attachment) (message : Message)
      (found : before.attachments.attachmentsById.lookup attachmentId = some attachment)
      (filled : attachment.status = .uploaded)
      (target : before.messages.getMessage message.id = some message)
      (channel : attachment.channelId = message.channelId)
      (uploader : attachment.uploaderUserId = message.authorUserId)
      (stored : after.attachments.attachmentsById.lookup attachmentId
        = some (AttachmentStore.linkedTo message.id attachment))
      (content : after.attachments.contentById.lookup attachmentId
        = before.attachments.contentById.lookup attachmentId)
  | purged (purges : request.PurgesAttachments)
      (erased : after.attachments.attachmentsById.lookup attachmentId = none)
      (dropped : after.attachments.contentById.lookup attachmentId = none)

/-- By cases of the writes. -/
theorem Write.file (write : Write deployment start request before after) (attachmentId : Uuid)
    : FileFate deployment start request before after attachmentId := by
  cases write with
  | elsewhere _ _ _ same => exact .kept ⟨by rw [same], by rw [same]⟩
  | posted => exact .kept ⟨rfl, rfl⟩
  | changed => exact .kept ⟨rfl, rfl⟩
  | deleted => exact .kept ⟨rfl, rfl⟩
  | purged => exact .kept ⟨rfl, rfl⟩
  | presigned attachment new may pending unlinked =>
      by_cases own : attachmentId = attachment.id
      · subst own
        exact .presigned attachment rfl new may pending unlinked (AList.lookup_insert _) rfl
      · exact .kept ⟨AList.lookup_insert_ne own, rfl⟩
  | uploaded attachment content stored unlinked fits may carried =>
      by_cases own : attachmentId = attachment.id
      · subst own
        exact .uploaded attachment content stored unlinked fits may carried (AList.lookup_insert _)
          (AList.lookup_insert _)
      · exact .kept ⟨AList.lookup_insert_ne own, AList.lookup_insert_ne own⟩
  | linked message attachmentIds attachments stored linkable contents records =>
      have content : attachments.contentById.lookup attachmentId
          = before.attachments.contentById.lookup attachmentId := by rw [contents]
      by_cases listed : attachmentId ∈ attachmentIds
      · obtain ⟨attachment, found, filled, channel, uploader⟩ := linkable attachmentId listed
        refine .linked attachment message found filled stored channel uploader ?_ content
        exact (records attachmentId).trans (by rw [found, Option.map_some, if_pos listed])
      · refine .kept ⟨(records attachmentId).trans ?_, content⟩
        simp [listed]
  | filesPurged attachmentIds purges =>
      have erased := Table.lookup_eraseAll attachmentIds before.attachments.attachmentsById
        attachmentId
      have dropped := Table.lookup_eraseAll attachmentIds before.attachments.contentById
        attachmentId
      by_cases listed : attachmentId ∈ attachmentIds
      · rw [if_pos listed] at erased dropped
        exact .purged purges erased dropped
      · rw [if_neg listed] at erased dropped
        exact .kept ⟨erased, dropped⟩

end OpenCord.Conversations

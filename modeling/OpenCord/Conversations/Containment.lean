import OpenCord.Conversations.Authorship

/-! What belongs to a channel stays in it: messages reply to messages of their own channel, and
link files that their author brought into it.
-/

namespace OpenCord.Conversations

open Relation
open OpenCord.Library OpenCord.Platform OpenCord.Messages OpenCord.Attachments OpenCord.Server

variable {deployment : Deployment} {start before after state next : ConversationState}
  {request : ConversationRequest} {messageId attachmentId : Uuid} {message : Message}
  {attachment : Attachment}

-----------------------------------------------------------------------------------------
-- Where records come from
-----------------------------------------------------------------------------------------

/-- A message is stored before a write with the same origin, or it is new then and replies to a
message that is stored.
-/
theorem Write.source (write : Write deployment start request before after)
    (stored : after.messages.messagesById.lookup messageId = some message)
    : (∃ old, before.messages.messagesById.lookup messageId = some old ∧ old.SameOrigin message)
      ∨ before.NewMessage messageId
        ∧ ∀ referencedId ∈ message.replyToMessageId, ∃ referenced,
            before.messages.messagesById.lookup referencedId = some referenced
              ∧ referenced.channelId = message.channelId := by
  cases write.message messageId with
  | kept same => exact .inl ⟨message, same ▸ stored, .refl message⟩
  | posted made own new may undeleted reply written =>
      cases written.symm.trans stored
      refine .inr ⟨new, fun referencedId refers => ?_⟩
      obtain ⟨referenced, found, channel⟩ := reply referencedId refers
      exact ⟨referenced, (MessageStore.getMessage_eq_some.mp found).1, channel⟩
  | changed old changed own found may same written =>
      cases written.symm.trans stored
      exact .inl ⟨old, (MessageStore.getMessage_eq_some.mp found).1, same⟩
  | purged purges erased => cases erased.symm.trans stored

/-- What no write of a file but its link touches. -/
structure SamePlace (old attachment : Attachment) : Prop where
  channelId : attachment.channelId = old.channelId
  uploaderUserId : attachment.uploaderUserId = old.uploaderUserId
  messageId : attachment.messageId = old.messageId

/-- Where the record of a file comes from in a write. -/
inductive FileSource (before : ConversationState) (attachmentId : Uuid) (attachment : Attachment)
    : Prop where
  | stored (old : Attachment)
      (found : before.attachments.attachmentsById.lookup attachmentId = some old)
      (same : SamePlace old attachment)
  | presigned (unlinked : attachment.messageId = none)
  | linked (message : Message) (target : before.messages.getMessage message.id = some message)
      (linked : attachment.messageId = some message.id)
      (channel : attachment.channelId = message.channelId)
      (uploader : attachment.uploaderUserId = message.authorUserId)

theorem Write.fileSource (write : Write deployment start request before after)
    (stored : after.attachments.attachmentsById.lookup attachmentId = some attachment)
    : FileSource before attachmentId attachment := by
  cases write.file attachmentId with
  | kept same =>
      exact .stored attachment (same.record ▸ stored) ⟨rfl, rfl, rfl⟩
  | presigned presigned own new may pending unlinked written =>
      cases written.symm.trans stored
      exact .presigned unlinked
  | uploaded old content found unlinked fits may carried written =>
      cases written.symm.trans stored
      exact .stored old found ⟨rfl, rfl, rfl⟩
  | linked old target found filled there channel uploader written =>
      cases written.symm.trans stored
      exact .linked target there rfl channel uploader
  | purged purges erased => cases erased.symm.trans stored

-----------------------------------------------------------------------------------------
-- The invariant
-----------------------------------------------------------------------------------------

/-- Replies and files stay in their channel, files with their uploader. -/
structure Contained (state : ConversationState) : Prop where
  replies : ∀ messageId message, state.messages.messagesById.lookup messageId = some message →
    ∀ referencedId ∈ message.replyToMessageId, ∀ referenced,
      state.messages.messagesById.lookup referencedId = some referenced →
        referenced.channelId = message.channelId
  files : ∀ attachmentId attachment,
    state.attachments.attachmentsById.lookup attachmentId = some attachment →
      ∀ messageId ∈ attachment.messageId, ∀ message,
        state.messages.messagesById.lookup messageId = some message →
          attachment.channelId = message.channelId
            ∧ attachment.uploaderUserId = message.authorUserId

theorem Contained.replies_write (contained : Contained before)
    (write : Write deployment start request before after)
    : ∀ messageId message, after.messages.messagesById.lookup messageId = some message →
        ∀ referencedId ∈ message.replyToMessageId, ∀ referenced,
          after.messages.messagesById.lookup referencedId = some referenced →
            referenced.channelId = message.channelId := by
  intro messageId message stored referencedId refers referenced found
  obtain ⟨old, there, same⟩ | ⟨-, reply⟩ := write.source stored
  · rw [same.replyToMessageId] at refers
    obtain ⟨target, present, origin⟩ | ⟨new, -⟩ := write.source found
    · have channel := contained.replies messageId old there referencedId refers target present
      rw [same.channelId, origin.channelId, channel]
    · exact absurd refers (new.2.1 old (Table.mem_values.mpr ⟨messageId, there⟩))
  · obtain ⟨target, present, channel⟩ := reply referencedId refers
    obtain ⟨old, there, origin⟩ | ⟨new, -⟩ := write.source found
    · cases there.symm.trans present
      rw [origin.channelId, channel]
    · exact absurd (Table.mem_of_lookup present) new.1

theorem Contained.files_write (contained : Contained before)
    (write : Write deployment start request before after)
    : ∀ attachmentId attachment,
        after.attachments.attachmentsById.lookup attachmentId = some attachment →
          ∀ messageId ∈ attachment.messageId, ∀ message,
            after.messages.messagesById.lookup messageId = some message →
              attachment.channelId = message.channelId
                ∧ attachment.uploaderUserId = message.authorUserId := by
  intro attachmentId attachment stored messageId links message found
  cases write.fileSource stored with
  | stored old there same =>
      rw [same.messageId] at links
      obtain ⟨target, present, origin⟩ | ⟨new, -⟩ := write.source found
      · have together := contained.files attachmentId old there messageId links target present
        rwa [same.channelId, same.uploaderUserId, origin.channelId, origin.authorUserId]
      · exact absurd links (new.2.2 old (Table.mem_values.mpr ⟨attachmentId, there⟩))
  | presigned unlinked =>
      rw [unlinked] at links
      cases links
  | linked target there linked channel uploader =>
      cases linked.symm.trans links
      have present := (MessageStore.getMessage_eq_some.mp there).1
      obtain ⟨old, here, origin⟩ | ⟨new, -⟩ := write.source found
      · cases here.symm.trans present
        rw [origin.channelId, origin.authorUserId]
        exact ⟨channel, uploader⟩
      · exact absurd (Table.mem_of_lookup present) new.1

/-- Replies and files are in their channel in every reachable state. -/
theorem contained_of_reachable (reachable : Reachable (step deployment) .empty state)
    : Contained state :=
  holds_of_reachable Contained ⟨nofun, nofun⟩
    (fun _ _ _ _ _ kept write => ⟨kept.replies_write write, kept.files_write write⟩) reachable

end OpenCord.Conversations

import OpenCord.Attachments.Attachment
import OpenCord.Library.Interleaving
import OpenCord.Messages.Message

/-! Concurrent uploads and message creations. An upload reads an attachment and writes the
whole record back; a creation checks its attachments one by one, stores the message, and
links the attachments afterwards.
-/

namespace OpenCord.Attachments

open OpenCord.Library OpenCord.Platform OpenCord.Messages

/-- A message that a user asks to create in a channel. -/
structure MessageDraft where
  owner : AttachmentService.AttachmentOwner
  content : String
  attachmentIds : List Uuid

/-- Where a request stands. -/
inductive AttachmentTask where
  | idle
  | uploading (attachment : Attachment)
  | validating (draft : MessageDraft) (seen rest : List Uuid)
  | creating (draft : MessageDraft)
  | linking (messageId : Uuid) (attachmentIds : List Uuid)

/-- The attachments of a message that has been created, before they are linked. -/
def AttachmentTask.links : AttachmentTask → List Uuid
  | .linking _ attachmentIds => attachmentIds
  | _ => []

/-- What an attachment shows once it is linked. -/
structure LinkedAttachment where
  attachmentId : Uuid
  messageId : Option Uuid
  content : Option AttachmentContent

/-- A message that has been created, with the attachments it was created with. -/
structure CreatedMessage where
  messageId : Uuid
  attachmentIds : List Uuid

/-- The stores, the attachments at the time they were linked, and the messages created. -/
structure AttachmentHistory where
  attachments : AttachmentStore
  messages : MessageStore
  linked : List LinkedAttachment
  created : List CreatedMessage

def AttachmentHistory.empty : AttachmentHistory := ⟨.empty, .empty, [], []⟩

inductive AttachmentMove where
  | presign (attachmentId : Uuid) (createdAt : String) (input : NewAttachment)
  | readForUpload (attachmentId : Uuid)
  | upload (uploaderUserId : Uuid) (contentType : String) (bytes : List UInt8)
  | draft (draft : MessageDraft)
  | validate
  | create (messageId : Uuid) (createdAt : String)
  | link
  /-- The user may not upload, or the request is dropped before it has written. -/
  | abandon

/-- The message of a draft. -/
def MessageDraft.create (draft : MessageDraft) (messageId : Uuid) (createdAt : String)
    : Eff MessageStore MessageError Message :=
  MessageService.create messageId createdAt draft.owner.organizationId
    (some draft.owner.spaceId) draft.owner.channelId draft.owner.uploaderUserId draft.content
    (draft.attachmentIds ≠ [])

/-- What a request does next; new attachments and messages have new identifiers. -/
def AttachmentTask.move (history : AttachmentHistory)
    : AttachmentTask → AttachmentMove → Option (AttachmentHistory × AttachmentTask)
  | .idle, .presign attachmentId createdAt input =>
      if attachmentId ∈ history.attachments.attachmentsById then
        none
      else
        let attachments :=
          (AttachmentService.createPending attachmentId createdAt input).after history.attachments
        some ({ history with attachments := attachments }, .idle)
  | .idle, .readForUpload attachmentId =>
      match AttachmentService.get history.attachments attachmentId with
      | .ok attachment => some (history, .uploading attachment)
      | .error _ => some (history, .idle)
  | .uploading attachment, .upload uploaderUserId contentType bytes =>
      let attachments := (AttachmentService.upload attachment uploaderUserId contentType
        bytes).after history.attachments
      some ({ history with attachments := attachments }, .idle)
  | .idle, .draft draft =>
      match AttachmentService.checkCount draft.attachmentIds with
      | .ok () => some (history, .validating draft [] draft.attachmentIds)
      | .error _ => some (history, .idle)
  | .validating draft _ [], .validate => some (history, .creating draft)
  | .validating draft seen (attachmentId :: rest), .validate =>
      match AttachmentService.checkForMessage history.attachments draft.owner seen
          attachmentId with
      | .ok () => some (history, .validating draft (seen ++ [attachmentId]) rest)
      | .error _ => some (history, .idle)
  | .creating draft, .create messageId createdAt =>
      if messageId ∈ history.messages.messagesById then
        none
      else
        match (draft.create messageId createdAt).exec history.messages with
        | (.ok message, messages) =>
            some ({ history with
              messages := messages
              created := ⟨message.id, draft.attachmentIds⟩ :: history.created },
              .linking message.id draft.attachmentIds)
        | (.error _, messages) => some ({ history with messages := messages }, .idle)
  | .linking messageId attachmentIds, .link =>
      match (AttachmentService.linkToMessage messageId attachmentIds).exec
          history.attachments with
      | (.ok _, attachments) =>
          some ({ history with
            attachments := attachments
            linked := attachmentIds.map (fun attachmentId =>
              ⟨attachmentId, some messageId, attachments.contentForAttachment attachmentId⟩)
                ++ history.linked }, .idle)
      | (.error _, attachments) => some ({ history with attachments := attachments }, .idle)
  | .uploading _, .abandon => some (history, .idle)
  | .validating _ _ _, .abandon => some (history, .idle)
  | .creating _, .abandon => some (history, .idle)
  | _, _ => none

/-- Requests over one attachment store and one message store. -/
abbrev AttachmentRequests := Tasks AttachmentHistory AttachmentTask

namespace AttachmentRequests

def start : AttachmentRequests := ⟨.empty, fun _ => .idle⟩

def step : AttachmentRequests → Nat × AttachmentMove → Option AttachmentRequests :=
  Tasks.step fun history task => task.move history

/-- Linked attachments stay as they were linked, and no two messages are created with the
same attachment.
-/
structure OwnedOnce (requests : AttachmentRequests) : Prop where
  stays : ∀ linked ∈ requests.shared.linked, ∃ attachment,
    requests.shared.attachments.getAttachment linked.attachmentId = some attachment
      ∧ attachment.status = .linked ∧ attachment.messageId = linked.messageId
      ∧ requests.shared.attachments.contentForAttachment linked.attachmentId = linked.content
  apart : requests.shared.created.Pairwise fun later earlier =>
    later.attachmentIds.Disjoint earlier.attachmentIds

/-- Some message with the attachment has been created and not linked. -/
def Linking (requests : AttachmentRequests) (attachmentId : Uuid) : Prop :=
  ∃ index, attachmentId ∈ (requests.tasks index).links

end AttachmentRequests

/-- A valid upload writes an attachment only while it is not linked, and a message is created
only with attachments that are neither linked nor about to be linked.
-/
def AttachmentTask.TakesFree (history : AttachmentHistory) (linking : Uuid → Prop)
    : AttachmentTask → AttachmentMove → Prop
  | .uploading attachment, .upload uploaderUserId contentType bytes =>
      (AttachmentService.uploadedContent attachment uploaderUserId contentType bytes).isOk →
        ¬ history.attachments.IsLinked attachment.id
  | .creating draft, .create _ _ =>
      (MessageService.normalizeContent draft.content (draft.attachmentIds ≠ [])).isOk →
        ∀ attachmentId ∈ draft.attachmentIds,
          ¬ history.attachments.IsLinked attachmentId ∧ ¬ linking attachmentId
  | _, _ => True

def AttachmentRequests.TakesFree (requests : AttachmentRequests)
    (action : Nat × AttachmentMove) : Prop :=
  (requests.tasks action.1).TakesFree requests.shared requests.Linking action.2

/-- The attachments that a request has read or checked are stored. -/
def AttachmentHistory.OfTask (history : AttachmentHistory) : AttachmentTask → Prop
  | .idle => True
  | .uploading attachment => attachment.id ∈ history.attachments.attachmentsById
  | .validating draft seen rest =>
      seen ++ rest = draft.attachmentIds
        ∧ ∀ attachmentId ∈ seen, attachmentId ∈ history.attachments.attachmentsById
  | .creating draft =>
      ∀ attachmentId ∈ draft.attachmentIds, attachmentId ∈ history.attachments.attachmentsById
  | .linking _ attachmentIds =>
      ∀ attachmentId ∈ attachmentIds, attachmentId ∈ history.attachments.attachmentsById

/-- A move writes one attachment record, creates a message, links its attachments, or writes
nothing.
-/
inductive Handled (history : AttachmentHistory)
    : AttachmentTask → AttachmentMove → AttachmentHistory → AttachmentTask → Prop where
  | kept (old task : AttachmentTask) (move : AttachmentMove) (messages : MessageStore)
      (quiet : old.links = [] ∧ task.links = []) (ofTask : history.OfTask task)
      (free : ∀ linking, old.TakesFree history linking move)
      : Handled history old move { history with messages := messages } task
  | presigned (attachment : Attachment) (createdAt : String) (input : NewAttachment)
      (new : attachment.id ∉ history.attachments.attachmentsById)
      (pending : attachment.status = .pending)
      : Handled history .idle (.presign attachment.id createdAt input)
          { history with
            attachments := { history.attachments with
              attachmentsById :=
                history.attachments.attachmentsById.insert attachment.id attachment } } .idle
  | uploaded (attachment : Attachment) (uploaderUserId : Uuid) (contentType : String)
      (bytes : List UInt8) (content : AttachmentContent)
      (valid : AttachmentService.uploadedContent attachment uploaderUserId contentType bytes
        = .ok content)
      : Handled history (.uploading attachment) (.upload uploaderUserId contentType bytes)
          { history with
            attachments :=
              ⟨history.attachments.attachmentsById.insert attachment.id
                { attachment with status := .uploaded },
                history.attachments.contentById.insert attachment.id content⟩ } .idle
  | created (draft : MessageDraft) (messageId : Uuid) (createdAt : String)
      (messages : MessageStore)
      (valid : (MessageService.normalizeContent draft.content
        (draft.attachmentIds ≠ [])).isOk = true)
      (stored : history.OfTask (.creating draft))
      : Handled history (.creating draft) (.create messageId createdAt)
          { history with
            messages := messages
            created := ⟨messageId, draft.attachmentIds⟩ :: history.created }
          (.linking messageId draft.attachmentIds)
  | linked (messageId : Uuid) (attachmentIds : List Uuid) (attachments : AttachmentStore)
      (contents : attachments.contentById = history.attachments.contentById)
      (records : ∀ id, attachments.attachmentsById.lookup id
        = (history.attachments.attachmentsById.lookup id).map fun attachment =>
            if id ∈ attachmentIds then AttachmentStore.linkedTo messageId attachment
            else attachment)
      : Handled history (.linking messageId attachmentIds) .link
          { history with
            attachments := attachments
            linked := attachmentIds.map (fun attachmentId =>
              ⟨attachmentId, some messageId, attachments.contentForAttachment attachmentId⟩)
                ++ history.linked } .idle

/-- Attachments lie under their own identifiers. -/
def AttachmentHistory.Keyed (history : AttachmentHistory) : Prop :=
  ∀ attachmentId attachment,
    history.attachments.attachmentsById.lookup attachmentId = some attachment →
      attachment.id = attachmentId

theorem AttachmentTask.move_handled {history next : AttachmentHistory}
    {task nextTask : AttachmentTask} {move : AttachmentMove} (keyed : history.Keyed)
    (ofTask : history.OfTask task) (moved : task.move history move = some (next, nextTask))
    : Handled history task move next nextTask := by
  rw [AttachmentTask.move.eq_def] at moved
  split at moved
  · next attachmentId createdAt input =>
      split at moved
      · cases moved
      · next new =>
          cases moved
          rw [AttachmentService.createPending, Eff.after, Eff.exec_check_bind]
          cases valid : AttachmentService.newAttachment attachmentId createdAt input with
          | error error => exact .kept _ _ _ _ ⟨rfl, rfl⟩ trivial fun _ => trivial
          | ok attachment =>
              obtain ⟨rfl, pending⟩ := AttachmentService.newAttachment_ok valid
              exact .presigned attachment createdAt input new pending
  · next attachmentId =>
      split at moved
      · next attachment found =>
          cases moved
          have stored := AttachmentService.get_eq_ok.mp found
          refine .kept _ _ _ _ ⟨rfl, rfl⟩ ?_ fun _ => trivial
          rw [AttachmentHistory.OfTask, keyed attachmentId attachment stored]
          exact Table.mem_of_lookup stored
      · cases moved
        exact .kept _ _ _ _ ⟨rfl, rfl⟩ trivial fun _ => trivial
  · next attachment uploaderUserId contentType bytes =>
      have stored : attachment.id ∈ history.attachments.attachmentsById := ofTask
      cases moved
      rw [AttachmentService.upload, Eff.after, Eff.exec_check_bind]
      cases valid : AttachmentService.uploadedContent attachment uploaderUserId contentType
          bytes with
      | error error =>
          refine .kept _ _ _ _ ⟨rfl, rfl⟩ trivial fun linking passed => ?_
          rw [valid] at passed
          cases passed
      | ok content =>
          simp only [AttachmentStore.uploadContent, Eff.exec_get_bind, if_pos stored]
          exact .uploaded attachment uploaderUserId contentType bytes content valid
  · next draft =>
      split at moved
      · cases moved
        refine .kept _ _ _ _ ⟨rfl, rfl⟩ ⟨rfl, fun id listed => ?_⟩ fun _ => trivial
        exact absurd listed List.not_mem_nil
      · cases moved
        exact .kept _ _ _ _ ⟨rfl, rfl⟩ trivial fun _ => trivial
  · next draft seen =>
      cases moved
      obtain ⟨all, stored⟩ := ofTask
      rw [List.append_nil] at all
      rw [all] at stored
      exact .kept _ _ _ _ ⟨rfl, rfl⟩ stored fun _ => trivial
  · next draft seen attachmentId rest =>
      obtain ⟨all, stored⟩ := ofTask
      split at moved
      · next passed =>
          cases moved
          refine .kept _ _ _ _ ⟨rfl, rfl⟩ ⟨?_, ?_⟩ fun _ => trivial
          · rw [List.append_assoc]
            exact all
          · intro other listed
            rcases List.mem_append.mp listed with earlier | last
            · exact stored other earlier
            · rw [List.mem_singleton.mp last]
              exact AttachmentService.stored_of_checkForMessage passed
      · cases moved
        exact .kept _ _ _ _ ⟨rfl, rfl⟩ trivial fun _ => trivial
  · next draft messageId createdAt =>
      split at moved
      · cases moved
      · simp only [MessageDraft.create, MessageService.create, MessageService.newMessage] at moved
        cases valid : MessageService.normalizeContent draft.content
            (draft.attachmentIds ≠ []) with
        | error error =>
            rw [valid] at moved
            cases moved
            refine .kept _ _ _ _ ⟨rfl, rfl⟩ trivial fun linking passed => ?_
            rw [valid] at passed
            cases passed
        | ok content =>
            have stored := ofTask
            rw [valid] at moved
            cases moved
            refine .created draft messageId createdAt _ ?_ stored
            rw [valid]
            rfl
  · next messageId attachmentIds =>
      obtain ⟨_, attachments, linked, contents, records⟩ :=
        AttachmentService.exec_linkToMessage messageId ofTask
      rw [linked] at moved
      cases moved
      exact .linked messageId attachmentIds attachments contents records
  · cases moved
    exact .kept _ _ _ _ ⟨rfl, rfl⟩ trivial fun _ => trivial
  · cases moved
    exact .kept _ _ _ _ ⟨rfl, rfl⟩ trivial fun _ => trivial
  · cases moved
    exact .kept _ _ _ _ ⟨rfl, rfl⟩ trivial fun _ => trivial
  · cases moved

namespace AttachmentHistory

def linkedIds (history : AttachmentHistory) : List Uuid :=
  history.linked.map (·.attachmentId)

def createdIds (history : AttachmentHistory) : List Uuid :=
  history.created.flatMap (·.attachmentIds)

/-- Stored attachments stay stored, so what requests have read stays true. -/
theorem OfTask.mono {history later : AttachmentHistory} {task : AttachmentTask}
    (ofTask : history.OfTask task)
    (grows : ∀ attachmentId ∈ history.attachments.attachmentsById,
      attachmentId ∈ later.attachments.attachmentsById)
    : later.OfTask task := by
  cases task with
  | idle => trivial
  | uploading attachment => exact grows attachment.id ofTask
  | validating draft seen rest => exact ⟨ofTask.1, fun id listed => grows id (ofTask.2 id listed)⟩
  | creating draft => exact fun id listed => grows id (ofTask id listed)
  | linking messageId attachmentIds => exact fun id listed => grows id (ofTask id listed)

end AttachmentHistory

namespace AttachmentRequests

/-- Every attachment of a created message has been linked to it, or is about to be. -/
structure Invariant (requests : AttachmentRequests) : Prop where
  keyed : requests.shared.Keyed
  ofTask : ∀ index, requests.shared.OfTask (requests.tasks index)
  noted : ∀ attachmentId, requests.shared.attachments.IsLinked attachmentId →
    attachmentId ∈ requests.shared.linkedIds
  used : requests.shared.linkedIds ⊆ requests.shared.createdIds
  linking : ∀ index, (requests.tasks index).links ⊆ requests.shared.createdIds
  settled : ∀ attachmentId ∈ requests.shared.createdIds,
    attachmentId ∈ requests.shared.linkedIds ∨ requests.Linking attachmentId
  unlinked : ∀ index, (requests.tasks index).links.Disjoint requests.shared.linkedIds
  alone : ∀ index other, other ≠ index →
    (requests.tasks index).links.Disjoint (requests.tasks other).links

theorem Invariant.start : AttachmentRequests.start.Invariant where
  keyed := nofun
  ofTask := fun _ => trivial
  noted := nofun
  used := nofun
  linking := fun _ => nofun
  settled := nofun
  unlinked := fun _ => nofun
  alone := fun _ _ _ => nofun

/-- Of a task that links nothing before and after it moves, nothing changes in what others
link.
-/
theorem links_withTask {requests : AttachmentRequests} {index : Nat}
    {history : AttachmentHistory} {task : AttachmentTask}
    (quiet : (requests.tasks index).links = [] ∧ task.links = []) (other : Nat)
    : ((requests.withTask index history task).tasks other).links
      = (requests.tasks other).links := by
  by_cases same : other = index
  · rw [same, Tasks.tasks_withTask_self, quiet.1, quiet.2]
  · rw [Tasks.tasks_withTask_of_ne requests same]

/-- Where nothing becomes linked and no message is created, the invariant stays. -/
theorem Invariant.quiet {requests : AttachmentRequests} (invariant : requests.Invariant)
    {index : Nat} {attachments : AttachmentStore} {messages : MessageStore}
    {task : AttachmentTask} (quiet : (requests.tasks index).links = [] ∧ task.links = [])
    (keyed : ∀ id attachment, attachments.attachmentsById.lookup id = some attachment →
      attachment.id = id)
    (grows : ∀ id ∈ requests.shared.attachments.attachmentsById,
      id ∈ attachments.attachmentsById)
    (noted : ∀ id, attachments.IsLinked id → requests.shared.attachments.IsLinked id)
    (ofTask : AttachmentHistory.OfTask
      { requests.shared with attachments := attachments, messages := messages } task)
    : Invariant (requests.withTask index
        { requests.shared with attachments := attachments, messages := messages } task) := by
  have links := @links_withTask requests index
    { requests.shared with attachments := attachments, messages := messages } task quiet
  refine {
    keyed := keyed
    ofTask := Tasks.forall_withTask _ ofTask fun other => (invariant.ofTask other).mono grows
    noted := fun id linked => invariant.noted id (noted id linked)
    used := invariant.used
    linking := fun other => ?_
    settled := fun id created => ?_
    unlinked := fun other => ?_
    alone := fun first second differs => ?_ }
  · rw [links]
    exact invariant.linking other
  · refine (invariant.settled id created).imp_right fun linking => ?_
    obtain ⟨other, listed⟩ := linking
    exact ⟨other, by rw [links]; exact listed⟩
  · rw [links]
    exact invariant.unlinked other
  · rw [links, links]
    exact invariant.alone first second differs

/-- The attachments of created messages are those that are linked or about to be. -/
theorem Invariant.mem_createdIds {requests : AttachmentRequests} (invariant : requests.Invariant)
    (owned : requests.OwnedOnce) {attachmentId : Uuid}
    : attachmentId ∈ requests.shared.createdIds
      ↔ requests.shared.attachments.IsLinked attachmentId ∨ requests.Linking attachmentId := by
  constructor
  · intro created
    refine (invariant.settled attachmentId created).imp_left fun listed => ?_
    obtain ⟨linked, mem, rfl⟩ := List.mem_map.mp listed
    obtain ⟨attachment, stored, status, _⟩ := owned.stays linked mem
    exact ⟨attachment, stored, status⟩
  · intro taken
    rcases taken with linked | ⟨index, listed⟩
    · exact invariant.used (invariant.noted attachmentId linked)
    · exact invariant.linking index listed

/-- A message that is created with free attachments is about to link them. -/
theorem Invariant.creates {requests : AttachmentRequests} (invariant : requests.Invariant)
    {index : Nat} {draft : MessageDraft} (messageId : Uuid)
    (messages : MessageStore) (moving : requests.tasks index = .creating draft)
    (free : ∀ attachmentId ∈ draft.attachmentIds, attachmentId ∉ requests.shared.createdIds)
    : Invariant (requests.withTask index
        { requests.shared with
          messages := messages
          created := ⟨messageId, draft.attachmentIds⟩ :: requests.shared.created }
        (.linking messageId draft.attachmentIds)) := by
  have stored : requests.shared.OfTask (.creating draft) := moving ▸ invariant.ofTask index
  have grows : requests.shared.createdIds
      ⊆ draft.attachmentIds ++ requests.shared.createdIds := List.subset_append_right ..
  refine {
    keyed := invariant.keyed
    ofTask := Tasks.forall_withTask _ stored invariant.ofTask
    noted := invariant.noted
    used := List.Subset.trans invariant.used grows
    linking := ?_
    settled := fun id created => ?_
    unlinked := ?_
    alone := fun first second differs => ?_ }
  · apply Tasks.forall_withTask fun task : AttachmentTask => task.links ⊆ _
    · exact List.subset_append_left ..
    · exact fun other => List.Subset.trans (invariant.linking other) grows
  · rcases List.mem_append.mp created with new | earlier
    · exact .inr ⟨index, by rw [Tasks.tasks_withTask_self]; exact new⟩
    · refine (invariant.settled id earlier).imp_right fun linking => ?_
      apply Tasks.exists_withTask fun task : AttachmentTask => id ∈ task.links
      · exact linking
      · rw [moving]
        nofun
  · apply Tasks.forall_withTask fun task : AttachmentTask => task.links.Disjoint _
    · intro id new linked
      exact free id new (invariant.used linked)
    · exact invariant.unlinked
  · by_cases firstNew : first = index
    · rw [firstNew, Tasks.tasks_withTask_self, Tasks.tasks_withTask_of_ne _ (firstNew ▸ differs)]
      intro id new listed
      exact free id new (invariant.linking second listed)
    · rw [Tasks.tasks_withTask_of_ne _ firstNew]
      by_cases secondNew : second = index
      · rw [secondNew, Tasks.tasks_withTask_self]
        intro id listed new
        exact free id new (invariant.linking first listed)
      · rw [Tasks.tasks_withTask_of_ne _ secondNew]
        exact invariant.alone first second differs

/-- Linking turns what is about to be linked into what is linked. -/
theorem Invariant.links {requests : AttachmentRequests} (invariant : requests.Invariant)
    {index : Nat} {messageId : Uuid} {attachmentIds : List Uuid} {later : AttachmentHistory}
    (moving : requests.tasks index = .linking messageId attachmentIds)
    (records : ∀ id, later.attachments.attachmentsById.lookup id
      = (requests.shared.attachments.attachmentsById.lookup id).map fun attachment =>
          if id ∈ attachmentIds then AttachmentStore.linkedTo messageId attachment
          else attachment)
    (linkedIds : later.linkedIds = attachmentIds ++ requests.shared.linkedIds)
    (createdIds : later.createdIds = requests.shared.createdIds)
    : Invariant (requests.withTask index later .idle) := by
  have ownLinks : (requests.tasks index).links = attachmentIds := by
    rw [moving]
    rfl
  refine {
    keyed := fun id attachment stored => ?_
    ofTask := Tasks.forall_withTask _ trivial fun other => (invariant.ofTask other).mono ?_
    noted := fun id linked => ?_
    used := ?_
    linking := ?_
    settled := fun id created => ?_
    unlinked := fun other => ?_
    alone := fun first second differs => ?_ }
  · obtain ⟨before, found, rfl⟩ := Option.map_eq_some_iff.mp ((records id).symm.trans stored)
    have key := invariant.keyed id before found
    split
    · exact key
    · exact key
  · intro id stored
    obtain ⟨attachment, found⟩ := Option.isSome_iff_exists.mp (AList.lookup_isSome.mpr stored)
    have answers := records id
    rw [found] at answers
    exact Table.mem_of_lookup answers
  · show id ∈ later.linkedIds
    rw [linkedIds]
    obtain ⟨attachment, stored, status⟩ := linked
    obtain ⟨before, found, rfl⟩ := Option.map_eq_some_iff.mp ((records id).symm.trans stored)
    split at status
    · next listed => exact List.mem_append_left _ listed
    · exact List.mem_append_right _ (invariant.noted id ⟨before, found, status⟩)
  · show later.linkedIds ⊆ later.createdIds
    rw [linkedIds, createdIds]
    exact List.append_subset.mpr ⟨ownLinks ▸ invariant.linking index, invariant.used⟩
  · apply Tasks.forall_withTask fun task : AttachmentTask => task.links ⊆ later.createdIds
    · nofun
    · rw [createdIds]
      exact invariant.linking
  · show id ∈ later.linkedIds ∨ _
    rw [linkedIds, List.mem_append]
    have created : id ∈ requests.shared.createdIds := createdIds ▸ created
    by_cases listed : id ∈ attachmentIds
    · exact .inl (.inl listed)
    · refine (invariant.settled id created).imp .inr fun linking => ?_
      apply Tasks.exists_withTask fun task : AttachmentTask => id ∈ task.links
      · exact linking
      · rw [ownLinks]
        exact listed
  · show List.Disjoint _ later.linkedIds
    rw [linkedIds]
    by_cases same : other = index
    · rw [same, Tasks.tasks_withTask_self]
      exact List.disjoint_nil_left _
    · rw [Tasks.tasks_withTask_of_ne _ same]
      have apart := invariant.alone other index (Ne.symm same)
      rw [ownLinks] at apart
      exact List.disjoint_append_right.mpr ⟨apart, invariant.unlinked other⟩
  · by_cases firstOwn : first = index
    · rw [firstOwn, Tasks.tasks_withTask_self]
      exact List.disjoint_nil_left _
    · rw [Tasks.tasks_withTask_of_ne _ firstOwn]
      by_cases secondOwn : second = index
      · rw [secondOwn, Tasks.tasks_withTask_self]
        exact List.disjoint_nil_right _
      · rw [Tasks.tasks_withTask_of_ne _ secondOwn]
        exact invariant.alone first second differs

/-- A record that is written as not linked links nothing. -/
theorem isLinked_of_insert {store : AttachmentStore} {attachmentId : Uuid}
    {attachment : Attachment} {contents : Table Uuid AttachmentContent}
    (notLinked : attachment.status ≠ .linked) {id : Uuid}
    (linked : AttachmentStore.IsLinked
      ⟨store.attachmentsById.insert attachmentId attachment, contents⟩ id)
    : id ≠ attachmentId ∧ store.IsLinked id := by
  obtain ⟨other, stored, status⟩ := linked
  rw [Option.mem_def, AttachmentStore.getAttachment, Table.lookup_insert_eq] at stored
  split at stored
  · cases stored
    exact absurd status notLinked
  · next differs => exact ⟨differs, other, stored, status⟩

/-- A written record leaves what is linked under other identifiers. -/
theorem OwnedOnce.insert {requests : AttachmentRequests} (owned : requests.OwnedOnce)
    {index : Nat} {task : AttachmentTask} {attachmentId : Uuid} {attachment : Attachment}
    {contents : Table Uuid AttachmentContent}
    (kept : ∀ id ≠ attachmentId,
      contents.lookup id = requests.shared.attachments.contentById.lookup id)
    (free : attachmentId ∉ requests.shared.linkedIds)
    : OwnedOnce (requests.withTask index
        { requests.shared with
          attachments :=
            ⟨requests.shared.attachments.attachmentsById.insert attachmentId attachment,
              contents⟩ } task) := by
  refine ⟨fun linked mem => ?_, owned.apart⟩
  have differs : linked.attachmentId ≠ attachmentId := by
    intro same
    exact free (same ▸ List.mem_map_of_mem mem)
  obtain ⟨stored, found, status, message, content⟩ := owned.stays linked mem
  refine ⟨stored, ?_, status, message, (kept _ differs).trans content⟩
  exact (Table.lookup_insert_eq ..).trans ((if_neg differs).trans found)

/-- The linked attachments of a state that owns them are stored as linked. -/
theorem OwnedOnce.isLinked {requests : AttachmentRequests} (owned : requests.OwnedOnce)
    {attachmentId : Uuid} (linked : attachmentId ∈ requests.shared.linkedIds)
    : requests.shared.attachments.IsLinked attachmentId := by
  obtain ⟨noted, mem, rfl⟩ := List.mem_map.mp linked
  obtain ⟨attachment, stored, status, _⟩ := owned.stays noted mem
  exact ⟨attachment, stored, status⟩

/-- What is linked now stays as it was linked, and is linked to what was created. -/
theorem OwnedOnce.links {requests : AttachmentRequests} (owned : requests.OwnedOnce)
    (invariant : requests.Invariant) {index : Nat} {messageId : Uuid}
    {attachmentIds : List Uuid} {attachments : AttachmentStore}
    (moving : requests.tasks index = .linking messageId attachmentIds)
    (contents : attachments.contentById = requests.shared.attachments.contentById)
    (records : ∀ id, attachments.attachmentsById.lookup id
      = (requests.shared.attachments.attachmentsById.lookup id).map fun attachment =>
          if id ∈ attachmentIds then AttachmentStore.linkedTo messageId attachment
          else attachment)
    : OwnedOnce (requests.withTask index
        { requests.shared with
          attachments := attachments
          linked := attachmentIds.map (fun attachmentId =>
            ⟨attachmentId, some messageId, attachments.contentForAttachment attachmentId⟩)
              ++ requests.shared.linked } .idle) := by
  refine ⟨fun linked mem => ?_, owned.apart⟩
  rcases List.mem_append.mp mem with new | earlier
  · obtain ⟨attachmentId, listed, rfl⟩ := List.mem_map.mp new
    have stored : requests.shared.OfTask (.linking messageId attachmentIds) :=
      moving ▸ invariant.ofTask index
    obtain ⟨attachment, found⟩ := Option.isSome_iff_exists.mp
      (AList.lookup_isSome.mpr (stored attachmentId listed))
    refine ⟨AttachmentStore.linkedTo messageId attachment, ?_, rfl, rfl, rfl⟩
    refine (records attachmentId).trans ?_
    rw [found, Option.map_some, if_pos listed]
  · obtain ⟨attachment, stored, status, message, content⟩ := owned.stays linked earlier
    have other : linked.attachmentId ∉ attachmentIds := by
      intro listed
      have own := invariant.unlinked index
      rw [moving] at own
      exact own listed (List.mem_map_of_mem earlier)
    refine ⟨attachment, ?_, status, message, ?_⟩
    · refine (records linked.attachmentId).trans ?_
      rw [AttachmentStore.getAttachment] at stored
      rw [stored, Option.map_some, if_neg other]
    · rw [← content]
      exact congrArg (AList.lookup _) contents

/-- A step that takes only free attachments keeps the invariant. -/
theorem Invariant.step {requests next : AttachmentRequests} {action : Nat × AttachmentMove}
    (invariant : requests.Invariant) (owned : requests.OwnedOnce)
    (stepped : requests.step action = some next) (free : requests.TakesFree action)
    : next.Invariant := by
  obtain ⟨index, move⟩ := action
  obtain ⟨history, task, moved, rfl⟩ := Tasks.step_eq_some.mp stepped
  have handled := AttachmentTask.move_handled invariant.keyed (invariant.ofTask index) moved
  rw [TakesFree] at free
  generalize moving : requests.tasks index = old at handled free
  cases handled with
  | kept _ _ move messages quiet ofTask =>
      exact invariant.quiet (moving ▸ quiet) invariant.keyed (fun _ => id) (fun _ => id) ofTask
  | presigned attachment createdAt input new pending =>
      refine invariant.quiet ⟨by rw [moving]; rfl, rfl⟩ ?_ ?_ ?_ trivial
      · exact Table.forall_insert rfl invariant.keyed
      · exact fun id stored => (AList.mem_insert _).mpr (.inr stored)
      · exact fun id linked => (isLinked_of_insert (by rw [pending]; nofun) linked).2
  | uploaded attachment uploaderUserId contentType bytes content valid =>
      refine invariant.quiet ⟨by rw [moving]; rfl, rfl⟩ ?_ ?_ ?_ trivial
      · exact Table.forall_insert rfl invariant.keyed
      · exact fun id stored => (AList.mem_insert _).mpr (.inr stored)
      · intro id linked
        have notLinked : ({ attachment with status := .uploaded } : Attachment).status ≠ .linked :=
          nofun
        exact (isLinked_of_insert notLinked linked).2
  | created draft messageId createdAt messages valid stored =>
      refine invariant.creates messageId messages moving fun id listed created => ?_
      obtain ⟨notLinked, notLinking⟩ := free valid id listed
      rcases (invariant.mem_createdIds owned).mp created with linked | linking
      · exact notLinked linked
      · exact notLinking linking
  | linked messageId attachmentIds attachments contents records =>
      refine invariant.links moving records ?_ rfl
      rw [AttachmentHistory.linkedIds, List.map_append, List.map_map]
      exact congrArg (· ++ _) (List.map_id _)

/-- A step keeps attachments owned once exactly when it takes only free ones. -/
theorem ownedOnce_step {requests next : AttachmentRequests} {action : Nat × AttachmentMove}
    (invariant : requests.Invariant) (owned : requests.OwnedOnce)
    (stepped : requests.step action = some next)
    : next.OwnedOnce ↔ requests.TakesFree action := by
  obtain ⟨index, move⟩ := action
  obtain ⟨history, task, moved, rfl⟩ := Tasks.step_eq_some.mp stepped
  have handled := AttachmentTask.move_handled invariant.keyed (invariant.ofTask index) moved
  rw [TakesFree]
  generalize moving : requests.tasks index = old at handled
  cases handled with
  | kept _ _ move messages quiet ofTask free =>
      exact iff_of_true ⟨owned.stays, owned.apart⟩ (free _)
  | presigned attachment createdAt input new pending =>
      refine iff_of_true (owned.insert (fun _ _ => rfl) fun linked => new ?_) trivial
      obtain ⟨stored, found, _⟩ := owned.isLinked linked
      exact Table.mem_of_lookup found
  | uploaded attachment uploaderUserId contentType bytes content valid =>
      constructor
      · intro later _ linked
        obtain ⟨noted, mem, same⟩ := List.mem_map.mp (invariant.noted attachment.id linked)
        obtain ⟨stored, found, status, _⟩ := later.stays noted mem
        have written := (Table.lookup_insert_eq ..).symm.trans found
        rw [if_pos same] at written
        cases written
        cases status
      · intro free
        refine owned.insert (fun id differs => AList.lookup_insert_ne differs) fun linked => ?_
        exact free (by rw [valid]; rfl) (owned.isLinked linked)
  | created draft messageId createdAt messages valid stored =>
      have apart : (∀ created ∈ requests.shared.created,
          draft.attachmentIds.Disjoint created.attachmentIds)
            ↔ ∀ id ∈ draft.attachmentIds, id ∉ requests.shared.createdIds := by
        simp only [AttachmentHistory.createdIds, List.mem_flatMap, not_exists, not_and]
        exact ⟨fun apart id listed created mem used => apart created mem listed used,
          fun apart created mem id listed used => apart id listed created mem used⟩
      have owns : ∀ id, id ∉ requests.shared.createdIds
          ↔ ¬ requests.shared.attachments.IsLinked id ∧ ¬ requests.Linking id :=
        fun id => (invariant.mem_createdIds owned).not.trans not_or
      constructor
      · intro later _ id listed
        have disjoint := (List.pairwise_cons.mp later.apart).1
        exact (owns id).mp (apart.mp disjoint id listed)
      · intro free
        refine ⟨owned.stays, List.pairwise_cons.mpr ⟨apart.mpr ?_, owned.apart⟩⟩
        exact fun id listed => (owns id).mpr (free valid id listed)
  | linked messageId attachmentIds attachments contents records =>
      exact iff_of_true (owned.links invariant moving contents records) trivial

/-- Along a run of any uploads and message creations, attachments stay with the one message
they are created with exactly when uploads and creations take only free attachments.
-/
theorem ownedOnce_iff_takesFree {actions : List (Nat × AttachmentMove)}
    {last : AttachmentRequests} (ran : run step start actions = some last)
    : Always step OwnedOnce start actions ↔ Allowed step TakesFree start actions := by
  refine @always_iff_allowed _ _ step TakesFree Invariant OwnedOnce ?_ ?_ _ _ _
    Invariant.start ⟨nofun, .nil⟩ ran
  · intro requests action next invariant owned stepped free
    exact invariant.step owned stepped free
  · intro requests action next invariant owned stepped
    exact ownedOnce_step invariant owned stepped

end AttachmentRequests

namespace Handout

def owner : AttachmentService.AttachmentOwner := ⟨.ofNat 10, .ofNat 20, .ofNat 30, .ofNat 1⟩

def attachmentId : Uuid := .ofNat 60

/-- A file that is presigned, and read by an upload. -/
def presigned : List (Nat × AttachmentMove) :=
  [(0, .presign attachmentId "2026-01-01T00:00:00.000Z"
      ⟨.ofNat 10, .ofNat 20, .ofNat 30, .ofNat 1, "notes.txt", "text/plain", 2⟩),
    (0, .readForUpload attachmentId)]

def upload : AttachmentMove := .upload (.ofNat 1) "text/plain" [104, 105]

/-- The checks of a message with the file. -/
def validated (index : Nat) : List (Nat × AttachmentMove) :=
  [(index, .draft ⟨owner, "see attached", [attachmentId]⟩), (index, .validate),
    (index, .validate)]

/-- A message with the file is created. -/
def create (index messageId : Nat) : Nat × AttachmentMove :=
  (index, .create (.ofNat messageId) "2026-01-01T00:01:00.000Z")

/-- The file is uploaded, and one message is created with it. -/
def oneMessage : List (Nat × AttachmentMove) :=
  presigned ++ (0, upload) :: validated 0 ++ [create 0 50, (0, .link)]

/-- Two requests check the file before one of them links it. -/
def twoMessages : List (Nat × AttachmentMove) :=
  presigned ++ (0, upload) :: validated 0 ++ validated 1
    ++ [create 0 50, (0, .link), create 1 51, (1, .link)]

/-- A second upload reads the file before a message links it, and writes it back after. -/
def lateUpload : List (Nat × AttachmentMove) :=
  presigned ++ (0, upload) :: (1, .readForUpload attachmentId) :: validated 0
    ++ [create 0 50, (0, .link), (1, upload)]

end Handout

namespace AttachmentRequests

/-- The first `count` requests, and no others, take part, and take only what is free among
them.
-/
def TakesFreeAmong (count : Nat) (requests : AttachmentRequests)
    (action : Nat × AttachmentMove) : Prop :=
  action.1 < count
    ∧ (requests.tasks action.1).TakesFree requests.shared
        (fun attachmentId => ∃ index < count, attachmentId ∈ (requests.tasks index).links)
        action.2

instance (count : Nat) (requests : AttachmentRequests) (action : Nat × AttachmentMove)
    : Decidable (requests.TakesFreeAmong count action) := by
  unfold TakesFreeAmong AttachmentTask.TakesFree
  refine @instDecidableAnd _ _ inferInstance ?_
  split <;> infer_instance

theorem allowed_of_takesFreeAmong {count : Nat} {actions : List (Nat × AttachmentMove)}
    (allowed : Allowed step (TakesFreeAmong count) start actions)
    : Allowed step TakesFree start actions := by
  refine @Allowed.weaken _ _ step (TakesFreeAmong count) TakesFree
    (Tasks.QuietFrom count .idle) ?_ ?_ _ _ (fun _ _ => rfl) allowed
  · intro requests action next quiet among stepped
    exact quiet.step among.1 stepped
  · intro requests action quiet among
    have links : requests.Linking
        = fun id => ∃ index < count, id ∈ (requests.tasks index).links := by
      funext id
      exact propext (quiet.exists_tasks (fun task => id ∈ task.links) nofun)
    rw [TakesFree, links]
    exact among.2

theorem oneMessage_ownedOnce
    : ∃ last, run step start Handout.oneMessage = some last
        ∧ last.shared.attachments.IsLinked Handout.attachmentId
        ∧ Always step OwnedOnce start Handout.oneMessage := by
  have allowed : Allowed step (TakesFreeAmong 1) start Handout.oneMessage := by decide +kernel
  refine ⟨_, rfl, by decide +kernel, ?_⟩
  exact (ownedOnce_iff_takesFree rfl).mpr (allowed_of_takesFreeAmong allowed)

/-- Two messages are created with one attachment. -/
theorem twoMessages_share
    : ∃ last, run step start Handout.twoMessages = some last
        ∧ last.shared.created.map (·.attachmentIds)
          = [[Handout.attachmentId], [Handout.attachmentId]]
        ∧ ¬ last.OwnedOnce := by
  have facts : (run step start Handout.twoMessages).any fun last =>
      last.shared.created.map (·.attachmentIds)
        = [[Handout.attachmentId], [Handout.attachmentId]] := by
    decide +kernel
  obtain ⟨last, ran, facts⟩ := (Option.any_eq_true _ _).mp facts
  have created := of_decide_eq_true facts
  refine ⟨last, ran, created, fun owned => ?_⟩
  have apart : (last.shared.created.map (·.attachmentIds)).Pairwise List.Disjoint :=
    List.pairwise_map.mpr owned.apart
  rw [created] at apart
  exact (List.pairwise_cons.mp apart).1 _ List.mem_cons_self List.mem_cons_self
    List.mem_cons_self

/-- An upload takes an attachment back from its message. -/
theorem lateUpload_unlinks
    : ∃ last, run step start Handout.lateUpload = some last
        ∧ last.shared.linkedIds = [Handout.attachmentId]
        ∧ ¬ last.shared.attachments.IsLinked Handout.attachmentId
        ∧ ¬ last.OwnedOnce := by
  have facts : (run step start Handout.lateUpload).any fun last =>
      last.shared.linkedIds = [Handout.attachmentId]
        ∧ ¬ last.shared.attachments.IsLinked Handout.attachmentId := by
    decide +kernel
  obtain ⟨last, ran, facts⟩ := (Option.any_eq_true _ _).mp facts
  obtain ⟨linked, notLinked⟩ := of_decide_eq_true facts
  refine ⟨last, ran, linked, notLinked, fun owned => notLinked (owned.isLinked ?_)⟩
  rw [linked]
  exact List.mem_cons_self

/-- Neither half of owning attachments once survives every order of steps. -/
theorem notOwnedOnce
    : (∃ last, run step start Handout.twoMessages = some last ∧ ¬ last.OwnedOnce)
      ∧ ∃ last, run step start Handout.lateUpload = some last ∧ ¬ last.OwnedOnce := by
  obtain ⟨shared, ranShared, _, notApart⟩ := twoMessages_share
  obtain ⟨unlinked, ranUnlinked, _, _, notStays⟩ := lateUpload_unlinks
  exact ⟨⟨shared, ranShared, notApart⟩, unlinked, ranUnlinked, notStays⟩

end AttachmentRequests

end OpenCord.Attachments

import OpenCord.Attachments.Attachment
import OpenCord.Library.Interleaving

/-! The bytes an organization is charged for are the bytes that are stored for it. Records and
contents lie in two tables, and callers write back records they have read before.
-/

namespace OpenCord.Attachments

open OpenCord.Library OpenCord.Platform

/-- The size of an attachment is one that the service accepts. -/
def Attachment.Sized (attachment : Attachment) : Prop :=
  1 ≤ attachment.sizeBytes ∧ attachment.sizeBytes ≤ maxAttachmentSizeBytes

namespace AttachmentStore

/-- The bytes of the contents that are stored for an organization's attachments. -/
def contentBytesForOrganization (store : AttachmentStore) (organizationId : Uuid) : Int :=
  let owned := store.attachmentsById.values.filter fun attachment =>
    attachment.organizationId = organizationId
  (owned.map fun attachment =>
    match store.contentForAttachment attachment.id with
    | some content => (content.bytes.length : Int)
    | none => 0).sum

/-- Every attachment past its upload has the content it announced, every content has its
attachment, and every organization is charged for the bytes of its contents.
-/
structure Accounted (store : AttachmentStore) : Prop where
  backed : ∀ attachmentId attachment, store.getAttachment attachmentId = some attachment →
    attachment.status = .uploaded ∨ attachment.status = .linked →
      attachment.Sized ∧ ∃ content, store.contentForAttachment attachmentId = some content
        ∧ (content.bytes.length : Int) = attachment.sizeBytes
        ∧ content.contentType = attachment.contentType
  owned : ∀ attachmentId content, store.contentForAttachment attachmentId = some content →
    ∃ attachment, store.getAttachment attachmentId = some attachment
  charged : ∀ organizationId,
    store.storedBytesForOrganization organizationId
      = store.contentBytesForOrganization organizationId

/-- What the two tables hold under one identifier. -/
inductive Filing (attachmentId : Uuid) : Option Attachment → Option AttachmentContent → Prop
    where
  | absent : Filing attachmentId none none
  | pending (attachment : Attachment) (key : attachment.id = attachmentId)
      (sized : attachment.Sized) (status : attachment.status = .pending)
      : Filing attachmentId (some attachment) none
  | stored (attachment : Attachment) (content : AttachmentContent)
      (key : attachment.id = attachmentId) (sized : attachment.Sized)
      (status : attachment.status ≠ .pending)
      (length : (content.bytes.length : Int) = attachment.sizeBytes)
      (contentType : content.contentType = attachment.contentType)
      : Filing attachmentId (some attachment) (some content)

/-- The two tables agree under every identifier. -/
def Filed (store : AttachmentStore) : Prop :=
  ∀ attachmentId,
    Filing attachmentId (store.getAttachment attachmentId)
      (store.contentForAttachment attachmentId)

theorem Filed.empty : Filed empty :=
  fun _ => .absent

/-- An attachment lies under its own identifier. -/
theorem Filed.key {store : AttachmentStore} (filed : store.Filed) {attachmentId : Uuid}
    {attachment : Attachment} (found : store.getAttachment attachmentId = some attachment)
    : attachment.id = attachmentId := by
  have filing := filed attachmentId
  rw [found] at filing
  generalize store.contentForAttachment attachmentId = content at filing
  cases filing with
  | pending _ key _ _ => exact key
  | stored _ _ key _ _ _ _ => exact key

theorem Filed.sized {store : AttachmentStore} (filed : store.Filed) {attachmentId : Uuid}
    {attachment : Attachment} (found : store.getAttachment attachmentId = some attachment)
    : attachment.Sized := by
  have filing := filed attachmentId
  rw [found] at filing
  generalize store.contentForAttachment attachmentId = content at filing
  cases filing with
  | pending _ _ sized _ => exact sized
  | stored _ _ _ sized _ _ _ => exact sized

/-- The bytes of one attachment count exactly as its content does. -/
theorem Filed.charge {store : AttachmentStore} (filed : store.Filed) {attachmentId : Uuid}
    {attachment : Attachment} (found : store.getAttachment attachmentId = some attachment)
    : (match store.contentForAttachment attachment.id with
        | some content => (content.bytes.length : Int)
        | none => 0)
      = if attachment.status = .uploaded ∨ attachment.status = .linked then
          attachment.sizeBytes
        else 0 := by
  have filing := filed attachmentId
  rw [filed.key found]
  rw [found] at filing
  generalize store.contentForAttachment attachmentId = stored at filing
  cases filing with
  | pending _ _ _ status => simp [status]
  | stored _ content _ _ status length _ =>
      have counted : attachment.status = .uploaded ∨ attachment.status = .linked := by
        cases kind : attachment.status with
        | pending => exact absurd kind status
        | uploaded => exact .inl rfl
        | linked => exact .inr rfl
      rw [if_pos counted]
      exact length

/-- Filtering before summing adds nothing for what is left out, by induction over the list. -/
theorem sum_map_filter {α : Type} (keep : α → Prop) [DecidablePred keep] (amount : α → Int)
    (values : List α)
    : ((values.filter fun value => keep value).map amount).sum
        = (values.map fun value => if keep value then amount value else 0).sum := by
  induction values with
  | nil => rfl
  | cons value rest ih =>
      by_cases kept : keep value
      · simp [kept, ih]
      · simp [kept, ih]

theorem Filed.accounted {store : AttachmentStore} (filed : store.Filed) : store.Accounted where
  backed attachmentId attachment found past := by
    have filing := filed attachmentId
    rw [found] at filing
    generalize store.contentForAttachment attachmentId = content at filing ⊢
    cases filing with
    | pending _ _ _ status => rw [status] at past; simp at past
    | stored _ content _ sized _ length contentType =>
        exact ⟨sized, content, rfl, length, contentType⟩
  owned attachmentId content found := by
    have filing := filed attachmentId
    rw [found] at filing
    generalize store.getAttachment attachmentId = attachment at filing ⊢
    cases filing
    exact ⟨_, rfl⟩
  charged organizationId := by
    rw [storedBytesForOrganization, contentBytesForOrganization, sum_map_filter]
    refine congrArg List.sum (List.map_congr_left fun attachment listed => ?_)
    obtain ⟨attachmentId, found⟩ := Table.mem_values.mp (List.mem_of_mem_filter listed)
    exact (filed.charge found).symm

-----------------------------------------------------------------------------------------
-- What the operations keep
-----------------------------------------------------------------------------------------

/-- A new pending attachment under an identifier that holds nothing. -/
theorem Filed.create {store : AttachmentStore} (filed : store.Filed) {attachment : Attachment}
    (new : attachment.id ∉ store.attachmentsById) (sized : attachment.Sized)
    (status : attachment.status = .pending)
    : Filed { store with
        attachmentsById := store.attachmentsById.insert attachment.id attachment } := by
  intro attachmentId
  rw [getAttachment, Table.lookup_insert_eq]
  split
  · next same =>
      have filing := filed attachment.id
      rw [getAttachment, AList.lookup_eq_none.mpr new] at filing
      rw [same]
      change Filing _ _ (store.contentForAttachment attachment.id)
      generalize store.contentForAttachment attachment.id = content at filing ⊢
      cases filing
      exact .pending attachment rfl sized status
  · exact filed attachmentId

/-- An upload writes a record and the content that the record announces. -/
theorem Filed.upload {store : AttachmentStore} (filed : store.Filed) {attachment : Attachment}
    {content : AttachmentContent} (sized : attachment.Sized)
    (status : attachment.status ≠ .pending)
    (length : (content.bytes.length : Int) = attachment.sizeBytes)
    (contentType : content.contentType = attachment.contentType)
    : Filed ⟨store.attachmentsById.insert attachment.id attachment,
        store.contentById.insert attachment.id content⟩ := by
  intro attachmentId
  rw [getAttachment, contentForAttachment, Table.lookup_insert_eq, Table.lookup_insert_eq]
  split
  · next same => exact .stored attachment content same.symm sized status length contentType
  · exact filed attachmentId

/-- Linking changes the records of some of the attachments and keeps all contents; by
induction over the attachments that are left.
-/
theorem after_linkAttachmentsToMessage (messageId : Uuid) (attachmentIds : List Uuid)
    (store : AttachmentStore)
    : ∃ linked ⊆ attachmentIds,
        ((linkAttachmentsToMessage messageId attachmentIds).after store).contentById
            = store.contentById
          ∧ ∀ id, ((linkAttachmentsToMessage messageId attachmentIds).after
                store).attachmentsById.lookup id
              = (store.attachmentsById.lookup id).map fun attachment =>
                  if id ∈ linked then linkedTo messageId attachment else attachment := by
  induction attachmentIds generalizing store with
  | nil => exact ⟨[], fun _ => id, rfl, fun id => by simp [linkAttachmentsToMessage]⟩
  | cons first rest ih =>
      rw [linkAttachmentsToMessage, Eff.after_get_bind]
      cases found : store.attachmentsById.lookup first with
      | none => exact ⟨[], List.nil_subset _, rfl, fun id => by simp⟩
      | some attachment =>
          let middle : AttachmentStore := { store with
            attachmentsById := store.attachmentsById.insert first (linkedTo messageId attachment) }
          obtain ⟨linked, listed, contents, records⟩ := ih middle
          have ended : Eff.after (do
                set middle
                let attachments ← linkAttachmentsToMessage messageId rest
                return linkedTo messageId attachment :: attachments) store
              = (linkAttachmentsToMessage messageId rest).after middle := by
            change Eff.after (linkAttachmentsToMessage messageId rest >>= _) middle = _
            rw [Eff.after, Eff.after, Eff.exec_bind]
            rcases (linkAttachmentsToMessage messageId rest).exec middle with ⟨_ | _, _⟩ <;> rfl
          refine ⟨first :: linked, List.cons_subset_cons first listed, ?_, fun id => ?_⟩
          · exact (congrArg contentById ended).trans contents
          · refine (congrArg (fun store => AList.lookup id store.attachmentsById) ended).trans ?_
            rw [records, Table.lookup_insert_eq]
            by_cases same : id = first
            · rw [if_pos same, same, found]
              simp [linkedTo]
            · rw [if_neg same]
              simp [same]

/-- No attachment of a list is stored as pending. -/
def NonePending (store : AttachmentStore) (attachmentIds : List Uuid) : Prop :=
  ∀ attachmentId ∈ attachmentIds, ∀ attachment ∈ store.getAttachment attachmentId,
    attachment.status ≠ .pending

instance (store : AttachmentStore) (attachmentIds : List Uuid)
    : Decidable (store.NonePending attachmentIds) :=
  inferInstanceAs (Decidable (∀ attachmentId ∈ attachmentIds,
    ∀ attachment ∈ store.getAttachment attachmentId, _))

/-- Linking attachments past their upload leaves the tables in agreement. -/
theorem Filed.link {store next : AttachmentStore} (filed : store.Filed) {messageId : Uuid}
    {attachmentIds linked : List Uuid} (uploaded : store.NonePending attachmentIds)
    (listed : linked ⊆ attachmentIds) (contents : next.contentById = store.contentById)
    (records : ∀ id, next.attachmentsById.lookup id
      = (store.attachmentsById.lookup id).map fun attachment =>
          if id ∈ linked then linkedTo messageId attachment else attachment)
    : next.Filed := by
  intro attachmentId
  have filing := filed attachmentId
  rw [getAttachment, records, contentForAttachment, contents]
  change Filing attachmentId ((store.getAttachment attachmentId).map _)
    (store.contentForAttachment attachmentId)
  by_cases named : attachmentId ∈ linked
  · simp only [if_pos named]
    have past := uploaded attachmentId (listed named)
    generalize store.getAttachment attachmentId = attachment at filing past ⊢
    generalize store.contentForAttachment attachmentId = content at filing ⊢
    cases filing with
    | absent => exact .absent
    | pending attachment _ _ status => exact absurd status (past attachment rfl)
    | stored attachment content key sized _ length contentType =>
        have linked : (linkedTo messageId attachment).status ≠ .pending := by simp [linkedTo]
        exact .stored (linkedTo messageId attachment) content key sized linked length contentType
  · simp only [if_neg named, Option.map_id']
    exact filing

/-- A purge takes the record and the content of an attachment together. -/
theorem Filed.purge {store : AttachmentStore} (filed : store.Filed) (organizationId : Uuid)
    (createdBefore : Option String) (dryRun : Bool)
    : Filed ((purgeForRetention organizationId createdBefore dryRun).after store) := by
  rw [Eff.after, exec_purgeForRetention]
  cases dryRun with
  | true => exact filed
  | false =>
      intro attachmentId
      simp only [getAttachment, contentForAttachment, Table.lookup_eraseAll, Bool.false_eq_true,
        if_false]
      split
      · exact .absent
      · exact filed attachmentId

end AttachmentStore

namespace AttachmentService

theorem newAttachment_sized {attachmentId : Uuid} {createdAt : String} {input : NewAttachment}
    {attachment : Attachment} (valid : newAttachment attachmentId createdAt input = .ok attachment)
    : attachment.Sized := by
  obtain ⟨_, _, valid⟩ := Eff.check_bind_eq_ok.mp valid
  obtain ⟨_, _, valid⟩ := Eff.check_bind_eq_ok.mp valid
  obtain ⟨size, normalized, valid⟩ := Eff.check_bind_eq_ok.mp valid
  cases valid
  exact (normalizeSize_ok normalized).2

/-- A presigned attachment is stored as it was built. -/
theorem exec_createPending_eq_ok {attachmentId : Uuid} {createdAt : String}
    {input : NewAttachment} {store next : AttachmentStore} {attachment : Attachment}
    : (createPending attachmentId createdAt input).exec store = (.ok attachment, next)
      ↔ newAttachment attachmentId createdAt input = .ok attachment
          ∧ { store with
              attachmentsById := store.attachmentsById.insert attachment.id attachment }
            = next := by
  rw [createPending, Eff.exec_check_bind_eq_ok]
  constructor
  · intro created
    obtain ⟨built, valid, ended⟩ := created
    cases ended
    exact ⟨valid, rfl⟩
  · intro created
    obtain ⟨valid, rfl⟩ := created
    exact ⟨attachment, valid, rfl⟩

theorem createPending_atomic (attachmentId : Uuid) (createdAt : String) (input : NewAttachment)
    : Eff.Atomic (createPending attachmentId createdAt input) :=
  .check_bind fun attachment => (Eff.Atomic.writes _).map fun _ => attachment

/-- What passes the checks of an upload is as long as announced, and of the announced type. -/
theorem uploadedContent_eq_ok {attachment : Attachment} {uploaderUserId : Uuid}
    {contentType : String} {bytes : List UInt8} {content : AttachmentContent}
    (valid : uploadedContent attachment uploaderUserId contentType bytes = .ok content)
    : (content.bytes.length : Int) = attachment.sizeBytes
        ∧ content.contentType = attachment.contentType := by
  rw [uploadedContent] at valid
  split at valid
  · cases valid
  split at valid
  · cases valid
  split at valid
  · cases valid
  · next length =>
      obtain ⟨normalized, _, valid⟩ := Eff.check_bind_eq_ok.mp valid
      split at valid
      · cases valid
      · next sameType =>
          cases valid
          exact ⟨not_not.mp length, not_not.mp sameType⟩

/-- An upload writes the record and the content of a stored attachment. -/
theorem upload_eq_ok {attachment uploaded : Attachment} {uploaderUserId : Uuid}
    {contentType : String} {bytes : List UInt8} {store next : AttachmentStore}
    (written : (upload attachment uploaderUserId contentType bytes).exec store
      = (.ok uploaded, next))
    : attachment.id ∈ store.attachmentsById ∧ uploaded = { attachment with status := .uploaded }
        ∧ ∃ content : AttachmentContent, (content.bytes.length : Int) = attachment.sizeBytes
          ∧ content.contentType = attachment.contentType
          ∧ next = ⟨store.attachmentsById.insert attachment.id
              { attachment with status := .uploaded },
              store.contentById.insert attachment.id content⟩ := by
  obtain ⟨content, valid, written⟩ := Eff.exec_check_bind_eq_ok.mp written
  obtain ⟨length, sameType⟩ := uploadedContent_eq_ok valid
  rw [AttachmentStore.uploadContent, Eff.exec_get_bind] at written
  split at written
  · next stored =>
      cases written
      exact ⟨stored, rfl, content, length, sameType, rfl⟩
  · cases written

theorem upload_atomic (attachment : Attachment) (uploaderUserId : Uuid) (contentType : String)
    (bytes : List UInt8)
    : Eff.Atomic (upload attachment uploaderUserId contentType bytes) := by
  refine .check_bind fun content => .get_bind fun store => ?_
  split
  · exact (Eff.Atomic.set _).map fun _ => _
  · exact .throw _

/-- An attachment that passes its check is stored as uploaded. -/
theorem uploaded_of_checkForMessage {store : AttachmentStore} {owner : AttachmentOwner}
    {seen : List Uuid} {attachmentId : Uuid}
    (passed : checkForMessage store owner seen attachmentId = .ok ())
    : ∃ attachment, store.getAttachment attachmentId = some attachment
        ∧ attachment.status = .uploaded := by
  rw [checkForMessage] at passed
  split at passed
  · cases passed
  · obtain ⟨attachment, found, passed⟩ := Eff.check_bind_eq_ok.mp passed
    split at passed
    · cases passed
    · next fits =>
        simp only [not_or, not_not] at fits
        exact ⟨attachment, get_eq_ok.mp found, fits.2.2.2.2.2⟩

/-- Linking changes the records of some of the attachments and keeps all contents. -/
theorem after_linkToMessage (messageId : Uuid) (attachmentIds : List Uuid)
    (store : AttachmentStore)
    : ∃ linked ⊆ attachmentIds,
        ((linkToMessage messageId attachmentIds).after store).contentById = store.contentById
          ∧ ∀ id, ((linkToMessage messageId attachmentIds).after
                store).attachmentsById.lookup id
              = (store.attachmentsById.lookup id).map fun attachment =>
                  if id ∈ linked then AttachmentStore.linkedTo messageId attachment
                  else attachment := by
  rw [linkToMessage]
  split
  · exact ⟨[], List.nil_subset _, rfl, fun id => by simp⟩
  · exact AttachmentStore.after_linkAttachmentsToMessage messageId attachmentIds store

end AttachmentService

-----------------------------------------------------------------------------------------
-- Any callers at once
-----------------------------------------------------------------------------------------

/-- The store, and every identifier that was given to an attachment. -/
structure AccountHistory where
  store : AttachmentStore
  issued : List Uuid

def AccountHistory.empty : AccountHistory := ⟨.empty, []⟩

/-- The record a caller has read, and the attachments it has uploaded or found uploaded. -/
structure AccountTask where
  inHand : Option Attachment
  ready : List Uuid

def AccountTask.start : AccountTask := ⟨none, []⟩

inductive AccountMove where
  | createPending (attachmentId : Uuid) (createdAt : String) (input : NewAttachment)
  | get (attachmentId : Uuid)
  | upload (uploaderUserId : Uuid) (contentType : String) (bytes : List UInt8)
  | checkForMessage (owner : AttachmentService.AttachmentOwner) (seen : List Uuid)
      (attachmentId : Uuid)
  | linkToMessage (messageId : Uuid) (attachmentIds : List Uuid)
  | purgeForRetention (organizationId : Uuid) (createdBefore : Option String) (dryRun : Bool)

/-- What a caller does next. New attachments have new identifiers; an upload writes the
record that the caller holds, however old it is.
-/
def AccountTask.move (history : AccountHistory) (task : AccountTask)
    : AccountMove → Option (AccountHistory × AccountTask)
  | .createPending attachmentId createdAt input =>
      if attachmentId ∈ history.issued then
        none
      else
        match (AttachmentService.createPending attachmentId createdAt input).exec
            history.store with
        | (.ok attachment, store) =>
            some (⟨store, attachmentId :: history.issued⟩, { task with inHand := attachment })
        | (.error _, store) => some (⟨store, history.issued⟩, task)
  | .get attachmentId =>
      match AttachmentService.get history.store attachmentId with
      | .ok attachment => some (history, { task with inHand := attachment })
      | .error _ => some (history, task)
  | .upload uploaderUserId contentType bytes =>
      match task.inHand with
      | none => none
      | some attachment =>
          match (AttachmentService.upload attachment uploaderUserId contentType bytes).exec
              history.store with
          | (.ok uploaded, store) =>
              some ({ history with store := store },
                ⟨some uploaded, uploaded.id :: task.ready⟩)
          | (.error _, store) => some ({ history with store := store }, task)
  | .checkForMessage owner seen attachmentId =>
      match AttachmentService.checkForMessage history.store owner seen attachmentId with
      | .ok () => some (history, { task with ready := attachmentId :: task.ready })
      | .error _ => some (history, task)
  | .linkToMessage messageId attachmentIds =>
      let store := (AttachmentService.linkToMessage messageId attachmentIds).after history.store
      some ({ history with store := store }, task)
  | .purgeForRetention organizationId createdBefore dryRun =>
      let store := (AttachmentStore.purgeForRetention organizationId createdBefore
        dryRun).after history.store
      some ({ history with store := store }, task)

/-- Callers over one attachment store. -/
abbrev Accounts := Tasks AccountHistory AccountTask

/-- The attachment has been issued, and is past its upload as long as it is stored. -/
def AccountHistory.Settled (history : AccountHistory) (attachmentId : Uuid) : Prop :=
  attachmentId ∈ history.issued ∧ history.store.NonePending [attachmentId]

/-- The tables agree, and all attachments have been issued. -/
structure AccountHistory.Sound (history : AccountHistory) : Prop where
  filed : history.store.Filed
  issued : ∀ attachmentId ∈ history.store.attachmentsById, attachmentId ∈ history.issued

/-- What a caller has in hand has a size, and what it may link is settled. -/
structure AccountHistory.OfTask (history : AccountHistory) (task : AccountTask) : Prop where
  sized : ∀ attachment ∈ task.inHand, attachment.Sized
  ready : ∀ attachmentId ∈ task.ready, history.Settled attachmentId

/-- A move leads on: to a sound history, with nothing settled lost. -/
structure AccountHistory.Onward (history next : AccountHistory) : Prop where
  sound : next.Sound
  settled : ∀ attachmentId, history.Settled attachmentId → next.Settled attachmentId

namespace AccountHistory

variable {history next : AccountHistory} {task : AccountTask}

theorem settled_iff {attachmentId : Uuid}
    : history.Settled attachmentId
      ↔ attachmentId ∈ history.issued
        ∧ ∀ attachment, history.store.getAttachment attachmentId = some attachment →
            attachment.status ≠ .pending := by
  simp [Settled, AttachmentStore.NonePending]

theorem OfTask.onward (ofTask : history.OfTask task) (onward : history.Onward next)
    : next.OfTask task :=
  ⟨ofTask.sized, fun id listed => onward.settled id (ofTask.ready id listed)⟩

theorem Sound.onward (sound : history.Sound) : history.Onward history :=
  ⟨sound, fun _ => id⟩

/-- A new attachment is issued; what was issued before stays as it was. -/
theorem Sound.create (sound : history.Sound) {attachment : Attachment}
    (new : attachment.id ∉ history.issued) (sized : attachment.Sized)
    (status : attachment.status = .pending)
    : history.Onward ⟨{ history.store with
        attachmentsById := history.store.attachmentsById.insert attachment.id attachment },
        attachment.id :: history.issued⟩ where
  sound := by
    refine ⟨sound.filed.create (fun stored => new (sound.issued _ stored)) sized status, ?_⟩
    intro id stored
    rcases (AList.mem_insert _).mp stored with same | stored
    · rw [same]
      exact List.mem_cons_self
    · exact List.mem_cons_of_mem _ (sound.issued id stored)
  settled id settled := by
    obtain ⟨issued, past⟩ := settled_iff.mp settled
    refine settled_iff.mpr ⟨List.mem_cons_of_mem _ issued, fun stored found => ?_⟩
    have differs : id ≠ attachment.id := fun same => new (same ▸ issued)
    exact past stored ((AList.lookup_insert_ne differs).symm.trans found)

/-- An upload settles its attachment. -/
theorem Sound.upload (sound : history.Sound) {attachment : Attachment}
    {content : AttachmentContent} (stored : attachment.id ∈ history.store.attachmentsById)
    (sized : attachment.Sized) (status : attachment.status ≠ .pending)
    (length : (content.bytes.length : Int) = attachment.sizeBytes)
    (contentType : content.contentType = attachment.contentType)
    {next : AccountHistory}
    (ended : next = { history with store :=
      ⟨history.store.attachmentsById.insert attachment.id attachment,
        history.store.contentById.insert attachment.id content⟩ })
    : history.Onward next ∧ next.Settled attachment.id := by
  rw [ended]
  have own := sound.issued _ stored
  refine ⟨⟨⟨sound.filed.upload sized status length contentType, ?_⟩, ?_⟩, ?_⟩
  · intro id listed
    rcases (AList.mem_insert _).mp listed with same | listed
    · rw [same]
      exact own
    · exact sound.issued id listed
  · intro id settled
    obtain ⟨issued, past⟩ := settled_iff.mp settled
    refine settled_iff.mpr ⟨issued, fun stored found => ?_⟩
    rw [AttachmentStore.getAttachment, Table.lookup_insert_eq] at found
    split at found
    · cases found
      exact status
    · exact past stored found
  · refine settled_iff.mpr ⟨own, fun found same => ?_⟩
    rw [AttachmentStore.getAttachment, AList.lookup_insert] at same
    cases same
    exact status

/-- Linking attachments past their upload keeps them past it. -/
theorem Sound.link (sound : history.Sound) (messageId : Uuid) {attachmentIds : List Uuid}
    (uploaded : history.store.NonePending attachmentIds)
    : history.Onward { history with
        store := (AttachmentService.linkToMessage messageId attachmentIds).after
          history.store } := by
  obtain ⟨linked, listed, contents, records⟩ :=
    AttachmentService.after_linkToMessage messageId attachmentIds history.store
  refine ⟨⟨sound.filed.link uploaded listed contents records, ?_⟩, ?_⟩
  · intro id stored
    refine sound.issued id (AList.lookup_isSome.mp ?_)
    have found := AList.lookup_isSome.mpr stored
    rwa [records, Option.isSome_map] at found
  · intro id settled
    obtain ⟨issued, past⟩ := settled_iff.mp settled
    refine settled_iff.mpr ⟨issued, fun stored found => ?_⟩
    rw [AttachmentStore.getAttachment, records, Option.map_eq_some_iff] at found
    obtain ⟨attachment, found, rfl⟩ := found
    split
    · simp [AttachmentStore.linkedTo]
    · exact past attachment found

theorem Sound.purge (sound : history.Sound) (organizationId : Uuid)
    (createdBefore : Option String) (dryRun : Bool)
    : history.Onward { history with
        store := (AttachmentStore.purgeForRetention organizationId createdBefore
          dryRun).after history.store } := by
  have kept : ∀ id attachment, ((AttachmentStore.purgeForRetention organizationId createdBefore
      dryRun).after history.store).getAttachment id = some attachment →
        history.store.getAttachment id = some attachment := by
    intro id attachment found
    rw [Eff.after, AttachmentStore.exec_purgeForRetention] at found
    cases dryRun with
    | true => exact found
    | false =>
        have found := (Table.lookup_eraseAll ..).symm.trans found
        split at found
        · cases found
        · exact found
  refine ⟨⟨sound.filed.purge organizationId createdBefore dryRun, ?_⟩, ?_⟩
  · intro id stored
    obtain ⟨attachment, found⟩ := Option.isSome_iff_exists.mp (AList.lookup_isSome.mpr stored)
    exact sound.issued id (Table.mem_of_lookup (kept id attachment found))
  · intro id settled
    obtain ⟨issued, past⟩ := settled_iff.mp settled
    exact settled_iff.mpr ⟨issued, fun attachment found => past attachment (kept id _ found)⟩

end AccountHistory

namespace Accounts

def start : Accounts := ⟨.empty, fun _ => .start⟩

def step : Accounts → Nat × AccountMove → Option Accounts :=
  Tasks.step fun history task => task.move history

/-- No attachment that is linked still waits for its upload. -/
def LinksUploaded (accounts : Accounts) : Nat × AccountMove → Prop
  | (_, .linkToMessage _ attachmentIds) => accounts.shared.store.NonePending attachmentIds
  | _ => True

/-- A caller links only what it has uploaded, or found uploaded at some time before. -/
def LinksReady (accounts : Accounts) : Nat × AccountMove → Prop
  | (index, .linkToMessage _ attachmentIds) => attachmentIds ⊆ (accounts.tasks index).ready
  | _ => True

instance (accounts : Accounts) : ∀ action, Decidable (accounts.LinksReady action)
  | (index, .linkToMessage _ attachmentIds) =>
      inferInstanceAs (Decidable (attachmentIds ⊆ (accounts.tasks index).ready))
  | (_, .createPending ..) | (_, .get _) | (_, .upload ..) | (_, .checkForMessage ..)
  | (_, .purgeForRetention ..) => .isTrue trivial

/-- The invariant of the callers. -/
structure Invariant (accounts : Accounts) : Prop where
  sound : accounts.shared.Sound
  ofTask : ∀ index, accounts.shared.OfTask (accounts.tasks index)

theorem Invariant.start : Invariant start :=
  ⟨⟨.empty, nofun⟩, fun _ => ⟨nofun, nofun⟩⟩

end Accounts

/-- A move that links only attachments past their upload leads on, and leaves the caller with
what it may link.
-/
theorem AccountTask.move_onward {accounts : Accounts} {index : Nat} {move : AccountMove}
    {next : AccountHistory} {task : AccountTask} (sound : accounts.shared.Sound)
    (ofTask : accounts.shared.OfTask (accounts.tasks index))
    (links : accounts.LinksUploaded (index, move))
    (moved : (accounts.tasks index).move accounts.shared move = some (next, task))
    : accounts.shared.Onward next ∧ next.OfTask task := by
  cases move with
  | createPending attachmentId createdAt input =>
      rw [AccountTask.move] at moved
      split at moved
      · cases moved
      · next new =>
          have atomic := AttachmentService.createPending_atomic attachmentId createdAt input
          split at moved
          · next attachment store created =>
              obtain ⟨valid, rfl⟩ := AttachmentService.exec_createPending_eq_ok.mp created
              obtain ⟨rfl, status⟩ := AttachmentService.newAttachment_ok valid
              obtain ⟨rfl, rfl⟩ := Prod.mk.inj (Option.some.inj moved)
              have sized := AttachmentService.newAttachment_sized valid
              have onward := sound.create new sized status
              refine ⟨onward, fun held same => ?_, (ofTask.onward onward).ready⟩
              cases same
              exact sized
          · next error store failed =>
              obtain rfl := atomic _ _ _ failed
              obtain ⟨rfl, rfl⟩ := Prod.mk.inj (Option.some.inj moved)
              exact ⟨sound.onward, ofTask⟩
  | get attachmentId =>
      rw [AccountTask.move] at moved
      split at moved
      · next attachment found =>
          obtain ⟨rfl, rfl⟩ := Prod.mk.inj (Option.some.inj moved)
          refine ⟨sound.onward, fun held same => ?_, ofTask.ready⟩
          cases same
          exact sound.filed.sized (AttachmentService.get_eq_ok.mp found)
      · obtain ⟨rfl, rfl⟩ := Prod.mk.inj (Option.some.inj moved)
        exact ⟨sound.onward, ofTask⟩
  | upload uploaderUserId contentType bytes =>
      rw [AccountTask.move] at moved
      split at moved
      · cases moved
      · next attachment held =>
          have atomic := AttachmentService.upload_atomic attachment uploaderUserId contentType
            bytes
          have sized := ofTask.sized attachment held
          split at moved
          · next uploaded store written =>
              obtain ⟨stored, rfl, content, length, sameType, rfl⟩ :=
                AttachmentService.upload_eq_ok written
              obtain ⟨rfl, rfl⟩ := Prod.mk.inj (Option.some.inj moved)
              obtain ⟨onward, settled⟩ := @AccountHistory.Sound.upload accounts.shared sound
                { attachment with status := .uploaded } content stored sized nofun length
                sameType _ rfl
              refine ⟨onward, fun other same => ?_, fun id listed => ?_⟩
              · cases same
                exact sized
              · rcases List.mem_cons.mp listed with same | earlier
                · rw [same]
                  exact settled
                · exact onward.settled id (ofTask.ready id earlier)
          · next error store failed =>
              obtain rfl := atomic _ _ _ failed
              obtain ⟨rfl, rfl⟩ := Prod.mk.inj (Option.some.inj moved)
              exact ⟨sound.onward, ofTask⟩
  | checkForMessage owner seen attachmentId =>
      rw [AccountTask.move] at moved
      split at moved
      · next passed =>
          obtain ⟨rfl, rfl⟩ := Prod.mk.inj (Option.some.inj moved)
          obtain ⟨attachment, found, status⟩ :=
            AttachmentService.uploaded_of_checkForMessage passed
          refine ⟨sound.onward, ofTask.sized, fun id listed => ?_⟩
          rcases List.mem_cons.mp listed with same | earlier
          · rw [same]
            refine AccountHistory.settled_iff.mpr
              ⟨sound.issued _ (Table.mem_of_lookup found), fun stored again => ?_⟩
            rw [found] at again
            cases again
            rw [status]
            exact nofun
          · exact ofTask.ready id earlier
      · obtain ⟨rfl, rfl⟩ := Prod.mk.inj (Option.some.inj moved)
        exact ⟨sound.onward, ofTask⟩
  | linkToMessage messageId attachmentIds =>
      obtain ⟨rfl, rfl⟩ := Prod.mk.inj (Option.some.inj moved)
      have onward := sound.link messageId links
      exact ⟨onward, ofTask.onward onward⟩
  | purgeForRetention organizationId createdBefore dryRun =>
      obtain ⟨rfl, rfl⟩ := Prod.mk.inj (Option.some.inj moved)
      have onward := sound.purge organizationId createdBefore dryRun
      exact ⟨onward, ofTask.onward onward⟩

namespace Accounts

theorem Invariant.step {accounts next : Accounts} {action : Nat × AccountMove}
    (invariant : accounts.Invariant) (links : accounts.LinksUploaded action)
    (stepped : accounts.step action = some next)
    : next.Invariant := by
  obtain ⟨index, move⟩ := action
  obtain ⟨history, task, moved, rfl⟩ := Tasks.step_eq_some.mp stepped
  obtain ⟨onward, ofTask⟩ :=
    AccountTask.move_onward invariant.sound (invariant.ofTask index) links moved
  refine ⟨onward.sound, Tasks.forall_withTask history.OfTask ofTask fun other => ?_⟩
  exact (invariant.ofTask other).onward onward

/-- What a caller may link is past its upload, whatever happened since it was checked. -/
theorem Invariant.linksUploaded {accounts : Accounts} {action : Nat × AccountMove}
    (invariant : accounts.Invariant) (ready : accounts.LinksReady action)
    : accounts.LinksUploaded action := by
  obtain ⟨index, move⟩ := action
  cases move with
  | linkToMessage messageId attachmentIds =>
      intro attachmentId listed
      have settled := (invariant.ofTask index).ready attachmentId (ready listed)
      exact settled.2 attachmentId List.mem_cons_self
  | _ => trivial

/-- Callers that link what they uploaded or checked never link a pending attachment. -/
theorem linksUploaded_of_linksReady {actions : List (Nat × AccountMove)}
    (ready : Allowed step LinksReady start actions)
    : Allowed step LinksUploaded start actions := by
  refine @Allowed.weaken _ _ step LinksReady LinksUploaded Invariant ?_ ?_ _ _ .start ready
  · intro accounts action next invariant ready stepped
    exact invariant.step (invariant.linksUploaded ready) stepped
  · intro accounts action invariant ready
    exact invariant.linksUploaded ready

/-- In every run of any callers that links no pending attachment the store is accounted for;
and callers that link only what they uploaded, or once found uploaded, make such runs.
-/
theorem accounted_of_run {actions : List (Nat × AccountMove)} {last : Accounts}
    (ran : run step start actions = some last)
    : (Allowed step LinksUploaded start actions → last.shared.store.Accounted)
      ∧ (Allowed step LinksReady start actions → Allowed step LinksUploaded start actions) := by
  refine ⟨fun links => ?_, linksUploaded_of_linksReady⟩
  have invariant : last.Invariant := by
    refine run_preserves_of_allowed ?_ .start links ran
    intro accounts action next invariant links stepped
    exact invariant.step links stepped
  exact invariant.sound.filed.accounted

end Accounts

namespace Receipt

def owner : AttachmentService.AttachmentOwner := ⟨.ofNat 10, .ofNat 20, .ofNat 30, .ofNat 1⟩

def attachmentId : Uuid := .ofNat 70

def presign : Nat × AccountMove :=
  (0, .createPending attachmentId "2026-01-01T00:00:00.000Z"
    ⟨.ofNat 10, .ofNat 20, .ofNat 30, .ofNat 1, "receipt.txt", "text/plain", 2⟩)

def upload (index : Nat) : Nat × AccountMove :=
  (index, .upload (.ofNat 1) "text/plain" [111, 107])

/-- A file is linked between two uploads of it, and outlives a purge. -/
def linked : List (Nat × AccountMove) :=
  [presign, (1, .get attachmentId), upload 0, (2, .checkForMessage owner [] attachmentId),
    (2, .linkToMessage (.ofNat 80) [attachmentId]), upload 1,
    (3, .purgeForRetention (.ofNat 10) (some "2026-01-01T00:00:00.000Z") false)]

/-- A file is linked without an upload. -/
def promised : List (Nat × AccountMove) :=
  [presign, (0, .linkToMessage (.ofNat 80) [attachmentId])]

end Receipt

namespace Accounts

theorem linked_accounted
    : ∃ last, run step start Receipt.linked = some last
        ∧ last.shared.store.storedBytesForOrganization (.ofNat 10) = 2
        ∧ last.shared.store.Accounted := by
  have ready : Allowed step LinksReady start Receipt.linked := by decide +kernel
  refine ⟨_, rfl, by decide +kernel, ?_⟩
  have ran := @accounted_of_run Receipt.linked _ rfl
  exact ran.1 (ran.2 ready)

/-- An attachment that is linked before its upload has no content. -/
theorem promised_notAccounted
    : ∃ last, run step start Receipt.promised = some last
        ∧ last.shared.store.IsLinked Receipt.attachmentId
        ∧ ¬ last.shared.store.Accounted := by
  have facts : (run step start Receipt.promised).any fun last =>
      last.shared.store.IsLinked Receipt.attachmentId
        ∧ last.shared.store.contentForAttachment Receipt.attachmentId = none := by
    decide +kernel
  obtain ⟨last, ran, facts⟩ := (Option.any_eq_true _ _).mp facts
  obtain ⟨isLinked, missing⟩ := of_decide_eq_true facts
  refine ⟨last, ran, isLinked, fun accounted => ?_⟩
  obtain ⟨attachment, found, status⟩ := isLinked
  obtain ⟨_, content, stored, _⟩ := accounted.backed _ attachment found (.inr status)
  rw [missing] at stored
  cases stored

end Accounts

end OpenCord.Attachments

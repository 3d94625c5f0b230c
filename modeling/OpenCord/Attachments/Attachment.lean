import Mathlib.Data.List.Sort
import OpenCord.Library.Effects
import OpenCord.Library.Tables
import OpenCord.Library.Text
import OpenCord.Platform.Uuid

/-! Attachments: the in-memory store of their records and contents, and the service over it. -/

namespace OpenCord.Attachments

open OpenCord.Library OpenCord.Platform

def maxAttachmentSizeBytes : Int := 10 * 1024 * 1024
def maxAttachmentsPerMessage : Nat := 10

inductive AttachmentStatus where
  | pending
  | uploaded
  | linked
  deriving DecidableEq

structure Attachment where
  id : Uuid
  organizationId : Uuid
  spaceId : Uuid
  channelId : Uuid
  messageId : Option Uuid
  uploaderUserId : Uuid
  fileName : String
  contentType : String
  sizeBytes : Int
  status : AttachmentStatus
  createdAt : String
  deriving DecidableEq

structure NewAttachment where
  organizationId : Uuid
  spaceId : Uuid
  channelId : Uuid
  uploaderUserId : Uuid
  fileName : String
  contentType : String
  sizeBytes : Int

structure AttachmentContent where
  contentType : String
  bytes : List UInt8
  deriving DecidableEq

inductive AttachmentError where
  | invalidInput (message : String)
  | notFound
  | storeUnavailable
  deriving DecidableEq

structure AttachmentStore where
  attachmentsById : Table Uuid Attachment
  contentById : Table Uuid AttachmentContent

namespace AttachmentStore

def empty : AttachmentStore := ⟨∅, ∅⟩

def createAttachment (attachment : Attachment) : Eff AttachmentStore AttachmentError Unit :=
  Eff.writes fun store =>
    { store with attachmentsById := store.attachmentsById.insert attachment.id attachment }

def getAttachment (store : AttachmentStore) (attachmentId : Uuid) : Option Attachment :=
  store.attachmentsById.lookup attachmentId

/-- The whole record is written back as uploaded, whatever is stored by now. -/
def uploadContent (attachment : Attachment) (content : AttachmentContent)
    : Eff AttachmentStore AttachmentError Attachment := do
  let store ← get
  if attachment.id ∈ store.attachmentsById then
    let attachment := { attachment with status := .uploaded }
    set (⟨store.attachmentsById.insert attachment.id attachment,
      store.contentById.insert attachment.id content⟩ : AttachmentStore)
    return attachment
  else
    throw .notFound

def contentForAttachment (store : AttachmentStore) (attachmentId : Uuid)
    : Option AttachmentContent :=
  store.contentById.lookup attachmentId

/-- Links the attachments one by one, up to the first that is not stored. -/
def linkAttachmentsToMessage (messageId : Uuid)
    : List Uuid → Eff AttachmentStore AttachmentError (List Attachment)
  | [] => return []
  | attachmentId :: attachmentIds => do
      let store ← get
      match store.attachmentsById.lookup attachmentId with
      | none => throw .notFound
      | some attachment =>
          let attachment := { attachment with messageId := some messageId, status := .linked }
          set { store with
            attachmentsById := store.attachmentsById.insert attachmentId attachment }
          let attachments ← linkAttachmentsToMessage messageId attachmentIds
          return attachment :: attachments

/-- The attachments of some messages, by identifier. -/
def listForMessageIds (store : AttachmentStore) (messageIds : List Uuid) : List Attachment :=
  (store.attachmentsById.values.filter fun attachment =>
    attachment.messageId.any fun messageId => messageId ∈ messageIds).insertionSort
      fun left right => left.id.bits ≤ right.id.bits

/-- The bytes that count against the quota of an organization. -/
def storedBytesForOrganization (store : AttachmentStore) (organizationId : Uuid) : Int :=
  let owned := store.attachmentsById.values.filter fun attachment =>
    attachment.organizationId = organizationId
  let kept := owned.filter fun attachment =>
    attachment.status = .uploaded ∨ attachment.status = .linked
  (kept.map fun attachment => attachment.sizeBytes).sum

/-- An attachment of the organization that was created before the cutoff, if there is one. -/
def IsExpired (organizationId : Uuid) (createdBefore : Option String)
    (attachment : Attachment) : Prop :=
  attachment.organizationId = organizationId
    ∧ ∃ cutoff ∈ createdBefore, attachment.createdAt < cutoff

instance (organizationId : Uuid) (createdBefore : Option String) (attachment : Attachment)
    : Decidable (IsExpired organizationId createdBefore attachment) :=
  inferInstanceAs (Decidable (_ ∧ ∃ cutoff ∈ createdBefore, _))

def expiredIds (store : AttachmentStore) (organizationId : Uuid)
    (createdBefore : Option String) : List Uuid :=
  store.attachmentsById.keysWhere (fun attachment => attachment.id)
    (IsExpired organizationId createdBefore)

def purgeForRetention (organizationId : Uuid) (createdBefore : Option String) (dryRun : Bool)
    : Eff AttachmentStore AttachmentError Nat := do
  let store ← get
  let expiredIds := store.expiredIds organizationId createdBefore
  unless dryRun do
    set (⟨store.attachmentsById.eraseAll expiredIds,
      store.contentById.eraseAll expiredIds⟩ : AttachmentStore)
  return expiredIds.length

/-- An attachment is stored as linked. -/
def IsLinked (store : AttachmentStore) (attachmentId : Uuid) : Prop :=
  ∃ attachment ∈ store.getAttachment attachmentId, attachment.status = .linked

instance (store : AttachmentStore) (attachmentId : Uuid)
    : Decidable (store.IsLinked attachmentId) :=
  inferInstanceAs (Decidable (∃ attachment ∈ store.getAttachment attachmentId, _))

end AttachmentStore

namespace AttachmentService

def normalizeFileName (fileName : String) : Except AttachmentError String :=
  let fileName := Text.trim fileName
  if fileName = "" ∨ 255 < fileName.utf8ByteSize ∨ Text.containsChar fileName '/' then
    .error (.invalidInput
      "attachment file name must be 1 to 255 characters without path separators")
  else
    .ok fileName

def normalizeContentType (contentType : String) : Except AttachmentError String :=
  let contentType := Text.toAsciiLowercase (Text.trim contentType)
  if contentType = "" ∨ 120 < contentType.utf8ByteSize
      ∨ ¬ Text.containsChar contentType '/' then
    .error (.invalidInput "attachment content type must be a valid media type")
  else
    .ok contentType

def normalizeSize (sizeBytes : Int) : Except AttachmentError Int :=
  if 1 ≤ sizeBytes ∧ sizeBytes ≤ maxAttachmentSizeBytes then
    .ok sizeBytes
  else
    .error (.invalidInput "attachment size must be between 1 byte and 10 MiB")

/-- The record of a new attachment under a drawn identifier. -/
def newAttachment (attachmentId : Uuid) (createdAt : String) (input : NewAttachment)
    : Except AttachmentError Attachment := do
  let fileName ← normalizeFileName input.fileName
  let contentType ← normalizeContentType input.contentType
  let sizeBytes ← normalizeSize input.sizeBytes
  return ⟨attachmentId, input.organizationId, input.spaceId, input.channelId, none,
    input.uploaderUserId, fileName, contentType, sizeBytes, .pending, createdAt⟩

def createPending (attachmentId : Uuid) (createdAt : String) (input : NewAttachment)
    : Eff AttachmentStore AttachmentError Attachment := do
  let attachment ← newAttachment attachmentId createdAt input
  AttachmentStore.createAttachment attachment
  return attachment

def get (store : AttachmentStore) (attachmentId : Uuid) : Except AttachmentError Attachment :=
  match store.getAttachment attachmentId with
  | some attachment => .ok attachment
  | none => .error .notFound

/-- The checks of an upload on the record that was read, and the content it stores. -/
def uploadedContent (attachment : Attachment) (uploaderUserId : Uuid) (contentType : String)
    (bytes : List UInt8) : Except AttachmentError AttachmentContent :=
  if attachment.uploaderUserId ≠ uploaderUserId then
    .error .notFound
  else if attachment.status = .linked then
    .error (.invalidInput "attachment is already linked to a message")
  else if (bytes.length : Int) ≠ attachment.sizeBytes then
    .error (.invalidInput "attachment upload size must match presign size")
  else do
    let contentType ← normalizeContentType contentType
    if contentType ≠ attachment.contentType then
      throw (.invalidInput "attachment content type must match presign content type")
    else
      return ⟨contentType, bytes⟩

def upload (attachment : Attachment) (uploaderUserId : Uuid) (contentType : String)
    (bytes : List UInt8) : Eff AttachmentStore AttachmentError Attachment := do
  let content ← uploadedContent attachment uploaderUserId contentType bytes
  AttachmentStore.uploadContent attachment content

/-- The place and the author that a message's attachments belong to. -/
structure AttachmentOwner where
  organizationId : Uuid
  spaceId : Uuid
  channelId : Uuid
  uploaderUserId : Uuid
  deriving DecidableEq

def checkCount (attachmentIds : List Uuid) : Except AttachmentError Unit :=
  if maxAttachmentsPerMessage < attachmentIds.length then
    .error (.invalidInput "message cannot include more than 10 attachments")
  else
    .ok ()

/-- The check of one attachment, after those of the `seen` ones. -/
def checkForMessage (store : AttachmentStore) (owner : AttachmentOwner) (seen : List Uuid)
    (attachmentId : Uuid) : Except AttachmentError Unit :=
  if attachmentId ∈ seen then
    .error (.invalidInput "message attachment ids must be unique")
  else do
    let attachment ← get store attachmentId
    if attachment.organizationId ≠ owner.organizationId ∨ attachment.spaceId ≠ owner.spaceId
        ∨ attachment.channelId ≠ owner.channelId
        ∨ attachment.uploaderUserId ≠ owner.uploaderUserId ∨ attachment.messageId.isSome
        ∨ attachment.status ≠ .uploaded then
      .error (.invalidInput "attachments must be uploaded files from the same channel")
    else
      .ok ()

/-- The checks of the attachments that are left, one by one. -/
def checkAllForMessage (store : AttachmentStore) (owner : AttachmentOwner)
    : List Uuid → List Uuid → Except AttachmentError Unit
  | _, [] => return
  | seen, attachmentId :: attachmentIds => do
      checkForMessage store owner seen attachmentId
      checkAllForMessage store owner (attachmentId :: seen) attachmentIds

def validateForMessage (store : AttachmentStore) (owner : AttachmentOwner)
    (attachmentIds : List Uuid) : Except AttachmentError Unit := do
  checkCount attachmentIds
  checkAllForMessage store owner [] attachmentIds

def linkToMessage (messageId : Uuid) (attachmentIds : List Uuid)
    : Eff AttachmentStore AttachmentError (List Attachment) :=
  if attachmentIds = [] then
    return []
  else
    AttachmentStore.linkAttachmentsToMessage messageId attachmentIds

end AttachmentService

-----------------------------------------------------------------------------------------
-- What the writes do
-----------------------------------------------------------------------------------------

namespace AttachmentStore

/-- The record of an attachment after it has been linked. -/
def linkedTo (messageId : Uuid) (attachment : Attachment) : Attachment :=
  { attachment with messageId := some messageId, status := .linked }

/-- Linking stored attachments succeeds, changes their records and keeps all contents; by
induction over the attachments that are left.
-/
theorem exec_linkAttachmentsToMessage (messageId : Uuid) {attachmentIds : List Uuid}
    {store : AttachmentStore} (stored : ∀ id ∈ attachmentIds, id ∈ store.attachmentsById)
    : ∃ attachments next,
        (linkAttachmentsToMessage messageId attachmentIds).exec store = (.ok attachments, next)
          ∧ next.contentById = store.contentById
          ∧ ∀ id, next.attachmentsById.lookup id
              = (store.attachmentsById.lookup id).map fun attachment =>
                  if id ∈ attachmentIds then linkedTo messageId attachment else attachment := by
  induction attachmentIds generalizing store with
  | nil => exact ⟨[], store, rfl, rfl, fun id => by simp⟩
  | cons first rest ih =>
      obtain ⟨attachment, found⟩ := Option.isSome_iff_exists.mp
        (AList.lookup_isSome.mpr (stored first List.mem_cons_self))
      let middle : AttachmentStore := { store with
        attachmentsById := store.attachmentsById.insert first (linkedTo messageId attachment) }
      have storedRest : ∀ id ∈ rest, id ∈ middle.attachmentsById := by
        intro id listed
        exact (AList.mem_insert _).mpr (.inr (stored id (List.mem_cons_of_mem _ listed)))
      obtain ⟨attachments, next, linked, contents, records⟩ := ih storedRest
      refine ⟨linkedTo messageId attachment :: attachments, next, ?_, contents, fun id => ?_⟩
      · rw [linkAttachmentsToMessage, Eff.exec_get_bind, found]
        change Eff.exec (linkAttachmentsToMessage messageId rest >>= _) middle = _
        rw [Eff.exec_bind, linked]
        rfl
      · rw [records, Table.lookup_insert_eq]
        by_cases same : id = first
        · rw [if_pos same, same, found]
          simp [linkedTo]
        · rw [if_neg same]
          simp [same]

/-- A purge answers how many attachments have expired, and erases them unless it is dry. -/
theorem exec_purgeForRetention (organizationId : Uuid) (createdBefore : Option String)
    (dryRun : Bool) (store : AttachmentStore)
    : (purgeForRetention organizationId createdBefore dryRun).exec store
        = (.ok (store.expiredIds organizationId createdBefore).length,
          if dryRun then store
          else
            ⟨store.attachmentsById.eraseAll (store.expiredIds organizationId createdBefore),
              store.contentById.eraseAll (store.expiredIds organizationId createdBefore)⟩) := by
  rw [purgeForRetention, Eff.exec_get_bind]
  cases dryRun <;> rfl

/-- Attachments lie under their own identifiers. -/
def Keyed (store : AttachmentStore) : Prop :=
  Table.Keyed (fun attachment => attachment.id) store.attachmentsById

namespace Keyed

theorem createAttachment {store : AttachmentStore} (keyed : store.Keyed)
    (attachment : Attachment)
    : ((createAttachment attachment).after store).Keyed :=
  Table.Keyed.insert keyed attachment

theorem uploadContent {store : AttachmentStore} (keyed : store.Keyed) (attachment : Attachment)
    (content : AttachmentContent)
    : ((uploadContent attachment content).after store).Keyed := by
  rw [AttachmentStore.uploadContent, Eff.after, Eff.exec_get_bind]
  split
  · exact Table.Keyed.insert keyed { attachment with status := .uploaded }
  · exact keyed

/-- By induction over the attachments that are left. -/
theorem linkAttachmentsToMessage {store : AttachmentStore} (keyed : store.Keyed)
    (messageId : Uuid) (attachmentIds : List Uuid)
    : ((linkAttachmentsToMessage messageId attachmentIds).after store).Keyed := by
  induction attachmentIds generalizing store with
  | nil => exact keyed
  | cons attachmentId rest ih =>
      rw [AttachmentStore.linkAttachmentsToMessage, Eff.after, Eff.exec_get_bind]
      cases found : store.attachmentsById.lookup attachmentId with
      | none => exact keyed
      | some attachment =>
          obtain rfl := keyed attachmentId attachment found
          let middle : AttachmentStore := { store with
            attachmentsById :=
              store.attachmentsById.insert attachment.id (linkedTo messageId attachment) }
          have linked : middle.Keyed :=
            Table.Keyed.insert keyed (linkedTo messageId attachment)
          change (Eff.after (AttachmentStore.linkAttachmentsToMessage messageId rest >>= _)
            middle).Keyed
          exact Eff.after_bind_of_after (ih linked) fun attachments => ih linked

end Keyed

end AttachmentStore

namespace AttachmentService

theorem get_eq_ok {store : AttachmentStore} {attachmentId : Uuid} {attachment : Attachment}
    : get store attachmentId = .ok attachment
      ↔ store.attachmentsById.lookup attachmentId = some attachment := by
  rw [get, AttachmentStore.getAttachment]
  split
  · next stored => rw [stored, Except.ok.injEq, Option.some.injEq]
  · next missing => rw [missing]; exact ⟨nofun, nofun⟩

theorem normalizeSize_ok {sizeBytes size : Int}
    (normalized : normalizeSize sizeBytes = .ok size)
    : sizeBytes = size ∧ 1 ≤ size ∧ size ≤ maxAttachmentSizeBytes := by
  rw [normalizeSize] at normalized
  split at normalized
  · next accepted =>
      cases normalized
      exact ⟨rfl, accepted⟩
  · cases normalized

/-- A new attachment waits for its upload under the drawn identifier. -/
theorem newAttachment_ok {attachmentId : Uuid} {createdAt : String} {input : NewAttachment}
    {attachment : Attachment} (valid : newAttachment attachmentId createdAt input = .ok attachment)
    : attachment.id = attachmentId ∧ attachment.status = .pending := by
  obtain ⟨_, _, valid⟩ := Eff.check_bind_eq_ok.mp valid
  obtain ⟨_, _, valid⟩ := Eff.check_bind_eq_ok.mp valid
  obtain ⟨_, _, valid⟩ := Eff.check_bind_eq_ok.mp valid
  cases valid
  exact ⟨rfl, rfl⟩

/-- An attachment that passes its check is stored. -/
theorem stored_of_checkForMessage {store : AttachmentStore} {owner : AttachmentOwner}
    {seen : List Uuid} {attachmentId : Uuid}
    (passed : checkForMessage store owner seen attachmentId = .ok ())
    : attachmentId ∈ store.attachmentsById := by
  rw [checkForMessage] at passed
  split at passed
  · cases passed
  · obtain ⟨attachment, found, _⟩ := Eff.check_bind_eq_ok.mp passed
    exact Table.mem_of_lookup (get_eq_ok.mp found)

/-- The attachments that pass are stored, by induction over them. -/
theorem stored_of_checkAllForMessage {store : AttachmentStore} {owner : AttachmentOwner}
    {seen attachmentIds : List Uuid}
    (passed : checkAllForMessage store owner seen attachmentIds = .ok ())
    : ∀ id ∈ attachmentIds, id ∈ store.attachmentsById := by
  induction attachmentIds generalizing seen with
  | nil => exact fun _ listed => absurd listed List.not_mem_nil
  | cons first rest ih =>
      obtain ⟨_, checked, passed⟩ := Eff.check_bind_eq_ok.mp passed
      exact List.forall_mem_cons.mpr ⟨stored_of_checkForMessage checked, ih passed⟩

/-- Linking stored attachments succeeds, changes their records and keeps all contents. -/
theorem exec_linkToMessage (messageId : Uuid) {attachmentIds : List Uuid}
    {store : AttachmentStore} (stored : ∀ id ∈ attachmentIds, id ∈ store.attachmentsById)
    : ∃ attachments next,
        (linkToMessage messageId attachmentIds).exec store = (.ok attachments, next)
          ∧ next.contentById = store.contentById
          ∧ ∀ id, next.attachmentsById.lookup id
              = (store.attachmentsById.lookup id).map fun attachment =>
                  if id ∈ attachmentIds then AttachmentStore.linkedTo messageId attachment
                  else attachment := by
  rw [linkToMessage]
  split
  · next none =>
      rw [none]
      exact ⟨[], store, rfl, rfl, fun id => by simp⟩
  · exact AttachmentStore.exec_linkAttachmentsToMessage messageId stored

end AttachmentService

end OpenCord.Attachments

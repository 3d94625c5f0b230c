import OpenCord.Attachments.Attachment
import OpenCord.Library.Failures

/-! Linking attachments to a message when it fails halfway. Both stores link one attachment after
the other and keep what they have linked when a later one fails: the in-memory store at an
attachment that is not stored, and the Postgres store at a statement that updates no row or is
not answered.
-/

namespace OpenCord.Attachments

open OpenCord.Library OpenCord.Platform

namespace AttachmentStore

/-- All that can be read of the attachments: their records and contents. -/
def readings (store : AttachmentStore) : Uuid → Option Attachment × Option AttachmentContent :=
  fun attachmentId =>
    (store.getAttachment attachmentId, store.contentForAttachment attachmentId)

/-- The attachment is stored as linked to the message already. -/
def LinkedTo (store : AttachmentStore) (messageId attachmentId : Uuid) : Prop :=
  ∃ attachment ∈ store.getAttachment attachmentId,
    attachment.messageId = some messageId ∧ attachment.status = .linked

instance (store : AttachmentStore) (messageId attachmentId : Uuid)
    : Decidable (store.LinkedTo messageId attachmentId) :=
  inferInstanceAs (Decidable (∃ attachment ∈ store.getAttachment attachmentId, _))

/-- Up to an attachment that is not stored, linking changes the records of the ones before it;
by induction over these.
-/
theorem exec_linkAttachmentsToMessage_of_missing (messageId : Uuid) {before rest : List Uuid}
    {missing : Uuid} {store : AttachmentStore} (stored : ∀ id ∈ before, id ∈ store.attachmentsById)
    (absent : missing ∉ store.attachmentsById)
    : ∃ next, (linkAttachmentsToMessage messageId (before ++ missing :: rest)).exec store
          = (.error .notFound, next)
        ∧ next.contentById = store.contentById
        ∧ ∀ id, next.attachmentsById.lookup id
            = (store.attachmentsById.lookup id).map fun attachment =>
                if id ∈ before then linkedTo messageId attachment else attachment := by
  induction before generalizing store with
  | nil =>
      refine ⟨store, ?_, rfl, fun id => by simp⟩
      rw [List.nil_append, linkAttachmentsToMessage, Eff.exec_get_bind,
        AList.lookup_eq_none.mpr absent]
      rfl
  | cons first before ih =>
      obtain ⟨attachment, found⟩ := Option.isSome_iff_exists.mp
        (AList.lookup_isSome.mpr (stored first List.mem_cons_self))
      let middle : AttachmentStore := { store with
        attachmentsById := store.attachmentsById.insert first (linkedTo messageId attachment) }
      have storedRest : ∀ id ∈ before, id ∈ middle.attachmentsById := by
        intro id listed
        exact (AList.mem_insert _).mpr (.inr (stored id (List.mem_cons_of_mem _ listed)))
      have absentStill : missing ∉ middle.attachmentsById := by
        intro found
        rcases (AList.mem_insert _).mp found with same | found
        · exact absent (same ▸ stored first List.mem_cons_self)
        · exact absent found
      obtain ⟨next, failed, contents, records⟩ := ih storedRest absentStill
      refine ⟨next, ?_, contents, fun id => ?_⟩
      · rw [List.cons_append, linkAttachmentsToMessage, Eff.exec_get_bind, found]
        change Eff.exec (linkAttachmentsToMessage messageId (before ++ missing :: rest) >>= _)
          middle = _
        rw [Eff.exec_bind, failed]
      · rw [records, Table.lookup_insert_eq]
        by_cases same : id = first
        · rw [if_pos same, same, found]
          simp [linkedTo]
        · rw [if_neg same]
          simp [same]

/-- An attachment that is linked to the message already is not changed by linking it. -/
theorem linkedTo_eq_self {messageId : Uuid} {attachment : Attachment}
    : linkedTo messageId attachment = attachment
      ↔ attachment.messageId = some messageId ∧ attachment.status = .linked := by
  rcases attachment with ⟨⟩
  simp only [linkedTo, Attachment.mk.injEq, true_and, and_true]
  exact ⟨fun same => ⟨same.1.symm, same.2.symm⟩, fun same => ⟨same.1.symm, same.2.symm⟩⟩

/-- Attachments are read as before exactly if all that were linked had been linked before. -/
theorem readings_eq_iff {store next : AttachmentStore} {messageId : Uuid} {linked : List Uuid}
    (stored : ∀ id ∈ linked, id ∈ store.attachmentsById)
    (contents : next.contentById = store.contentById)
    (records : ∀ id, next.attachmentsById.lookup id
      = (store.attachmentsById.lookup id).map fun attachment =>
          if id ∈ linked then linkedTo messageId attachment else attachment)
    : next.readings = store.readings ↔ ∀ id ∈ linked, store.LinkedTo messageId id := by
  constructor
  · intro same id listed
    obtain ⟨attachment, found⟩ := Option.isSome_iff_exists.mp
      (AList.lookup_isSome.mpr (stored id listed))
    have kept : next.attachmentsById.lookup id = store.attachmentsById.lookup id :=
      congrArg (fun readings => (readings id).1) same
    rw [records, found, Option.map_some, if_pos listed, Option.some.injEq, linkedTo_eq_self] at kept
    exact ⟨attachment, found, kept⟩
  · intro linkedBefore
    funext id
    refine Prod.ext ?_ (congrArg (AList.lookup id) contents)
    change next.attachmentsById.lookup id = store.attachmentsById.lookup id
    rw [records]
    by_cases listed : id ∈ linked
    · obtain ⟨attachment, found, already⟩ := linkedBefore id listed
      rw [show store.attachmentsById.lookup id = some attachment from found, Option.map_some,
        if_pos listed, linkedTo_eq_self.mpr already]
    · simp [listed]

/-- What is listed from the first missing attachment on. -/
theorem exists_missing {store : AttachmentStore} {attachmentIds : List Uuid}
    (incomplete : ¬ ∀ id ∈ attachmentIds, id ∈ store.attachmentsById)
    : ∃ missing rest, attachmentIds
          = attachmentIds.takeWhile (· ∈ store.attachmentsById) ++ missing :: rest
        ∧ missing ∉ store.attachmentsById := by
  induction attachmentIds with
  | nil => exact absurd (fun id listed => absurd listed List.not_mem_nil) incomplete
  | cons first rest ih =>
      by_cases stored : first ∈ store.attachmentsById
      · obtain ⟨missing, later, split, absent⟩ := ih fun complete =>
          incomplete (List.forall_mem_cons.mpr ⟨stored, complete⟩)
        refine ⟨missing, later, ?_, absent⟩
        simp only [List.takeWhile_cons, stored, decide_true, if_true, List.cons_append]
        rw [← split]
      · refine ⟨first, rest, ?_, stored⟩
        simp only [List.takeWhile_cons, stored, decide_false, Bool.false_eq_true, if_false,
          List.nil_append]

/-- A failure to link leaves no trace exactly if nothing is missing, or all that is listed before
the first missing attachment is linked to the message already.
-/
theorem traceless_linkAttachmentsToMessage_iff (store : AttachmentStore) (messageId : Uuid)
    (attachmentIds : List Uuid)
    : (linkAttachmentsToMessage messageId attachmentIds).Traceless readings store
      ↔ (∀ id ∈ attachmentIds, id ∈ store.attachmentsById)
        ∨ ∀ id ∈ attachmentIds.takeWhile (· ∈ store.attachmentsById),
          store.LinkedTo messageId id := by
  by_cases stored : ∀ id ∈ attachmentIds, id ∈ store.attachmentsById
  · obtain ⟨attachments, next, linked, _⟩ := exec_linkAttachmentsToMessage messageId stored
    exact iff_of_true (Eff.traceless_of_ok linked) (.inl stored)
  rw [or_iff_right stored]
  let before := attachmentIds.takeWhile (· ∈ store.attachmentsById)
  have storedBefore : ∀ id ∈ before, id ∈ store.attachmentsById := fun id listed =>
    of_decide_eq_true (@List.mem_takeWhile_imp _ (fun id => decide (id ∈ store.attachmentsById))
      attachmentIds id listed)
  obtain ⟨missing, rest, split, absent⟩ := exists_missing stored
  obtain ⟨next, failed, contents, records⟩ :=
    exec_linkAttachmentsToMessage_of_missing messageId storedBefore absent
  rw [← split] at failed
  rw [Eff.traceless_iff_of_error failed]
  exact readings_eq_iff storedBefore contents records

end AttachmentStore

-----------------------------------------------------------------------------------------
-- The Postgres store
-----------------------------------------------------------------------------------------

/-- The table of attachments in the database; its content column is not written here. -/
structure AttachmentRows where
  rowsById : Table Uuid Attachment

/-- A statement for one attachment, and whether the database answers it. A statement that is not
answered is taken to change nothing.
-/
structure LinkStatement where
  attachmentId : Uuid
  answered : Bool
  deriving DecidableEq

namespace AttachmentRows

/-- Which rows the statement selects. -/
def Linkable (store : AttachmentRows) (attachmentId : Uuid) : Prop :=
  ∃ attachment ∈ store.rowsById.lookup attachmentId,
    attachment.messageId = none ∧ attachment.status = .uploaded

instance (store : AttachmentRows) (attachmentId : Uuid)
    : Decidable (store.Linkable attachmentId) :=
  inferInstanceAs (Decidable (∃ attachment ∈ store.rowsById.lookup attachmentId, _))

/-- Links the selected row, and returns it. -/
def updateLinked (messageId : Uuid) (statement : LinkStatement)
    : Eff AttachmentRows AttachmentError (Option Attachment) := do
  let store ← get
  if statement.answered then
    let row := (store.rowsById.lookup statement.attachmentId).filter fun attachment =>
      attachment.messageId = none ∧ attachment.status = .uploaded
    match row with
    | some attachment =>
        let attachment := AttachmentStore.linkedTo messageId attachment
        set (⟨store.rowsById.insert statement.attachmentId attachment⟩ : AttachmentRows)
        return some attachment
    | none => return none
  else
    throw .storeUnavailable

/-- One statement for each attachment, outside a transaction. -/
def linkAttachmentsToMessage (messageId : Uuid)
    : List LinkStatement → Eff AttachmentRows AttachmentError (List Attachment)
  | [] => return []
  | statement :: statements => do
      let row ← updateLinked messageId statement
      match row with
      | none => throw .notFound
      | some attachment =>
          let attachments ← linkAttachmentsToMessage messageId statements
          return attachment :: attachments

/-- All that can be read of the rows. -/
def readings (store : AttachmentRows) : Uuid → Option Attachment :=
  fun attachmentId => store.rowsById.lookup attachmentId

/-- The statement is answered with the row that it links. -/
def Accepts (store : AttachmentRows) (statement : LinkStatement) : Prop :=
  statement.answered ∧ store.Linkable statement.attachmentId

instance (store : AttachmentRows) (statement : LinkStatement)
    : Decidable (store.Accepts statement) :=
  inferInstanceAs (Decidable (_ ∧ _))

/-- The table with one row linked. -/
def withLinked (store : AttachmentRows) (messageId attachmentId : Uuid) (attachment : Attachment)
    : AttachmentRows :=
  ⟨store.rowsById.insert attachmentId (AttachmentStore.linkedTo messageId attachment)⟩

/-- An accepted statement links its row. -/
theorem exec_updateLinked_of_accepts {store : AttachmentRows} {messageId : Uuid}
    {statement : LinkStatement} (accepts : store.Accepts statement)
    : ∃ attachment, store.rowsById.lookup statement.attachmentId = some attachment
        ∧ attachment.messageId = none
        ∧ (updateLinked messageId statement).exec store
          = (.ok (some (AttachmentStore.linkedTo messageId attachment)),
            store.withLinked messageId statement.attachmentId attachment) := by
  obtain ⟨answered, attachment, found, free, uploaded⟩ := accepts
  refine ⟨attachment, found, free, ?_⟩
  rw [updateLinked, Eff.exec_get_bind, if_pos answered, Option.mem_def.mp found]
  simp only [Option.filter_some, free, uploaded, and_self, decide_true, if_true]
  rfl

/-- At a statement that is not accepted linking fails, and changes nothing. -/
theorem exec_link_of_not_accepts {store : AttachmentRows} (messageId : Uuid)
    {statement : LinkStatement} (statements : List LinkStatement)
    (refuses : ¬ store.Accepts statement)
    : ∃ error, (linkAttachmentsToMessage messageId (statement :: statements)).exec store
        = (.error error, store) := by
  rw [linkAttachmentsToMessage, Eff.exec_bind, updateLinked, Eff.exec_get_bind]
  split_ifs with answered
  · have none : ((store.rowsById.lookup statement.attachmentId).filter fun attachment =>
        attachment.messageId = none ∧ attachment.status = .uploaded) = none := by
      rw [Option.filter_eq_none_iff]
      intro attachment found selected
      exact refuses ⟨answered, attachment, found, of_decide_eq_true selected⟩
    rw [none]
    exact ⟨_, rfl⟩
  · exact ⟨_, rfl⟩

theorem lookup_withLinked (store : AttachmentRows) (messageId attachmentId : Uuid)
    (attachment : Attachment) (id : Uuid)
    : (store.withLinked messageId attachmentId attachment).rowsById.lookup id
        = if id = attachmentId then some (AttachmentStore.linkedTo messageId attachment)
          else store.rowsById.lookup id :=
  Table.lookup_insert_eq ..

/-- The sequence goes on after an accepted statement. -/
theorem exec_link_of_accepts {store : AttachmentRows} (messageId : Uuid)
    {statement : LinkStatement} (statements : List LinkStatement)
    (accepts : store.Accepts statement)
    : ∃ attachment, store.rowsById.lookup statement.attachmentId = some attachment
        ∧ attachment.messageId = none
        ∧ (linkAttachmentsToMessage messageId (statement :: statements)).exec store
          = (do
              let attachments ← linkAttachmentsToMessage messageId statements
              return AttachmentStore.linkedTo messageId attachment :: attachments
              : Eff AttachmentRows AttachmentError (List Attachment)).exec
            (store.withLinked messageId statement.attachmentId attachment) := by
  obtain ⟨attachment, found, free, updated⟩ := exec_updateLinked_of_accepts accepts
  refine ⟨attachment, found, free, ?_⟩
  rw [linkAttachmentsToMessage, Eff.exec_bind, updated]

/-- A row that belongs to a message stays as it is, by induction over the statements. -/
theorem lookup_after_link {store : AttachmentRows} {id : Uuid} (messageId : Uuid)
    {attachment : Attachment} (statements : List LinkStatement)
    (found : store.rowsById.lookup id = some attachment)
    (taken : attachment.messageId ≠ none)
    : ((linkAttachmentsToMessage messageId statements).after store).rowsById.lookup id
        = some attachment := by
  induction statements generalizing store with
  | nil => exact found
  | cons statement statements ih =>
      by_cases accepts : store.Accepts statement
      · obtain ⟨linked, own, free, continued⟩ :=
          exec_link_of_accepts messageId statements accepts
        have other : id ≠ statement.attachmentId := by
          rintro rfl
          rw [found] at own
          cases own
          exact taken free
        have kept : (store.withLinked messageId statement.attachmentId linked).rowsById.lookup id
            = some attachment := by
          rw [lookup_withLinked, if_neg other, found]
        rw [Eff.after, continued, ← Eff.after, Eff.after_map]
        exact ih kept
      · obtain ⟨error, failed⟩ := exec_link_of_not_accepts messageId statements accepts
        rw [Eff.after, failed]
        exact found

/-- After a row has been linked, the statements for other rows are accepted as before. -/
theorem accepts_withLinked_iff {store : AttachmentRows} {messageId attachmentId : Uuid}
    {attachment : Attachment} {statement : LinkStatement}
    : (store.withLinked messageId attachmentId attachment).Accepts statement
      ↔ statement.attachmentId ≠ attachmentId ∧ store.Accepts statement := by
  rw [Accepts, Accepts, Linkable, Linkable, lookup_withLinked]
  by_cases same : statement.attachmentId = attachmentId
  · rw [if_pos same]
    refine iff_of_false ?_ fun accepts => accepts.1 same
    rintro ⟨_, linked, found, free, _⟩
    cases found
    cases free
  · rw [if_neg same, and_iff_right same]

/-- Linking succeeds exactly if all statements are accepted and no attachment is listed twice, by
induction over the statements.
-/
theorem exec_link_eq_ok_iff {store : AttachmentRows} (messageId : Uuid)
    {statements : List LinkStatement}
    : (∃ attachments last, (linkAttachmentsToMessage messageId statements).exec store
          = (.ok attachments, last))
      ↔ (∀ statement ∈ statements, store.Accepts statement)
        ∧ (statements.map LinkStatement.attachmentId).Nodup := by
  induction statements generalizing store with
  | nil => exact iff_of_true ⟨[], store, rfl⟩ ⟨fun _ listed => absurd listed List.not_mem_nil, .nil⟩
  | cons statement statements ih =>
      by_cases accepts : store.Accepts statement
      · obtain ⟨linked, _, _, continued⟩ :=
          exec_link_of_accepts messageId statements accepts
        rw [continued, Eff.succeeds_map_iff, ih, List.map_cons, List.nodup_cons,
          List.forall_mem_cons, List.mem_map, not_exists]
        simp only [accepts_withLinked_iff, not_and]
        constructor
        · rintro ⟨others, unique⟩
          exact ⟨⟨accepts, fun other listed => (others other listed).2⟩,
            fun other listed => (others other listed).1, unique⟩
        · rintro ⟨⟨_, others⟩, apart, unique⟩
          exact ⟨fun other listed => ⟨apart other listed, others other listed⟩, unique⟩
      · obtain ⟨error, failed⟩ := exec_link_of_not_accepts messageId statements accepts
        refine iff_of_false ?_ fun all => accepts (all.1 statement List.mem_cons_self)
        rintro ⟨_, _, done⟩
        rw [failed] at done
        cases done

/-- What the first statement has linked is seen wherever the sequence ends. -/
theorem readings_after_link_ne {store last : AttachmentRows} (messageId : Uuid)
    {statement : LinkStatement} (statements : List LinkStatement)
    (accepts : store.Accepts statement) {answer : Except AttachmentError (List Attachment)}
    (ended : (linkAttachmentsToMessage messageId (statement :: statements)).exec store
      = (answer, last))
    : last.readings ≠ store.readings := by
  obtain ⟨attachment, found, free, continued⟩ := exec_link_of_accepts messageId statements accepts
  have linked : (store.withLinked messageId statement.attachmentId attachment).rowsById.lookup
      statement.attachmentId = some (AttachmentStore.linkedTo messageId attachment) := by
    rw [lookup_withLinked, if_pos rfl]
  have kept := lookup_after_link messageId statements linked (Option.some_ne_none _)
  have reached : last = (linkAttachmentsToMessage messageId statements).after
      (store.withLinked messageId statement.attachmentId attachment) := by
    rw [← Eff.after_map _ (AttachmentStore.linkedTo messageId attachment :: ·), Eff.after,
      ← continued, ended]
  intro same
  have unchanged : last.rowsById.lookup statement.attachmentId
      = store.rowsById.lookup statement.attachmentId :=
    congrFun same statement.attachmentId
  rw [reached, kept, found, Option.some.injEq] at unchanged
  rw [← unchanged] at free
  cases free

/-- A failure to link leaves no trace exactly if the first statement is the one that fails, or
none can fail.
-/
theorem traceless_linkAttachmentsToMessage_iff (store : AttachmentRows) (messageId : Uuid)
    (statements : List LinkStatement)
    : (linkAttachmentsToMessage messageId statements).Traceless readings store
      ↔ (∀ first ∈ statements.head?, ¬ store.Accepts first)
        ∨ (∀ statement ∈ statements, store.Accepts statement)
          ∧ (statements.map LinkStatement.attachmentId).Nodup := by
  cases statements with
  | nil =>
      refine iff_of_true (Eff.traceless_of_ok rfl) (.inl fun first listed => ?_)
      cases listed
  | cons statement statements =>
      by_cases accepts : store.Accepts statement
      · have goesOn : ¬ ∀ first ∈ (statement :: statements).head?, ¬ store.Accepts first :=
          fun refuses => refuses statement rfl accepts
        rw [or_iff_right goesOn, ← exec_link_eq_ok_iff messageId]
        constructor
        · intro traceless
          rcases ended : (linkAttachmentsToMessage messageId (statement :: statements)).exec store
            with ⟨error | attachments, last⟩
          · exact absurd (traceless error last ended)
              (readings_after_link_ne messageId statements accepts ended)
          · exact ⟨attachments, last, rfl⟩
        · rintro ⟨attachments, last, done⟩
          exact Eff.traceless_of_ok done
      · obtain ⟨error, failed⟩ := exec_link_of_not_accepts messageId statements accepts
        refine iff_of_true ((Eff.traceless_iff_of_error failed).mpr rfl)
          (.inl fun first listed => ?_)
        cases listed
        exact accepts

end AttachmentRows

/-- A failure to link attachments leaves no trace in the in-memory store exactly if all of them
are stored or all that are listed before the first missing one are linked to the message already,
and in the Postgres store exactly if the first statement fails or no statement can fail.
-/
theorem linking_traceless_iff (store : AttachmentStore) (rows : AttachmentRows) (messageId : Uuid)
    (attachmentIds : List Uuid) (statements : List LinkStatement)
    : ((AttachmentStore.linkAttachmentsToMessage messageId attachmentIds).Traceless
          AttachmentStore.readings store
        ↔ (∀ id ∈ attachmentIds, id ∈ store.attachmentsById)
          ∨ ∀ id ∈ attachmentIds.takeWhile (· ∈ store.attachmentsById),
            store.LinkedTo messageId id)
      ∧ ((AttachmentRows.linkAttachmentsToMessage messageId statements).Traceless
            AttachmentRows.readings rows
          ↔ (∀ first ∈ statements.head?, ¬ rows.Accepts first)
            ∨ (∀ statement ∈ statements, rows.Accepts statement)
              ∧ (statements.map LinkStatement.attachmentId).Nodup) :=
  ⟨AttachmentStore.traceless_linkAttachmentsToMessage_iff store messageId attachmentIds,
    AttachmentRows.traceless_linkAttachmentsToMessage_iff rows messageId statements⟩

namespace TwoFiles

def report : Attachment :=
  ⟨.ofNat 50, .ofNat 10, .ofNat 20, .ofNat 30, none, .ofNat 1, "report.pdf", "application/pdf",
    2048, .uploaded, "2026-01-01T00:00:00.000Z"⟩

/-- The report is uploaded, the other file is not there. -/
def store : AttachmentStore := ⟨AList.insert report.id report ∅, ∅⟩

def rows : AttachmentRows := ⟨AList.insert report.id report ∅⟩

def missing : Uuid := .ofNat 51

end TwoFiles

open TwoFiles in
/-- A message with an uploaded and a missing file is not linked, but the uploaded file is. -/
theorem twoFiles_halfLinked
    : ¬ (AttachmentStore.linkAttachmentsToMessage (.ofNat 60) [report.id, missing]).Traceless
          AttachmentStore.readings store
      ∧ ¬ (AttachmentRows.linkAttachmentsToMessage (.ofNat 60)
            [⟨report.id, true⟩, ⟨missing, true⟩]).Traceless AttachmentRows.readings rows := by
  rw [AttachmentStore.traceless_linkAttachmentsToMessage_iff,
    AttachmentRows.traceless_linkAttachmentsToMessage_iff]
  decide

end OpenCord.Attachments

import OpenCord.Library.Interleaving
import OpenCord.Messages.Message

/-! Concurrent updates and deletions of messages. A request reads a message, checks what its
user may do, and writes the whole record back; other requests may write in between.
-/

namespace OpenCord.Messages

open OpenCord.Library OpenCord.Platform

/-- Where a request stands: it holds the message it has read until it writes. -/
inductive MessageTask where
  | idle
  | updating (message : Message) (update : MessageUpdate)
  | deleting (message : Message)

/-- The store, and the messages whose deletion has succeeded so far. -/
structure MessageHistory where
  store : MessageStore
  deleted : List Uuid

def MessageHistory.empty : MessageHistory := ⟨.empty, []⟩

inductive MessageMove where
  | create (message : Message)
  | readForUpdate (messageId : Uuid) (update : MessageUpdate)
  | readForDelete (messageId : Uuid)
  | write (now : String)
  /-- The user may not write the message, or the request is dropped. -/
  | abandon

/-- What a request does next; the message of a new request has a new identifier. -/
def MessageTask.move (history : MessageHistory)
    : MessageTask → MessageMove → Option (MessageHistory × MessageTask)
  | .idle, .create message =>
      if message.id ∈ history.store.messagesById ∨ message.deletedAt.isSome then
        none
      else
        let store := (MessageStore.createMessage message).after history.store
        some ({ history with store := store }, .idle)
  | .idle, .readForUpdate messageId update =>
      match MessageService.get history.store messageId with
      | .ok message => some (history, .updating message update)
      | .error _ => some (history, .idle)
  | .idle, .readForDelete messageId =>
      match MessageService.get history.store messageId with
      | .ok message => some (history, .deleting message)
      | .error _ => some (history, .idle)
  | .updating message update, .write _ =>
      let store := (MessageService.updateWithMentions message update).after history.store
      some ({ history with store := store }, .idle)
  | .deleting message, .write now =>
      match (MessageService.delete now message).exec history.store with
      | (.ok _, store) => some (⟨store, message.id :: history.deleted⟩, .idle)
      | (.error _, store) => some ({ history with store := store }, .idle)
  | .updating _ _, .abandon => some (history, .idle)
  | .deleting _, .abandon => some (history, .idle)
  | _, _ => none

/-- Requests over one message store. -/
abbrev MessageRequests := Tasks MessageHistory MessageTask

namespace MessageRequests

def start : MessageRequests := ⟨.empty, fun _ => .idle⟩

def step : MessageRequests → Nat × MessageMove → Option MessageRequests :=
  Tasks.step fun history task => task.move history

/-- No deleted message is found or listed. -/
def StayDeleted (requests : MessageRequests) : Prop :=
  ∀ messageId ∈ requests.shared.deleted,
    requests.shared.store.getMessage messageId = none
      ∧ ∀ channelId, ∀ message ∈ requests.shared.store.listForChannel channelId,
          message.id ≠ messageId

/-- A valid update writes only while its message is not deleted. -/
def UpdatesLive (requests : MessageRequests) (action : Nat × MessageMove) : Prop :=
  match requests.tasks action.1, action.2 with
  | .updating message update, .write _ =>
      (MessageService.updated message update).isOk →
        (requests.shared.store.getMessage message.id).isSome
  | _, _ => True

instance (requests : MessageRequests) (action : Nat × MessageMove)
    : Decidable (requests.UpdatesLive action) := by
  unfold UpdatesLive
  split <;> infer_instance

end MessageRequests

-----------------------------------------------------------------------------------------
-- What the writes do
-----------------------------------------------------------------------------------------

/-- A message that was written is found unless it is deleted. -/
theorem getMessage_withMessage (store : MessageStore) (message : Message) (messageId : Uuid)
    : (store.withMessage message).getMessage messageId
      = if messageId = message.id then (some message).filter fun message =>
            message.deletedAt.isNone
        else store.getMessage messageId := by
  rw [MessageStore.getMessage, MessageStore.withMessage, Table.lookup_insert_eq]
  split
  · rfl
  · rfl

/-- A found message is stored and not deleted. -/
theorem getMessage_eq_some {store : MessageStore} {messageId : Uuid} {message : Message}
    : store.getMessage messageId = some message
      ↔ store.messagesById.lookup messageId = some message
        ∧ message.deletedAt.isNone = true := by
  rw [MessageStore.getMessage, Option.filter_eq_some_iff]

/-- An update keeps the message's identifier and whether it is deleted. -/
theorem MessageService.updated_ok {message next : Message} {update : MessageUpdate}
    (valid : updated message update = .ok next)
    : next.id = message.id ∧ next.deletedAt = message.deletedAt := by
  obtain ⟨content, _, valid⟩ := Eff.check_bind_eq_ok.mp valid
  obtain ⟨components, _, valid⟩ := Eff.check_bind_eq_ok.mp valid
  cases valid
  exact ⟨rfl, rfl⟩

/-- A valid update of a stored message writes the record made from the one it holds. -/
theorem MessageService.after_updateWithMentions {store : MessageStore} {message : Message}
    {update : MessageUpdate} (stored : message.id ∈ store.messagesById)
    : (updateWithMentions message update).after store
      = match updated message update with
        | .ok next => store.withMessage next
        | .error _ => store := by
  rw [updateWithMentions, Eff.after, Eff.exec_check_bind]
  cases valid : updated message update with
  | error error => rfl
  | ok next =>
      obtain ⟨sameId, _⟩ := updated_ok valid
      rw [← sameId] at stored
      simp only [MessageStore.updateMessage, Eff.exec_get_bind, if_pos stored]
      rfl

-----------------------------------------------------------------------------------------
-- The invariant
-----------------------------------------------------------------------------------------

/-- Messages are stored under their own identifiers, and deleted ones are kept. -/
structure MessageHistory.Sound (history : MessageHistory) : Prop where
  keyed : ∀ messageId message, history.store.messagesById.lookup messageId = some message →
    message.id = messageId
  kept : ∀ messageId ∈ history.deleted, messageId ∈ history.store.messagesById

/-- A message that a request holds was read before it was deleted: it is stored, and if it is
deleted by now, then in this run.
-/
def MessageHistory.Read (history : MessageHistory) (message : Message) : Prop :=
  message.deletedAt = none
    ∧ ∃ stored, history.store.messagesById.lookup message.id = some stored
        ∧ (stored.deletedAt.isSome → message.id ∈ history.deleted)

def MessageHistory.OfTask (history : MessageHistory) : MessageTask → Prop
  | .idle => True
  | .updating message _ => history.Read message
  | .deleting message => history.Read message

theorem MessageHistory.Read.stored {history : MessageHistory} {message : Message}
    (read : history.Read message)
    : message.id ∈ history.store.messagesById := by
  obtain ⟨_, stored, found, _⟩ := read
  exact Table.mem_of_lookup found

/-- A message that is found can be held. -/
theorem MessageHistory.Read.of_get {history : MessageHistory} (sound : history.Sound)
    {messageId : Uuid} {message : Message}
    (found : MessageService.get history.store messageId = .ok message)
    : history.Read message := by
  have stored : history.store.getMessage messageId = some message := by
    rw [MessageService.get] at found
    split at found
    · next other known =>
        cases found
        exact known
    · cases found
  obtain ⟨stored, live⟩ := getMessage_eq_some.mp stored
  have same := sound.keyed messageId message stored
  refine ⟨Option.isNone_iff_eq_none.mp live, message, ?_, fun dead => ?_⟩
  · rw [same, stored]
  · rw [Option.isNone_iff_eq_none.mp live] at dead
    cases dead

/-- What is held stays readable when a message is written that is live, or whose deletion is
noted.
-/
theorem MessageHistory.Read.write {history : MessageHistory} {message : Message}
    (read : history.Read message) {written : Message} {deleted : List Uuid}
    (noted : written.deletedAt.isSome → written.id ∈ deleted)
    (grows : history.deleted ⊆ deleted)
    : MessageHistory.Read ⟨history.store.withMessage written, deleted⟩ message := by
  obtain ⟨live, stored, found, known⟩ := read
  refine ⟨live, ?_⟩
  simp only [MessageStore.withMessage, Table.lookup_insert_eq]
  split
  · next same => exact ⟨written, rfl, fun dead => same ▸ noted dead⟩
  · exact ⟨stored, found, fun dead => grows (known dead)⟩

theorem MessageHistory.OfTask.write {history : MessageHistory} {task : MessageTask}
    (ofTask : history.OfTask task) {written : Message} {deleted : List Uuid}
    (noted : written.deletedAt.isSome → written.id ∈ deleted)
    (grows : history.deleted ⊆ deleted)
    : MessageHistory.OfTask ⟨history.store.withMessage written, deleted⟩ task := by
  cases task with
  | idle => trivial
  | updating message update => exact MessageHistory.Read.write ofTask noted grows
  | deleting message => exact MessageHistory.Read.write ofTask noted grows

/-- A move writes nothing, or one record. -/
inductive Moved (history : MessageHistory)
    : MessageTask → MessageMove → MessageHistory → MessageTask → Prop where
  | created (message : Message) (new : message.id ∉ history.store.messagesById)
      (live : message.deletedAt = none)
      : Moved history .idle (.create message)
          { history with store := history.store.withMessage message } .idle
  | read (move : MessageMove) (task : MessageTask) (held : history.OfTask task)
      : Moved history .idle move history task
  | updated (message next : Message) (update : MessageUpdate) (now : String)
      (held : history.Read message)
      (valid : MessageService.updated message update = .ok next)
      : Moved history (.updating message update) (.write now)
          { history with store := history.store.withMessage next } .idle
  | refused (message : Message) (update : MessageUpdate) (now : String)
      (invalid : (MessageService.updated message update).isOk = false)
      : Moved history (.updating message update) (.write now) history .idle
  | deleted (message : Message) (now : String) (held : history.Read message)
      : Moved history (.deleting message) (.write now)
          ⟨history.store.withMessage { message with deletedAt := some now },
            message.id :: history.deleted⟩ .idle
  | abandoned (task : MessageTask)
      : Moved history task .abandon history .idle

theorem MessageTask.move_moved {history next : MessageHistory} {task nextTask : MessageTask}
    {move : MessageMove} (sound : history.Sound) (ofTask : history.OfTask task)
    (moved : task.move history move = some (next, nextTask))
    : Moved history task move next nextTask := by
  rw [MessageTask.move.eq_def] at moved
  split at moved
  · next message =>
      split at moved
      · cases moved
      · next new =>
          rw [not_or] at new
          cases moved
          exact .created message new.1 (Option.not_isSome_iff_eq_none.mp new.2)
  · next messageId update =>
      split at moved
      · next message found =>
          cases moved
          exact .read _ _ (MessageHistory.Read.of_get sound found)
      · cases moved
        exact .read _ _ trivial
  · next messageId =>
      split at moved
      · next message found =>
          cases moved
          exact .read _ _ (MessageHistory.Read.of_get sound found)
      · cases moved
        exact .read _ _ trivial
  · next message update now =>
      have held : history.Read message := ofTask
      rw [MessageService.after_updateWithMentions held.stored] at moved
      cases valid : MessageService.updated message update with
      | error error =>
          rw [valid] at moved
          cases moved
          refine .refused message update now ?_
          rw [valid]
          rfl
      | ok written =>
          rw [valid] at moved
          cases moved
          exact .updated message written update now held valid
  · next message now =>
      have held : history.Read message := ofTask
      rw [MessageService.exec_delete now held.stored] at moved
      cases moved
      exact .deleted message now held
  · cases moved
    exact .abandoned _
  · cases moved
    exact .abandoned _
  · cases moved

/-- A written record keeps the store sound. -/
theorem MessageHistory.Sound.write {history : MessageHistory} (sound : history.Sound)
    {written : Message} {deleted : List Uuid}
    (stored : ∀ messageId ∈ deleted, messageId = written.id ∨ messageId ∈ history.deleted)
    : MessageHistory.Sound ⟨history.store.withMessage written, deleted⟩ := by
  refine ⟨Table.forall_insert rfl sound.keyed, fun messageId listed => ?_⟩
  rw [MessageStore.withMessage, AList.mem_insert]
  exact (stored messageId listed).imp_right (sound.kept messageId)

/-- A written record is live, or its deletion is noted, so what is held stays readable. -/
theorem Moved.keeps {history next : MessageHistory} {task nextTask : MessageTask}
    {move : MessageMove} (moved : Moved history task move next nextTask)
    (sound : history.Sound)
    : (next.Sound ∧ next.OfTask nextTask)
      ∧ ∀ other, history.OfTask other → next.OfTask other := by
  cases moved with
  | created message new live =>
      refine ⟨⟨sound.write fun _ => .inr, trivial⟩, fun other held => ?_⟩
      refine held.write (fun dead => ?_) (List.Subset.refl _)
      rw [live] at dead
      cases dead
  | read _ _ held => exact ⟨⟨sound, held⟩, fun _ held => held⟩
  | updated message written update now held valid =>
      obtain ⟨_, sameDeleted⟩ := MessageService.updated_ok valid
      refine ⟨⟨sound.write fun _ => .inr, trivial⟩, fun other others => ?_⟩
      refine others.write (fun dead => ?_) (List.Subset.refl _)
      rw [sameDeleted, held.1] at dead
      cases dead
  | refused => exact ⟨⟨sound, trivial⟩, fun _ held => held⟩
  | deleted message now held =>
      refine ⟨⟨sound.write fun _ => List.mem_cons.mp, trivial⟩, fun other others => ?_⟩
      exact others.write (fun _ => List.mem_cons_self) (List.subset_cons_self ..)
  | abandoned => exact ⟨⟨sound, trivial⟩, fun _ held => held⟩

namespace MessageRequests

/-- The invariant of the store and of the messages that requests hold. -/
def Invariant (requests : MessageRequests) : Prop :=
  requests.shared.Sound ∧ ∀ index, requests.shared.OfTask (requests.tasks index)

theorem Invariant.step {requests next : MessageRequests} {action : Nat × MessageMove}
    (invariant : requests.Invariant) (stepped : requests.step action = some next)
    : next.Invariant := by
  refine Tasks.invariant_step ?_ ?_ invariant stepped
  · intro history task sound ofTask moved
    exact ((MessageTask.move_moved sound ofTask moved).keeps sound).1
  · intro history task other sound ofTask moved held
    exact ((MessageTask.move_moved sound ofTask moved).keeps sound).2 other held

theorem Invariant.start : MessageRequests.start.Invariant :=
  ⟨⟨nofun, nofun⟩, fun _ => trivial⟩

-----------------------------------------------------------------------------------------
-- Deleted messages
-----------------------------------------------------------------------------------------

/-- Where messages lie under their identifiers, those not found are not listed. -/
theorem stayDeleted_iff {requests : MessageRequests} (sound : requests.shared.Sound)
    : requests.StayDeleted
      ↔ ∀ messageId ∈ requests.shared.deleted,
          requests.shared.store.getMessage messageId = none := by
  refine forall_congr' fun messageId => forall_congr' fun _ => and_iff_left_of_imp ?_
  intro missing channelId message listed same
  rw [MessageStore.listForChannel, List.mem_insertionSort] at listed
  obtain ⟨stored, visible⟩ := List.mem_filter.mp listed
  obtain ⟨key, stored⟩ := Table.mem_values.mp stored
  have sameKey := sound.keyed key message stored
  rw [← sameKey, same] at stored
  have found := getMessage_eq_some.mpr ⟨stored, (of_decide_eq_true visible).2⟩
  rw [missing] at found
  cases found

/-- A message that was read and is not found any more has been deleted. -/
theorem deleted_of_missing {history : MessageHistory} {message : Message}
    (read : history.Read message) (missing : history.store.getMessage message.id = none)
    : message.id ∈ history.deleted := by
  obtain ⟨_, stored, found, known⟩ := read
  apply known
  rw [MessageStore.getMessage, found, Option.filter_eq_none_iff] at missing
  have dead := missing stored rfl
  rw [Option.isNone_iff_eq_none] at dead
  exact Option.isSome_iff_ne_none.mpr dead

/-- A step keeps deleted messages deleted exactly when it is no update of a deleted one. -/
theorem stayDeleted_step {requests next : MessageRequests} {action : Nat × MessageMove}
    (invariant : requests.Invariant) (stays : requests.StayDeleted)
    (stepped : requests.step action = some next)
    : next.StayDeleted ↔ requests.UpdatesLive action := by
  have nextInvariant := invariant.step stepped
  rw [stayDeleted_iff nextInvariant.1]
  rw [stayDeleted_iff invariant.1] at stays
  obtain ⟨index, move⟩ := action
  obtain ⟨history, task, moved, rfl⟩ := Tasks.step_eq_some.mp stepped
  have moved := MessageTask.move_moved invariant.1 (invariant.2 index) moved
  rw [UpdatesLive]
  generalize requests.tasks index = old at moved
  cases moved with
  | created message new live =>
      refine iff_of_true (fun messageId deleted => ?_) trivial
      have other : messageId ≠ message.id := by
        intro same
        exact new (same ▸ invariant.1.kept messageId deleted)
      exact (getMessage_withMessage ..).trans ((if_neg other).trans (stays messageId deleted))
  | read move task held => exact iff_of_true stays trivial
  | updated message written update now held valid =>
      obtain ⟨sameId, sameDeleted⟩ := MessageService.updated_ok valid
      constructor
      · intro stay _
        by_contra notFound
        have missing := Option.not_isSome_iff_eq_none.mp notFound
        have gone : (requests.shared.store.withMessage written).getMessage message.id = none :=
          stay message.id (show message.id ∈ requests.shared.deleted from
            deleted_of_missing held missing)
        rw [getMessage_withMessage, if_pos sameId.symm, Option.filter_some, sameDeleted,
          held.1] at gone
        cases gone
      · intro live messageId deleted
        have other : messageId ≠ written.id := by
          intro same
          have found := live (by rw [valid]; rfl)
          rw [← sameId, ← same, stays messageId deleted] at found
          cases found
        exact (getMessage_withMessage ..).trans ((if_neg other).trans (stays messageId deleted))
  | refused message update now invalid =>
      refine iff_of_true stays fun valid => ?_
      rw [invalid] at valid
      cases valid
  | deleted message now held =>
      refine iff_of_true (fun messageId deleted => ?_) trivial
      refine (getMessage_withMessage ..).trans ?_
      split
      · rfl
      · next other =>
          rcases List.mem_cons.mp deleted with same | earlier
          · exact absurd same other
          · exact stays messageId earlier
  | abandoned => exact iff_of_true stays (by cases old <;> trivial)

/-- Along a run of any requests, deleted messages stay deleted exactly when no valid update
writes a message that has been deleted since it was read.
-/
theorem stayDeleted_iff_updatesLive {actions : List (Nat × MessageMove)}
    {last : MessageRequests} (ran : run step start actions = some last)
    : Always step StayDeleted start actions ↔ Allowed step UpdatesLive start actions := by
  refine @always_iff_allowed _ _ step UpdatesLive Invariant StayDeleted ?_ ?_ _ _ _
    Invariant.start nofun ran
  · intro requests action next invariant _ stepped _
    exact invariant.step stepped
  · intro requests action next invariant stays stepped
    exact stayDeleted_step invariant stays stepped

end MessageRequests

namespace Greeting

def id : Uuid := .ofNat 50

/-- A message that its author has just sent. -/
def message : Message :=
  ⟨id, .ofNat 10, some (.ofNat 20), .ofNat 30, .ofNat 1, "hello", "plain", [], [], none, none,
    [], [], false, none, none, none, "2026-01-01T00:00:00.000Z"⟩

def edit : MessageUpdate := ⟨"hello, all", [], [], false, none⟩

/-- The message is edited, then deleted. -/
def editThenDelete : List (Nat × MessageMove) :=
  [(0, .create message), (1, .readForUpdate id edit), (1, .write "2026-01-01T00:01:00.000Z"),
    (2, .readForDelete id), (2, .write "2026-01-01T00:02:00.000Z")]

/-- The message is read for an edit, deleted, and then written back by the edit. -/
def editAroundDelete : List (Nat × MessageMove) :=
  [(0, .create message), (1, .readForUpdate id edit), (2, .readForDelete id),
    (2, .write "2026-01-01T00:01:00.000Z"), (1, .write "2026-01-01T00:02:00.000Z")]

end Greeting

open MessageRequests in
theorem editThenDelete_staysDeleted
    : ∃ last, run step start Greeting.editThenDelete = some last
        ∧ Greeting.id ∈ last.shared.deleted
        ∧ Always step StayDeleted start Greeting.editThenDelete := by
  refine ⟨_, rfl, by decide +kernel, ?_⟩
  exact (stayDeleted_iff_updatesLive rfl).mpr (by decide +kernel)

open MessageRequests in
/-- After its deletion has succeeded, the message is found again. -/
theorem editAroundDelete_comesBack
    : ∃ last, run step start Greeting.editAroundDelete = some last
        ∧ Greeting.id ∈ last.shared.deleted
        ∧ (last.shared.store.getMessage Greeting.id).isSome
        ∧ ¬ Always step StayDeleted start Greeting.editAroundDelete := by
  have facts : (run step start Greeting.editAroundDelete).any fun last =>
      Greeting.id ∈ last.shared.deleted
        ∧ (last.shared.store.getMessage Greeting.id).isSome := by
    decide +kernel
  obtain ⟨last, ran, facts⟩ := (Option.any_eq_true _ _).mp facts
  obtain ⟨deleted, found⟩ := of_decide_eq_true facts
  refine ⟨last, ran, deleted, found, fun always => ?_⟩
  rw [((always.last ran) Greeting.id deleted).1] at found
  cases found

end OpenCord.Messages

import OpenCord.Calendars.Sync
import OpenCord.Library.Interleaving

/-! Concurrent synchronizations of one meeting. A call looks for the record, has the adapter
create or update the event, and writes the record; other calls may run in between. Two calls
that both find no record create two events.
-/

namespace OpenCord.Calendars

open OpenCord.Library OpenCord.Platform

/-- Where a call stands. -/
inductive SyncTask where
  | called
  | connected (account : ConnectedCalendarAccount)
  | looked (account : ConnectedCalendarAccount) (existing : Option CalendarEventSync)
  | answered (account : ConnectedCalendarAccount) (existing : Option CalendarEventSync)
      (providerEvent : ProviderEventUpsert)
  | returned (answer : Except CalendarSyncError CalendarEventSyncResult)

/-- The call has found no record. -/
def SyncTask.hasFoundNone : SyncTask → Bool
  | .answered _ none _ => true
  | _ => false

/-- The call has reported that it created the event. -/
def SyncTask.isCreated : SyncTask → Bool
  | .returned (.ok result) => result.operation == "created"
  | _ => false

inductive SyncMove where
  | connect
  | look
  | answer (drawn : Uuid)
  | store (drawn : Uuid) (now : String)
  | fail (error : CalendarSyncError)

def SyncMove.isStore : SyncMove → Bool
  | .store _ _ => true
  | _ => false

/-- The account is looked up. -/
def connectAccount (request : SyncRequest) (store : CalendarStore) : SyncTask :=
  match request.account store with
  | .ok account => .connected account
  | .error error => .returned (.error error)

/-- The record is written. -/
def recordEvent (backend : CalendarBackend) (request : SyncRequest) (store : CalendarStore)
    (account : ConnectedCalendarAccount) (existing : Option CalendarEventSync)
    (providerEvent : ProviderEventUpsert) (drawn : Uuid) (now : String)
    : CalendarStore × SyncTask :=
  match (request.storeEvent backend account existing providerEvent drawn now).exec store with
  | (answer, store) => (store, .returned answer)

/-- What a call does next. A call may fail wherever it waits for the store or the provider. -/
def SyncTask.move (backend : CalendarBackend) (request : SyncRequest) (store : CalendarStore)
    : SyncTask → SyncMove → Option (CalendarStore × SyncTask)
  | .returned _, _ => none
  | _, .fail error => some (store, .returned (.error error))
  | .called, .connect => some (store, connectAccount request store)
  | .connected account, .look =>
      some (store, .looked account (request.existing account store))
  | .looked account existing, .answer drawn =>
      some (store, .answered account existing (request.provider.upsertEvent drawn existing))
  | .answered account existing providerEvent, .store drawn now =>
      some (recordEvent backend request store account existing providerEvent drawn now)
  | _, _ => none

/-- The identifier of the provider's event that is stored for the account and the meeting. -/
def SyncRequest.recorded (request : SyncRequest) (store : CalendarStore) : Option String :=
  (request.account store).toOption.bind fun account =>
    (request.existing account store).map (·.providerEventId)

abbrev Syncs := Tasks CalendarStore SyncTask

namespace Syncs

/-- All calls are about to run. -/
def start (store : CalendarStore) : Syncs := ⟨store, fun _ => .called⟩

def step (backend : CalendarBackend) (request : SyncRequest)
    : Syncs → Nat × SyncMove → Option Syncs :=
  Tasks.step fun store task => task.move backend request store

/-- All successful calls have returned the event that is stored, and one at most has created it.
-/
structure OneProviderEvent (request : SyncRequest) (world : Syncs) : Prop where
  stored : ∀ index result, world.tasks index = .returned (.ok result) →
    request.recorded world.shared = some result.event.providerEventId
  same : ∀ first second one other, world.tasks first = .returned (.ok one) →
    world.tasks second = .returned (.ok other) →
      one.event.providerEventId = other.event.providerEventId
  once : ∀ first second, (world.tasks first).isCreated = true →
    (world.tasks second).isCreated = true → first = second

/-- A call that has found no record writes one only as long as there is none. -/
def CreatesFirst (request : SyncRequest) (world : Syncs) (action : Nat × SyncMove) : Prop :=
  action.2.isStore = true → (world.tasks action.1).hasFoundNone = true →
    request.recorded world.shared = none

instance (request : SyncRequest) (world : Syncs) (action : Nat × SyncMove)
    : Decidable (CreatesFirst request world action) :=
  inferInstanceAs (Decidable (_ → _ → _))

-----------------------------------------------------------------------------------------
-- Steps
-----------------------------------------------------------------------------------------

/-- What is known of a call whose meeting had an event, or none, in the beginning. -/
def Knows (request : SyncRequest) (initial : Option String) (store : CalendarStore)
    : SyncTask → Prop
  | .called => True
  | .connected account => request.account store = .ok account
  | .looked account existing =>
      request.account store = .ok account
        ∧ (existing = none → initial = none)
        ∧ ∀ event ∈ existing, request.recorded store = some event.providerEventId
  | .answered account existing providerEvent =>
      request.account store = .ok account
        ∧ (existing = none → initial = none)
        ∧ ∀ event ∈ existing, request.recorded store = some event.providerEventId
            ∧ providerEvent.providerEventId = event.providerEventId
  | .returned (.ok result) => request.recorded store = some result.event.providerEventId
  | .returned (.error _) => True

/-- What a step can do: it reads the store, or it writes the record. -/
inductive Moves (request : SyncRequest) (store : CalendarStore)
    : SyncTask → SyncMove → CalendarStore → SyncTask → Prop
  | reads {task move next} (unstored : move.isStore = false)
    (before : task.isCreated = false) (after : next.isCreated = false)
    (knows : ∀ initial, (request.recorded store = none → initial = none) →
      Knows request initial store task → Knows request initial store next)
    : Moves request store task move store next
  | writes {account existing providerEvent drawn now shared event}
    (accountKept : request.account shared = request.account store)
    (isProviderEvent : event.providerEventId = providerEvent.providerEventId)
    (recorded : request.account store = .ok account →
      request.recorded shared = some event.providerEventId)
    : Moves request store (.answered account existing providerEvent) (.store drawn now) shared
        (.returned (.ok ⟨event, SyncRequest.operation existing⟩))

theorem recorded_of_account {request : SyncRequest} {store : CalendarStore}
    {account : ConnectedCalendarAccount} (connected : request.account store = .ok account)
    : request.recorded store = (request.existing account store).map (·.providerEventId) := by
  unfold SyncRequest.recorded
  rw [connected]
  rfl

theorem moves_connectAccount (request : SyncRequest) (store : CalendarStore)
    : Moves request store .called .connect store (connectAccount request store) := by
  unfold connectAccount
  split
  · next account connected => exact .reads rfl rfl rfl fun _ _ _ => connected
  · exact .reads rfl rfl rfl fun _ _ _ => trivial

theorem moves_looked (request : SyncRequest) (store : CalendarStore)
    (account : ConnectedCalendarAccount)
    : Moves request store (.connected account) .look store
        (.looked account (request.existing account store)) := by
  apply Moves.reads rfl rfl rfl
  intro initial kept connected
  have recorded := recorded_of_account connected
  refine ⟨connected, fun none => kept ?_, fun event found => ?_⟩
  · rw [recorded, none]
    rfl
  · rw [recorded, Option.mem_def.mp found]
    rfl

theorem moves_answered (request : SyncRequest) (store : CalendarStore)
    (account : ConnectedCalendarAccount) (existing : Option CalendarEventSync) (drawn : Uuid)
    : Moves request store (.looked account existing) (.answer drawn) store
        (.answered account existing (request.provider.upsertEvent drawn existing)) := by
  apply Moves.reads rfl rfl rfl
  intro initial kept known
  obtain ⟨connected, unseen, seen⟩ := known
  refine ⟨connected, unseen, fun event found => ⟨seen event found, ?_⟩⟩
  obtain rfl := Option.mem_def.mp found
  exact request.provider.upsertEvent_some drawn event

theorem moves_recordEvent (backend : CalendarBackend) (request : SyncRequest)
    (store : CalendarStore) (account : ConnectedCalendarAccount)
    (existing : Option CalendarEventSync) (providerEvent : ProviderEventUpsert) (drawn : Uuid)
    (now : String)
    : Moves request store (.answered account existing providerEvent) (.store drawn now)
        (recordEvent backend request store account existing providerEvent drawn now).1
        (recordEvent backend request store account existing providerEvent drawn now).2 := by
  have accountKept : request.account
      (recordEvent backend request store account existing providerEvent drawn now).1
        = request.account store :=
    rfl
  refine .writes accountKept (CalendarStore.providerEventId_written ..) fun connected => ?_
  have found : request.existing account
      (recordEvent backend request store account existing providerEvent drawn now).1
        = some (store.written backend
            (request.eventSync account existing providerEvent drawn now)) :=
    AList.lookup_insert _
  rw [recorded_of_account (accountKept.trans connected), found]
  rfl

theorem moves_of_move {backend : CalendarBackend} {request : SyncRequest}
    {store next : CalendarStore} {task nextTask : SyncTask} {move : SyncMove}
    (moved : task.move backend request store move = some (next, nextTask))
    : Moves request store task move next nextTask := by
  have failed {task : SyncTask} (error : CalendarSyncError) (pending : task.isCreated = false)
      : Moves request store task (.fail error) store (.returned (.error error)) :=
    .reads rfl pending rfl fun _ _ _ => trivial
  cases task with
  | called =>
      cases move with
      | connect =>
          cases moved
          exact moves_connectAccount request store
      | fail error =>
          cases moved
          exact failed error rfl
      | _ => cases moved
  | connected account =>
      cases move with
      | look =>
          cases moved
          exact moves_looked request store account
      | fail error =>
          cases moved
          exact failed error rfl
      | _ => cases moved
  | looked account existing =>
      cases move with
      | answer drawn =>
          cases moved
          exact moves_answered request store account existing drawn
      | fail error =>
          cases moved
          exact failed error rfl
      | _ => cases moved
  | answered account existing providerEvent =>
      cases move with
      | store drawn now =>
          have moves := moves_recordEvent backend request store account existing providerEvent
            drawn now
          rwa [Option.some.inj moved] at moves
      | fail error =>
          cases moved
          exact failed error rfl
      | _ => cases moved
  | returned answer => cases moved

/-- A call without others in between synchronizes the meeting. -/
theorem run_syncProviderMeeting (backend : CalendarBackend) (request : SyncRequest)
    (drawnEvent drawnSync : Uuid) (now : String) {world : Syncs} {index : Nat}
    (called : world.tasks index = .called)
    {answer : Except CalendarSyncError CalendarEventSyncResult} {store : CalendarStore}
    (done : (syncProviderMeeting backend request drawnEvent drawnSync now).exec world.shared
      = (answer, store))
    : ∃ moves : List SyncMove, run (step backend request) world (moves.map (Prod.mk index))
        = some (world.withTask index store (.returned answer)) := by
  rw [syncProviderMeeting, Eff.exec_bind, Eff.exec_reads] at done
  cases found : request.account world.shared with
  | error error =>
      refine ⟨[.connect], Tasks.run_alone ?_⟩
      rw [found] at done
      cases done
      simp [run, SyncTask.move, connectAccount, called, found]
  | ok account =>
      refine ⟨[.connect, .look, .answer drawnEvent, .store drawnSync now], Tasks.run_alone ?_⟩
      rw [found] at done
      simp only [Eff.exec_bind, Eff.exec_reads] at done
      simp [run, SyncTask.move, connectAccount, recordEvent, called, found, done]

-----------------------------------------------------------------------------------------
-- Runs
-----------------------------------------------------------------------------------------

section

variable {backend : CalendarBackend} {request : SyncRequest} {initial : Option String}
  {store : CalendarStore} {world next : Syncs}

/-- What holds along a run as long as no call writes over an event that it has not seen. -/
structure Coherent (request : SyncRequest) (initial : Option String) (world : Syncs)
    : Prop where
  tasks : ∀ index, Knows request initial world.shared (world.tasks index)
  kept : request.recorded world.shared = none → initial = none
  created : initial = none → request.recorded world.shared ≠ none →
    ∃ index, (world.tasks index).isCreated = true

theorem Coherent.start (request : SyncRequest) (store : CalendarStore)
    : Coherent request (request.recorded store) (start store) :=
  ⟨fun _ => trivial, id, fun none recorded => absurd none recorded⟩

/-- What is known depends on the account and on the recorded event only. -/
theorem Knows.of_same {shared : CalendarStore} {task : SyncTask}
    (knows : Knows request initial store task)
    (accountKept : request.account shared = request.account store)
    (recordKept : request.recorded shared = request.recorded store)
    : Knows request initial shared task := by
  cases task with
  | called => trivial
  | connected account => exact accountKept.trans knows
  | looked account existing =>
      obtain ⟨connected, unseen, seen⟩ := knows
      refine ⟨accountKept.trans connected, unseen, fun event found => ?_⟩
      exact recordKept.trans (seen event found)
  | answered account existing providerEvent =>
      obtain ⟨connected, unseen, seen⟩ := knows
      refine ⟨accountKept.trans connected, unseen, fun event found => ?_⟩
      exact ⟨recordKept.trans (seen event found).1, (seen event found).2⟩
  | returned answer =>
      cases answer with
      | ok result => exact recordKept.trans knows
      | error error => trivial

/-- As long as no event is recorded, calls know of none, so the first record contradicts none of
them.
-/
theorem Knows.of_first {shared : CalendarStore} {task : SyncTask}
    (knows : Knows request initial store task)
    (accountKept : request.account shared = request.account store)
    (unrecorded : request.recorded store = none)
    : Knows request initial shared task := by
  have noEvent {id : String} : request.recorded store ≠ some id := by
    rw [unrecorded]
    exact nofun
  cases task with
  | called => trivial
  | connected account => exact accountKept.trans knows
  | looked account existing =>
      obtain ⟨connected, unseen, seen⟩ := knows
      exact ⟨accountKept.trans connected, unseen, fun event found => absurd (seen event found)
        noEvent⟩
  | answered account existing providerEvent =>
      obtain ⟨connected, unseen, seen⟩ := knows
      exact ⟨accountKept.trans connected, unseen, fun event found =>
        absurd (seen event found).1 noEvent⟩
  | returned answer =>
      cases answer with
      | ok result => exact absurd knows noEvent
      | error error => trivial

/-- A call that has created the event has recorded it. -/
theorem Knows.recorded_of_isCreated {task : SyncTask}
    (knows : Knows request initial store task) (created : task.isCreated = true)
    : request.recorded store ≠ none := by
  cases task with
  | returned answer =>
      cases answer with
      | ok result =>
          rw [show request.recorded store = _ from knows]
          exact Option.some_ne_none _
      | error error => cases created
  | _ => cases created

theorem isCreated_returned {event : CalendarEventSync} {existing : Option CalendarEventSync}
    : (SyncTask.returned (.ok ⟨event, SyncRequest.operation existing⟩)).isCreated = true
      ↔ existing = none := by
  cases existing <;> simp [SyncTask.isCreated, SyncRequest.operation]

/-- A write leaves the recorded event, or records the first one. -/
theorem Coherent.step {action : Nat × SyncMove} (coherent : Coherent request initial world)
    (createsFirst : CreatesFirst request world action)
    (stepped : step backend request world action = some next)
    : Coherent request initial next := by
  obtain ⟨index, move⟩ := action
  obtain ⟨shared, task, moved, rfl⟩ := Tasks.step_eq_some.mp stepped
  have own := coherent.tasks index
  have moves := moves_of_move moved
  rw [CreatesFirst] at createsFirst
  have stays :=
    @Tasks.exists_withTask _ _ (fun task => task.isCreated = true) world index shared task
  generalize world.tasks index = current at own moves createsFirst stays
  cases moves with
  | reads unstored before after knows =>
      refine ⟨?_, coherent.kept, fun none recorded => ?_⟩
      · exact Tasks.forall_withTask (Knows request initial world.shared)
          (knows initial coherent.kept own) coherent.tasks
      · apply stays (coherent.created none recorded)
        rw [before]
        exact Bool.false_ne_true
  | @writes account existing providerEvent drawn now _ event accountKept isProviderEvent
      recorded =>
      obtain ⟨connected, unseen, seen⟩ := own
      have written := recorded connected
      have isSome : request.recorded shared ≠ none := by
        rw [written]
        exact Option.some_ne_none _
      have others : ∀ other, Knows request initial shared (world.tasks other) := by
        intro other
        cases found : existing with
        | none =>
            rw [found] at createsFirst
            exact (coherent.tasks other).of_first accountKept (createsFirst rfl rfl)
        | some previous =>
            obtain ⟨recordedBefore, kept⟩ := seen previous found
            refine (coherent.tasks other).of_same accountKept ?_
            rw [written, recordedBefore, isProviderEvent, kept]
      refine ⟨?_, fun none => absurd none isSome, fun none _ => ?_⟩
      · exact Tasks.forall_withTask (Knows request initial shared) written others
      · cases found : existing with
        | none =>
            refine ⟨index, ?_⟩
            rw [Tasks.tasks_withTask_self]
            exact isCreated_returned.mpr rfl
        | some previous =>
            rw [found] at stays
            refine stays (coherent.created none ?_) Bool.false_ne_true
            rw [(seen previous found).1]
            exact Option.some_ne_none _

/-- Calls that have created the event are one call. -/
def CreatedOnce (world : Syncs) : Prop :=
  ∀ first second, (world.tasks first).isCreated = true → (world.tasks second).isCreated = true →
    first = second

theorem CreatedOnce.withTask {index : Nat} {shared : CalendarStore} {task : SyncTask}
    (once : CreatedOnce world)
    (alone : task.isCreated = true → ∀ other ≠ index, (world.tasks other).isCreated = false)
    : CreatedOnce (world.withTask index shared task) := by
  have before {other} (differs : other ≠ index)
      (created : ((world.withTask index shared task).tasks other).isCreated = true)
      : (world.tasks other).isCreated = true := by
    rwa [Tasks.tasks_withTask_of_ne world differs] at created
  have isOwn {other} (created : ((world.withTask index shared task).tasks other).isCreated = true)
      (own : ((world.withTask index shared task).tasks index).isCreated = true)
      : other = index := by
    by_contra differs
    rw [Tasks.tasks_withTask_self] at own
    exact Bool.false_ne_true ((alone own other differs).symm.trans (before differs created))
  intro first second firstCreated secondCreated
  by_cases firstOwn : first = index
  · rw [firstOwn] at firstCreated
    exact firstOwn.trans (isOwn secondCreated firstCreated).symm
  · by_cases secondOwn : second = index
    · rw [secondOwn] at secondCreated
      exact (isOwn firstCreated secondCreated).trans secondOwn.symm
    · exact once first second (before firstOwn firstCreated) (before secondOwn secondCreated)

/-- A write that creates the event is the only one exactly if no event was recorded before. -/
theorem createdOnce_step {action : Nat × SyncMove} (coherent : Coherent request initial world)
    (once : CreatedOnce world) (stepped : step backend request world action = some next)
    : CreatedOnce next ↔ CreatesFirst request world action := by
  obtain ⟨index, move⟩ := action
  obtain ⟨shared, task, moved, rfl⟩ := Tasks.step_eq_some.mp stepped
  have own := coherent.tasks index
  have moves := moves_of_move moved
  rw [CreatesFirst]
  generalize standing : world.tasks index = current at own moves ⊢
  cases moves with
  | reads unstored before after knows =>
      refine iff_of_true (once.withTask fun created => ?_) fun stored => ?_
      · exact absurd (after.symm.trans created) Bool.false_ne_true
      · exact absurd (unstored.symm.trans stored) Bool.false_ne_true
  | @writes account existing providerEvent drawn now _ event accountKept isProviderEvent
      recorded =>
      obtain ⟨connected, unseen, seen⟩ := own
      cases existing with
      | some previous =>
          refine iff_of_true (once.withTask fun created => ?_) fun _ foundNone => ?_
          · cases isCreated_returned.mp created
          · cases foundNone
      | none =>
          by_cases unrecorded : request.recorded world.shared = none
          · refine iff_of_true (once.withTask fun _ other _ => ?_) fun _ _ => unrecorded
            by_contra created
            exact (coherent.tasks other).recorded_of_isCreated (Bool.not_eq_false _ ▸ created)
              unrecorded
          · refine iff_of_false (fun still => ?_) fun first => unrecorded (first rfl rfl)
            obtain ⟨other, created⟩ := coherent.created (unseen rfl) unrecorded
            have differs : other ≠ index := by
              intro same
              rw [same, standing] at created
              cases created
            apply differs
            apply still other index
            · rw [Tasks.tasks_withTask_of_ne world differs]
              exact created
            · rw [Tasks.tasks_withTask_self]
              exact isCreated_returned.mpr rfl

theorem Coherent.oneProviderEvent (coherent : Coherent request initial world)
    (once : CreatedOnce world)
    : OneProviderEvent request world := by
  have stored (index : Nat) (result : CalendarEventSyncResult)
      (returned : world.tasks index = .returned (.ok result))
      : request.recorded world.shared = some result.event.providerEventId := by
    have knows := coherent.tasks index
    rwa [returned] at knows
  refine ⟨stored, fun first second one other isOne isOther => ?_, once⟩
  exact Option.some.inj ((stored first one isOne).symm.trans (stored second other isOther))

/-- The calls of a run agree on one event exactly if no call that has found no record writes one
over another.
-/
theorem always_oneProviderEvent_iff {actions : List (Nat × SyncMove)} {last : Syncs}
    (ran : run (step backend request) (start store) actions = some last)
    : Always (step backend request) (OneProviderEvent request) (start store) actions
      ↔ Allowed (step backend request) (CreatesFirst request) (start store) actions := by
  refine @always_iff_allowed _ _ (step backend request) (CreatesFirst request)
    (Coherent request (request.recorded store)) (OneProviderEvent request) ?_ ?_ _ _ _
    (.start request store) ?_ ran
  · intro world action next coherent _ stepped createsFirst
    exact coherent.step createsFirst stepped
  · intro world action next coherent agrees stepped
    have once := createdOnce_step coherent agrees.once stepped
    constructor
    · intro later
      exact once.mp later.once
    · intro createsFirst
      exact (coherent.step createsFirst stepped).oneProviderEvent (once.mpr createsFirst)
  · exact Coherent.oneProviderEvent (.start request store) nofun

end

end Syncs

namespace Standup

def request : SyncRequest := ⟨.ofNat 1, .ofNat 2, .google⟩

def account : ConnectedCalendarAccount :=
  ⟨.ofNat 3, .ofNat 1, "google", "ada@example.com", "primary", "sha256:00", none, "oken", true,
    "2026-06-24T09:00:00Z", "2026-06-24T09:00:00Z"⟩

/-- The account is connected, and no meeting has an event yet. -/
def store : CalendarStore := ⟨AList.singleton (.ofNat 1, "google") account, ∅⟩

/-- Both calls look for the record before one of them writes it. -/
def crossed : List (Nat × SyncMove) :=
  [(0, .connect), (0, .look), (1, .connect), (1, .look),
    (0, .answer (.ofNat 20)), (0, .store (.ofNat 30) "2026-06-24T09:00:01Z"),
    (1, .answer (.ofNat 21)), (1, .store (.ofNat 31) "2026-06-24T09:00:01Z")]

/-- The second call looks for the record when the first one has written it. -/
def oneByOne : List (Nat × SyncMove) :=
  [(0, .connect), (1, .connect), (0, .look), (0, .answer (.ofNat 20)),
    (0, .store (.ofNat 30) "2026-06-24T09:00:01Z"), (1, .look), (1, .answer (.ofNat 21)),
    (1, .store (.ofNat 31) "2026-06-24T09:00:02Z")]

end Standup

namespace Syncs

theorem oneByOne_oneProviderEvent
    : Always (step .memory Standup.request) (OneProviderEvent Standup.request)
        (start Standup.store) Standup.oneByOne := by
  have reaches : (run (step .memory Standup.request) (start Standup.store)
      Standup.oneByOne).isSome := by
    decide +kernel
  obtain ⟨last, ran⟩ := Option.isSome_iff_exists.mp reaches
  exact (always_oneProviderEvent_iff ran).mpr (by decide +kernel)

/-- Both calls report that they have created the event. -/
theorem crossed_createdTwice
    : ∃ last, run (step .memory Standup.request) (start Standup.store) Standup.crossed = some last
        ∧ (last.tasks 0).isCreated = true ∧ (last.tasks 1).isCreated = true
        ∧ ¬ OneProviderEvent Standup.request last := by
  have facts : (run (step .memory Standup.request) (start Standup.store)
      Standup.crossed).any fun last => (last.tasks 0).isCreated && (last.tasks 1).isCreated := by
    decide +kernel
  obtain ⟨last, ran, created⟩ := (Option.any_eq_true _ _).mp facts
  obtain ⟨first, second⟩ := Bool.and_eq_true_iff.mp created
  refine ⟨last, ran, first, second, fun agrees => ?_⟩
  exact absurd (agrees.once 0 1 first second) (by decide)

end Syncs

end OpenCord.Calendars

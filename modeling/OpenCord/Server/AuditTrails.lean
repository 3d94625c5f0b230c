import OpenCord.Server.AccessBooks

/-! The audit events of a space against its stores, over whole runs: a reader of the events knows
who may do what in the space, and each event tells of a change that was made by whoever it names.
-/

namespace OpenCord.Audit

open OpenCord.Library OpenCord.Platform

namespace AuditStore

theorem mem_events {store : AuditStore} {spaceId : Uuid} {event : AuditEvent}
    (recorded : event ∈ store.eventsOf spaceId)
    : event ∈ store.events := by
  rw [eventsOf] at recorded
  cases stored : store.eventsBySpaceId.lookup spaceId with
  | none => simp [stored] at recorded
  | some events =>
      rw [stored, Option.getD_some] at recorded
      exact List.mem_flatten.mpr ⟨events, Table.mem_values.mpr ⟨spaceId, stored⟩, recorded⟩

/-- The identifiers of all events come before another. -/
def Precedes (store : AuditStore) (id : Uuid) : Prop :=
  ∀ event ∈ store.events, event.id.bits < id.bits

instance (store : AuditStore) (id : Uuid) : Decidable (store.Precedes id) :=
  inferInstanceAs (Decidable (∀ event ∈ store.events, _))

def listForSpace (store : AuditStore) (spaceId : Uuid) : List AuditEvent :=
  (store.eventsOf spaceId).insertionSort fun left right => left.id.bits ≤ right.id.bits

theorem mem_listForSpace {store : AuditStore} {spaceId : Uuid} {event : AuditEvent}
    : event ∈ store.listForSpace spaceId ↔ event ∈ store.eventsOf spaceId :=
  List.mem_insertionSort _

/-- The events of a space are stored by their identifiers. -/
def Ascending (store : AuditStore) : Prop :=
  ∀ spaceId, (store.eventsOf spaceId).Pairwise fun left right => left.id.bits < right.id.bits

theorem Ascending.withEvent {store : AuditStore} {event : AuditEvent}
    (ascending : store.Ascending) (later : store.Precedes event.id)
    : (store.withEvent event).Ascending := by
  intro spaceId
  rw [eventsOf_withEvent]
  split
  · refine List.pairwise_append.mpr ⟨ascending spaceId, List.pairwise_singleton _ _, ?_⟩
    intro earlier recorded last here
    obtain rfl := List.mem_singleton.mp here
    exact later earlier (mem_events recorded)
  · exact ascending spaceId

theorem Ascending.listForSpace {store : AuditStore} (ascending : store.Ascending)
    (spaceId : Uuid)
    : store.listForSpace spaceId = store.eventsOf spaceId :=
  ((ascending spaceId).imp Nat.le_of_lt).insertionSort_eq

/-- A purge leaves some of the events of a space. -/
theorem mem_purged {store : AuditStore} {organizationId : Uuid} {createdBefore : Option String}
    {dryRun : Bool} {spaceId : Uuid} {event : AuditEvent}
    (left : event ∈ ((purgeForRetention organizationId createdBefore dryRun).after
      store).eventsOf spaceId)
    : event ∈ store.eventsOf spaceId := by
  rw [Eff.after, exec_purgeForRetention] at left
  cases dryRun with
  | true => exact left
  | false =>
      rw [if_neg Bool.false_ne_true, eventsOf, Table.lookup_mapValues] at left
      rw [eventsOf]
      cases stored : store.eventsBySpaceId.lookup spaceId with
      | none => simp [stored] at left
      | some events =>
          rw [stored, Option.map_some, Option.getD_some] at left
          exact (List.mem_filter.mp left).1

end AuditStore

end OpenCord.Audit

namespace OpenCord.Server

open OpenCord.Library OpenCord.Platform OpenCord.Auth OpenCord.Tenancy OpenCord.Bots
  OpenCord.Realtime OpenCord.Audit

variable {crypto : Crypto} {spaceId : Uuid}

-----------------------------------------------------------------------------------------
-- Runs
-----------------------------------------------------------------------------------------

/-- The requests on a server with audit events. `other` stands for the endpoints that record
events about something else than access, `purge` for the worker that deletes old ones.
-/
inductive AuditedRequest where
  | app (recorded : DrawnRecord) (request : AppRequest)
  | other (recorded : DrawnRecord) (input : NewAuditEvent)
  | purge (organizationId : Uuid) (createdBefore : Option String) (dryRun : Bool)

/-- The identifiers of new spaces and channels occur in no event and no override. -/
def AppRequest.DrawsUnused (state : AuditedState) : AppRequest → Prop
  | .createSpace spaceId _ _ _ => spaceId ∉ state.2.eventsBySpaceId
  | .createChannel _ channelId _ _ _ =>
      (∀ key ∈ state.1.permissions.overridesByTarget.keys, key.1 ≠ channelId)
        ∧ ∀ event ∈ state.2.events, event.targetId ≠ channelId
  | _ => True

instance (state : AuditedState) (request : AppRequest)
    : Decidable (request.DrawsUnused state) := by
  induction request using AppRequest.casesOn with
  | createSpace => exact inferInstanceAs (Decidable (_ ∉ state.2.eventsBySpaceId))
  | createChannel => exact inferInstanceAs (Decidable (_ ∧ ∀ event ∈ state.2.events, _))
  | _ => exact instDecidableTrue

namespace AuditedRequest

/-- Drawn identifiers are new, and those of events grow. -/
def Admissible (state : AuditedState) : AuditedRequest → Prop
  | .app recorded request =>
      state.2.Precedes recorded.id ∧ request.Admissible state.1 ∧ request.DrawsNewRole state.1
        ∧ request.DrawsUnused state
  | .other recorded input =>
      state.2.Precedes recorded.id ∧ IsLabel input.action ∧ IsLabel input.targetType
        ∧ input.action ∉ AuditEvent.accessActions
  | .purge _ _ _ => True

instance (state : AuditedState) (request : AuditedRequest)
    : Decidable (request.Admissible state) := by
  cases request with
  | app => exact inferInstanceAs (Decidable (_ ∧ _ ∧ _ ∧ _))
  | other => exact inferInstanceAs (Decidable (_ ∧ _ ∧ _ ∧ _))
  | purge => exact instDecidableTrue

def perform (crypto : Crypto) (state : AuditedState) : AuditedRequest → AuditedState
  | .app recorded request => request.performAudited crypto recorded state
  | .other recorded input => (AuditedHandler.record recorded input).after state
  | .purge organizationId createdBefore dryRun =>
      (state.1, (AuditStore.purgeForRetention organizationId createdBefore dryRun).after state.2)

/-- One request on a server with audit events. -/
def step (crypto : Crypto) (state : AuditedState) (request : AuditedRequest)
    : Option AuditedState :=
  if request.Admissible state then some (request.perform crypto state) else none

def IsPurge : AuditedRequest → Prop
  | .purge _ _ _ => True
  | _ => False

end AuditedRequest

namespace AuditController

variable (crypto : Crypto)

def listForSpace (state : AuditedState) (token : String) (spaceId : Uuid)
    : Except ApiError (List AuditEvent) := do
  let user ← state.1.userForToken crypto token
  let space ← state.1.spaceForUser user.id spaceId
  state.1.requireSpace user.id space .manageSpace
  return state.2.listForSpace space.id

end AuditController

def AuditedState.empty : AuditedState := (.empty, .empty)

/-- What a request leaves on a server with audit events, by cases of the requests. -/
inductive AuditedWrite (crypto : Crypto) (before : AuditedState) (request : AuditedRequest)
    (after : AuditedState) : Prop where
  | noted (recorded : DrawnRecord) (asked : AppRequest) (event : AuditEvent)
      (change : AccessChange) (same : request = .app recorded asked)
      (stepped : before.1.drawStep crypto asked = some after.1)
      (later : before.2.Precedes event.id) (log : after.2 = before.2.withEvent event)
      (tells : TellsChange crypto before.1 asked recorded after.1 event change)
  | silent (recorded : DrawnRecord) (asked : AppRequest) (same : request = .app recorded asked)
      (stepped : before.1.drawStep crypto asked = some after.1)
      (draws : asked.DrawsUnused before) (log : after.2 = before.2)
      (kept : ¬ asked.IsAudited ∨ before.1.SameStores after.1)
  | other (event : AuditEvent) (app : after.1 = before.1)
      (later : before.2.Precedes event.id) (log : after.2 = before.2.withEvent event)
      (told : event.accessChange = none)
  | purged (purge : request.IsPurge) (app : after.1 = before.1)
      (log : ∀ spaceId, ∀ event ∈ after.2.eventsOf spaceId, event ∈ before.2.eventsOf spaceId)

theorem AuditedRequest.step_write {before after : AuditedState} {request : AuditedRequest}
    (keyed : before.1.Keyed) (stepped : AuditedRequest.step crypto before request = some after)
    : AuditedWrite crypto before request after := by
  rw [step] at stepped
  split at stepped
  case isFalse => cases stepped
  next admissible =>
    cases stepped
    cases request with
    | app recorded request =>
        obtain ⟨later, new, draws, unused⟩ := admissible
        obtain ⟨same, outcome⟩ :=
          @AppRequest.performAudited_cases crypto before keyed recorded request draws
        have stepped : before.1.drawStep crypto request
            = some (request.performAudited crypto recorded before).1 :=
          AppState.drawStep_eq_some.mpr ⟨draws, new, same.symm⟩
        rw [← same] at outcome
        rcases outcome with ⟨log, kept⟩ | ⟨event, change, log, tells⟩
        · exact .silent recorded request rfl stepped unused log kept
        · exact .noted recorded request event change rfl stepped (tells.id ▸ later) log tells
    | other recorded input =>
        obtain ⟨later, action, targetType, elsewhere⟩ := admissible
        refine .other (input.event recorded.id recorded.createdAt) rfl later ?_
          (AuditEvent.accessChange_of_notMem elsewhere)
        exact congrArg Prod.snd (AuditService.exec_record action targetType ..)
    | purge organizationId createdBefore dryRun =>
        exact .purged trivial rfl fun _ _ => AuditStore.mem_purged

/-- Without the audit events a request does the same, or nothing. -/
theorem AuditedWrite.app {crypto : Crypto} {before after : AuditedState}
    {request : AuditedRequest} (write : AuditedWrite crypto before request after)
    : after.1 = before.1 ∨ ∃ asked, before.1.drawStep crypto asked = some after.1 := by
  cases write with
  | noted recorded asked event change same stepped => exact .inr ⟨asked, stepped⟩
  | silent recorded asked same stepped => exact .inr ⟨asked, stepped⟩
  | other event app | purged purge app => exact .inl app

theorem AuditedRequest.step_ordered {before after : AuditedState} {request : AuditedRequest}
    (ordered : before.1.Ordered)
    (stepped : AuditedRequest.step crypto before request = some after)
    : after.1.Ordered := by
  rcases (step_write ordered.keyed stepped).app with same | ⟨asked, stepped⟩
  · exact same ▸ ordered
  · exact ordered.step stepped

/-- A user founds a space. -/
def FoundsSpace (crypto : Crypto) (founderId spaceId : Uuid) (state : AuditedState)
    (request : AuditedRequest) : Prop :=
  ∃ recorded asked, request = .app recorded asked ∧ Founds crypto founderId spaceId state.1 asked

/-- The book that the events of a space are read into: an empty one, or one of its founder. -/
def Starts (crypto : Crypto) (requests : List AuditedRequest) (state : AuditedState)
    (spaceId : Uuid) (initial : SpaceAccess) : Prop :=
  initial = .empty ∧ spaceId ∉ state.1.spaces.spacesById
    ∨ ∃ founderId, initial = .foundedBy founderId
      ∧ Happened (AuditedRequest.step crypto) .empty requests
        (FoundsSpace crypto founderId spaceId)

/-- The events of a space make a book that is right. -/
def Booked (crypto : Crypto) (requests : List AuditedRequest) (state : AuditedState)
    (spaceId : Uuid) : Prop :=
  ∃ initial : SpaceAccess, Starts crypto requests state spaceId initial
    ∧ state.1.Holds spaceId (initial.readAll (state.2.eventsOf spaceId))

theorem Starts.later {requests : List AuditedRequest} {before after : AuditedState}
    {initial : SpaceAccess} (starts : Starts crypto requests before spaceId initial)
    (known : spaceId ∈ after.1.spaces.spacesById → spaceId ∈ before.1.spaces.spacesById)
    (request : AuditedRequest)
    : Starts crypto (requests ++ [request]) after spaceId initial := by
  rcases starts with ⟨blank, unknown⟩ | ⟨founderId, founded, happened⟩
  · exact .inl ⟨blank, fun stored => unknown (known stored)⟩
  · exact .inr ⟨founderId, founded, happened.append [request]⟩

/-- What a new channel is drawn for is in no book. -/
theorem AppRequest.unused_of_draws {state : AuditedState} {request : AppRequest}
    (draws : request.DrawsUnused state) {initial : SpaceAccess} (blank : initial.overrides = ∅)
    (spaceId : Uuid) (stamp : EventStamp) (channelId : Uuid) (token : String) (place : Uuid)
    (body : CreateChannelRequest)
    (asked : request = .createChannel stamp channelId token place body)
    (targetKind : PermissionTargetKind) (targetId : Uuid)
    : (initial.readAll (state.2.eventsOf spaceId)).overrides.lookup
          (channelId, targetKind, targetId) = none
        ∧ state.1.permissions.override? channelId targetKind targetId = none := by
  subst asked
  obtain ⟨free, elsewhere⟩ := draws
  constructor
  · refine SpaceAccess.lookup_overrides_readAll (fun _ _ => ?_)
      (fun event recorded => elsewhere event (AuditStore.mem_events recorded)) targetKind targetId
    rw [blank, AList.lookup_empty]
  · refine AList.lookup_eq_none.mpr fun stored => ?_
    exact free _ (AList.mem_keys.mpr stored) rfl

/-- A new space has no events. -/
theorem Founds.eventsOf {state : AuditedState} {request : AppRequest} {founderId : Uuid}
    (founds : Founds crypto founderId spaceId state.1 request)
    (draws : request.DrawsUnused state)
    : state.2.eventsOf spaceId = [] := by
  obtain ⟨_, token, organizationId, name, rfl⟩ := founds
  rw [AuditStore.eventsOf, AList.lookup_eq_none.mpr draws]
  rfl

/-- A request that is no purge keeps the book of a space right, by cases of what it leaves. -/
theorem AuditedWrite.booked {requests : List AuditedRequest} {before after : AuditedState}
    {request : AuditedRequest}
    (ran : run (AuditedRequest.step crypto) .empty requests = some before)
    (write : AuditedWrite crypto before request after)
    (ordered : before.1.Ordered) (lasting : ¬ request.IsPurge)
    (booked : Booked crypto requests before spaceId)
    : Booked crypto (requests ++ [request]) after spaceId := by
  obtain ⟨initial, starts, holds⟩ := booked
  cases write with
  | noted recorded asked event change same stepped later log tells =>
      refine ⟨initial, starts.later (by rw [tells.effect.spacesById]; exact id) request, ?_⟩
      rw [log, AuditStore.eventsOf_withEvent]
      split
      · next place =>
          rw [SpaceAccess.readAll_concat, SpaceAccess.read_of_some tells.told]
          exact (place ▸ tells.effect).holds holds
      · next elsewhere => exact tells.effect.holds_elsewhere ordered elsewhere holds
  | silent recorded asked same stepped draws log kept =>
      rw [Booked, log]
      rcases kept with unaudited | ⟨spaces, channels, permissions⟩
      · subst same
        obtain ⟨_, legal, performed⟩ := AppState.drawStep_eq_some.mp stepped
        have access := @AppRequest.perform_access crypto _ ordered.keyed asked legal
        rw [performed] at access
        have blank : initial.overrides = ∅ := by
          rcases starts with ⟨rfl, _⟩ | ⟨_, rfl, _⟩ <;> rfl
        rcases access.holds ordered.keyed unaudited holds
          (asked.unused_of_draws draws blank spaceId) with
          ⟨holds, known⟩ | ⟨founderId, founds, new, founded⟩
        · exact ⟨initial, starts.later known _, holds⟩
        · have silence : before.2.eventsOf spaceId = [] := founds.eventsOf draws
          rw [silence, SpaceAccess.readAll_nil] at holds
          rcases starts with ⟨rfl, _⟩ | ⟨otherId, rfl, _⟩
          · refine ⟨.foundedBy founderId, .inr ⟨founderId, rfl, ?_⟩, ?_⟩
            · exact ⟨requests, _, [], before, rfl, ran, recorded, asked, rfl, founds⟩
            · rw [silence]
              exact founded holds
          · exact absurd holds (AppState.not_holds_foundedBy new otherId)
      · refine ⟨initial, starts.later (by rw [spaces]; exact id) request, ?_⟩
        exact holds.kept (fun _ => by rw [spaces]) channels permissions
  | other event app later log told =>
      refine ⟨initial, starts.later (by rw [app]; exact id) request, ?_⟩
      rw [app, log, AuditStore.eventsOf_withEvent]
      split
      · rw [SpaceAccess.readAll_concat, SpaceAccess.read_of_none told]
        exact holds
      · exact holds
  | purged purge => exact absurd purge lasting

/-- A request that is no purge leaves the events of every space ascending. -/
theorem AuditedWrite.ascending {before after : AuditedState} {request : AuditedRequest}
    (write : AuditedWrite crypto before request after) (lasting : ¬ request.IsPurge)
    (ascending : before.2.Ascending)
    : after.2.Ascending := by
  cases write with
  | noted recorded asked event change same stepped later log =>
      rw [log]
      exact ascending.withEvent later
  | silent recorded asked same stepped draws log => rwa [log]
  | other event app later log =>
      rw [log]
      exact ascending.withEvent later
  | purged purge => exact absurd purge lasting

theorem AuditedState.ordered_of_run {requests : List AuditedRequest} {state : AuditedState}
    (ran : run (AuditedRequest.step crypto) .empty requests = some state)
    : state.1.Ordered :=
  @run_preserves _ _ (AuditedRequest.step crypto) (fun state => state.1.Ordered)
    (fun _ _ _ ordered stepped => AuditedRequest.step_ordered ordered stepped) _ _ _ .empty ran

/-- Without purges the events of every space are ascending and make a book that is right. -/
theorem booked_of_run {requests : List AuditedRequest} {state : AuditedState}
    (ran : run (AuditedRequest.step crypto) .empty requests = some state)
    (lasting : ∀ request ∈ requests, ¬ request.IsPurge)
    : state.2.Ascending ∧ ∀ spaceId, Booked crypto requests state spaceId := by
  revert lasting
  refine run_remembers (fun requests state => (∀ request ∈ requests, ¬ request.IsPurge) →
    state.2.Ascending ∧ ∀ spaceId, Booked crypto requests state spaceId) ?_ ?_ ran
  · intro _
    refine ⟨fun _ => List.Pairwise.nil, fun spaceId => ⟨.empty, .inl ⟨rfl, ?_⟩, ?_⟩⟩
    · exact AList.notMem_empty spaceId
    · exact ⟨fun _ => rfl, fun _ => rfl, fun _ _ => rfl, fun _ _ _ _ _ _ => rfl⟩
  · intro requests before request after ran ih stepped lasting
    obtain ⟨earlier, now⟩ := List.forall_mem_append.mp lasting
    have lasts := now request (List.mem_singleton_self request)
    obtain ⟨ascending, booked⟩ := ih earlier
    have ordered := AuditedState.ordered_of_run ran
    have write := AuditedRequest.step_write ordered.keyed stepped
    exact ⟨write.ascending lasts ascending,
      fun spaceId => write.booked ran ordered lasts (booked spaceId)⟩

/-- Whoever may list the audit events of a space knows, from its founder and from the events, who
may do what in each of its channels, and agrees with the server, in every run without purges.
-/
theorem events_tell_access {requests : List AuditedRequest} {state : AuditedState}
    (ran : run (AuditedRequest.step crypto) .empty requests = some state)
    (lasting : ∀ request ∈ requests, ¬ request.IsPurge) {token : String}
    {events : List AuditEvent}
    (listed : AuditController.listForSpace crypto state token spaceId = .ok events)
    : ∃ founderId, Happened (AuditedRequest.step crypto) .empty requests
          (FoundsSpace crypto founderId spaceId)
        ∧ state.1.Holds spaceId ((SpaceAccess.foundedBy founderId).readAll events)
        ∧ ∀ userId channelId channel permission,
            state.1.channels.channelsById.lookup channelId = some channel →
            channel.spaceId = spaceId →
              (state.1.MayInChannel userId spaceId channelId permission
                ↔ ((SpaceAccess.foundedBy founderId).readAll events).May userId channelId
                  permission) := by
  have ordered := AuditedState.ordered_of_run ran
  obtain ⟨ascending, booked⟩ := booked_of_run ran lasting
  obtain ⟨user, _, listed⟩ := Eff.check_bind_eq_ok.mp listed
  obtain ⟨space, found, listed⟩ := Eff.check_bind_eq_ok.mp listed
  obtain ⟨_, _, listed⟩ := Eff.check_bind_eq_ok.mp listed
  obtain ⟨_, own, stored, _⟩ := ordered.keyed.storedSpace found
  rw [own] at stored listed
  have known := Table.mem_of_lookup stored
  cases listed
  rw [ascending.listForSpace]
  obtain ⟨initial, ⟨_, unknown⟩ | ⟨founderId, rfl, founded⟩, holds⟩ := booked spaceId
  · exact absurd known unknown
  · exact ⟨founderId, founded, holds, fun _ _ _ _ stored place =>
      holds.mayInChannel_iff ordered known stored place⟩

namespace Acme

/-- Each request of Acme, with what is drawn for an event. -/
def auditedRequests : List AuditedRequest :=
  requests.zipIdx.map fun numbered =>
    .app ⟨.ofNat (301 + numbered.2), "2026-01-01T00:00:00.000Z"⟩ numbered.1

theorem auditedRequests_last : ∀ request ∈ auditedRequests, ¬ request.IsPurge := by
  intro request asked
  obtain ⟨_, _, rfl⟩ := List.mem_map.mp asked
  exact not_false

end Acme

/-- Acme's events tell that Bob may see its channel. -/
theorem acme_access_told
    : ∃ state events founderId,
        run (AuditedRequest.step Acme.crypto) .empty Acme.auditedRequests = some state
        ∧ AuditController.listForSpace Acme.crypto state Acme.aliceToken Acme.main = .ok events
        ∧ Happened (AuditedRequest.step Acme.crypto) .empty Acme.auditedRequests
          (FoundsSpace Acme.crypto founderId Acme.main)
        ∧ ((SpaceAccess.foundedBy founderId).readAll events).May Acme.bob Acme.general
          .viewChannel := by
  have facts : (run (AuditedRequest.step Acme.crypto) .empty Acme.auditedRequests).any
      fun state =>
        (AuditController.listForSpace Acme.crypto state Acme.aliceToken Acme.main).toOption.isSome
          ∧ (state.1.enterChannel Acme.bob Acme.general .viewChannel).toOption.any fun entered =>
            entered.1.spaceId = Acme.main := by
    decide +kernel
  obtain ⟨state, ran, facts⟩ := (Option.any_eq_true _ _).mp facts
  obtain ⟨listed, facts⟩ := of_decide_eq_true facts
  obtain ⟨events, listed⟩ := Option.isSome_iff_exists.mp listed
  obtain ⟨⟨channel, space⟩, entered, own⟩ := (Option.any_eq_true _ _).mp facts
  have listed := Eff.toOption_eq_some.mp listed
  have entered := Eff.toOption_eq_some.mp entered
  have place := of_decide_eq_true own
  obtain ⟨founderId, founded, _, agree⟩ := events_tell_access ran Acme.auditedRequests_last listed
  refine ⟨state, events, founderId, ran, listed, founded, ?_⟩
  refine (agree Acme.bob Acme.general channel .viewChannel (enterChannel_ok entered).1 place).mp ?_
  exact ⟨channel, space, entered, place⟩

/-- A request changes the access to a space, and an event tells of it. -/
def MakesChange (crypto : Crypto) (spaceId : Uuid) (event : AuditEvent) (change : AccessChange)
    (state : AuditedState) (request : AuditedRequest) : Prop :=
  event.spaceId = spaceId ∧ ∃ recorded asked, request = .app recorded asked
    ∧ TellsChange crypto state.1 asked recorded (asked.perform crypto state.1) event change

/-- An event about access that is new was recorded for a change, by cases of what is left. -/
theorem AuditedWrite.told {before after : AuditedState} {request : AuditedRequest}
    (write : AuditedWrite crypto before request after) {event : AuditEvent}
    {change : AccessChange} (told : event.accessChange = some change)
    (recorded : event ∈ after.2.eventsOf spaceId)
    : event ∈ before.2.eventsOf spaceId
      ∨ MakesChange crypto spaceId event change before request := by
  cases write with
  | noted drawn asked noted made same stepped later log tells =>
      obtain ⟨_, _, performed⟩ := AppState.drawStep_eq_some.mp stepped
      rw [log, AuditStore.eventsOf_withEvent] at recorded
      split at recorded
      · next place =>
          refine (List.mem_append.mp recorded).imp_right fun new => ?_
          obtain rfl := List.mem_singleton.mp new
          obtain rfl := Option.some.inj (tells.told.symm.trans told)
          exact ⟨place.symm, drawn, asked, same, performed ▸ tells⟩
      · exact .inl recorded
  | silent drawn asked same stepped draws log =>
      rw [log] at recorded
      exact .inl recorded
  | other noted app later log silent =>
      rw [log, AuditStore.eventsOf_withEvent] at recorded
      split at recorded
      · refine .inl ((List.mem_append.mp recorded).resolve_right fun new => ?_)
        obtain rfl := List.mem_singleton.mp new
        rw [silent] at told
        cases told
      · exact .inl recorded
  | purged purge app log => exact .inl (log spaceId event recorded)

/-- An event that tells of a change of access tells the truth, in every run: the change was made
in the space, when the event was recorded, by whoever it names, who was allowed to make it.
-/
theorem event_tells_truth {requests : List AuditedRequest} {state : AuditedState}
    (ran : run (AuditedRequest.step crypto) .empty requests = some state)
    {event : AuditEvent} {change : AccessChange}
    (recorded : event ∈ state.2.listForSpace spaceId)
    (told : event.accessChange = some change)
    : Happened (AuditedRequest.step crypto) .empty requests
        (MakesChange crypto spaceId event change) := by
  refine (gained_of_run (fun state => state.1.Ordered)
    (fun state => event ∈ state.2.eventsOf spaceId)
    (fun _ _ _ ordered stepped => AuditedRequest.step_ordered ordered stepped) ?_ .empty ?_ ran
    (AuditStore.mem_listForSpace.mp recorded)).happened
  · intro before request after ordered stepped missing there
    exact ((AuditedRequest.step_write ordered.keyed stepped).told told there).resolve_left missing
  · exact List.not_mem_nil

/-- Acme's event about Bob tells the truth. -/
theorem acme_event_true
    : ∃ state event change,
        run (AuditedRequest.step Acme.crypto) .empty Acme.auditedRequests = some state
        ∧ event ∈ state.2.listForSpace Acme.main ∧ event.accessChange = some change
        ∧ event.targetId = Acme.bob
        ∧ Happened (AuditedRequest.step Acme.crypto) .empty Acme.auditedRequests
          (MakesChange Acme.crypto Acme.main event change) := by
  have facts : (run (AuditedRequest.step Acme.crypto) .empty Acme.auditedRequests).any
      fun state => (state.2.listForSpace Acme.main).any fun event =>
        event.accessChange.isSome ∧ event.targetId = Acme.bob := by
    decide +kernel
  obtain ⟨state, ran, facts⟩ := (Option.any_eq_true _ _).mp facts
  obtain ⟨event, recorded, facts⟩ := List.any_eq_true.mp facts
  obtain ⟨told, target⟩ := of_decide_eq_true facts
  obtain ⟨change, told⟩ := Option.isSome_iff_exists.mp told
  exact ⟨state, event, change, ran, recorded, told, target, event_tells_truth ran recorded told⟩

end OpenCord.Server

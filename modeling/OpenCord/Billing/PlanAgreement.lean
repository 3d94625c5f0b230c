import OpenCord.Billing.Service
import OpenCord.Library.Interleaving

/-! Concurrent provider events. An event writes the plan of its organization and then the state
of its subscription; other events may write in between. What is left of both is what came last.
-/

namespace OpenCord.Billing

open OpenCord.Library OpenCord.Platform OpenCord.Tenancy

/-- Where the application of an event stands. -/
inductive EventTask where
  | idle
  | called (event : BillingProviderEvent)
  | planned (normalized : BillingProviderEvent)
  | returned (answer : Except BillingError BillingState)

/-- The event has been applied. -/
def EventTask.isApplied : EventTask → Bool
  | .returned (.ok _) => true
  | _ => false

inductive EventMove where
  | updatePlan
  | upsertState (stateId : Uuid) (now : String)

def EventMove.isUpdate : EventMove → Bool
  | .updatePlan => true
  | .upsertState _ _ => false

def EventMove.isUpsert : EventMove → Bool
  | .updatePlan => false
  | .upsertState _ _ => true

/-- The event is checked, and its plan is written. -/
def writePlan (chrono : Chrono) (stores : BillingStores) (event : BillingProviderEvent)
    : BillingStores × EventTask :=
  match BillingService.normalizeEvent chrono event with
  | .error error => (stores, .returned (.error error))
  | .ok normalized =>
      match (BillingService.updatePlan normalized).exec stores with
      | (.ok (), stores) => (stores, .planned normalized)
      | (.error error, stores) => (stores, .returned (.error error))

/-- The state is written and returned. -/
def writeState (stores : BillingStores) (stateId : Uuid) (now : String)
    (normalized : BillingProviderEvent) : BillingStores × EventTask :=
  match (BillingService.upsertState stateId now normalized).exec stores with
  | (answer, stores) => (stores, .returned answer)

/-- What an application does next. -/
def EventTask.move (chrono : Chrono) (stores : BillingStores)
    : EventTask → EventMove → Option (BillingStores × EventTask)
  | .called event, .updatePlan => some (writePlan chrono stores event)
  | .planned normalized, .upsertState stateId now =>
      some (writeState stores stateId now normalized)
  | _, _ => none

/-- The stored state of the organization has the organization's plan. -/
def BillingStores.PlansAgree (stores : BillingStores) (organizationId : Uuid) : Prop :=
  ∀ state ∈ stores.billing.statesByOrganizationId.lookup organizationId,
    ∃ organization ∈ stores.organizations.organizationsById.lookup organizationId,
      organization.plan = state.plan

instance (stores : BillingStores) (organizationId : Uuid)
    : Decidable (stores.PlansAgree organizationId) :=
  inferInstanceAs (Decidable (∀ state ∈ _, ∃ organization ∈ _, _))

abbrev ProviderEvents := Tasks BillingStores EventTask

namespace ProviderEvents

/-- Each event is about to be applied. -/
def start (stores : BillingStores) (events : List BillingProviderEvent) : ProviderEvents :=
  ⟨stores, fun index => (events[index]?.map .called).getD .idle⟩

def step (chrono : Chrono) : ProviderEvents → Nat × EventMove → Option ProviderEvents :=
  Tasks.step fun stores task => task.move chrono stores

/-- All events have been applied. -/
def Succeeded (events : List BillingProviderEvent) (last : ProviderEvents) : Prop :=
  ∀ index < events.length, (last.tasks index).isApplied = true

instance (events : List BillingProviderEvent) (last : ProviderEvents)
    : Decidable (Succeeded events last) :=
  inferInstanceAs (Decidable (∀ index < events.length, _))

/-- The plan of an event, as it is stored. -/
def planOf (events : List BillingProviderEvent) (index : Nat) : Option String :=
  events[index]?.bind fun event => (BillingService.normalizePlan event.plan).toOption

/-- The event that writes its state last has the plan of the event that writes its plan last. -/
def EndsOnOnePlan (events : List BillingProviderEvent) (actions : List (Nat × EventMove))
    : Prop :=
  ∀ updated ∈ Tasks.lastMover EventMove.isUpdate actions,
    ∀ upserted ∈ Tasks.lastMover EventMove.isUpsert actions,
      planOf events updated = planOf events upserted

instance (events : List BillingProviderEvent) (actions : List (Nat × EventMove))
    : Decidable (EndsOnOnePlan events actions) :=
  inferInstanceAs (Decidable (∀ updated ∈ _, ∀ upserted ∈ _, _))

-----------------------------------------------------------------------------------------
-- Steps
-----------------------------------------------------------------------------------------

/-- What a step can do to an event of an organization. -/
inductive Moves (chrono : Chrono) (stores : BillingStores)
    : EventTask → EventMove → BillingStores → EventTask → Prop
  | refused {event error}
    : Moves chrono stores (.called event) .updatePlan stores (.returned (.error error))
  | planned {event normalized organization}
    (accepted : BillingService.normalizeEvent chrono event = .ok normalized)
    (found : stores.organizations.organizationsById.lookup normalized.organizationId
      = some organization)
    : Moves chrono stores (.called event) .updatePlan
        { stores with organizations := { stores.organizations with
            organizationsById := stores.organizations.organizationsById.insert
              normalized.organizationId { organization with plan := normalized.plan } } }
        (.planned normalized)
  | stored {normalized stateId now state} (ofPlan : state.plan = normalized.plan)
    : Moves chrono stores (.planned normalized) (.upsertState stateId now)
        { stores with billing :=
            ⟨stores.billing.statesByOrganizationId.insert normalized.organizationId state⟩ }
        (.returned (.ok state))

theorem moves_writePlan (chrono : Chrono) (stores : BillingStores) (event : BillingProviderEvent)
    : Moves chrono stores (.called event) .updatePlan (writePlan chrono stores event).1
        (writePlan chrono stores event).2 := by
  unfold writePlan
  split
  · exact .refused
  · next normalized accepted =>
      split
      · next written =>
          obtain ⟨organization, found, rfl⟩ := BillingService.exec_updatePlan_eq_ok.mp written
          exact .planned accepted found
      · next error unchanged failed =>
          rw [BillingService.updatePlan_atomic normalized _ _ _ failed]
          exact .refused

theorem moves_writeState (chrono : Chrono) (stores : BillingStores) (stateId : Uuid)
    (now : String) (normalized : BillingProviderEvent)
    : Moves chrono stores (.planned normalized) (.upsertState stateId now)
        (writeState stores stateId now normalized).1
        (writeState stores stateId now normalized).2 := by
  obtain ⟨state, ofPlan, written⟩ :=
    BillingService.exec_upsertState stateId now normalized stores
  rw [writeState, written]
  exact .stored ofPlan

theorem moves_of_move {chrono : Chrono} {stores next : BillingStores} {task nextTask : EventTask}
    {move : EventMove} (moved : task.move chrono stores move = some (next, nextTask))
    : Moves chrono stores task move next nextTask := by
  cases task with
  | called event =>
      cases move with
      | updatePlan =>
          have moves := moves_writePlan chrono stores event
          rwa [Option.some.inj moved] at moves
      | upsertState => cases moved
  | planned normalized =>
      cases move with
      | updatePlan => cases moved
      | upsertState stateId now =>
          have moves := moves_writeState chrono stores stateId now normalized
          rwa [Option.some.inj moved] at moves
  | idle => cases moved
  | returned answer => cases moved

/-- An event that is applied without others in between is applied as a whole. -/
theorem run_applyProviderEvent (chrono : Chrono) (stateId : Uuid) (now : String)
    {world : ProviderEvents} {index : Nat} {event : BillingProviderEvent}
    (called : world.tasks index = .called event)
    {answer : Except BillingError BillingState} {stores : BillingStores}
    (done : (BillingService.applyProviderEvent chrono stateId now event).exec world.shared
      = (answer, stores))
    : ∃ moves : List EventMove, run (step chrono) world (moves.map (Prod.mk index))
        = some (world.withTask index stores (.returned answer)) := by
  rw [BillingService.applyProviderEvent, Eff.exec_check_bind] at done
  cases accepted : BillingService.normalizeEvent chrono event with
  | error error =>
      refine ⟨[.updatePlan], Tasks.run_alone ?_⟩
      rw [accepted] at done
      cases done
      simp [run, EventTask.move, writePlan, called, accepted]
  | ok normalized =>
      rw [accepted] at done
      dsimp only at done
      rw [Eff.exec_bind] at done
      rcases written : (BillingService.updatePlan normalized).exec world.shared
        with ⟨planned, middle⟩
      rw [written] at done
      cases planned with
      | error error =>
          refine ⟨[.updatePlan], Tasks.run_alone ?_⟩
          cases done
          simp [run, EventTask.move, writePlan, called, accepted, written]
      | ok nothing =>
          refine ⟨[.updatePlan, .upsertState stateId now], Tasks.run_alone ?_⟩
          dsimp only at done
          simp [run, EventTask.move, writePlan, writeState, called, accepted, written, done]

-----------------------------------------------------------------------------------------
-- Runs
-----------------------------------------------------------------------------------------

section

variable {chrono : Chrono} {stores : BillingStores} {events : List BillingProviderEvent}
  {organizationId : Uuid} {actions : List (Nat × EventMove)} {world next : ProviderEvents}

/-- No application has failed. -/
def Unfailed (world : ProviderEvents) : Prop :=
  ∀ index error, world.tasks index ≠ .returned (.error error)

/-- What the moves so far have made of a task. -/
def TaskFollows (events : List BillingProviderEvent) (organizationId : Uuid)
    (actions : List (Nat × EventMove)) (index : Nat) : EventTask → Prop
  | .idle => events[index]? = none
  | .called event => events[index]? = some event
  | .planned normalized =>
      normalized.organizationId = organizationId ∧ planOf events index = some normalized.plan
        ∧ Tasks.lastMover EventMove.isUpdate actions ≠ none
  | .returned _ =>
      Tasks.lastMover EventMove.isUpdate actions ≠ none
        ∧ Tasks.lastMover EventMove.isUpsert actions ≠ none

/-- The organization and the stored state have the plans of the events that have written them
last.
-/
structure Follows (events : List BillingProviderEvent) (organizationId : Uuid)
    (actions : List (Nat × EventMove)) (world : ProviderEvents)
    : Prop where
  tasks : ∀ index, TaskFollows events organizationId actions index (world.tasks index)
  plan : ∀ updated, Tasks.lastMover EventMove.isUpdate actions = some updated →
    ∃ organization ∈ world.shared.organizations.organizationsById.lookup organizationId,
      planOf events updated = some organization.plan
  state : ∀ upserted, Tasks.lastMover EventMove.isUpsert actions = some upserted →
    ∃ state ∈ world.shared.billing.statesByOrganizationId.lookup organizationId,
      planOf events upserted = some state.plan

theorem tasks_start (index : Nat)
    : (start stores events).tasks index = (events[index]?.map .called).getD .idle :=
  rfl

theorem Follows.start : Follows events organizationId [] (start stores events) := by
  refine ⟨fun index => ?_, nofun, nofun⟩
  rw [tasks_start]
  cases found : events[index]? with
  | none => exact found
  | some event => exact found

/-- A failure is not taken back. -/
theorem unfailed_of_step {action : Nat × EventMove}
    (stepped : step chrono world action = some next) (unfailed : Unfailed next)
    : Unfailed world := by
  obtain ⟨shared, task, moved, rfl⟩ := Tasks.step_eq_some.mp stepped
  intro index error failed
  by_cases same : index = action.1
  · rw [same] at failed
    rw [failed] at moved
    cases moved
  · refine unfailed index error ?_
    rw [Tasks.tasks_withTask_of_ne world same]
    exact failed

/-- Further moves leave what is known of the tasks that do not move. -/
theorem TaskFollows.append {index : Nat} {task : EventTask}
    (follows : TaskFollows events organizationId actions index task) (action : Nat × EventMove)
    : TaskFollows events organizationId (actions ++ [action]) index task := by
  have moved (kind : EventMove → Bool) (before : Tasks.lastMover kind actions ≠ none)
      : Tasks.lastMover kind (actions ++ [action]) ≠ none := by
    rw [Tasks.lastMover_concat]
    split
    · exact Option.some_ne_none _
    · exact before
  cases task with
  | idle => exact follows
  | called event => exact follows
  | planned normalized => exact ⟨follows.1, follows.2.1, moved _ follows.2.2⟩
  | returned answer => exact ⟨moved _ follows.1, moved _ follows.2⟩

theorem forall_taskFollows {index : Nat} {shared : BillingStores} {task : EventTask}
    {action : Nat × EventMove}
    (follows : ∀ other, TaskFollows events organizationId actions other (world.tasks other))
    (own : TaskFollows events organizationId (actions ++ [action]) index task)
    : ∀ other, TaskFollows events organizationId (actions ++ [action]) other
        ((world.withTask index shared task).tasks other) := by
  intro other
  by_cases same : other = index
  · rw [same, Tasks.tasks_withTask_self]
    exact own
  · rw [Tasks.tasks_withTask_of_ne world same]
    exact (follows other).append action

/-- An applied event has written both. -/
theorem TaskFollows.written_of_applied {index : Nat} {task : EventTask}
    (follows : TaskFollows events organizationId actions index task)
    (applied : task.isApplied = true)
    : ∃ updated upserted, Tasks.lastMover EventMove.isUpdate actions = some updated
        ∧ Tasks.lastMover EventMove.isUpsert actions = some upserted := by
  cases task with
  | returned answer =>
      obtain ⟨updated, updates⟩ := Option.ne_none_iff_exists'.mp follows.1
      obtain ⟨upserted, upserts⟩ := Option.ne_none_iff_exists'.mp follows.2
      exact ⟨updated, upserted, updates, upserts⟩
  | _ => cases applied

/-- Each write leaves the plan of its event behind. -/
theorem Follows.step {action : Nat × EventMove}
    (concerned : ∀ event ∈ events, event.organizationId = organizationId)
    (follows : Follows events organizationId actions world)
    (stepped : step chrono world action = some next) (unfailed : Unfailed next)
    : Follows events organizationId (actions ++ [action]) next := by
  obtain ⟨index, move⟩ := action
  obtain ⟨shared, task, moved, rfl⟩ := Tasks.step_eq_some.mp stepped
  have own := follows.tasks index
  have moves := moves_of_move moved
  generalize world.tasks index = current at own moves
  cases moves with
  | refused => exact absurd (Tasks.tasks_withTask_self ..) (unfailed index _)
  | @planned event normalized organization accepted found =>
      obtain ⟨sameOrganization, isPlan⟩ := BillingService.normalizeEvent_ok accepted
      have here : normalized.organizationId = organizationId :=
        sameOrganization.trans (concerned event (List.mem_of_getElem? own))
      have ofPlan : planOf events index = some normalized.plan := by
        rw [planOf, own, Option.bind_some, isPlan]
        rfl
      have updates := Tasks.lastMover_concat EventMove.isUpdate actions (index, .updatePlan)
      have upserts := Tasks.lastMover_concat EventMove.isUpsert actions (index, .updatePlan)
      have planned : Tasks.lastMover EventMove.isUpdate (actions ++ [(index, .updatePlan)])
          ≠ none := by
        rw [updates]
        exact Option.some_ne_none _
      refine ⟨forall_taskFollows follows.tasks ⟨here, ofPlan, planned⟩, ?_, ?_⟩
      · intro updated last
        obtain rfl : index = updated := Option.some.inj (updates.symm.trans last)
        refine ⟨{ organization with plan := normalized.plan }, ?_, ofPlan⟩
        rw [← here]
        exact AList.lookup_insert _
      · exact fun upserted last => follows.state upserted (upserts.symm.trans last)
  | @stored normalized stateId now state ofPlan =>
      obtain ⟨here, isPlan, planned⟩ := own
      have updates := Tasks.lastMover_concat EventMove.isUpdate actions
        (index, .upsertState stateId now)
      have upserts := Tasks.lastMover_concat EventMove.isUpsert actions
        (index, .upsertState stateId now)
      refine ⟨forall_taskFollows follows.tasks ?_, ?_, ?_⟩
      · refine ⟨fun none => planned (updates.symm.trans none), ?_⟩
        rw [upserts]
        exact Option.some_ne_none _
      · exact fun updated last => follows.plan updated (updates.symm.trans last)
      · intro upserted last
        obtain rfl : index = upserted := Option.some.inj (upserts.symm.trans last)
        refine ⟨state, ?_, isPlan.trans (congrArg some ofPlan.symm)⟩
        rw [← here]
        exact AList.lookup_insert _

/-- Runs without failures leave the plans that were written last, by induction over the run
from its end.
-/
theorem follows_of_run (concerned : ∀ event ∈ events, event.organizationId = organizationId)
    (ran : run (ProviderEvents.step chrono) (ProviderEvents.start stores events) actions
      = some world)
    (unfailed : Unfailed world)
    : Follows events organizationId actions world := by
  induction actions using List.reverseRecOn generalizing world with
  | nil =>
      cases ran
      exact .start
  | append_singleton actions action ih =>
      obtain ⟨middle, before, last⟩ := run_append_eq_some.mp ran
      obtain ⟨_, stepped, rest⟩ := run_cons_eq_some.mp last
      cases rest
      exact (ih before (unfailed_of_step stepped unfailed)).step concerned stepped unfailed

/-- Where all events have been applied, no application has failed. -/
theorem Succeeded.unfailed (succeeded : Succeeded events world)
    (quiet : Tasks.QuietFrom events.length .idle world)
    : Unfailed world := by
  intro index error failed
  by_cases within : index < events.length
  · have applied := succeeded index within
    rw [failed] at applied
    cases applied
  · rw [quiet index (not_lt.mp within)] at failed
    cases failed

/-- What is not the application of an event does not move. -/
theorem quietFrom_of_run
    (ran : run (ProviderEvents.step chrono) (ProviderEvents.start stores events) actions
      = some world)
    : Tasks.QuietFrom events.length .idle world := by
  refine run_preserves (fun world action next quiet stepped => ?_) ?_ ran
  · obtain ⟨shared, task, moved, -⟩ := Tasks.step_eq_some.mp stepped
    refine quiet.step ?_ stepped
    by_contra beyond
    rw [quiet action.1 (not_lt.mp beyond)] at moved
    cases moved
  · intro index beyond
    rw [tasks_start, List.getElem?_eq_none beyond]
    rfl

/-- Once all events of an organization have been applied, its plan and its stored state agree
exactly if the two events that have written last have one plan.
-/
theorem plansAgree_iff_endsOnOnePlan
    (concerned : ∀ event ∈ events, event.organizationId = organizationId)
    (initially : events = [] → stores.PlansAgree organizationId)
    (ran : run (ProviderEvents.step chrono) (ProviderEvents.start stores events) actions
      = some world)
    (succeeded : Succeeded events world)
    : world.shared.PlansAgree organizationId ↔ EndsOnOnePlan events actions := by
  have follows := follows_of_run concerned ran (succeeded.unfailed (quietFrom_of_run ran))
  by_cases none : events = []
  · cases actions with
    | nil =>
        cases ran
        exact iff_of_true (initially none) nofun
    | cons action actions =>
        obtain ⟨_, stepped, -⟩ := run_cons_eq_some.mp ran
        obtain ⟨_, _, moved, -⟩ := Tasks.step_eq_some.mp stepped
        rw [tasks_start, none] at moved
        cases moved
  · obtain ⟨updated, upserted, updates, upserts⟩ :=
      (follows.tasks 0).written_of_applied (succeeded 0 (List.length_pos_iff.mpr none))
    obtain ⟨organization, found, ofPlan⟩ := follows.plan updated updates
    obtain ⟨state, stored, ofState⟩ := follows.state upserted upserts
    simp only [BillingStores.PlansAgree, EndsOnOnePlan, updates, upserts, Option.mem_some_iff,
      forall_eq', ofPlan, ofState, Option.some.injEq, Option.mem_def.mp found,
      Option.mem_def.mp stored, exists_eq_left']

end

end ProviderEvents

namespace Upgrade

def organizationId : Uuid := .ofNat 10

/-- Times that are read and printed as nothing in particular. -/
def chrono : Chrono := ⟨fun _ => none, fun _ => ""⟩

/-- The stores with an organization on the free plan. -/
def stores : BillingStores where
  organizations := { OrganizationStore.empty with
    organizationsById := AList.singleton organizationId
      ⟨organizationId, "acme", "Acme", "free", "cloud", "local"⟩ }
  billing := ⟨∅⟩

def event (eventType plan : String) : BillingProviderEvent :=
  ⟨organizationId, "stripe", eventType, "cus_acme", "sub_acme", plan, "active", none⟩

/-- The organization is put on one plan and then on a greater one. -/
def events : List BillingProviderEvent :=
  [event "subscription.created" "team", event "plan.changed" " Business"]

/-- The second event is applied while the first one is. -/
def crossed : List (Nat × EventMove) :=
  [(0, .updatePlan), (1, .updatePlan), (1, .upsertState (.ofNat 31) "2026-06-24T09:00:01Z"),
    (0, .upsertState (.ofNat 30) "2026-06-24T09:00:01Z")]

/-- Both events write in one order. -/
def sideBySide : List (Nat × EventMove) :=
  [(0, .updatePlan), (1, .updatePlan), (0, .upsertState (.ofNat 30) "2026-06-24T09:00:01Z"),
    (1, .upsertState (.ofNat 31) "2026-06-24T09:00:01Z")]

end Upgrade

namespace ProviderEvents

theorem sideBySide_plansAgree
    : ∃ last, run (step Upgrade.chrono) (start Upgrade.stores Upgrade.events) Upgrade.sideBySide
          = some last
        ∧ Succeeded Upgrade.events last ∧ last.shared.PlansAgree Upgrade.organizationId := by
  have facts : (run (step Upgrade.chrono) (start Upgrade.stores Upgrade.events)
      Upgrade.sideBySide).any fun last => Succeeded Upgrade.events last := by
    decide +kernel
  obtain ⟨last, ran, succeeded⟩ := (Option.any_eq_true _ _).mp facts
  have succeeded := of_decide_eq_true succeeded
  refine ⟨last, ran, succeeded, ?_⟩
  exact (plansAgree_iff_endsOnOnePlan (by decide) (fun none => absurd none (by decide)) ran
    succeeded).mpr (by decide +kernel)

/-- The organization is on the plan of the second event, and the stored state says the first. -/
theorem crossed_plansDisagree
    : ∃ last, run (step Upgrade.chrono) (start Upgrade.stores Upgrade.events) Upgrade.crossed
          = some last
        ∧ Upgrade.stores.PlansAgree Upgrade.organizationId
        ∧ Succeeded Upgrade.events last ∧ ¬ last.shared.PlansAgree Upgrade.organizationId := by
  have facts : (run (step Upgrade.chrono) (start Upgrade.stores Upgrade.events)
      Upgrade.crossed).any fun last =>
        Succeeded Upgrade.events last ∧ ¬ last.shared.PlansAgree Upgrade.organizationId := by
    decide +kernel
  obtain ⟨last, ran, facts⟩ := (Option.any_eq_true _ _).mp facts
  exact ⟨last, ran, by decide, of_decide_eq_true facts⟩

end ProviderEvents

end OpenCord.Billing

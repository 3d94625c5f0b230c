import OpenCord.Tenancy.Organizations

/-! Billing: what the events of the payment provider make of an organization's subscription and
of its plan.
-/

namespace OpenCord.Billing

open OpenCord.Library OpenCord.Platform OpenCord.Tenancy

structure BillingState where
  id : Uuid
  organizationId : Uuid
  provider : String
  eventType : String
  externalCustomerId : String
  externalSubscriptionId : String
  plan : String
  status : String
  currentPeriodEnd : Option String
  updatedAt : String
  deriving DecidableEq

structure BillingProviderEvent where
  organizationId : Uuid
  provider : String
  eventType : String
  externalCustomerId : String
  externalSubscriptionId : String
  plan : String
  status : String
  currentPeriodEnd : Option String
  deriving DecidableEq

inductive BillingError where
  | invalidInput (message : String)
  | organizationNotFound
  | storeUnavailable
  deriving DecidableEq

/-- Times read from a text, and printed in UTC to the second. -/
structure Chrono where
  parseFromRfc3339 : String → Option Int
  toRfc3339Seconds : Int → String

structure BillingStore where
  statesByOrganizationId : Table Uuid BillingState

namespace BillingStore

/-- A state under the identifier of the one that is already stored for its organization. -/
def keptId (store : BillingStore) (state : BillingState) : BillingState :=
  match store.statesByOrganizationId.lookup state.organizationId with
  | some existing => { state with id := existing.id }
  | none => state

def upsertState (state : BillingState) : Eff BillingStore BillingError BillingState := do
  let store ← get
  let state := store.keptId state
  set (⟨store.statesByOrganizationId.insert state.organizationId state⟩ : BillingStore)
  return state

@[simp] theorem organizationId_keptId (store : BillingStore) (state : BillingState)
    : (store.keptId state).organizationId = state.organizationId := by
  rw [keptId]
  split <;> rfl

@[simp] theorem plan_keptId (store : BillingStore) (state : BillingState)
    : (store.keptId state).plan = state.plan := by
  rw [keptId]
  split <;> rfl

theorem exec_upsertState (store : BillingStore) (state : BillingState)
    : (upsertState state).exec store
        = (.ok (store.keptId state),
            ⟨store.statesByOrganizationId.insert state.organizationId (store.keptId state)⟩) := by
  rw [← organizationId_keptId store state]
  rfl

end BillingStore

structure BillingStores where
  organizations : OrganizationStore
  billing : BillingStore

namespace BillingService

def normalizeProvider (provider : String) : Except BillingError String :=
  (oneOf ["stripe"] "billing provider must be stripe" provider).mapError .invalidInput

def normalizeEventType (eventType : String) : Except BillingError String :=
  (oneOf ["subscription.created", "subscription.updated", "subscription.cancelled",
    "invoice.payment_failed", "invoice.paid", "plan.changed"]
    "billing event_type is not supported" eventType).mapError .invalidInput

def normalizePlan (plan : String) : Except BillingError String :=
  (oneOf ["free", "team", "business", "enterprise"]
    "billing plan must be free, team, business, or enterprise" plan).mapError .invalidInput

def normalizeStatus (status : String) : Except BillingError String :=
  (oneOf ["active", "trialing", "past_due", "cancelled", "unpaid"]
    "billing status is not supported" status).mapError .invalidInput

def normalizeRequired (value message : String) (maxLen : Nat) : Except BillingError String :=
  (boundedName 1 maxLen message value).mapError .invalidInput

def normalizeTime (chrono : Chrono) (value : String) : Except BillingError String :=
  match chrono.parseFromRfc3339 (Text.trim value) with
  | some time => .ok (chrono.toRfc3339Seconds time)
  | none => .error (.invalidInput "billing current_period_end must be RFC3339")

/-- An event with every field as it is stored. -/
def normalizeEvent (chrono : Chrono) (event : BillingProviderEvent)
    : Except BillingError BillingProviderEvent := do
  let provider ← normalizeProvider event.provider
  let eventType ← normalizeEventType event.eventType
  let plan ← normalizePlan event.plan
  let status ← normalizeStatus event.status
  let currentPeriodEnd ← event.currentPeriodEnd.mapM (normalizeTime chrono)
  let externalCustomerId ←
    normalizeRequired event.externalCustomerId "billing external_customer_id is required" 256
  let externalSubscriptionId ← normalizeRequired event.externalSubscriptionId
    "billing external_subscription_id is required" 256
  return ⟨event.organizationId, provider, eventType, externalCustomerId,
    externalSubscriptionId, plan, status, currentPeriodEnd⟩

def ofOrganizationError : OrganizationError → BillingError
  | .notFound => .organizationNotFound
  | _ => .storeUnavailable

/-- The first write: the plan of the organization. -/
def updatePlan (event : BillingProviderEvent) : Eff BillingStores BillingError Unit :=
  (OrganizationStore.updatePlan event.organizationId event.plan).zoom (·.organizations)
    (fun stores organizations => { stores with organizations := organizations })
    ofOrganizationError

/-- The second write: the state of the subscription. -/
def upsertState (stateId : Uuid) (now : String) (event : BillingProviderEvent)
    : Eff BillingStores BillingError BillingState :=
  (BillingStore.upsertState ⟨stateId, event.organizationId, event.provider, event.eventType,
    event.externalCustomerId, event.externalSubscriptionId, event.plan, event.status,
    event.currentPeriodEnd, now⟩).zoom (·.billing)
    (fun stores billing => { stores with billing := billing }) fun error => error

/-- Applies an event, without other requests in between. -/
def applyProviderEvent (chrono : Chrono) (stateId : Uuid) (now : String)
    (event : BillingProviderEvent) : Eff BillingStores BillingError BillingState := do
  let event ← normalizeEvent chrono event
  updatePlan event
  upsertState stateId now event

/-- A normalized event keeps its organization, and has the normalized plan. -/
theorem normalizeEvent_ok {chrono : Chrono} {event normalized : BillingProviderEvent}
    (accepted : normalizeEvent chrono event = .ok normalized)
    : normalized.organizationId = event.organizationId
        ∧ normalizePlan event.plan = .ok normalized.plan := by
  obtain ⟨provider, -, accepted⟩ := Eff.check_bind_eq_ok.mp accepted
  obtain ⟨eventType, -, accepted⟩ := Eff.check_bind_eq_ok.mp accepted
  obtain ⟨plan, isPlan, accepted⟩ := Eff.check_bind_eq_ok.mp accepted
  obtain ⟨status, -, accepted⟩ := Eff.check_bind_eq_ok.mp accepted
  obtain ⟨currentPeriodEnd, -, accepted⟩ := Eff.check_bind_eq_ok.mp accepted
  obtain ⟨externalCustomerId, -, accepted⟩ := Eff.check_bind_eq_ok.mp accepted
  obtain ⟨externalSubscriptionId, -, accepted⟩ := Eff.check_bind_eq_ok.mp accepted
  cases accepted
  exact ⟨rfl, isPlan⟩

/-- The plan is written where the organization exists. -/
theorem exec_updatePlan_eq_ok {event : BillingProviderEvent} {stores next : BillingStores}
    : (updatePlan event).exec stores = (.ok (), next)
      ↔ ∃ organization,
          stores.organizations.organizationsById.lookup event.organizationId = some organization
          ∧ next = { stores with organizations := { stores.organizations with
              organizationsById := stores.organizations.organizationsById.insert
                event.organizationId { organization with plan := event.plan } } } := by
  rw [updatePlan, Eff.exec_zoom_eq_ok]
  simp only [OrganizationStore.updatePlan, Eff.exec_get_bind]
  cases stores.organizations.organizationsById.lookup event.organizationId with
  | none => simp
  | some organization => simp [eq_comm]

/-- Without the organization nothing is written. -/
theorem updatePlan_atomic (event : BillingProviderEvent) : (updatePlan event).Atomic :=
  (OrganizationStore.updatePlan_atomic _ _).zoom _ fun _ => rfl

/-- The state is always written. -/
theorem exec_upsertState (stateId : Uuid) (now : String) (event : BillingProviderEvent)
    (stores : BillingStores)
    : ∃ state, state.plan = event.plan
        ∧ (upsertState stateId now event).exec stores
          = (.ok state, { stores with billing :=
              ⟨stores.billing.statesByOrganizationId.insert event.organizationId state⟩ }) := by
  refine ⟨_, ?_, Eff.exec_zoom_eq_ok.mpr ⟨_, BillingStore.exec_upsertState .., rfl⟩⟩
  exact BillingStore.plan_keptId ..

end BillingService

end OpenCord.Billing

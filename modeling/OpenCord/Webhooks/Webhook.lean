import OpenCord.Auth.Service
import OpenCord.Platform.Tokens
import OpenCord.Tenancy.Names

/-! Incoming webhooks of channels and their tokens: the in-memory store and the service. -/

namespace OpenCord.Webhooks

open OpenCord.Library OpenCord.Platform OpenCord.Auth

inductive WebhookError where
  | invalidInput (message : String)
  | notFound
  | storeUnavailable
  deriving DecidableEq

def WebhookError.ofAuth : AuthError → WebhookError
  | .invalidInput message => .invalidInput message
  | _ => .storeUnavailable

inductive WebhookStatus where
  | active
  | disabled
  deriving DecidableEq

structure IncomingWebhook where
  id : Uuid
  organizationId : Uuid
  spaceId : Uuid
  channelId : Uuid
  botUserId : Uuid
  createdByUserId : Uuid
  name : String
  tokenHash : String
  tokenLastFour : String
  status : WebhookStatus
  createdAt : String
  deriving DecidableEq

structure IncomingWebhookStore where
  webhooks : Table Uuid IncomingWebhook

namespace IncomingWebhookStore

def empty : IncomingWebhookStore := ⟨∅⟩

def createWebhook (webhook : IncomingWebhook) : Eff IncomingWebhookStore WebhookError Unit :=
  Eff.writes fun store => ⟨store.webhooks.insert webhook.id webhook⟩

/-- The active webhook of a channel. -/
def activeWebhook (store : IncomingWebhookStore) (webhookId channelId : Uuid)
    : Option IncomingWebhook :=
  (store.webhooks.lookup webhookId).filter fun webhook =>
    webhook.channelId = channelId ∧ webhook.status = .active

def rotateWebhookToken (webhookId channelId : Uuid) (tokenHash tokenLastFour : String)
    : Eff IncomingWebhookStore WebhookError (Option IncomingWebhook) := do
  let store ← get
  match store.activeWebhook webhookId channelId with
  | none => return none
  | some webhook =>
      let rotated := { webhook with tokenHash := tokenHash, tokenLastFour := tokenLastFour }
      set (IncomingWebhookStore.mk (store.webhooks.insert webhookId rotated))
      return some rotated

def disableWebhook (webhookId channelId : Uuid)
    : Eff IncomingWebhookStore WebhookError (Option IncomingWebhook) := do
  let store ← get
  match store.activeWebhook webhookId channelId with
  | none => return none
  | some webhook =>
      let disabled := { webhook with status := .disabled }
      set (IncomingWebhookStore.mk (store.webhooks.insert webhookId disabled))
      return some disabled

end IncomingWebhookStore

/-- What the creation of a webhook draws and reads off the clock. -/
structure DrawnWebhook where
  id : Uuid
  botUserId : Uuid
  bytes : BitVec 256
  createdAt : String

namespace IncomingWebhookService

def normalizeName (name : String) : Except WebhookError String :=
  (Tenancy.boundedName 1 80 "webhook name must be between 1 and 80 characters" name).mapError
    .invalidInput

def generateToken (bytes : BitVec 256) : String := randomToken "ocw_" bytes

/-- Creates a webhook, with a user for its messages. -/
def create (crypto : Crypto) (drawn : DrawnWebhook)
    (organizationId spaceId channelId createdByUserId : Uuid) (name : String)
    : Eff (AuthStore × IncomingWebhookStore) WebhookError (IncomingWebhook × String) := do
  let name ← normalizeName name
  let token := generateToken drawn.bytes
  Eff.zoom Prod.fst (fun stores auth => (auth, stores.2)) WebhookError.ofAuth
    (AuthStore.createUser ⟨drawn.botUserId,
      "webhook-" ++ drawn.id.simple ++ "@webhooks.opencord.local", name,
      "incoming-webhook:" ++ drawn.id.toString⟩)
  let webhook : IncomingWebhook :=
    ⟨drawn.id, organizationId, spaceId, channelId, drawn.botUserId, createdByUserId, name,
      crypto.sha256 token, Text.lastFour token, .active, drawn.createdAt⟩
  Eff.zoom Prod.snd (fun stores webhooks => (stores.1, webhooks)) id
    (IncomingWebhookStore.createWebhook webhook)
  return (webhook, token)

def rotateToken (crypto : Crypto) (bytes : BitVec 256) (webhookId channelId : Uuid)
    : Eff IncomingWebhookStore WebhookError (IncomingWebhook × String) := do
  let token := generateToken bytes
  let rotated ← IncomingWebhookStore.rotateWebhookToken webhookId channelId
    (crypto.sha256 token) (Text.lastFour token)
  match rotated with
  | some webhook => return (webhook, token)
  | none => throw .notFound

def disable (webhookId channelId : Uuid)
    : Eff IncomingWebhookStore WebhookError IncomingWebhook := do
  let disabled ← IncomingWebhookStore.disableWebhook webhookId channelId
  match disabled with
  | some webhook => return webhook
  | none => throw .notFound

def verify (crypto : Crypto) (store : IncomingWebhookStore) (webhookId : Uuid) (token : String)
    : Except WebhookError IncomingWebhook :=
  match store.webhooks.lookup webhookId with
  | none => .error .notFound
  | some webhook =>
      if webhook.status ≠ .active ∨ webhook.tokenHash ≠ crypto.sha256 token then
        .error .notFound
      else
        .ok webhook

end IncomingWebhookService

-----------------------------------------------------------------------------------------
-- Accepted tokens
-----------------------------------------------------------------------------------------

namespace IncomingWebhookStore

/-- A webhook is active and has the hash. -/
def Accepts (store : IncomingWebhookStore) (webhookId : Uuid) (tokenHash : String) : Prop :=
  ∃ webhook, store.webhooks.lookup webhookId = some webhook ∧ webhook.status = .active
    ∧ webhook.tokenHash = tokenHash

/-- A webhook is stored and disabled. -/
def Disabled (store : IncomingWebhookStore) (webhookId : Uuid) : Prop :=
  ∃ webhook, store.webhooks.lookup webhookId = some webhook ∧ webhook.status = .disabled

variable {store : IncomingWebhookStore}

theorem not_accepts_empty (webhookId : Uuid) (tokenHash : String)
    : ¬ IncomingWebhookStore.empty.Accepts webhookId tokenHash := by
  rintro ⟨webhook, stored, -⟩
  cases stored

/-- What a webhook accepts after one was written. -/
theorem accepts_insert (webhook : IncomingWebhook) (webhookId other : Uuid) (tokenHash : String)
    : Accepts ⟨store.webhooks.insert webhookId webhook⟩ other tokenHash
      ↔ (other = webhookId ∧ webhook.status = .active ∧ webhook.tokenHash = tokenHash)
        ∨ (other ≠ webhookId ∧ store.Accepts other tokenHash) := by
  simp only [Accepts, Table.lookup_insert_eq]
  by_cases same : other = webhookId <;> simp [same]

/-- An active webhook accepts the hash it is written with, and no other. -/
theorem accepts_insert_active (store : IncomingWebhookStore) {webhook : IncomingWebhook}
    {hash : String} (active : webhook.status = .active) (hashed : webhook.tokenHash = hash)
    (webhookId other : Uuid) (tokenHash : String)
    : Accepts ⟨store.webhooks.insert webhookId webhook⟩ other tokenHash
      ↔ (other = webhookId ∧ tokenHash = hash)
        ∨ (other ≠ webhookId ∧ store.Accepts other tokenHash) := by
  rw [accepts_insert, @eq_comm _ tokenHash]
  simp only [active, hashed, true_and]

/-- A webhook that is written while active is not disabled, before or after. -/
theorem disabled_insert_active {webhook : IncomingWebhook} {webhookId : Uuid}
    (active : webhook.status = .active) (enabled : ¬ store.Disabled webhookId) (other : Uuid)
    : Disabled ⟨store.webhooks.insert webhookId webhook⟩ other ↔ store.Disabled other := by
  obtain rfl | differs := eq_or_ne other webhookId
  · refine iff_of_false ?_ enabled
    rintro ⟨stored, found, disabled⟩
    rw [AList.lookup_insert] at found
    obtain rfl := Option.some.inj found
    rw [active] at disabled
    cases disabled
  · simp only [Disabled, AList.lookup_insert_ne differs]

/-- A webhook that is written as disabled adds itself to the disabled ones. -/
theorem disabled_insert_disabled {webhook : IncomingWebhook} (webhookId : Uuid)
    (disabled : webhook.status = .disabled) (other : Uuid)
    : Disabled ⟨store.webhooks.insert webhookId webhook⟩ other
      ↔ other = webhookId ∨ store.Disabled other := by
  obtain rfl | differs := eq_or_ne other webhookId
  · exact iff_of_true ⟨webhook, AList.lookup_insert _, disabled⟩ (.inl rfl)
  · simp only [Disabled, AList.lookup_insert_ne differs, differs, false_or]

/-- An active webhook is not disabled. -/
theorem not_disabled_of_active {webhookId : Uuid} {webhook : IncomingWebhook}
    (stored : store.webhooks.lookup webhookId = some webhook) (active : webhook.status = .active)
    : ¬ store.Disabled webhookId := by
  rintro ⟨other, found, disabled⟩
  obtain rfl := Option.some.inj (stored.symm.trans found)
  rw [active] at disabled
  cases disabled

theorem activeWebhook_eq_some {webhookId channelId : Uuid} {webhook : IncomingWebhook}
    : store.activeWebhook webhookId channelId = some webhook
      ↔ store.webhooks.lookup webhookId = some webhook ∧ webhook.channelId = channelId
        ∧ webhook.status = .active := by
  simp [activeWebhook, Option.filter_eq_some_iff]

end IncomingWebhookStore

namespace IncomingWebhookService

variable {crypto : Crypto} {store next : IncomingWebhookStore}

theorem verify_eq_ok {webhookId : Uuid} {token : String} {webhook : IncomingWebhook}
    : verify crypto store webhookId token = .ok webhook
      ↔ store.webhooks.lookup webhookId = some webhook ∧ webhook.status = .active
        ∧ webhook.tokenHash = crypto.sha256 token := by
  rw [verify]
  split
  · next missing => simp [missing]
  · next stored =>
      split
      · next refused =>
          refine iff_of_false nofun ?_
          rintro ⟨same, active, hash⟩
          obtain rfl := Option.some.inj (stored.symm.trans same)
          exact refused.elim (absurd active) (absurd hash)
      · next accepted =>
          obtain ⟨active, hash⟩ := not_or.mp accepted
          rw [stored]
          constructor
          · intro same
            obtain rfl := Except.ok.inj same
            exact ⟨rfl, not_not.mp active, not_not.mp hash⟩
          · rintro ⟨same, -⟩
            rw [Option.some.inj same]

/-- A webhook is verified with a token exactly if it accepts its hash. -/
theorem verifies_iff {webhookId : Uuid} {token : String}
    : (∃ webhook, verify crypto store webhookId token = .ok webhook)
      ↔ store.Accepts webhookId (crypto.sha256 token) := by
  simp only [verify_eq_ok, IncomingWebhookStore.Accepts]

/-- A creation that fails leaves the webhooks. -/
theorem create_error {drawn : DrawnWebhook}
    {organizationId spaceId channelId createdByUserId : Uuid} {name : String}
    {error : WebhookError} {stores last : AuthStore × IncomingWebhookStore}
    (failed : (create crypto drawn organizationId spaceId channelId createdByUserId name).exec
      stores = (.error error, last))
    : last.2 = stores.2 := by
  rw [create, Eff.exec_check_bind] at failed
  split at failed
  · next name _ =>
      rw [Eff.exec_bind] at failed
      split at failed
      · cases failed
      · next refused =>
          cases failed
          exact congrArg (fun outcome => outcome.2.2) refused.symm
  · cases failed
    rfl

theorem create_ok {drawn : DrawnWebhook}
    {organizationId spaceId channelId createdByUserId : Uuid} {name : String}
    {webhook : IncomingWebhook} {token : String}
    {stores last : AuthStore × IncomingWebhookStore}
    (created : (create crypto drawn organizationId spaceId channelId createdByUserId name).exec
      stores = (.ok (webhook, token), last))
    : webhook.id = drawn.id ∧ webhook.status = .active
      ∧ webhook.tokenHash = crypto.sha256 token ∧ token = generateToken drawn.bytes
      ∧ last.2 = ⟨stores.2.webhooks.insert drawn.id webhook⟩ := by
  obtain ⟨name, _, created⟩ := Eff.exec_check_bind_eq_ok.mp created
  obtain ⟨_, middle, user, created⟩ := Eff.exec_bind_eq_ok.mp created
  obtain ⟨auth, _, rfl⟩ := Eff.exec_zoom_eq_ok.mp user
  obtain ⟨_, last, zoomed, created⟩ := Eff.exec_bind_eq_ok.mp created
  obtain ⟨webhooks, stored, rfl⟩ := Eff.exec_zoom_eq_ok.mp zoomed
  cases created
  exact ⟨rfl, rfl, rfl, rfl, (congrArg Prod.snd stored).symm⟩

/-- A rotation writes the new hash to an active webhook. -/
theorem exec_rotateToken (store : IncomingWebhookStore) (bytes : BitVec 256)
    (webhookId channelId : Uuid)
    : (rotateToken crypto bytes webhookId channelId).exec store
      = match store.activeWebhook webhookId channelId with
        | none => (.error .notFound, store)
        | some webhook =>
            let token := generateToken bytes
            let rotated := { webhook with
              tokenHash := crypto.sha256 token, tokenLastFour := Text.lastFour token }
            (.ok (rotated, token), ⟨store.webhooks.insert webhookId rotated⟩) := by
  rw [rotateToken, Eff.exec_bind, IncomingWebhookStore.rotateWebhookToken, Eff.exec_get_bind]
  cases store.activeWebhook webhookId channelId <;> rfl

/-- Disabling changes the status of an active webhook. -/
theorem exec_disable (store : IncomingWebhookStore) (webhookId channelId : Uuid)
    : (disable webhookId channelId).exec store
      = match store.activeWebhook webhookId channelId with
        | none => (.error .notFound, store)
        | some webhook =>
            let disabled := { webhook with status := .disabled }
            (.ok disabled, ⟨store.webhooks.insert webhookId disabled⟩) := by
  rw [disable, Eff.exec_bind, IncomingWebhookStore.disableWebhook, Eff.exec_get_bind]
  cases store.activeWebhook webhookId channelId <;> rfl

end IncomingWebhookService

end OpenCord.Webhooks

import OpenCord.Bots.Tokens
import OpenCord.Library.Runs
import OpenCord.Library.TokenRegistry
import OpenCord.Tenancy.ScimTokens
import OpenCord.Webhooks.Webhook

/-! Rotating a credential revokes the ones before it: the tokens of bots, webhooks and SCIM over
whole runs, against a registry of what was issued.
-/

namespace OpenCord.Server

open OpenCord.Library OpenCord.Platform OpenCord.Auth OpenCord.Tenancy OpenCord.Bots
  OpenCord.Webhooks

/-- What a token is issued to. -/
inductive Holder where
  | bot (applicationId : Uuid)
  | webhook (webhookId : Uuid)
  | scim (organizationId : Uuid)
  deriving DecidableEq

/-- The tokens that a holder's service generates. -/
def Holder.generate : Holder → BitVec 256 → String
  | .bot _ => BotService.generateBotToken
  | .webhook _ => IncomingWebhookService.generateToken
  | .scim _ => ScimService.generateScimToken

structure CredentialStores where
  auth : AuthStore
  bots : BotStore
  webhooks : IncomingWebhookStore
  scim : ScimStore

namespace CredentialStores

def empty : CredentialStores := ⟨.empty, .empty, .empty, .empty⟩

/-- A token lets its bearer act as the holder. -/
def Authenticates (crypto : Crypto) (stores : CredentialStores) (token : String)
    : Holder → Prop
  | .bot applicationId => ∃ bot, BotService.authenticateToken crypto stores.bots token = .ok bot
      ∧ bot.applicationId = applicationId
  | .webhook webhookId => ∃ webhook,
      IncomingWebhookService.verify crypto stores.webhooks webhookId token = .ok webhook
  | .scim organizationId => ∃ config,
      ScimService.configForToken crypto stores.scim token = .ok config
      ∧ config.organizationId = organizationId

/-- The store of a holder accepts the hash of a token. -/
def Accepts (stores : CredentialStores) (holder : Holder) (tokenHash : String) : Prop :=
  match holder with
  | .bot applicationId => stores.bots.Accepts applicationId tokenHash
  | .webhook webhookId => stores.webhooks.Accepts webhookId tokenHash
  | .scim organizationId => stores.scim.Accepts organizationId tokenHash

variable {stores : CredentialStores} {tokenHash : String}

/-- What holders accept after one of them took a hash in its store, for each of the stores. -/
theorem accepts_of_bots {bots : BotStore} {applicationId : Uuid} (auth : AuthStore)
    (replaced : ∀ other hash, bots.Accepts other hash
      ↔ (other = applicationId ∧ hash = tokenHash)
        ∨ (other ≠ applicationId ∧ stores.bots.Accepts other hash))
    (other : Holder) (hash : String)
    : Accepts { stores with auth := auth, bots := bots } other hash
      ↔ (other = .bot applicationId ∧ hash = tokenHash)
        ∨ (other ≠ .bot applicationId ∧ stores.Accepts other hash) := by
  cases other <;> simp [Accepts, replaced]

theorem accepts_of_webhooks {webhooks : IncomingWebhookStore} {webhookId : Uuid}
    (auth : AuthStore)
    (replaced : ∀ other hash, webhooks.Accepts other hash
      ↔ (other = webhookId ∧ hash = tokenHash)
        ∨ (other ≠ webhookId ∧ stores.webhooks.Accepts other hash))
    (other : Holder) (hash : String)
    : Accepts { stores with auth := auth, webhooks := webhooks } other hash
      ↔ (other = .webhook webhookId ∧ hash = tokenHash)
        ∨ (other ≠ .webhook webhookId ∧ stores.Accepts other hash) := by
  cases other <;> simp [Accepts, replaced]

theorem accepts_of_scim {scim : ScimStore} {organizationId : Uuid}
    (replaced : ∀ other hash, scim.Accepts other hash
      ↔ (other = organizationId ∧ hash = tokenHash)
        ∨ (other ≠ organizationId ∧ stores.scim.Accepts other hash))
    (other : Holder) (hash : String)
    : Accepts { stores with scim := scim } other hash
      ↔ (other = .scim organizationId ∧ hash = tokenHash)
        ∨ (other ≠ .scim organizationId ∧ stores.Accepts other hash) := by
  cases other <;> simp [Accepts, replaced]

end CredentialStores

inductive CredentialMove where
  | createBot (drawn : DrawnBot) (input : CreateBotApplicationInput)
  | rotateBot (tokenId : Uuid) (bytes : BitVec 256) (input : RotateBotTokenInput)
  | createWebhook (drawn : DrawnWebhook)
      (organizationId spaceId channelId createdByUserId : Uuid) (name : String)
  | rotateWebhook (bytes : BitVec 256) (webhookId channelId : Uuid)
  | disableWebhook (webhookId channelId : Uuid)
  | rotateScim (bytes : BitVec 256) (organizationId : Uuid)

/-- The stores, and what was issued and disabled so far. -/
structure CredentialHistory where
  stores : CredentialStores
  registry : TokenRegistry Holder String

namespace CredentialHistory

def empty : CredentialHistory := ⟨.empty, .empty⟩

/-- The history with other stores and a token issued. -/
def issue (history : CredentialHistory) (stores : CredentialStores) (holder : Holder)
    (token : String) : CredentialHistory :=
  ⟨stores, history.registry.issue holder token⟩

variable (crypto : Crypto)

/-- No token was issued with the hash of the drawn one. -/
def FreshToken (history : CredentialHistory) (token : String) : Prop :=
  history.registry.Fresh crypto.sha256 token

instance (history : CredentialHistory) (token : String)
    : Decidable (history.FreshToken crypto token) :=
  inferInstanceAs (Decidable (history.registry.Fresh crypto.sha256 token))

/-- One request; its drawn identifiers are new, and its drawn token has a new hash. -/
def step (history : CredentialHistory) : CredentialMove → Option CredentialHistory
  | .createBot drawn input =>
      if drawn.applicationId ∈ history.stores.bots.applications
          ∨ drawn.tokenId ∈ history.stores.bots.tokens
          ∨ ¬ history.FreshToken crypto (BotService.generateBotToken drawn.bytes) then
        none
      else
        match (BotService.createApplication crypto drawn input).exec
            (history.stores.auth, history.stores.bots) with
        | (.ok (application, token), auth, bots) =>
            some (history.issue { history.stores with auth := auth, bots := bots }
              (.bot application.id) token.token)
        | (.error _, auth, bots) =>
            some { history with stores := { history.stores with auth := auth, bots := bots } }
  | .rotateBot tokenId bytes input =>
      if tokenId ∈ history.stores.bots.tokens
          ∨ ¬ history.FreshToken crypto (BotService.generateBotToken bytes) then
        none
      else
        match (BotService.rotateToken crypto tokenId bytes input).exec history.stores.bots with
        | (.ok token, bots) =>
            some (history.issue { history.stores with bots := bots }
              (.bot token.applicationId) token.token)
        | (.error _, bots) =>
            some { history with stores := { history.stores with bots := bots } }
  | .createWebhook drawn organizationId spaceId channelId createdByUserId name =>
      if drawn.id ∈ history.stores.webhooks.webhooks
          ∨ ¬ history.FreshToken crypto (IncomingWebhookService.generateToken drawn.bytes) then
        none
      else
        match (IncomingWebhookService.create crypto drawn organizationId spaceId channelId
            createdByUserId name).exec (history.stores.auth, history.stores.webhooks) with
        | (.ok (webhook, token), auth, webhooks) =>
            some (history.issue { history.stores with auth := auth, webhooks := webhooks }
              (.webhook webhook.id) token)
        | (.error _, auth, webhooks) =>
            some { history with
              stores := { history.stores with auth := auth, webhooks := webhooks } }
  | .rotateWebhook bytes webhookId channelId =>
      if ¬ history.FreshToken crypto (IncomingWebhookService.generateToken bytes) then
        none
      else
        match (IncomingWebhookService.rotateToken crypto bytes webhookId channelId).exec
            history.stores.webhooks with
        | (.ok (_, token), webhooks) =>
            some (history.issue { history.stores with webhooks := webhooks }
              (.webhook webhookId) token)
        | (.error _, webhooks) =>
            some { history with stores := { history.stores with webhooks := webhooks } }
  | .disableWebhook webhookId channelId =>
      match (IncomingWebhookService.disable webhookId channelId).exec
          history.stores.webhooks with
      | (.ok _, webhooks) =>
          some ⟨{ history.stores with webhooks := webhooks },
            history.registry.disable (.webhook webhookId)⟩
      | (.error _, webhooks) =>
          some { history with stores := { history.stores with webhooks := webhooks } }
  | .rotateScim bytes organizationId =>
      if ¬ history.FreshToken crypto (ScimService.generateScimToken bytes) then
        none
      else
        match (Tenancy.ScimService.rotateToken crypto bytes organizationId).exec
            history.stores.scim with
        | (.ok token, scim) =>
            some (history.issue { history.stores with scim := scim }
              (.scim token.organizationId) token.token)
        | (.error _, scim) =>
            some { history with stores := { history.stores with scim := scim } }

/-- Between an earlier and a later time, rotating and disabling revoke for good. -/
structure RotationRevokes (earlier later : CredentialHistory) : Prop where
  onlyLatest : ∀ owner holder token, (owner, token) ∈ later.registry.issued →
    later.stores.Authenticates crypto token holder →
      owner = holder ∧ later.registry.latest holder = some token
  latest : ∀ holder token, later.registry.latest holder = some token →
    (∀ webhookId, holder = .webhook webhookId → holder ∉ later.registry.disabled) →
      later.stores.Authenticates crypto token holder
  superseded : ∀ owner token, (owner, token) ∈ earlier.registry.issued →
    earlier.registry.latest owner ≠ some token →
      ∀ holder, ¬ later.stores.Authenticates crypto token holder
  disabled : ∀ webhookId token, (.webhook webhookId, token) ∈ earlier.registry.issued →
    .webhook webhookId ∈ earlier.registry.disabled →
      ∀ holder, ¬ later.stores.Authenticates crypto token holder

/-- The registry describes the stores. -/
structure Kept (history : CredentialHistory) : Prop where
  owned : history.stores.bots.Owned
  inStep : history.stores.scim.InStep
  distinct : history.registry.Distinct crypto.sha256
  generated : ∀ holder token, (holder, token) ∈ history.registry.issued →
    ∃ bytes, token = holder.generate bytes
  accepts : history.registry.Matches crypto.sha256 history.stores.Accepts
  disabled : ∀ holder, holder ∈ history.registry.disabled
    ↔ ∃ webhookId, holder = .webhook webhookId ∧ history.stores.webhooks.Disabled webhookId

/-- After a request the registry describes the stores, and what was retired stays retired. -/
structure Advanced (history next : CredentialHistory) : Prop where
  kept : next.Kept crypto
  retired : ∀ holder token, history.registry.Retired holder token →
    next.registry.Retired holder token

variable {crypto} {history next : CredentialHistory}

theorem Kept.refl (kept : history.Kept crypto) : Advanced crypto history history :=
  ⟨kept, fun _ _ retired => retired⟩

theorem Kept.empty : CredentialHistory.empty.Kept crypto where
  owned := .empty
  inStep := .empty
  distinct := .empty _
  generated := nofun
  accepts := by
    refine .empty fun holder tokenHash => ?_
    cases holder with
    | bot applicationId => exact BotStore.not_accepts_empty applicationId tokenHash
    | webhook webhookId => exact IncomingWebhookStore.not_accepts_empty webhookId tokenHash
    | scim organizationId => exact ScimStore.not_accepts_empty organizationId tokenHash
  disabled := by
    refine fun holder => iff_of_false (List.not_mem_nil) ?_
    rintro ⟨webhookId, -, webhook, stored, -⟩
    cases stored

/-- The registry describes the stores after one of them took a new token for a holder. -/
theorem Kept.issue (kept : history.Kept crypto) {stores : CredentialStores} {holder : Holder}
    {bytes : BitVec 256} (fresh : history.FreshToken crypto (holder.generate bytes))
    (enabled : holder ∉ history.registry.disabled) (owned : stores.bots.Owned)
    (inStep : stores.scim.InStep)
    (disabled : ∀ webhookId, stores.webhooks.Disabled webhookId
      ↔ history.stores.webhooks.Disabled webhookId)
    (replaced : ∀ other tokenHash, stores.Accepts other tokenHash
      ↔ (other = holder ∧ tokenHash = crypto.sha256 (holder.generate bytes))
        ∨ (other ≠ holder ∧ history.stores.Accepts other tokenHash))
    : Advanced crypto history (history.issue stores holder (holder.generate bytes)) where
  kept := {
    owned := owned
    inStep := inStep
    distinct := kept.distinct.issue fresh holder
    generated := by
      intro other token mem
      rcases List.mem_cons.mp mem with same | mem
      · obtain ⟨rfl, rfl⟩ := Prod.mk.inj same
        exact ⟨bytes, rfl⟩
      · exact kept.generated other token mem
    accepts := kept.accepts.issue enabled replaced
    disabled := by
      intro other
      simp only [CredentialHistory.issue, disabled]
      exact kept.disabled other }
  retired := fun _ _ retired => retired.issue fresh

/-- Nothing but accounts changed. -/
theorem Kept.of_auth (kept : history.Kept crypto) (auth : AuthStore)
    : Advanced crypto history { history with stores := { history.stores with auth := auth } } where
  kept := { kept with
    accepts := fun holder tokenHash => by
      rw [← kept.accepts holder tokenHash]
      cases holder <;> rfl }
  retired := fun _ _ retired => retired

/-- Only webhooks are disabled. -/
theorem Kept.enabled_bot (kept : history.Kept crypto) (applicationId : Uuid)
    : .bot applicationId ∉ history.registry.disabled := by
  intro disabled
  obtain ⟨webhookId, same, -⟩ := (kept.disabled _).mp disabled
  cases same

theorem Kept.enabled_scim (kept : history.Kept crypto) (organizationId : Uuid)
    : .scim organizationId ∉ history.registry.disabled := by
  intro disabled
  obtain ⟨webhookId, same, -⟩ := (kept.disabled _).mp disabled
  cases same

theorem Kept.disabled_webhook (kept : history.Kept crypto) (webhookId : Uuid)
    : .webhook webhookId ∈ history.registry.disabled
      ↔ history.stores.webhooks.Disabled webhookId := by
  rw [kept.disabled]
  simp

/-- No holder accepts the hash of a fresh token. -/
theorem Kept.not_accepts_of_fresh (kept : history.Kept crypto) {token : String}
    (fresh : history.FreshToken crypto token) (holder : Holder)
    : ¬ history.stores.Accepts holder (crypto.sha256 token) := by
  intro accepted
  obtain ⟨known, authorized, same⟩ := (kept.accepts holder _).mp accepted
  exact fresh _ (TokenRegistry.mem_issued_of_latest authorized.1) same

theorem Kept.createBot (kept : history.Kept crypto) {drawn : DrawnBot}
    {input : CreateBotApplicationInput}
    (stepped : history.step crypto (.createBot drawn input) = some next)
    : Advanced crypto history next := by
  rw [CredentialHistory.step] at stepped
  split at stepped
  · cases stepped
  · next new =>
      obtain ⟨newApplication, newToken, fresh⟩ := by simpa only [not_or, not_not] using new
      split at stepped
      · next application token auth bots created =>
          obtain rfl := Option.some.inj stepped
          obtain ⟨sameId, text, owned, replaced⟩ :=
            BotService.createApplication_ok kept.owned newApplication newToken created
          rw [text] at replaced ⊢
          rw [sameId]
          have freshToken : history.FreshToken crypto
            ((Holder.bot drawn.applicationId).generate drawn.bytes) := fresh
          exact kept.issue freshToken (kept.enabled_bot _) owned kept.inStep
            (fun _ => Iff.rfl) (CredentialStores.accepts_of_bots auth replaced)
      · next auth bots failed =>
          obtain rfl := Option.some.inj stepped
          obtain rfl : bots = _ := BotService.createApplication_error failed
          exact kept.of_auth auth

theorem Kept.rotateBot (kept : history.Kept crypto) {tokenId : Uuid} {bytes : BitVec 256}
    {input : RotateBotTokenInput}
    (stepped : history.step crypto (.rotateBot tokenId bytes input) = some next)
    : Advanced crypto history next := by
  rw [CredentialHistory.step] at stepped
  split at stepped
  · cases stepped
  · next new =>
      obtain ⟨newToken, fresh⟩ := by simpa only [not_or, not_not] using new
      split at stepped
      · next token bots rotated =>
          obtain rfl := Option.some.inj stepped
          obtain ⟨owner, text, owned, replaced⟩ :=
            BotService.rotateToken_ok kept.owned newToken rotated
          rw [text] at replaced ⊢
          rw [owner]
          have freshToken : history.FreshToken crypto
            ((Holder.bot input.applicationId).generate bytes) := fresh
          exact kept.issue freshToken (kept.enabled_bot _) owned kept.inStep
            (fun _ => Iff.rfl) (CredentialStores.accepts_of_bots history.stores.auth replaced)
      · next bots failed =>
          obtain rfl := Option.some.inj stepped
          obtain rfl := BotService.rotateToken_atomic _ _ _ _ _ _ failed
          exact kept.refl

theorem Kept.createWebhook (kept : history.Kept crypto) {drawn : DrawnWebhook}
    {organizationId spaceId channelId createdByUserId : Uuid} {name : String}
    (stepped : history.step crypto (.createWebhook drawn organizationId spaceId channelId
      createdByUserId name) = some next)
    : Advanced crypto history next := by
  rw [CredentialHistory.step] at stepped
  split at stepped
  · cases stepped
  · next new =>
      obtain ⟨newWebhook, fresh⟩ := by simpa only [not_or, not_not] using new
      split at stepped
      · next webhook token auth webhooks created =>
          obtain rfl := Option.some.inj stepped
          obtain ⟨sameId, active, hash, text, stored⟩ := IncomingWebhookService.create_ok created
          dsimp only at stored
          subst text stored
          rw [sameId]
          have freshToken : history.FreshToken crypto
            ((Holder.webhook drawn.id).generate drawn.bytes) := fresh
          have enabled : ¬ history.stores.webhooks.Disabled drawn.id := by
            rintro ⟨other, found, -⟩
            exact newWebhook (Table.mem_of_lookup found)
          exact kept.issue freshToken (kept.disabled_webhook _ |>.not.mpr enabled) kept.owned
            kept.inStep (IncomingWebhookStore.disabled_insert_active active enabled)
            (CredentialStores.accepts_of_webhooks auth
              (IncomingWebhookStore.accepts_insert_active _ active hash drawn.id))
      · next auth webhooks failed =>
          obtain rfl := Option.some.inj stepped
          obtain rfl : webhooks = _ := IncomingWebhookService.create_error failed
          exact kept.of_auth auth

theorem Kept.rotateWebhook (kept : history.Kept crypto) {bytes : BitVec 256}
    {webhookId channelId : Uuid}
    (stepped : history.step crypto (.rotateWebhook bytes webhookId channelId) = some next)
    : Advanced crypto history next := by
  rw [CredentialHistory.step] at stepped
  split at stepped
  · cases stepped
  · next new =>
      have freshToken : history.FreshToken crypto ((Holder.webhook webhookId).generate bytes) :=
        not_not.mp new
      rw [IncomingWebhookService.exec_rotateToken] at stepped
      cases found : history.stores.webhooks.activeWebhook webhookId channelId with
      | none =>
          rw [found] at stepped
          obtain rfl := Option.some.inj stepped
          exact kept.refl
      | some webhook =>
          rw [found] at stepped
          obtain rfl := Option.some.inj stepped
          obtain ⟨stored, -, active⟩ := IncomingWebhookStore.activeWebhook_eq_some.mp found
          have enabled := IncomingWebhookStore.not_disabled_of_active stored active
          refine kept.issue freshToken (kept.disabled_webhook _ |>.not.mpr enabled) kept.owned
            kept.inStep (IncomingWebhookStore.disabled_insert_active active enabled)
            (CredentialStores.accepts_of_webhooks _ ?_)
          apply IncomingWebhookStore.accepts_insert_active
          · exact active
          · rfl

theorem Kept.disableWebhook (kept : history.Kept crypto) {webhookId channelId : Uuid}
    (stepped : history.step crypto (.disableWebhook webhookId channelId) = some next)
    : Advanced crypto history next := by
  rw [CredentialHistory.step, IncomingWebhookService.exec_disable] at stepped
  cases found : history.stores.webhooks.activeWebhook webhookId channelId with
  | none =>
      rw [found] at stepped
      obtain rfl := Option.some.inj stepped
      exact kept.refl
  | some webhook =>
      rw [found] at stepped
      obtain rfl := Option.some.inj stepped
      refine ⟨?_, fun _ _ retired => retired.disable _⟩
      exact {
        owned := kept.owned
        inStep := kept.inStep
        distinct := kept.distinct
        generated := kept.generated
        accepts := by
          refine kept.accepts.disable fun other tokenHash => ?_
          cases other with
          | bot applicationId => simp [CredentialStores.Accepts]
          | webhook other =>
              simp [CredentialStores.Accepts, IncomingWebhookStore.accepts_insert]
          | scim organizationId => simp [CredentialStores.Accepts]
        disabled := by
          intro holder
          have now := @IncomingWebhookStore.disabled_insert_disabled history.stores.webhooks
            { webhook with status := .disabled } webhookId rfl
          simp only [TokenRegistry.disable, List.mem_cons, kept.disabled holder, now]
          constructor
          · rintro (rfl | ⟨other, rfl, disabled⟩)
            · exact ⟨webhookId, rfl, .inl rfl⟩
            · exact ⟨other, rfl, .inr disabled⟩
          · rintro ⟨other, rfl, rfl | disabled⟩
            · exact .inl rfl
            · exact .inr ⟨other, rfl, disabled⟩ }

theorem Kept.rotateScim (kept : history.Kept crypto) {bytes : BitVec 256}
    {organizationId : Uuid}
    (stepped : history.step crypto (.rotateScim bytes organizationId) = some next)
    : Advanced crypto history next := by
  rw [CredentialHistory.step] at stepped
  split at stepped
  · cases stepped
  · next new =>
      have freshToken : history.FreshToken crypto
        ((Holder.scim organizationId).generate bytes) := not_not.mp new
      have notAccepted : ∀ other, ¬ history.stores.scim.Accepts other
          (crypto.sha256 (ScimService.generateScimToken bytes)) :=
        fun other => kept.not_accepts_of_fresh freshToken (.scim other)
      obtain ⟨inStep, replaced⟩ := @ScimStore.InStep.rotateToken _ kept.inStep
        ⟨organizationId, crypto.sha256 (ScimService.generateScimToken bytes)⟩ notAccepted
      obtain rfl := Option.some.inj stepped
      exact kept.issue freshToken (kept.enabled_scim _) kept.owned inStep (fun _ => Iff.rfl)
        (CredentialStores.accepts_of_scim replaced)

theorem Kept.step (kept : history.Kept crypto) {move : CredentialMove}
    (stepped : history.step crypto move = some next)
    : Advanced crypto history next := by
  cases move with
  | createBot drawn input => exact kept.createBot stepped
  | rotateBot tokenId bytes input => exact kept.rotateBot stepped
  | createWebhook drawn organizationId spaceId channelId createdByUserId name =>
      exact kept.createWebhook stepped
  | rotateWebhook bytes webhookId channelId => exact kept.rotateWebhook stepped
  | disableWebhook webhookId channelId => exact kept.disableWebhook stepped
  | rotateScim bytes organizationId => exact kept.rotateScim stepped

theorem kept_of_reachable (reachable : Reachable (step crypto) .empty history)
    : history.Kept crypto :=
  reachable.invariant .empty fun _ _ _ kept stepped => (kept.step stepped).kept

-----------------------------------------------------------------------------------------
-- Authentication
-----------------------------------------------------------------------------------------

/-- Trimming leaves every issued token as it is. -/
theorem Kept.trim_issued (kept : history.Kept crypto) {holder : Holder} {token : String}
    (known : (holder, token) ∈ history.registry.issued)
    : Text.trim token = token := by
  obtain ⟨bytes, rfl⟩ := kept.generated holder token known
  cases holder <;> exact trim_randomToken bytes (by decide)

/-- Whoever authenticates with an issued token has a hash that the store accepts. -/
theorem Kept.accepts_of_authenticates (kept : history.Kept crypto) {owner holder : Holder}
    {token : String} (known : (owner, token) ∈ history.registry.issued)
    (authenticates : history.stores.Authenticates crypto token holder)
    : history.stores.Accepts holder (crypto.sha256 token) := by
  cases holder with
  | bot applicationId =>
      obtain ⟨bot, authenticated, rfl⟩ := authenticates
      exact BotService.accepts_of_authenticateToken kept.owned authenticated
  | webhook webhookId => exact IncomingWebhookService.verifies_iff.mp authenticates
  | scim organizationId =>
      obtain ⟨config, found, rfl⟩ := authenticates
      exact ⟨config, ScimService.lookup_of_configForToken (kept.trim_issued known) found, rfl⟩

/-- A holder whose store accepts the hash of a token it was issued is authenticated by it. -/
theorem Kept.authenticates_of_accepts (kept : history.Kept crypto) {holder : Holder}
    {token : String} (known : (holder, token) ∈ history.registry.issued)
    (accepted : history.stores.Accepts holder (crypto.sha256 token))
    : history.stores.Authenticates crypto token holder := by
  obtain ⟨bytes, rfl⟩ := kept.generated holder token known
  cases holder with
  | bot applicationId =>
      refine BotService.authenticateToken_of_accepts kept.owned accepted fun other taken => ?_
      have bearer : history.stores.Accepts (.bot other) _ := taken
      exact (Holder.bot.inj (kept.accepts.authorizes kept.distinct known bearer).1).symm
  | webhook webhookId => exact IncomingWebhookService.verifies_iff.mpr accepted
  | scim organizationId =>
      obtain ⟨config, stored, owner⟩ := accepted
      exact ⟨config, ScimService.configForToken_of_lookup stored, owner⟩

/-- Nobody is authenticated by a retired token. -/
theorem Kept.not_authenticates_of_retired (kept : history.Kept crypto) {owner : Holder}
    {token : String} (retired : history.registry.Retired owner token) (holder : Holder)
    : ¬ history.stores.Authenticates crypto token holder := by
  intro authenticates
  have accepted := kept.accepts_of_authenticates retired.1 authenticates
  exact kept.accepts.not_accepts_of_retired kept.distinct retired accepted

-----------------------------------------------------------------------------------------
-- Every run
-----------------------------------------------------------------------------------------

/-- What is retired stays retired in every later state, by induction over the requests. -/
theorem Kept.continued (kept : history.Kept crypto) {later : CredentialHistory}
    (continued : Reachable (CredentialHistory.step crypto) history later)
    : Advanced crypto history later := by
  refine @Reachable.invariant _ _ _ (Advanced crypto history) _ _ continued kept.refl ?_
  intro state move next advanced stepped
  have now := advanced.kept.step stepped
  exact ⟨now.kept, fun holder token retired => now.retired _ _ (advanced.retired _ _ retired)⟩

/-- Between a reachable time and any later one, rotating and disabling revoke for good. -/
theorem rotationRevokes_of_reachable (crypto : Crypto) (earlier later : CredentialHistory)
    (reachable : Reachable (step crypto) .empty earlier)
    (continued : Reachable (step crypto) earlier later)
    : RotationRevokes crypto earlier later := by
  have before := kept_of_reachable reachable
  obtain ⟨kept, stays⟩ := before.continued continued
  exact {
    onlyLatest := by
      intro owner holder token known authenticates
      have accepted := kept.accepts_of_authenticates known authenticates
      obtain ⟨sameHolder, authorized⟩ := kept.accepts.authorizes kept.distinct known accepted
      exact ⟨sameHolder, authorized.1⟩
    latest := by
      intro holder token last enabled
      apply kept.authenticates_of_accepts (TokenRegistry.mem_issued_of_latest last)
      refine (kept.accepts _ _).mpr ⟨token, ⟨last, fun disabled => ?_⟩, rfl⟩
      obtain ⟨webhookId, same, _⟩ := (kept.disabled holder).mp disabled
      exact enabled webhookId same disabled
    superseded := by
      intro owner token known notLast
      apply kept.not_authenticates_of_retired
      exact stays _ _ ⟨known, fun authorized => notLast authorized.1⟩
    disabled := by
      intro webhookId token known disabled
      apply kept.not_authenticates_of_retired
      exact stays _ _ ⟨known, fun authorized => authorized.2 disabled⟩ }

namespace Vault

/-- Digests that name what they are of. -/
def digests : Crypto where
  sha256 text := "sha256:" ++ text
  hmacSha256 key message := "hmac:" ++ key ++ ":" ++ message
  hashPassword salt password := salt ++ ":" ++ password
  verifyPassword password hash := hash.endsWith password

def organizationId : Uuid := .ofNat 10
def channelId : Uuid := .ofNat 20
def applicationId : Uuid := .ofNat 30
def webhookId : Uuid := .ofNat 40

/-- A bot, a webhook and a SCIM configuration get their first tokens. -/
def issues : List CredentialMove :=
  [.createBot ⟨applicationId, .ofNat 31, .ofNat 32, 1⟩
      ⟨organizationId, .ofNat 1, "Helper", none⟩,
    .createWebhook ⟨webhookId, .ofNat 41, 2, "2026-01-01T00:00:00.000Z"⟩ organizationId
      (.ofNat 21) channelId (.ofNat 1) "Alerts",
    .rotateScim 3 organizationId]

/-- All three get another token, and the webhook is disabled. -/
def rotations : List CredentialMove :=
  [.rotateBot (.ofNat 33) 4 ⟨organizationId, applicationId, .ofNat 1⟩,
    .rotateWebhook 5 webhookId channelId, .rotateScim 6 organizationId,
    .disableWebhook webhookId channelId]

end Vault

theorem vault_rotationRevokes
    : ∃ earlier later, run (step Vault.digests) .empty Vault.issues = some earlier
        ∧ run (step Vault.digests) earlier Vault.rotations = some later
        ∧ RotationRevokes Vault.digests earlier later :=
  ⟨_, _, rfl, rfl, rotationRevokes_of_reachable _ _ _ ⟨Vault.issues, rfl⟩
    ⟨Vault.rotations, rfl⟩⟩

end CredentialHistory

end OpenCord.Server

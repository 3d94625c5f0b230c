import OpenCord.Bots.Store
import OpenCord.Platform.Tokens

/-! The tokens of bot applications: every token is stored, and rotation deactivates those that
an application had before.
-/

namespace OpenCord.Bots

open OpenCord.Library OpenCord.Platform OpenCord.Auth

structure BotToken where
  id : Uuid
  applicationId : Uuid
  token : String
  tokenLastFour : String
  deriving DecidableEq

structure CreateBotApplicationInput where
  organizationId : Uuid
  createdByUserId : Uuid
  name : String
  description : Option String

structure RotateBotTokenInput where
  organizationId : Uuid
  applicationId : Uuid
  createdByUserId : Uuid

/-- What the creation of an application draws. -/
structure DrawnBot where
  applicationId : Uuid
  botUserId : Uuid
  tokenId : Uuid
  bytes : BitVec 256

namespace BotStore

/-- A token after another one was issued for an application. -/
def superseded (applicationId : Uuid) (token : StoredBotToken) : StoredBotToken :=
  if token.applicationId = applicationId then { token with active := false } else token

def rotateToken (token : StoredBotToken) : Eff BotStore BotError Unit := do
  let store ← get
  if token.applicationId ∉ store.applications then
    throw .notFound
  else
    set { store with
      tokens := (Table.mapValues (superseded token.applicationId) store.tokens).insert
        token.id token }

end BotStore

namespace BotService

def generateBotToken (bytes : BitVec 256) : String := randomToken "ocb_" bytes

/-- A stored token with its text, as its owner gets to see it once. -/
def shown (token : String) (stored : StoredBotToken) : BotToken :=
  ⟨stored.id, stored.applicationId, token, stored.tokenLastFour⟩

/-- Creates an application, with a user for its bot. -/
def createApplication (crypto : Crypto) (drawn : DrawnBot) (input : CreateBotApplicationInput)
    : Eff (AuthStore × BotStore) BotError (BotApplication × BotToken) := do
  let name ← normalizeName input.name
  let description ← normalizeDescription input.description
  Eff.zoom Prod.fst (fun stores auth => (auth, stores.2)) BotError.ofAuth
    (AuthStore.createUser ⟨drawn.botUserId, botUserEmail drawn.botUserId, name,
      botUserPasswordMarker drawn.applicationId⟩)
  let application : BotApplication :=
    ⟨drawn.applicationId, input.organizationId, drawn.botUserId, input.createdByUserId, name,
      description, "active"⟩
  let token := generateBotToken drawn.bytes
  let stored :=
    newBotToken crypto drawn.tokenId drawn.applicationId input.createdByUserId token
  Eff.zoom Prod.snd (fun stores bots => (stores.1, bots)) id
    (BotStore.createApplication application stored)
  return (application, shown token stored)

def rotateToken (crypto : Crypto) (tokenId : Uuid) (bytes : BitVec 256)
    (input : RotateBotTokenInput) : Eff BotStore BotError BotToken := do
  let store ← get
  let application ← applicationForOrganization store input.applicationId input.organizationId
  let token := generateBotToken bytes
  let stored := newBotToken crypto tokenId application.id input.createdByUserId token
  BotStore.rotateToken stored
  return shown token stored

end BotService

-----------------------------------------------------------------------------------------
-- Accepted tokens
-----------------------------------------------------------------------------------------

namespace BotStore

/-- An active token of an application has the hash. -/
def Accepts (store : BotStore) (applicationId : Uuid) (tokenHash : String) : Prop :=
  ∃ tokenId token, store.tokens.lookup tokenId = some token ∧ token.active = true
    ∧ token.applicationId = applicationId ∧ token.tokenHash = tokenHash

/-- Applications are active and stored under their identifiers, and tokens belong to them. -/
structure Owned (store : BotStore) : Prop where
  applications : ∀ applicationId application,
    store.applications.lookup applicationId = some application →
      application.id = applicationId ∧ application.status = "active"
  tokens : ∀ tokenId token, store.tokens.lookup tokenId = some token →
    token.applicationId ∈ store.applications

variable {store : BotStore}

theorem Owned.empty : BotStore.empty.Owned :=
  ⟨nofun, nofun⟩

theorem not_accepts_empty (applicationId : Uuid) (tokenHash : String)
    : ¬ BotStore.empty.Accepts applicationId tokenHash := by
  rintro ⟨tokenId, token, stored, -⟩
  cases stored

/-- A token stored under a new identifier, beside tokens of other applications only. -/
theorem accepts_insert {tokens : Table Uuid StoredBotToken} {token : StoredBotToken}
    (new : token.id ∉ tokens) (active : token.active = true)
    (others : ∀ tokenId other, tokens.lookup tokenId = some other → other.active = true →
      other.applicationId ≠ token.applicationId)
    (applications : Table Uuid BotApplication) (applicationId : Uuid) (tokenHash : String)
    : Accepts ⟨applications, tokens.insert token.id token⟩ applicationId tokenHash
      ↔ (applicationId = token.applicationId ∧ tokenHash = token.tokenHash)
        ∨ (applicationId ≠ token.applicationId
          ∧ Accepts ⟨applications, tokens⟩ applicationId tokenHash) := by
  constructor
  · rintro ⟨tokenId, found, stored, isActive, rfl, rfl⟩
    rw [Table.lookup_insert_eq] at stored
    split at stored
    · cases stored
      exact .inl ⟨rfl, rfl⟩
    · exact .inr ⟨others tokenId found stored isActive,
        tokenId, found, stored, isActive, rfl, rfl⟩
  · rintro (⟨rfl, rfl⟩ | ⟨-, tokenId, found, stored, isActive, owner, hash⟩)
    · exact ⟨token.id, token, AList.lookup_insert _, active, rfl, rfl⟩
    · refine ⟨tokenId, found, ?_, isActive, owner, hash⟩
      rw [Table.lookup_insert_eq, if_neg]
      · exact stored
      · rintro rfl
        exact new (Table.mem_of_lookup stored)

/-- What the tokens are after those of an application were superseded. -/
theorem lookup_superseded {applicationId tokenId : Uuid} {token : StoredBotToken}
    : (Table.mapValues (superseded applicationId) store.tokens).lookup tokenId = some token
          ∧ token.active = true
      ↔ store.tokens.lookup tokenId = some token ∧ token.active = true
          ∧ token.applicationId ≠ applicationId := by
  rw [Table.lookup_mapValues, Option.map_eq_some_iff]
  constructor
  · rintro ⟨⟨previous, stored, rfl⟩, active⟩
    rw [superseded] at active ⊢
    split
    · next own => simp [own] at active
    · next other =>
        rw [if_neg other] at active
        exact ⟨stored, active, other⟩
  · rintro ⟨stored, active, other⟩
    exact ⟨⟨token, stored, if_neg other⟩, active⟩

/-- A new application has one token. -/
theorem createApplication_ok {application : BotApplication} {token : StoredBotToken}
    (owned : store.Owned) (newApplication : application.id ∉ store.applications)
    (newToken : token.id ∉ store.tokens) (isActive : application.status = "active")
    (own : token.applicationId = application.id) (active : token.active = true)
    : ((createApplication application token).after store).Owned
      ∧ ∀ applicationId tokenHash,
          ((createApplication application token).after store).Accepts applicationId tokenHash
            ↔ (applicationId = application.id ∧ tokenHash = token.tokenHash)
              ∨ (applicationId ≠ application.id ∧ store.Accepts applicationId tokenHash) := by
  refine ⟨⟨?_, ?_⟩, ?_⟩
  · exact Table.forall_insert ⟨rfl, isActive⟩ owned.applications
  · apply Table.forall_insert
    · rw [own]
      exact (AList.mem_insert _).mpr (.inl rfl)
    · intro tokenId other stored
      exact (AList.mem_insert _).mpr (.inr (owned.tokens tokenId other stored))
  · intro applicationId tokenHash
    rw [← own]
    refine accepts_insert newToken active (fun tokenId other stored _ same => ?_) _ _ _
    apply newApplication
    rw [← own, ← same]
    exact owned.tokens tokenId other stored

theorem rotateToken_atomic (token : StoredBotToken) : (rotateToken token).Atomic := by
  refine .get_bind fun store => ?_
  split
  · exact .throw _
  · exact .set _

/-- A rotated token takes the place of the others of its application. -/
theorem rotateToken_ok {token : StoredBotToken} {next : BotStore} (owned : store.Owned)
    (newToken : token.id ∉ store.tokens) (active : token.active = true)
    (rotated : (rotateToken token).exec store = (.ok (), next))
    : next.Owned ∧ ∀ applicationId tokenHash, next.Accepts applicationId tokenHash
        ↔ (applicationId = token.applicationId ∧ tokenHash = token.tokenHash)
          ∨ (applicationId ≠ token.applicationId ∧ store.Accepts applicationId tokenHash) := by
  rw [rotateToken, Eff.exec_get_bind] at rotated
  split at rotated
  · cases rotated
  · next known =>
      cases rotated
      have others : ∀ tokenId other,
          (Table.mapValues (superseded token.applicationId) store.tokens).lookup tokenId
              = some other →
            other.active = true → other.applicationId ≠ token.applicationId := by
        intro tokenId other stored isActive
        exact (lookup_superseded.mp ⟨stored, isActive⟩).2.2
      have new : token.id ∉ Table.mapValues (superseded token.applicationId) store.tokens := by
        rw [← AList.lookup_eq_none, Table.lookup_mapValues, AList.lookup_eq_none.mpr newToken]
        rfl
      refine ⟨⟨owned.applications, ?_⟩, fun applicationId tokenHash => ?_⟩
      · refine Table.forall_insert (not_not.mp known) fun tokenId other stored => ?_
        rw [Table.lookup_mapValues, Option.map_eq_some_iff] at stored
        obtain ⟨previous, stored, rfl⟩ := stored
        have owner := owned.tokens tokenId previous stored
        rw [superseded]
        split <;> exact owner
      · rw [accepts_insert new active others]
        refine or_congr_right (and_congr_right fun differs => ?_)
        constructor
        · rintro ⟨tokenId, other, stored, isActive, owner, hash⟩
          obtain ⟨stored, isActive, -⟩ := lookup_superseded.mp ⟨stored, isActive⟩
          exact ⟨tokenId, other, stored, isActive, owner, hash⟩
        · rintro ⟨tokenId, other, stored, isActive, rfl, hash⟩
          obtain ⟨stored, -⟩ := lookup_superseded.mpr ⟨stored, isActive, differs⟩
          exact ⟨tokenId, other, stored, isActive, rfl, hash⟩

/-- The bot found by a hash belongs to an application that accepts the hash. -/
theorem accepts_of_find (owned : store.Owned) {tokenHash : String} {bot : AuthenticatedBot}
    (found : store.findBotByTokenHash tokenHash = some bot)
    : store.Accepts bot.applicationId tokenHash := by
  simp only [findBotByTokenHash, Option.bind_eq_bind, Option.bind_eq_some_iff] at found
  obtain ⟨token, first, application, stored, found⟩ := found
  split at found
  · obtain rfl := Option.some.inj found
    obtain ⟨tokenId, inTable⟩ := Table.mem_values.mp (List.mem_of_find?_eq_some first)
    have matched : token.tokenHash = tokenHash ∧ token.active = true := by
      simpa using List.find?_some first
    obtain ⟨sameId, -⟩ := owned.applications _ application stored
    exact ⟨tokenId, token, inTable, matched.2, sameId.symm, matched.1⟩
  · cases found

/-- A hash that one application alone accepts finds its bot. -/
theorem find_of_accepts (owned : store.Owned) {applicationId : Uuid} {tokenHash : String}
    (accepted : store.Accepts applicationId tokenHash)
    (alone : ∀ other, store.Accepts other tokenHash → other = applicationId)
    : ∃ bot, store.findBotByTokenHash tokenHash = some bot
        ∧ bot.applicationId = applicationId := by
  obtain ⟨tokenId, token, stored, active, -, hash⟩ := accepted
  have listed : token ∈ store.tokens.values := Table.mem_values.mpr ⟨tokenId, stored⟩
  have some_ : (store.tokens.values.find? fun token =>
      token.tokenHash = tokenHash ∧ token.active = true).isSome := by
    rw [List.find?_isSome]
    exact ⟨token, listed, by simp [hash, active]⟩
  obtain ⟨first, found⟩ := Option.isSome_iff_exists.mp some_
  have matched : first.tokenHash = tokenHash ∧ first.active = true := by
    simpa using List.find?_some found
  obtain ⟨firstId, inTable⟩ := Table.mem_values.mp (List.mem_of_find?_eq_some found)
  have owner : first.applicationId = applicationId :=
    alone _ ⟨firstId, first, inTable, matched.2, rfl, matched.1⟩
  obtain ⟨application, known⟩ := Option.isSome_iff_exists.mp
    (AList.lookup_isSome.mpr (owned.tokens firstId first inTable))
  obtain ⟨sameId, isActive⟩ := owned.applications _ application known
  refine ⟨⟨application.id, application.organizationId, application.botUserId,
    application.name⟩, ?_, sameId.trans owner⟩
  simp only [findBotByTokenHash, Option.bind_eq_bind, found, Option.bind_some, known, isActive,
    if_true]
  rfl

end BotStore

namespace BotService

variable {crypto : Crypto}

/-- A creation that fails leaves the bots. -/
theorem createApplication_error {drawn : DrawnBot} {input : CreateBotApplicationInput}
    {error : BotError} {stores next : AuthStore × BotStore}
    (failed : (createApplication crypto drawn input).exec stores = (.error error, next))
    : next.2 = stores.2 := by
  rw [createApplication, Eff.exec_check_bind] at failed
  split at failed
  · next name _ =>
      rw [Eff.exec_check_bind] at failed
      split at failed
      · next description _ =>
          rw [Eff.exec_bind] at failed
          split at failed
          · cases failed
          · next refused => 
              cases failed
              exact congrArg (fun outcome => outcome.2.2) refused.symm
      · cases failed
        rfl
  · cases failed
    rfl

/-- A created application accepts the token that its creator is shown, and no other. -/
theorem createApplication_ok {drawn : DrawnBot} {input : CreateBotApplicationInput}
    {application : BotApplication} {token : BotToken} {stores next : AuthStore × BotStore}
    (owned : stores.2.Owned) (newApplication : drawn.applicationId ∉ stores.2.applications)
    (newToken : drawn.tokenId ∉ stores.2.tokens)
    (created : (createApplication crypto drawn input).exec stores
      = (.ok (application, token), next))
    : application.id = drawn.applicationId ∧ token.token = generateBotToken drawn.bytes
      ∧ next.2.Owned ∧ ∀ applicationId tokenHash, next.2.Accepts applicationId tokenHash
        ↔ (applicationId = drawn.applicationId ∧ tokenHash = crypto.sha256 token.token)
          ∨ (applicationId ≠ drawn.applicationId
            ∧ stores.2.Accepts applicationId tokenHash) := by
  obtain ⟨name, _, created⟩ := Eff.exec_check_bind_eq_ok.mp created
  obtain ⟨description, _, created⟩ := Eff.exec_check_bind_eq_ok.mp created
  obtain ⟨_, middle, user, created⟩ := Eff.exec_bind_eq_ok.mp created
  obtain ⟨auth, _, rfl⟩ := Eff.exec_zoom_eq_ok.mp user
  obtain ⟨_, last, zoomed, created⟩ := Eff.exec_bind_eq_ok.mp created
  obtain ⟨bots, stored, rfl⟩ := Eff.exec_zoom_eq_ok.mp zoomed
  cases created
  obtain rfl : _ = bots := congrArg Prod.snd stored
  refine ⟨rfl, rfl, ?_⟩
  exact BotStore.createApplication_ok owned newApplication newToken rfl rfl rfl

theorem applicationForOrganization_id {store : BotStore} (owned : store.Owned)
    {applicationId organizationId : Uuid} {application : BotApplication}
    (found : applicationForOrganization store applicationId organizationId = .ok application)
    : application.id = applicationId := by
  unfold applicationForOrganization ownedBy at found
  split at found
  · cases found
  · next stored =>
      split at found
      · obtain rfl := Except.ok.inj found
        exact (owned.applications _ _ stored).1
      · cases found

theorem rotateToken_atomic (tokenId : Uuid) (bytes : BitVec 256) (input : RotateBotTokenInput)
    : (rotateToken crypto tokenId bytes input).Atomic :=
  .get_bind fun _ => .check_bind fun _ => (BotStore.rotateToken_atomic _).map _

/-- An application accepts its rotated token, and no other. -/
theorem rotateToken_ok {tokenId : Uuid} {bytes : BitVec 256} {input : RotateBotTokenInput}
    {token : BotToken} {store next : BotStore} (owned : store.Owned)
    (newToken : tokenId ∉ store.tokens)
    (rotated : (rotateToken crypto tokenId bytes input).exec store = (.ok token, next))
    : token.applicationId = input.applicationId ∧ token.token = generateBotToken bytes
      ∧ next.Owned ∧ ∀ applicationId tokenHash, next.Accepts applicationId tokenHash
        ↔ (applicationId = input.applicationId ∧ tokenHash = crypto.sha256 token.token)
          ∨ (applicationId ≠ input.applicationId ∧ store.Accepts applicationId tokenHash) := by
  rw [rotateToken, Eff.exec_get_bind] at rotated
  obtain ⟨application, found, rotated⟩ := Eff.exec_check_bind_eq_ok.mp rotated
  obtain ⟨_, middle, stored, rotated⟩ := Eff.exec_bind_eq_ok.mp rotated
  cases rotated
  have result := BotStore.rotateToken_ok owned newToken rfl stored
  rw [← applicationForOrganization_id owned found]
  exact ⟨rfl, rfl, result⟩

/-- Whoever authenticates has a token that the application accepts. -/
theorem accepts_of_authenticateToken {store : BotStore} (owned : store.Owned) {token : String}
    {bot : AuthenticatedBot} (authenticated : authenticateToken crypto store token = .ok bot)
    : store.Accepts bot.applicationId (crypto.sha256 token) := by
  rw [authenticateToken] at authenticated
  split at authenticated
  · split at authenticated
    · next found =>
        obtain rfl := Except.ok.inj authenticated
        exact BotStore.accepts_of_find owned found
    · cases authenticated
  · cases authenticated

/-- A generated token that one application alone accepts authenticates its bot. -/
theorem authenticateToken_of_accepts {store : BotStore} (owned : store.Owned)
    {applicationId : Uuid} {bytes : BitVec 256}
    (accepted : store.Accepts applicationId (crypto.sha256 (generateBotToken bytes)))
    (alone : ∀ other, store.Accepts other (crypto.sha256 (generateBotToken bytes)) →
      other = applicationId)
    : ∃ bot, authenticateToken crypto store (generateBotToken bytes) = .ok bot
        ∧ bot.applicationId = applicationId := by
  obtain ⟨bot, found, owner⟩ := BotStore.find_of_accepts owned accepted alone
  have label : Text.startsWith (generateBotToken bytes) "ocb_" = true :=
    startsWith_randomToken "ocb_" bytes
  refine ⟨bot, ?_, owner⟩
  rw [authenticateToken, if_pos label, found]

end BotService

end OpenCord.Bots

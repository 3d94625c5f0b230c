import OpenCord.Auth.Service
import OpenCord.Tenancy.Organizations

/-! SCIM tokens and provisioned users: the in-memory store and the checks of the service. -/

namespace OpenCord.Tenancy

open OpenCord.Library OpenCord.Platform OpenCord.Auth

inductive ScimError where
  | invalidInput (message : String)
  | unauthorized
  | notFound
  | storeUnavailable
  deriving DecidableEq

def ScimError.ofAuth : AuthError → ScimError
  | .invalidInput message => .invalidInput message
  | .unauthorized => .unauthorized
  | .invalidCredentials => .unauthorized
  | _ => .storeUnavailable

def ScimError.ofOrganization : OrganizationError → ScimError
  | .invalidInput message => .invalidInput message
  | .notFound => .notFound
  | _ => .storeUnavailable

structure StoredScimToken where
  organizationId : Uuid
  tokenHash : String
  deriving DecidableEq

structure StoredScimUser where
  id : Uuid
  organizationId : Uuid
  userId : Uuid
  externalId : String
  userName : String
  displayName : String
  active : Bool
  deriving DecidableEq

structure ProvisionScimUserInput where
  externalId : String
  userName : String
  displayName : Option String
  active : Bool

structure ScimStore where
  tokensByHash : Table String StoredScimToken
  tokenHashByOrganization : Table Uuid String
  usersByOrganizationExternalId : Table (Uuid × String) StoredScimUser

namespace ScimStore

def empty : ScimStore := ⟨∅, ∅, ∅⟩

def rotateToken (token : StoredScimToken) : Eff ScimStore ScimError Unit :=
  Eff.writes fun store =>
    let tokensByHash := match store.tokenHashByOrganization.lookup token.organizationId with
      | some previousHash => store.tokensByHash.erase previousHash
      | none => store.tokensByHash
    { store with
      tokenHashByOrganization :=
        store.tokenHashByOrganization.insert token.organizationId token.tokenHash
      tokensByHash := tokensByHash.insert token.tokenHash token }

/-- The record that storing a user leaves: an existing record keeps its identifier. -/
def merged (store : ScimStore) (user : StoredScimUser) : StoredScimUser :=
  match store.usersByOrganizationExternalId.lookup (user.organizationId, user.externalId) with
  | some existing =>
      { existing with
        userId := user.userId
        userName := user.userName
        displayName := user.displayName
        active := user.active }
  | none => user

def upsertUser (user : StoredScimUser) : Eff ScimStore ScimError StoredScimUser := do
  let store ← get
  let user' := store.merged user
  set { store with
    usersByOrganizationExternalId :=
      store.usersByOrganizationExternalId.insert (user.organizationId, user.externalId) user' }
  return user'

def userByExternalId (store : ScimStore) (organizationId : Uuid) (externalId : String)
    : Option StoredScimUser :=
  store.usersByOrganizationExternalId.lookup (organizationId, externalId)

def setUserActive (organizationId : Uuid) (externalId : String) (active : Bool)
    : Eff ScimStore ScimError StoredScimUser := do
  let store ← get
  match store.userByExternalId organizationId externalId with
  | none => throw .notFound
  | some user =>
      set { store with
        usersByOrganizationExternalId :=
          store.usersByOrganizationExternalId.insert (organizationId, externalId)
            { user with active := active } }
      return { user with active := active }

theorem setUserActive_ok {organizationId : Uuid} {externalId : String} {active : Bool}
    {user : StoredScimUser} {store next : ScimStore}
    (done : (setUserActive organizationId externalId active).exec store = (.ok user, next))
    : ∃ stored, store.userByExternalId organizationId externalId = some stored
        ∧ user.userId = stored.userId := by
  rw [setUserActive, Eff.exec_get_bind] at done
  split at done
  · cases done
  · next stored found =>
      cases done
      exact ⟨stored, found, rfl⟩

theorem setUserActive_atomic (organizationId : Uuid) (externalId : String) (active : Bool)
    : (setUserActive organizationId externalId active).Atomic := by
  refine .get_bind fun store => ?_
  split
  · exact .throw _
  · intro state error last failed
    cases failed

/-- A stored record changes its status. -/
theorem exec_setUserActive {organizationId : Uuid} {externalId : String} (active : Bool)
    {user : StoredScimUser} {store : ScimStore}
    (found : store.userByExternalId organizationId externalId = some user)
    : (setUserActive organizationId externalId active).exec store
      = (.ok { user with active := active },
          { store with
            usersByOrganizationExternalId := store.usersByOrganizationExternalId.insert
              (organizationId, externalId) { user with active := active } }) := by
  rw [setUserActive, Eff.exec_get_bind, found]
  rfl

/-- A stored record keeps its identifiers, and gets everything else anew. -/
theorem merged_fields {store : ScimStore} {user : StoredScimUser}
    (keyed : ∀ key record, store.usersByOrganizationExternalId.lookup key = some record →
      (record.organizationId, record.externalId) = key)
    : ((store.merged user).organizationId, (store.merged user).externalId)
        = (user.organizationId, user.externalId)
      ∧ (store.merged user).userId = user.userId ∧ (store.merged user).active = user.active := by
  rw [merged]
  split
  · next existing found => exact ⟨keyed _ existing found, rfl, rfl⟩
  · exact ⟨rfl, rfl, rfl⟩

end ScimStore

namespace ScimService

def normalizeExternalId (externalId : String) : Except ScimError String :=
  let externalId := Text.trim externalId
  if 1 ≤ externalId.utf8ByteSize ∧ externalId.utf8ByteSize ≤ 200 then
    .ok externalId
  else
    .error (.invalidInput "SCIM externalId is required")

def normalizeEmail (email : String) : Except ScimError String :=
  let email := Text.toAsciiLowercase (Text.trim email)
  if validEmailShape email then
    .ok email
  else
    .error (.invalidInput "SCIM userName must be a valid email")

def normalizeDisplayName (displayName : Option String) (fallback : String)
    : Except ScimError String :=
  let displayName := ((displayName.map Text.trim).filter (· ≠ "")).getD fallback
  if 1 ≤ displayName.utf8ByteSize ∧ displayName.utf8ByteSize ≤ 80 then
    .ok displayName
  else
    .error (.invalidInput "SCIM display name must be between 1 and 80 characters")

def hashScimToken (crypto : Crypto) (token : String) : String :=
  crypto.sha256 token

def scimPasswordMarker (crypto : Crypto) (organizationId : Uuid) (externalId : String)
    : String :=
  "!scim:" ++ crypto.sha256 (organizationId.toString ++ "\n" ++ externalId)

/-- The configuration a bearer token stands for. -/
def configForToken (crypto : Crypto) (store : ScimStore) (token : String)
    : Except ScimError StoredScimToken :=
  let token := Text.trim token
  if token = "" then
    .error .unauthorized
  else
    match store.tokensByHash.lookup (hashScimToken crypto token) with
    | some config => .ok config
    | none => .error .unauthorized

end ScimService

end OpenCord.Tenancy

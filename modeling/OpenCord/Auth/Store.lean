import OpenCord.Library.Effects
import OpenCord.Library.Tables
import OpenCord.Auth.Credentials

/-! The in-memory store of users, sessions, OIDC providers and OIDC identities. -/

namespace OpenCord.Auth

open OpenCord.Library OpenCord.Platform

structure StoredUser where
  id : Uuid
  email : String
  displayName : String
  passwordHash : String
  deriving DecidableEq

structure StoredSession where
  id : Uuid
  userId : Uuid
  tokenHash : String
  deriving DecidableEq

structure StoredOidcProvider where
  organizationId : Uuid
  issuer : String
  authorizationEndpoint : String
  tokenEndpoint : String
  jwksUri : String
  clientId : String
  clientSecret : String
  allowedDomains : List String
  requireSso : Bool
  autoJoinRole : String
  deriving DecidableEq

/-- A provider admits the emails of its allowed domains. -/
def StoredOidcProvider.admitsDomain (provider : StoredOidcProvider) (domain : String)
    : Bool :=
  provider.allowedDomains.any (· == domain)

/-- A provider speaks for an issuer and a domain. -/
def StoredOidcProvider.speaksFor (provider : StoredOidcProvider) (issuer domain : String)
    : Bool :=
  provider.issuer == issuer && provider.admitsDomain domain

structure StoredOidcIdentity where
  id : Uuid
  userId : Uuid
  organizationId : Uuid
  issuer : String
  subject : String
  email : String
  deriving DecidableEq

structure MemorySession where
  userId : Uuid
  revoked : Bool
  deriving DecidableEq

structure AuthStore where
  usersById : Table Uuid StoredUser
  userIdByEmail : Table String Uuid
  sessionsByTokenHash : Table String MemorySession
  oidcProvidersByOrganization : Table Uuid StoredOidcProvider
  oidcIdentityByIssuerSubject : Table (String × String) StoredOidcIdentity

namespace AuthStore

def empty : AuthStore := ⟨∅, ∅, ∅, ∅, ∅⟩

-----------------------------------------------------------------------------------------
-- Queries
-----------------------------------------------------------------------------------------

def findUserById (store : AuthStore) (userId : Uuid) : Option StoredUser :=
  store.usersById.lookup userId

def findUserByEmail (store : AuthStore) (email : String) : Option StoredUser :=
  match store.userIdByEmail.lookup email with
  | none => none
  | some userId => store.usersById.lookup userId

def findUserBySessionTokenHash (store : AuthStore) (tokenHash : String)
    : Option StoredUser :=
  match store.sessionsByTokenHash.lookup tokenHash with
  | none => none
  | some session => if session.revoked then none else store.usersById.lookup session.userId

def oidcProviderForOrganization (store : AuthStore) (organizationId : Uuid)
    : Option StoredOidcProvider :=
  store.oidcProvidersByOrganization.lookup organizationId

/-- The providers that admit a domain, ordered by issuer. -/
def oidcProvidersForEmailDomain (store : AuthStore) (domain : String)
    : List StoredOidcProvider :=
  (store.oidcProvidersByOrganization.values.filter
    (·.admitsDomain domain)).insertionSort fun left right => textLe left.issuer right.issuer

/-- The first provider with an issuer that admits a domain. The hash map of providers is
walked in an order of its own, given here as the list of its values.
-/
def oidcProviderForIssuerAndDomain (iteration : List StoredOidcProvider)
    (issuer domain : String) : Option StoredOidcProvider :=
  iteration.find? fun provider => provider.speaksFor issuer domain

/-- A list walks the providers of a store if it lists each of them once, in any order. -/
def IteratedBy (store : AuthStore) (iteration : List StoredOidcProvider) : Prop :=
  iteration.Perm store.oidcProvidersByOrganization.values

instance (store : AuthStore) (iteration : List StoredOidcProvider)
    : Decidable (store.IteratedBy iteration) :=
  inferInstanceAs (Decidable (iteration.Perm _))

def findOidcIdentity (store : AuthStore) (issuer subject : String)
    : Option StoredOidcIdentity :=
  store.oidcIdentityByIssuerSubject.lookup (issuer, subject)

-----------------------------------------------------------------------------------------
-- Writes
-----------------------------------------------------------------------------------------

/-- The store with a new user under its identifier and its email. -/
def withUser (store : AuthStore) (user : StoredUser) : AuthStore :=
  { store with
    userIdByEmail := store.userIdByEmail.insert user.email user.id
    usersById := store.usersById.insert user.id user }

def createUser (user : StoredUser) : Eff AuthStore AuthError Unit := do
  let store ← get
  if user.email ∈ store.userIdByEmail then
    throw .emailAlreadyRegistered
  else
    set (store.withUser user)

/-- The store with a session for a user. -/
def withSession (store : AuthStore) (session : StoredSession) : AuthStore :=
  { store with
    sessionsByTokenHash :=
      store.sessionsByTokenHash.insert session.tokenHash ⟨session.userId, false⟩ }

def createSession (session : StoredSession) : Eff AuthStore AuthError Unit :=
  Eff.writes (·.withSession session)

def revokeSession (tokenHash : String) : Eff AuthStore AuthError Unit := do
  let store ← get
  match store.sessionsByTokenHash.lookup tokenHash with
  | none => throw .unauthorized
  | some session =>
      set { store with
        sessionsByTokenHash :=
          store.sessionsByTokenHash.insert tokenHash { session with revoked := true } }

def upsertOidcProvider (provider : StoredOidcProvider) : Eff AuthStore AuthError Unit :=
  Eff.writes fun store =>
    { store with
      oidcProvidersByOrganization :=
        store.oidcProvidersByOrganization.insert provider.organizationId provider }

/-- The store with an identity under its issuer and subject. -/
def withIdentity (store : AuthStore) (identity : StoredOidcIdentity) : AuthStore :=
  { store with
    oidcIdentityByIssuerSubject :=
      store.oidcIdentityByIssuerSubject.insert (identity.issuer, identity.subject)
        identity }

def createOidcIdentity (identity : StoredOidcIdentity) : Eff AuthStore AuthError Unit :=
  Eff.writes (·.withIdentity identity)

end AuthStore

end OpenCord.Auth

import OpenCord.Auth.Store

/-! Registration, password login, OIDC configuration and OIDC login over the auth store.
Identifiers and tokens that the service draws at random are arguments of its operations.
-/

namespace OpenCord.Auth

open OpenCord.Library OpenCord.Platform

structure AuthUser where
  id : Uuid
  email : String
  displayName : String
  deriving DecidableEq

def AuthUser.from (user : StoredUser) : AuthUser :=
  ⟨user.id, user.email, user.displayName⟩

structure AuthResult where
  user : AuthUser
  sessionToken : String
  deriving DecidableEq

structure ConfigureOidcProviderInput where
  organizationId : Uuid
  issuer : String
  authorizationEndpoint : String
  tokenEndpoint : String
  jwksUri : String
  clientId : String
  clientSecret : String
  allowedDomains : List String
  requireSso : Bool
  autoJoinRole : String

structure OidcProviderAssertion where
  issuer : String
  subject : String
  email : String
  displayName : String
  emailVerified : Bool
  signature : String

structure OidcLoginResult where
  auth : AuthResult
  organizationId : Uuid
  autoJoinRole : String
  deriving DecidableEq

/-- What a sign-in draws at random. -/
structure GeneratedIds where
  userId : Uuid
  identityId : Uuid
  sessionId : Uuid
  sessionToken : String
  salt : String

namespace AuthService

variable (crypto : Crypto)

-----------------------------------------------------------------------------------------
-- Password sign-in
-----------------------------------------------------------------------------------------

def ssoRequiredForEmail (store : AuthStore) (email : String) : Except AuthError Bool := do
  let domain ← emailDomain email
  return (store.oidcProvidersForEmailDomain domain).any (·.requireSso)

def createSessionForUser (generated : GeneratedIds) (user : StoredUser)
    : Eff AuthStore AuthError AuthResult := do
  AuthStore.createSession
    ⟨generated.sessionId, user.id, hashSessionToken crypto generated.sessionToken⟩
  return ⟨AuthUser.from user, generated.sessionToken⟩

def register (generated : GeneratedIds) (email displayName password : String)
    : Eff AuthStore AuthError AuthResult := do
  let email ← normalizeEmail email
  let displayName ← normalizeDisplayName displayName
  validatePassword password
  let store ← get
  let ssoRequired ← ssoRequiredForEmail store email
  if ssoRequired then
    throw .ssoRequired
  else if (store.findUserByEmail email).isSome then
    throw .emailAlreadyRegistered
  else
    let user : StoredUser :=
      ⟨generated.userId, email, displayName, crypto.hashPassword password generated.salt⟩
    AuthStore.createUser user
    createSessionForUser crypto generated user

def login (generated : GeneratedIds) (email password : String)
    : Eff AuthStore AuthError AuthResult := do
  let email ← normalizeEmail email
  let store ← get
  let ssoRequired ← ssoRequiredForEmail store email
  if ssoRequired then
    throw .ssoRequired
  else
    match store.findUserByEmail email with
    | none => throw .invalidCredentials
    | some user =>
        if crypto.verifyPassword password user.passwordHash then
          createSessionForUser crypto generated user
        else
          throw .invalidCredentials

def logout (token : String) : Eff AuthStore AuthError Unit :=
  AuthStore.revokeSession (hashSessionToken crypto token)

def userForToken (store : AuthStore) (token : String) : Except AuthError AuthUser :=
  match store.findUserBySessionTokenHash (hashSessionToken crypto token) with
  | some user => .ok (AuthUser.from user)
  | none => .error .unauthorized

-----------------------------------------------------------------------------------------
-- OIDC
-----------------------------------------------------------------------------------------

def configureOidcProvider (input : ConfigureOidcProviderInput)
    : Eff AuthStore AuthError StoredOidcProvider := do
  let issuer ← normalizeUrl input.issuer "OIDC issuer is required"
  let authorizationEndpoint ←
    normalizeUrl input.authorizationEndpoint "OIDC authorization endpoint is required"
  let tokenEndpoint ← normalizeUrl input.tokenEndpoint "OIDC token endpoint is required"
  let jwksUri ← normalizeUrl input.jwksUri "OIDC JWKS URI is required"
  let clientId ← normalizeNonEmpty input.clientId "OIDC client_id is required"
  let clientSecret ← normalizeClientSecret input.clientSecret
  let allowedDomains ← normalizeAllowedDomains input.allowedDomains
  let autoJoinRole ← normalizeAutoJoinRole input.autoJoinRole
  let provider : StoredOidcProvider :=
    ⟨input.organizationId, issuer, authorizationEndpoint, tokenEndpoint, jwksUri, clientId,
      clientSecret, allowedDomains, input.requireSso, autoJoinRole⟩
  AuthStore.upsertOidcProvider provider
  return provider

/-- The fields of an assertion after normalization, with the trimmed signature. -/
structure NormalizedAssertion where
  issuer : String
  subject : String
  email : String
  displayName : String
  signature : String
  domain : String
  deriving DecidableEq

/-- The input checks of an OIDC login, in their order. -/
def normalizeAssertion (assertion : OidcProviderAssertion)
    : Except AuthError NormalizedAssertion :=
  if assertion.emailVerified then do
    let issuer ← normalizeUrl assertion.issuer "OIDC issuer is required"
    let subject ← normalizeNonEmpty assertion.subject "OIDC subject is required"
    let email ← normalizeEmail assertion.email
    let displayName ← normalizeDisplayName assertion.displayName
    let signature := Text.trim assertion.signature
    if signature = "" then
      throw .invalidCredentials
    else
      let domain ← emailDomain email
      return ⟨issuer, subject, email, displayName, signature, domain⟩
  else
    throw .invalidCredentials

/-- The signature of an assertion under a client secret. -/
def NormalizedAssertion.signedBy (checked : NormalizedAssertion) (secret : String) : Prop :=
  checked.signature
    = oidcAssertionSignature crypto secret checked.issuer checked.subject checked.email true

instance (checked : NormalizedAssertion) (secret : String)
    : Decidable (NormalizedAssertion.signedBy crypto checked secret) :=
  inferInstanceAs (Decidable (_ = _))

/-- The provider an assertion is checked against: the first match of the walk, if the
signature was made with its secret.
-/
def providerForAssertion (iteration : List StoredOidcProvider)
    (checked : NormalizedAssertion) : Except AuthError StoredOidcProvider :=
  match AuthStore.oidcProviderForIssuerAndDomain iteration checked.issuer checked.domain with
  | none => .error .invalidCredentials
  | some provider =>
      if checked.signedBy crypto provider.clientSecret then
        .ok provider
      else
        .error .invalidCredentials

/-- The user of an assertion: the one of the stored identity, else the one with the email,
else a new one; the last two get an identity of the provider's organization.
-/
def userForAssertion (generated : GeneratedIds) (organizationId : Uuid)
    (checked : NormalizedAssertion) : Eff AuthStore AuthError StoredUser := do
  let store ← get
  match store.findOidcIdentity checked.issuer checked.subject with
  | some identity =>
      match store.findUserById identity.userId with
      | some user => return user
      | none => throw .invalidCredentials
  | none =>
      match store.findUserByEmail checked.email with
      | some user =>
          AuthStore.createOidcIdentity ⟨generated.identityId, user.id, organizationId,
            checked.issuer, checked.subject, checked.email⟩
          return user
      | none =>
          let user : StoredUser := ⟨generated.userId, checked.email, checked.displayName,
            oidcPasswordMarker crypto checked.issuer checked.subject⟩
          AuthStore.createUser user
          AuthStore.createOidcIdentity ⟨generated.identityId, user.id, organizationId,
            checked.issuer, checked.subject, checked.email⟩
          return user

def oidcLogin (iteration : List StoredOidcProvider) (generated : GeneratedIds)
    (assertion : OidcProviderAssertion) : Eff AuthStore AuthError OidcLoginResult := do
  let checked ← normalizeAssertion assertion
  let provider ← providerForAssertion crypto iteration checked
  let user ← userForAssertion crypto generated provider.organizationId checked
  let auth ← createSessionForUser crypto generated user
  return ⟨auth, provider.organizationId, provider.autoJoinRole⟩

end AuthService

end OpenCord.Auth

import OpenCord.Auth.Runs

/-! Which tenant an OIDC login signs in for. A provider is found by issuer and email domain,
an identity by issuer and subject alone, so an identity can answer to the provider of
another organization.
-/

namespace OpenCord.Auth

open OpenCord.Library OpenCord.Platform

/-- A login answers `result` and leaves the store `last`, after checking the assertion
against the provider of the organization.
-/
structure AcceptedAgainst (crypto : Crypto) (store : AuthStore)
    (iteration : List StoredOidcProvider) (generated : GeneratedIds)
    (assertion : OidcProviderAssertion) (organizationId : Uuid) (result : OidcLoginResult)
    (last : AuthStore) : Prop where
  answers : (AuthService.oidcLogin crypto iteration generated assertion).exec store
    = (.ok result, last)
  organization : result.organizationId = organizationId

/-- The signed-in user has the email of the assertion, or the identity stored for its
issuer and subject is this user's and was created under the organization.
-/
def WithinTenant (store : AuthStore) (checked : AuthService.NormalizedAssertion)
    (organizationId : Uuid) (user : AuthUser) : Prop :=
  user.email = checked.email
    ∨ ∃ identity, store.findOidcIdentity checked.issuer checked.subject = some identity
        ∧ identity.userId = user.id ∧ identity.organizationId = organizationId

instance (store : AuthStore) (checked : AuthService.NormalizedAssertion)
    (organizationId : Uuid) (user : AuthUser)
    : Decidable (WithinTenant store checked organizationId user) :=
  match found : store.findOidcIdentity checked.issuer checked.subject with
  | none => decidable_of_iff (user.email = checked.email) (by simp [WithinTenant, found])
  | some identity =>
      decidable_of_iff
        (user.email = checked.email
          ∨ identity.userId = user.id ∧ identity.organizationId = organizationId)
        (by simp [WithinTenant, found])

/-- The identity stored for the assertion, if any, was created under the organization or
belongs to a user with the email of the assertion.
-/
def IdentityOfTenant (store : AuthStore) (checked : AuthService.NormalizedAssertion)
    (organizationId : Uuid) : Prop :=
  ∀ identity, store.findOidcIdentity checked.issuer checked.subject = some identity →
    identity.organizationId = organizationId
      ∨ ∃ user, store.findUserById identity.userId = some user
          ∧ user.email = checked.email

/-- In every reachable store, a login accepted against the provider of an organization
stays within this tenant exactly when the identity stored before it for the same issuer and
subject does.
Witness: the lookup order of the login, and that indexed emails lead to their users.
-/
theorem oidcLogin_withinTenant_iff {crypto : Crypto} {store last : AuthStore}
    (reachable : Reachable (AuthStore.step crypto) AuthStore.empty store)
    {iteration : List StoredOidcProvider} {generated : GeneratedIds}
    {assertion : OidcProviderAssertion} {checked : AuthService.NormalizedAssertion}
    {result : OidcLoginResult} {organizationId : Uuid}
    (normalized : AuthService.normalizeAssertion assertion = .ok checked)
    (accepted : AcceptedAgainst crypto store iteration generated assertion organizationId
      result last)
    : WithinTenant last checked organizationId result.auth.user
      ↔ IdentityOfTenant store checked organizationId := by
  have indexed := AuthStore.Indexed.of_reachable reachable
  obtain ⟨same, provider, user, middle, checkedEq, -, found, identities, userEq,
    providerEq⟩ := oidcLogin_ok accepted.answers
  obtain rfl : checked = same := Except.ok.inj (normalized.symm.trans checkedEq)
  have ways := userForAssertion_findsUser crypto store generated provider.organizationId
    checked
  rw [found] at ways
  rw [userEq]
  cases ways with
  | known identity user stored hasUser =>
      have sameId : user.id = identity.userId := indexed.id_of_findUserById hasUser
      have sameStore : last.findOidcIdentity checked.issuer checked.subject
          = some identity := by
        rw [← stored, AuthStore.findOidcIdentity, identities, AuthStore.findOidcIdentity]
      constructor
      · rintro (email | ⟨other, otherStored, -, organization⟩) before beforeStored
        · cases stored.symm.trans beforeStored
          exact .inr ⟨user, hasUser, email⟩
        · cases stored.symm.trans beforeStored
          cases sameStore.symm.trans otherStored
          exact .inl organization
      · intro condition
        rcases condition identity stored with organization | ⟨other, otherUser, email⟩
        · exact .inr ⟨identity, sameStore, sameId.symm, organization⟩
        · cases hasUser.symm.trans otherUser
          exact .inl email
  | linked user unknown byEmail =>
      have email : (AuthUser.from user).email = checked.email :=
        indexed.email_of_findUserByEmail byEmail
      exact ⟨fun _ before stored => by simp [unknown] at stored, fun _ => .inl email⟩
  | created unknown newEmail =>
      exact ⟨fun _ before stored => by simp [unknown] at stored, fun _ => .inl rfl⟩

-----------------------------------------------------------------------------------------
-- Two tenants with one issuer
-----------------------------------------------------------------------------------------

/-- The real digests and tags of the texts below. -/
def sampleCrypto : Crypto where
  sha256 text :=
    if text = "t1" then
      "628b49d96dcde97a430dd4f597705899e09a968f793491e4b704cae33a40dc02"
    else if text = "t2" then
      "c44474038d459e40e4714afefa7bf8dae9f9834b22f5e8ec1dd434ecb62b512e"
    else if text = "https://i\ns" then
      "24de57e4ffafb98389b2e425ceeb087e9b1e5bba9ddecec40b322b727ca256fc"
    else
      ""
  hmacSha256 secret text :=
    if secret = "secret-a" ∧ text = "https://i\ns\nv@a.b\ntrue" then
      "14c9cff2a8de3982bb3d57e51c664689d7464141e0f05c35af98e3bc835318e6"
    else if secret = "secret-b" ∧ text = "https://i\ns\nv@a.b\ntrue" then
      "d5810a4c8e3058eef21f3e0bebf46bc09afd3154a4f2a27f4d4b4a8d4ebbf09c"
    else if secret = "secret-b" ∧ text = "https://i\ns\nw@b.b\ntrue" then
      "7458204e7e419d116478e526512f2b228ce9400ccf0d32854f547958de2b8f91"
    else
      ""
  hashPassword _ _ := ""
  verifyPassword _ _ := false

def organizationA : Uuid := .ofNat 1

def organizationB : Uuid := .ofNat 2

/-- A provider configuration for the issuer `https://i`. -/
def sampleInput (organizationId : Uuid) (secret domain : String)
    : ConfigureOidcProviderInput :=
  ⟨organizationId, "https://i", "https://i/a", "https://i/t", "https://i/k", "c", secret,
    [domain], false, "member"⟩

/-- The provider that `sampleInput` configures. -/
def sampleProvider (organizationId : Uuid) (secret domain : String) : StoredOidcProvider :=
  ⟨organizationId, "https://i", "https://i/a", "https://i/t", "https://i/k", "c", secret,
    [domain], false, "member"⟩

def providerOfA : StoredOidcProvider := sampleProvider organizationA "secret-a" "a.b"

def providerOfB : StoredOidcProvider := sampleProvider organizationB "secret-b" "b.b"

/-- An assertion about subject `s` signed by A for `v@a.b`. -/
def victimAssertion : OidcProviderAssertion :=
  ⟨"https://i", "s", "v@a.b", "V", true,
    "14c9cff2a8de3982bb3d57e51c664689d7464141e0f05c35af98e3bc835318e6"⟩

def victimChecked : AuthService.NormalizedAssertion :=
  ⟨"https://i", "s", "v@a.b", "V",
    "14c9cff2a8de3982bb3d57e51c664689d7464141e0f05c35af98e3bc835318e6", "a.b"⟩

/-- An assertion about the same subject signed by B for `w@b.b`. -/
def attackerAssertion : OidcProviderAssertion :=
  ⟨"https://i", "s", "w@b.b", "W", true,
    "7458204e7e419d116478e526512f2b228ce9400ccf0d32854f547958de2b8f91"⟩

def attackerChecked : AuthService.NormalizedAssertion :=
  ⟨"https://i", "s", "w@b.b", "W",
    "7458204e7e419d116478e526512f2b228ce9400ccf0d32854f547958de2b8f91", "b.b"⟩

def firstDraw : GeneratedIds := ⟨.ofNat 10, .ofNat 11, .ofNat 12, "t1", "salt"⟩

def secondDraw : GeneratedIds := ⟨.ofNat 20, .ofNat 21, .ofNat 22, "t2", "salt"⟩

/-- The user whom the provider of A introduces. -/
def victim : StoredUser :=
  ⟨.ofNat 10, "v@a.b", "V",
    "!oidc:24de57e4ffafb98389b2e425ceeb087e9b1e5bba9ddecec40b322b727ca256fc"⟩

/-- A has configured its provider. -/
def storeOfA : AuthStore :=
  { AuthStore.empty with
    oidcProvidersByOrganization :=
      (∅ : Table Uuid StoredOidcProvider).insert organizationA providerOfA }

/-- The victim has signed in through A. -/
def storeWithVictim : AuthStore :=
  ((storeOfA.withUser victim).withIdentity
    ⟨.ofNat 11, .ofNat 10, organizationA, "https://i", "s", "v@a.b"⟩).withSession
      ⟨.ofNat 12, .ofNat 10,
        "628b49d96dcde97a430dd4f597705899e09a968f793491e4b704cae33a40dc02"⟩

/-- B has configured a provider with the issuer of A. -/
def storeOfBoth : AuthStore :=
  { storeWithVictim with
    oidcProvidersByOrganization :=
      storeWithVictim.oidcProvidersByOrganization.insert organizationB providerOfB }

/-- The store after a second session of the victim. -/
def storeWithIntruder : AuthStore :=
  storeOfBoth.withSession
    ⟨.ofNat 22, .ofNat 10,
      "c44474038d459e40e4714afefa7bf8dae9f9834b22f5e8ec1dd434ecb62b512e"⟩

/-- The answer of a login that signs in the victim. -/
def victimSignedIn (token : String) (organizationId : Uuid) : OidcLoginResult :=
  ⟨⟨⟨.ofNat 10, "v@a.b", "V"⟩, token⟩, organizationId, "member"⟩

theorem victim_normalized
    : AuthService.normalizeAssertion victimAssertion = .ok victimChecked := by
  decide +kernel

private theorem attacker_normalized
    : AuthService.normalizeAssertion attackerAssertion = .ok attackerChecked := by
  decide +kernel

private theorem storeOfA_configured
    : AuthStore.step sampleCrypto AuthStore.empty
        (.configureOidcProvider (sampleInput organizationA "secret-a" "a.b"))
      = some storeOfA :=
  rfl

theorem victim_accepted
    : (AuthService.oidcLogin sampleCrypto [providerOfA] firstDraw victimAssertion).exec
        storeOfA
      = (.ok (victimSignedIn "t1" organizationA), storeWithVictim) := by
  have selected : AuthService.providerForAssertion sampleCrypto [providerOfA] victimChecked
      = .ok providerOfA := by
    decide +kernel
  rw [oidcLogin_exec victim_normalized selected]
  rfl

private theorem storeOfA_reachable
    : Reachable (AuthStore.step sampleCrypto) AuthStore.empty storeOfA :=
  (Reachable.refl _ _).next storeOfA_configured

/-- The first login of the victim stays with A. -/
theorem firstLogin_withinTenant
    : WithinTenant storeWithVictim victimChecked organizationA
        (victimSignedIn "t1" organizationA).auth.user := by
  refine (oidcLogin_withinTenant_iff storeOfA_reachable victim_normalized
    ⟨victim_accepted, rfl⟩).mpr ?_
  intro identity stored
  have unknown : storeOfA.findOidcIdentity "https://i" "s" = none := rfl
  cases unknown.symm.trans stored

private theorem storeOfBoth_reachable
    : Reachable (AuthStore.step sampleCrypto) AuthStore.empty storeOfBoth := by
  have signedIn : AuthStore.step sampleCrypto storeOfA
        (.oidcLogin [providerOfA] firstDraw victimAssertion)
      = some storeWithVictim := by
    have admissible : AuthRequest.Admissible storeOfA
        (.oidcLogin [providerOfA] firstDraw victimAssertion) := by
      decide +kernel
    rw [AuthStore.step, if_pos admissible, AuthRequest.perform, Eff.after, victim_accepted]
  have configured : AuthStore.step sampleCrypto storeWithVictim
        (.configureOidcProvider (sampleInput organizationB "secret-b" "b.b"))
      = some storeOfBoth := rfl
  exact (storeOfA_reachable.next signedIn).next configured

/-- Signed with the secret of B only, an assertion of the shared issuer signs in the user
whom A's provider introduced: neither the email nor the organization of the identity fits.
-/
theorem issuerReuse_leavesTenant
    : Reachable (AuthStore.step sampleCrypto) AuthStore.empty storeOfBoth
      ∧ storeOfBoth.IteratedBy [providerOfB, providerOfA]
      ∧ AuthService.normalizeAssertion attackerAssertion = .ok attackerChecked
      ∧ AcceptedAgainst sampleCrypto storeOfBoth [providerOfB, providerOfA] secondDraw
          attackerAssertion organizationB (victimSignedIn "t2" organizationB)
          storeWithIntruder
      ∧ ¬ WithinTenant storeWithIntruder attackerChecked organizationB
          (victimSignedIn "t2" organizationB).auth.user := by
  refine ⟨storeOfBoth_reachable, by decide +kernel, attacker_normalized, ⟨?_, rfl⟩, ?_⟩
  · have selected : AuthService.providerForAssertion sampleCrypto [providerOfB, providerOfA]
        attackerChecked = .ok providerOfB := by
      decide +kernel
    rw [oidcLogin_exec attacker_normalized selected]
    rfl
  · decide +kernel

end OpenCord.Auth

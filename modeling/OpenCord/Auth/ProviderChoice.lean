import OpenCord.Auth.IdentityTenancy

/-! How the provider of one organization can disturb the logins of another. The login walks
the provider map and takes the first match of issuer and domain before it looks at the
signature, so a second match can come first.
-/

namespace OpenCord.Auth

open OpenCord.Library OpenCord.Platform

-----------------------------------------------------------------------------------------
-- Stores compared up to one provider
-----------------------------------------------------------------------------------------

/-- Two stores that agree except for the provider of one organization. -/
structure DifferInProviderOf (organizationId : Uuid) (left right : AuthStore) : Prop where
  users : right.usersById = left.usersById
  emails : right.userIdByEmail = left.userIdByEmail
  sessions : right.sessionsByTokenHash = left.sessionsByTokenHash
  identities : right.oidcIdentityByIssuerSubject = left.oidcIdentityByIssuerSubject
  providers : ∀ other, other ≠ organizationId →
    right.oidcProvidersByOrganization.lookup other
      = left.oidcProvidersByOrganization.lookup other

/-- A login accepts an assertion for an organization. -/
def AcceptsFor (crypto : Crypto) (store : AuthStore) (iteration : List StoredOidcProvider)
    (generated : GeneratedIds) (assertion : OidcProviderAssertion) (organizationId : Uuid)
    : Prop :=
  ∃ result last,
    AcceptedAgainst crypto store iteration generated assertion organizationId result last

/-- Whether a user is found depends on users, emails and identities only. -/
theorem userForAssertion_ok_of_same {crypto : Crypto} {left right middle : AuthStore}
    {organizationId : Uuid} (differ : DifferInProviderOf organizationId left right)
    {generated : GeneratedIds} {tenant : Uuid} {checked : AuthService.NormalizedAssertion}
    {user : StoredUser}
    (found : (AuthService.userForAssertion crypto generated tenant checked).exec left
      = (.ok user, middle))
    (otherDraw : GeneratedIds) (otherTenant : Uuid)
    : ∃ otherUser otherMiddle,
        (AuthService.userForAssertion crypto otherDraw otherTenant checked).exec right
          = (.ok otherUser, otherMiddle) := by
  have byIdentity : ∀ issuer subject,
      right.findOidcIdentity issuer subject = left.findOidcIdentity issuer subject := by
    intro issuer subject
    rw [AuthStore.findOidcIdentity, differ.identities, AuthStore.findOidcIdentity]
  have byId : ∀ userId, right.findUserById userId = left.findUserById userId := by
    intro userId
    rw [AuthStore.findUserById, differ.users, AuthStore.findUserById]
  have byEmail : ∀ email, right.findUserByEmail email = left.findUserByEmail email := by
    intro email
    simp only [AuthStore.findUserByEmail, differ.users, differ.emails]
  rw [AuthService.userForAssertion, Eff.exec_get_bind] at found ⊢
  simp only [byIdentity, byId, byEmail]
  split at found
  · split at found
    · exact ⟨_, _, rfl⟩
    · cases found
  · split at found
    · exact ⟨_, _, rfl⟩
    · rw [exec_createUser_bind] at found ⊢
      rw [differ.emails]
      split at found
      · cases found
      · next newEmail =>
          rw [if_neg newEmail]
          exact ⟨_, _, rfl⟩

-----------------------------------------------------------------------------------------
-- The walk
-----------------------------------------------------------------------------------------

/-- Some walk of the providers meets a given one first. -/
theorem exists_walk_startingWith {store : AuthStore} {organizationId : Uuid}
    {provider : StoredOidcProvider}
    (stored : store.oidcProvidersByOrganization.lookup organizationId = some provider)
    : ∃ rest, store.IteratedBy (provider :: rest) := by
  have listed : provider ∈ store.oidcProvidersByOrganization.values :=
    Table.mem_values.mpr ⟨organizationId, stored⟩
  exact ⟨_, (List.perm_cons_erase listed).symm⟩

/-- A walk over providers of which only one matches finds this one, wherever it stands. -/
theorem oidcProviderForIssuerAndDomain_of_unique {store : AuthStore}
    {iteration : List StoredOidcProvider} {issuer domain : String} {tenant : Uuid}
    {provider : StoredOidcProvider} (walked : store.IteratedBy iteration)
    (stored : store.oidcProvidersByOrganization.lookup tenant = some provider)
    (matching : provider.speaksFor issuer domain = true)
    (unique : ∀ organizationId other,
      store.oidcProvidersByOrganization.lookup organizationId = some other →
        organizationId ≠ tenant → other.speaksFor issuer domain = false)
    : AuthStore.oidcProviderForIssuerAndDomain iteration issuer domain = some provider := by
  have present : provider ∈ iteration :=
    walked.mem_iff.mpr (Table.mem_values.mpr ⟨tenant, stored⟩)
  cases found : AuthStore.oidcProviderForIssuerAndDomain iteration issuer domain with
  | none =>
      have unmatched := List.find?_eq_none.mp found provider present
      exact absurd matching unmatched
  | some other =>
      have otherMatches : other.speaksFor issuer domain = true := by
        simpa using List.find?_some found
      obtain ⟨organizationId, otherStored⟩ :=
        Table.mem_values.mp (walked.mem_iff.mp (List.mem_of_find?_eq_some found))
      by_cases same : organizationId = tenant
      · subst same
        exact congrArg some (Option.some.inj (otherStored.symm.trans stored))
      · have unmatched := unique organizationId other otherStored same
        rw [unmatched] at otherMatches
        cases otherMatches

-----------------------------------------------------------------------------------------
-- Main result
-----------------------------------------------------------------------------------------

/-- Let two stores differ in the provider of B only, and let an assertion signed with the
secret of A's matching provider be accepted for A in one of them. It is accepted for A in
the other on every walk of its providers exactly when no provider of another organization
there matches the issuer and the email domain.
-/
theorem acceptsFor_onEveryWalk_iff {crypto : Crypto} {left right : AuthStore}
    {tenantA tenantB : Uuid} (keyed : right.ProvidersKeyed)
    (differ : DifferInProviderOf tenantB left right) (distinct : tenantA ≠ tenantB)
    {assertion : OidcProviderAssertion} {checked : AuthService.NormalizedAssertion}
    (normalized : AuthService.normalizeAssertion assertion = .ok checked)
    {provider : StoredOidcProvider}
    (configured : left.oidcProvidersByOrganization.lookup tenantA = some provider)
    (matching : provider.speaksFor checked.issuer checked.domain = true)
    (signed : checked.signedBy crypto provider.clientSecret)
    {iteration : List StoredOidcProvider} {generated : GeneratedIds}
    (accepted : AcceptsFor crypto left iteration generated assertion tenantA)
    : (∀ walk draw, right.IteratedBy walk →
          AcceptsFor crypto right walk draw assertion tenantA)
      ↔ ∀ organizationId other,
          right.oidcProvidersByOrganization.lookup organizationId = some other →
            organizationId ≠ tenantA →
              other.speaksFor checked.issuer checked.domain = false := by
  constructor
  · intro everyWalk organizationId other stored differs
    by_contra rival
    rw [Bool.not_eq_false] at rival
    -- The walk that meets the other provider first accepts for its organization or fails.
    obtain ⟨rest, walked⟩ := exists_walk_startingWith stored
    obtain ⟨result, last, answers, organization⟩ :=
      everyWalk (other :: rest) generated walked
    obtain ⟨same, chosen, _, _, checkedEq, selected, _, _, _, chosenEq⟩ :=
      oidcLogin_ok answers
    obtain rfl : checked = same := Except.ok.inj (normalized.symm.trans checkedEq)
    have first : AuthStore.oidcProviderForIssuerAndDomain (other :: rest) checked.issuer
        checked.domain = some other :=
      List.find?_cons_of_pos rival
    simp only [AuthService.providerForAssertion, first] at selected
    split at selected
    · cases selected
      have own := keyed organizationId other stored
      exact differs (by rw [← own, ← chosenEq, organization])
    · cases selected
  · intro unique walk draw walked
    have stored : right.oidcProvidersByOrganization.lookup tenantA = some provider := by
      rw [differ.providers tenantA distinct, configured]
    have found := oidcProviderForIssuerAndDomain_of_unique walked stored matching unique
    have selected : AuthService.providerForAssertion crypto walk checked = .ok provider := by
      simp only [AuthService.providerForAssertion, found, if_pos signed]
    obtain ⟨result, last, answers, organization⟩ := accepted
    obtain ⟨same, _, user, middle, checkedEq, _, leftUser, _, _, _⟩ := oidcLogin_ok answers
    obtain rfl : checked = same := Except.ok.inj (normalized.symm.trans checkedEq)
    obtain ⟨otherUser, otherMiddle, rightUser⟩ :=
      userForAssertion_ok_of_same differ leftUser draw provider.organizationId
    refine ⟨⟨⟨AuthUser.from otherUser, draw.sessionToken⟩, provider.organizationId,
      provider.autoJoinRole⟩, otherMiddle.withSession ⟨draw.sessionId, otherUser.id,
        hashSessionToken crypto draw.sessionToken⟩, ?_, keyed tenantA provider stored⟩
    rw [oidcLogin_exec normalized selected, Eff.exec_bind, rightUser]
    rfl

/-- B configures the issuer and the domain of A with a secret of its own. -/
def rivalProvider : StoredOidcProvider := sampleProvider organizationB "secret-b" "a.b"

/-- The store of A after B has configured a provider. -/
def storeOfAAnd (provider : StoredOidcProvider) : AuthStore :=
  { storeOfA with
    oidcProvidersByOrganization :=
      storeOfA.oidcProvidersByOrganization.insert organizationB provider }

/-- A configuration of B leaves everything else in place. -/
private theorem storeOfAAnd_differs (provider : StoredOidcProvider)
    : DifferInProviderOf organizationB storeOfA (storeOfAAnd provider) where
  users := rfl
  emails := rfl
  sessions := rfl
  identities := rfl
  providers other differs := by
    rw [storeOfAAnd, Table.lookup_insert_eq, if_neg differs]

private theorem storeOfAAnd_keyed {provider : StoredOidcProvider}
    (own : provider.organizationId = organizationB)
    : (storeOfAAnd provider).ProvidersKeyed := by
  intro organizationId stored found
  simp only [storeOfAAnd, storeOfA, Table.lookup_insert_eq] at found
  split at found
  · next same =>
      cases found
      rw [same, own]
  · split at found
    · next same =>
        cases found
        exact same.symm
    · simp at found

private theorem victim_acceptsFor
    : AcceptsFor sampleCrypto storeOfA [providerOfA] firstDraw victimAssertion
        organizationA :=
  ⟨_, _, victim_accepted, rfl⟩

private theorem victim_signed
    : victimChecked.signedBy sampleCrypto providerOfA.clientSecret := by
  decide +kernel

/-- A provider of B for another domain leaves the login of A alone, also on the walk that
meets it first. -/
theorem unrelatedProvider_keepsLogin
    : (storeOfAAnd providerOfB).IteratedBy [providerOfB, providerOfA]
      ∧ AcceptsFor sampleCrypto (storeOfAAnd providerOfB) [providerOfB, providerOfA]
          firstDraw victimAssertion organizationA := by
  have configured : storeOfA.oidcProvidersByOrganization.lookup organizationA
      = some providerOfA := rfl
  have walked : (storeOfAAnd providerOfB).IteratedBy [providerOfB, providerOfA] := by
    decide +kernel
  refine ⟨walked, (acceptsFor_onEveryWalk_iff (storeOfAAnd_keyed rfl)
    (storeOfAAnd_differs providerOfB) (by decide) victim_normalized configured
    (by decide +kernel) victim_signed victim_acceptsFor).mpr ?_ _ firstDraw walked⟩
  intro organizationId other stored differs
  simp only [storeOfAAnd, storeOfA, Table.lookup_insert_eq, if_neg differs] at stored
  split at stored
  · cases stored
    decide +kernel
  · simp at stored

/-- The walk that meets B's provider first rejects the assertion that A signed. -/
theorem rivalProvider_rejectsLogin
    : DifferInProviderOf organizationB storeOfA (storeOfAAnd rivalProvider)
      ∧ AcceptsFor sampleCrypto storeOfA [providerOfA] firstDraw victimAssertion
          organizationA
      ∧ (storeOfAAnd rivalProvider).IteratedBy [rivalProvider, providerOfA]
      ∧ ((AuthService.oidcLogin sampleCrypto [rivalProvider, providerOfA] firstDraw
          victimAssertion).exec (storeOfAAnd rivalProvider)).1
            = .error .invalidCredentials := by
  refine ⟨storeOfAAnd_differs rivalProvider, victim_acceptsFor, by decide +kernel, ?_⟩
  have refused : AuthService.providerForAssertion sampleCrypto [rivalProvider, providerOfA]
      victimChecked = .error .invalidCredentials := by
    decide +kernel
  rw [AuthService.oidcLogin, Eff.exec_check_bind, victim_normalized]
  simp only [Eff.exec_check_bind, refused]

end OpenCord.Auth

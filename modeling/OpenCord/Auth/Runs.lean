import OpenCord.Library.Runs
import OpenCord.Auth.Service

/-! Runs of the auth store under any requests, and how its users stay indexed. -/

namespace OpenCord.Auth

open OpenCord.Library OpenCord.Platform

/-- A request that writes the auth store. The users that other services create for bots,
webhooks and provisioned accounts arrive through `createUser`.
-/
inductive AuthRequest where
  | register (generated : GeneratedIds) (email displayName password : String)
  | login (generated : GeneratedIds) (email password : String)
  | logout (token : String)
  | configureOidcProvider (input : ConfigureOidcProviderInput)
  | oidcLogin (iteration : List StoredOidcProvider) (generated : GeneratedIds)
      (assertion : OidcProviderAssertion)
  | createUser (user : StoredUser)

namespace AuthRequest

/-- Drawn user identifiers are new, and a provider walk lists the stored providers. -/
def Admissible (store : AuthStore) : AuthRequest → Prop
  | .register generated _ _ _ => generated.userId ∉ store.usersById
  | .login _ _ _ => True
  | .logout _ => True
  | .configureOidcProvider _ => True
  | .oidcLogin iteration generated _ =>
      store.IteratedBy iteration ∧ generated.userId ∉ store.usersById
  | .createUser user => user.id ∉ store.usersById

instance (store : AuthStore) (request : AuthRequest)
    : Decidable (request.Admissible store) := by
  cases request <;> unfold Admissible <;> infer_instance

/-- The store after a request, whether or not the request succeeds. -/
def perform (crypto : Crypto) (store : AuthStore) : AuthRequest → AuthStore
  | .register generated email displayName password =>
      (AuthService.register crypto generated email displayName password).after store
  | .login generated email password =>
      (AuthService.login crypto generated email password).after store
  | .logout token => (AuthService.logout crypto token).after store
  | .configureOidcProvider input => (AuthService.configureOidcProvider input).after store
  | .oidcLogin iteration generated assertion =>
      (AuthService.oidcLogin crypto iteration generated assertion).after store
  | .createUser user => (AuthStore.createUser user).after store

end AuthRequest

/-- One request on the auth store. -/
def AuthStore.step (crypto : Crypto) (store : AuthStore) (request : AuthRequest)
    : Option AuthStore :=
  if request.Admissible store then some (request.perform crypto store) else none

-----------------------------------------------------------------------------------------
-- How requests change the users
-----------------------------------------------------------------------------------------

/-- A request keeps the users or adds one with a new identifier and a new email. -/
inductive UsersGrow (before after : AuthStore) : Prop where
  | same (users : after.usersById = before.usersById)
      (emails : after.userIdByEmail = before.userIdByEmail)
  | added (user : StoredUser) (newId : user.id ∉ before.usersById)
      (newEmail : user.email ∉ before.userIdByEmail)
      (users : after.usersById = before.usersById.insert user.id user)
      (emails : after.userIdByEmail = before.userIdByEmail.insert user.email user.id)

/-- A request keeps the providers or stores one under its own organization. -/
def ProvidersUpserted (before after : AuthStore) : Prop :=
  after.oidcProvidersByOrganization = before.oidcProvidersByOrganization
    ∨ ∃ provider : StoredOidcProvider,
        after.oidcProvidersByOrganization
          = before.oidcProvidersByOrganization.insert provider.organizationId provider

/-- What one request can do to users and providers. -/
structure Evolves (before after : AuthStore) : Prop where
  users : UsersGrow before after
  providers : ProvidersUpserted before after

theorem Evolves.refl (store : AuthStore) : Evolves store store :=
  ⟨.same rfl rfl, .inl rfl⟩

/-- Creating a user fails on a registered email and keeps the store, else it adds the
user.
-/
theorem createUser_exec (store : AuthStore) (user : StoredUser)
    : (AuthStore.createUser user).exec store
        = if user.email ∈ store.userIdByEmail then
            (.error .emailAlreadyRegistered, store)
          else
            (.ok (), store.withUser user) := by
  rw [AuthStore.createUser, Eff.exec_get_bind]
  split <;> rfl

/-- What follows the creation of a user runs on the store with this user. -/
theorem exec_createUser_bind {α : Type} (store : AuthStore) (user : StoredUser)
    (next : Unit → Eff AuthStore AuthError α)
    : (AuthStore.createUser user >>= next).exec store
        = if user.email ∈ store.userIdByEmail then
            (.error .emailAlreadyRegistered, store)
          else
            (next ()).exec (store.withUser user) := by
  rw [Eff.exec_bind, createUser_exec]
  by_cases registered : user.email ∈ store.userIdByEmail
  · rw [if_pos registered, if_pos registered]
  · rw [if_neg registered, if_neg registered]

theorem register_evolves {crypto : Crypto} {store : AuthStore} {generated : GeneratedIds}
    (newId : generated.userId ∉ store.usersById) (email displayName password : String)
    : Evolves store
        ((AuthService.register crypto generated email displayName password).after
          store) := by
  have kept := Evolves.refl store
  unfold AuthService.register
  refine Eff.after_check_bind kept fun email _ => ?_
  refine Eff.after_check_bind kept fun displayName _ => ?_
  refine Eff.after_check_bind kept fun _ _ => ?_
  rw [Eff.after_get_bind]
  refine Eff.after_check_bind kept fun ssoRequired _ => ?_
  split
  · exact kept
  split
  · exact kept
  rw [Eff.after, exec_createUser_bind]
  split
  · exact kept
  · next newEmail => exact ⟨.added _ newId newEmail rfl rfl, .inl rfl⟩

theorem login_evolves (crypto : Crypto) (store : AuthStore) (generated : GeneratedIds)
    (email password : String)
    : Evolves store ((AuthService.login crypto generated email password).after store) := by
  have kept := Evolves.refl store
  unfold AuthService.login
  refine Eff.after_check_bind kept fun email _ => ?_
  rw [Eff.after_get_bind]
  refine Eff.after_check_bind kept fun ssoRequired _ => ?_
  split
  · exact kept
  split
  · exact kept
  split
  · exact ⟨.same rfl rfl, .inl rfl⟩
  · exact kept

theorem logout_evolves (crypto : Crypto) (store : AuthStore) (token : String)
    : Evolves store ((AuthService.logout crypto token).after store) := by
  unfold AuthService.logout AuthStore.revokeSession
  rw [Eff.after_get_bind]
  split
  · exact .refl store
  · exact ⟨.same rfl rfl, .inl rfl⟩

theorem configureOidcProvider_evolves (store : AuthStore)
    (input : ConfigureOidcProviderInput)
    : Evolves store ((AuthService.configureOidcProvider input).after store) := by
  have kept := Evolves.refl store
  unfold AuthService.configureOidcProvider
  refine Eff.after_check_bind kept fun issuer _ => ?_
  refine Eff.after_check_bind kept fun authorizationEndpoint _ => ?_
  refine Eff.after_check_bind kept fun tokenEndpoint _ => ?_
  refine Eff.after_check_bind kept fun jwksUri _ => ?_
  refine Eff.after_check_bind kept fun clientId _ => ?_
  refine Eff.after_check_bind kept fun clientSecret _ => ?_
  refine Eff.after_check_bind kept fun allowedDomains _ => ?_
  refine Eff.after_check_bind kept fun autoJoinRole _ => ?_
  exact ⟨.same rfl rfl, .inr ⟨_, rfl⟩⟩

-----------------------------------------------------------------------------------------
-- OIDC login
-----------------------------------------------------------------------------------------

/-- The identity a login stores for a user without one. -/
def newIdentity (generated : GeneratedIds) (organizationId userId : Uuid)
    (checked : AuthService.NormalizedAssertion) : StoredOidcIdentity :=
  ⟨generated.identityId, userId, organizationId, checked.issuer, checked.subject,
    checked.email⟩

/-- The user a login creates. -/
def newUser (crypto : Crypto) (generated : GeneratedIds)
    (checked : AuthService.NormalizedAssertion) : StoredUser :=
  ⟨generated.userId, checked.email, checked.displayName,
    oidcPasswordMarker crypto checked.issuer checked.subject⟩

/-- The ways a login finds the user of a checked assertion, with the answer and the store
of each.
-/
inductive FindsUser (crypto : Crypto) (store : AuthStore) (generated : GeneratedIds)
    (organizationId : Uuid) (checked : AuthService.NormalizedAssertion)
    : Except AuthError StoredUser × AuthStore → Prop where
  | refused (error : AuthError)
      : FindsUser crypto store generated organizationId checked (.error error, store)
  | known (identity : StoredOidcIdentity) (user : StoredUser)
      (stored : store.findOidcIdentity checked.issuer checked.subject = some identity)
      (found : store.findUserById identity.userId = some user)
      : FindsUser crypto store generated organizationId checked (.ok user, store)
  | linked (user : StoredUser)
      (unknown : store.findOidcIdentity checked.issuer checked.subject = none)
      (found : store.findUserByEmail checked.email = some user)
      : FindsUser crypto store generated organizationId checked
          (.ok user,
            store.withIdentity (newIdentity generated organizationId user.id checked))
  | created
      (unknown : store.findOidcIdentity checked.issuer checked.subject = none)
      (newEmail : checked.email ∉ store.userIdByEmail)
      : FindsUser crypto store generated organizationId checked
          (.ok (newUser crypto generated checked),
            (store.withUser (newUser crypto generated checked)).withIdentity
              (newIdentity generated organizationId generated.userId checked))

/-- Every search for the user takes one of these ways, by the lookups in their order. -/
theorem userForAssertion_findsUser (crypto : Crypto) (store : AuthStore)
    (generated : GeneratedIds) (organizationId : Uuid)
    (checked : AuthService.NormalizedAssertion)
    : FindsUser crypto store generated organizationId checked
        ((AuthService.userForAssertion crypto generated organizationId checked).exec
          store) := by
  rw [AuthService.userForAssertion, Eff.exec_get_bind]
  split
  · next identity stored =>
      split
      · next user found => exact .known identity user stored found
      · exact .refused .invalidCredentials
  · next unknown =>
      split
      · next user found => exact .linked user unknown found
      · rw [exec_createUser_bind]
        split
        · exact .refused .emailAlreadyRegistered
        · next newEmail => exact .created unknown newEmail

/-- A successful login passed the checks, found its user and opened a session for it. -/
theorem oidcLogin_ok {crypto : Crypto} {store last : AuthStore}
    {iteration : List StoredOidcProvider} {generated : GeneratedIds}
    {assertion : OidcProviderAssertion} {result : OidcLoginResult}
    (accepted : (AuthService.oidcLogin crypto iteration generated assertion).exec store
      = (.ok result, last))
    : ∃ checked provider user middle,
        AuthService.normalizeAssertion assertion = .ok checked
        ∧ AuthService.providerForAssertion crypto iteration checked = .ok provider
        ∧ (AuthService.userForAssertion crypto generated provider.organizationId
            checked).exec store = (.ok user, middle)
        ∧ last.oidcIdentityByIssuerSubject = middle.oidcIdentityByIssuerSubject
        ∧ result.auth.user = AuthUser.from user
        ∧ result.organizationId = provider.organizationId := by
  rw [AuthService.oidcLogin, Eff.exec_bind_eq_ok] at accepted
  obtain ⟨checked, _, normalized, accepted⟩ := accepted
  rw [Eff.exec_bind_eq_ok] at accepted
  obtain ⟨provider, _, selected, accepted⟩ := accepted
  rw [Eff.exec_bind_eq_ok] at accepted
  obtain ⟨user, middle, found, accepted⟩ := accepted
  simp only [Eff.exec_liftExcept, Prod.mk.injEq] at normalized selected
  obtain ⟨normalized, rfl⟩ := normalized
  obtain ⟨selected, rfl⟩ := selected
  cases accepted
  exact ⟨checked, provider, user, middle, normalized, selected, found, rfl, rfl, rfl⟩

/-- A login whose checks pass goes on to find its user. -/
theorem oidcLogin_exec {crypto : Crypto} {iteration : List StoredOidcProvider}
    {assertion : OidcProviderAssertion} {checked : AuthService.NormalizedAssertion}
    {provider : StoredOidcProvider}
    (normalized : AuthService.normalizeAssertion assertion = .ok checked)
    (selected : AuthService.providerForAssertion crypto iteration checked = .ok provider)
    (store : AuthStore) (generated : GeneratedIds)
    : (AuthService.oidcLogin crypto iteration generated assertion).exec store
        = (do
            let user ←
              AuthService.userForAssertion crypto generated provider.organizationId checked
            let auth ← AuthService.createSessionForUser crypto generated user
            return (⟨auth, provider.organizationId, provider.autoJoinRole⟩
              : OidcLoginResult) : Eff AuthStore AuthError OidcLoginResult).exec store := by
  rw [AuthService.oidcLogin, Eff.exec_check_bind, normalized]
  simp only [Eff.exec_check_bind, selected]

theorem oidcLogin_evolves {crypto : Crypto} {store : AuthStore}
    {generated : GeneratedIds} (newId : generated.userId ∉ store.usersById)
    (iteration : List StoredOidcProvider) (assertion : OidcProviderAssertion)
    : Evolves store
        ((AuthService.oidcLogin crypto iteration generated assertion).after store) := by
  have kept := Evolves.refl store
  unfold AuthService.oidcLogin
  refine Eff.after_check_bind kept fun checked _ => ?_
  refine Eff.after_check_bind kept fun provider _ => ?_
  have ways := userForAssertion_findsUser crypto store generated provider.organizationId
    checked
  refine Eff.after_bind ?_ ?_
  · intro error middle ended
    rw [ended] at ways
    cases ways
    exact kept
  · intro user middle ended
    rw [ended] at ways
    cases ways with
    | known => exact ⟨.same rfl rfl, .inl rfl⟩
    | linked => exact ⟨.same rfl rfl, .inl rfl⟩
    | created unknown newEmail => exact ⟨.added _ newId newEmail rfl rfl, .inl rfl⟩

-----------------------------------------------------------------------------------------
-- Indexed users
-----------------------------------------------------------------------------------------

/-- Users are stored under their identifier, and an indexed email leads to a user that has
it.
-/
structure AuthStore.Indexed (store : AuthStore) : Prop where
  keyed : ∀ userId user, store.usersById.lookup userId = some user → user.id = userId
  emails : ∀ email userId, store.userIdByEmail.lookup email = some userId →
    ∃ user, store.usersById.lookup userId = some user ∧ user.email = email

theorem AuthStore.Indexed.empty : AuthStore.empty.Indexed :=
  ⟨by simp [AuthStore.empty], by simp [AuthStore.empty]⟩

/-- A user found by an email has this email. -/
theorem AuthStore.Indexed.email_of_findUserByEmail {store : AuthStore}
    (indexed : store.Indexed) {email : String} {user : StoredUser}
    (found : store.findUserByEmail email = some user)
    : user.email = email := by
  rw [AuthStore.findUserByEmail] at found
  split at found
  · cases found
  · next userId stored =>
      obtain ⟨other, same, email⟩ := indexed.emails _ userId stored
      rw [found, Option.some.injEq] at same
      rwa [same]

/-- A user found by an identifier has this identifier. -/
theorem AuthStore.Indexed.id_of_findUserById {store : AuthStore} (indexed : store.Indexed)
    {userId : Uuid} {user : StoredUser} (found : store.findUserById userId = some user)
    : user.id = userId :=
  indexed.keyed userId user found

/-- Growing users stay indexed: a new identifier leaves the older users in place. -/
theorem AuthStore.Indexed.grow {before after : AuthStore} (indexed : before.Indexed)
    (grown : UsersGrow before after)
    : after.Indexed := by
  cases grown with
  | same users emails =>
      constructor
      · rw [users]
        exact indexed.keyed
      · rw [users, emails]
        exact indexed.emails
  | added user newId newEmail users emails =>
      constructor
      · intro userId other found
        rw [users, Table.lookup_insert_eq] at found
        split at found
        · next same =>
            cases found
            exact same.symm
        · exact indexed.keyed userId other found
      · intro email userId stored
        rw [emails, Table.lookup_insert_eq] at stored
        simp only [users, Table.lookup_insert_eq]
        split at stored
        · next same =>
            cases stored
            exact ⟨user, if_pos rfl, same.symm⟩
        · obtain ⟨other, found, hasEmail⟩ := indexed.emails email userId stored
          have older : userId ≠ user.id := by
            rintro rfl
            exact newId (Table.mem_of_lookup found)
          exact ⟨other, by rw [if_neg older, found], hasEmail⟩

/-- An admissible request evolves the store. -/
theorem AuthRequest.perform_evolves (crypto : Crypto) {store : AuthStore}
    {request : AuthRequest} (admissible : request.Admissible store)
    : Evolves store (request.perform crypto store) := by
  cases request with
  | register generated email displayName password =>
      exact register_evolves admissible email displayName password
  | login generated email password => exact login_evolves crypto store _ _ _
  | logout token => exact logout_evolves crypto store token
  | configureOidcProvider input => exact configureOidcProvider_evolves store input
  | oidcLogin iteration generated assertion =>
      exact oidcLogin_evolves admissible.2 iteration assertion
  | createUser user =>
      simp only [AuthRequest.perform, Eff.after, createUser_exec]
      split
      · exact .refl store
      · next newEmail => exact ⟨.added user admissible newEmail rfl rfl, .inl rfl⟩

/-- Every reachable step is an evolution. -/
theorem AuthStore.step_evolves {crypto : Crypto} {store next : AuthStore}
    {request : AuthRequest} (stepped : store.step crypto request = some next)
    : Evolves store next := by
  rw [AuthStore.step, Option.ite_none_right_eq_some] at stepped
  obtain ⟨admissible, same⟩ := stepped
  cases same
  exact request.perform_evolves crypto admissible

/-- The users of every reachable store are indexed, by induction over the requests. -/
theorem AuthStore.Indexed.of_reachable {crypto : Crypto} {store : AuthStore}
    (reachable : Reachable (AuthStore.step crypto) AuthStore.empty store)
    : store.Indexed := by
  refine reachable.invariant .empty ?_
  intro state request next indexed stepped
  exact indexed.grow (AuthStore.step_evolves stepped).users

/-- Providers are stored under their own organization. -/
def AuthStore.ProvidersKeyed (store : AuthStore) : Prop :=
  ∀ organizationId provider,
    store.oidcProvidersByOrganization.lookup organizationId = some provider →
      provider.organizationId = organizationId

/-- The providers of every reachable store are keyed, by induction over the requests. -/
theorem AuthStore.ProvidersKeyed.of_reachable {crypto : Crypto} {store : AuthStore}
    (reachable : Reachable (AuthStore.step crypto) AuthStore.empty store)
    : store.ProvidersKeyed := by
  refine reachable.invariant (by simp [AuthStore.ProvidersKeyed, AuthStore.empty]) ?_
  intro state request next keyed stepped organizationId provider stored
  rcases (AuthStore.step_evolves stepped).providers with same | ⟨added, inserted⟩
  · rw [same] at stored
    exact keyed organizationId provider stored
  · rw [inserted, Table.lookup_insert_eq] at stored
    split at stored
    · next own =>
        cases stored
        exact own.symm
    · exact keyed organizationId provider stored

end OpenCord.Auth

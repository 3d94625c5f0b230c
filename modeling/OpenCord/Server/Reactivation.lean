import OpenCord.Server.Invariants

/-! How long a SCIM deactivation lasts. Signing in over OIDC and inviting a user or a bot
into a space make an inactive membership of the organization active again; every other
request leaves it to SCIM.
-/

namespace OpenCord.Server

open OpenCord.Library OpenCord.Platform OpenCord.Auth OpenCord.Tenancy

variable {crypto : Crypto}

/-- A SCIM request that is answered without an error. -/
def AppRequest.scimAccepted (crypto : Crypto) (state : AppState) : AppRequest → Bool
  | .scimCreateUser userId scimUserId token request =>
      ((ScimController.createUser crypto userId scimUserId token request).exec state).1.isOk
  | .scimPatchUser token externalId operations =>
      ((ScimController.patchUser crypto token externalId operations).exec state).1.isOk
  | _ => false

/-- A request that does not ask for an active row of the user, be it as a SCIM request of
the organization, as a sign-in with its provider or as an invitation.
-/
structure AppRequest.LeavesInactive (crypto : Crypto) (organizationId userId : Uuid)
    (state : AppState) (request : AppRequest) : Prop where
  notReactivated : request.scimWrite crypto state ≠ some ⟨organizationId, userId, .active⟩
  notAdmitted : request.admission crypto state ≠ some ⟨organizationId, userId, .active⟩

instance (crypto : Crypto) (organizationId userId : Uuid) (state : AppState)
    (request : AppRequest)
    : Decidable (request.LeavesInactive crypto organizationId userId state) :=
  decidable_of_iff (_ ∧ _) ⟨fun holds => ⟨holds.1, holds.2⟩, fun holds => ⟨holds.1, holds.2⟩⟩

/-- Any row but an active one of the user. -/
def KeepsInactive (organizationId userId : Uuid) (_ : SpaceStore) (write : MemberWrite) : Prop :=
  write ≠ ⟨organizationId, userId, .active⟩

/-- An inactive row stays inactive. -/
theorem Write.inactive {organizationId userId : Uuid} {before after : AppState}
    (write : Write (KeepsInactive organizationId userId) before after)
    (inactive : before.organizations.InactiveMember organizationId userId)
    : after.organizations.InactiveMember organizationId userId := by
  obtain ⟨row, found, isInactive⟩ := inactive
  cases write with
  | elsewhere _ members _ _ _ =>
      exact ⟨row, by rw [OrganizationStore.member?, members]; exact found, isInactive⟩
  | organizationCreated organization ownerMember own active new =>
      have listed : (organizationId, userId) ∈ before.organizations.membersByOrgUser.keys :=
        Table.mem_of_lookup found
      have differs : organizationId ≠ organization.id := new.2 _ listed
      refine ⟨row, ?_, isInactive⟩
      rw [OrganizationStore.member?, OrganizationStore.withOrganization,
        Table.lookup_insert_eq, if_neg]
      · exact found
      · rw [own]
        exact fun same => differs (congrArg Prod.fst same)
  | memberWritten organization user member allowed =>
      by_cases same : (organizationId, userId) = (organization, user)
      · refine ⟨member, by rw [OrganizationStore.member?_withMember, if_pos same], ?_⟩
        cases same
        rcases status : member.status with _ | _
        · rw [status] at allowed
          exact absurd rfl allowed
        · rfl
      · refine ⟨row, ?_, isInactive⟩
        rw [OrganizationStore.member?_withMember, if_neg same]
        exact found
  | _ => exact ⟨row, found, isInactive⟩

theorem AppState.step_inactive {organizationId userId : Uuid} {state next : AppState}
    {request : AppRequest} (keyed : state.Keyed)
    (inactive : state.organizations.InactiveMember organizationId userId)
    (leaves : request.LeavesInactive crypto organizationId userId state)
    (stepped : state.step crypto request = some next)
    : next.Keyed ∧ next.organizations.InactiveMember organizationId userId := by
  have preserved (before after : AppState) (_ : before.Keyed)
      (write : Write (KeepsInactive organizationId userId) before after)
      (holds : before.organizations.InactiveMember organizationId userId)
      : after.organizations.InactiveMember organizationId userId :=
    write.inactive holds
  refine AppState.step_preserves preserved keyed inactive ?_ ?_ stepped
  · intro write admits same
    rw [same] at admits
    exact leaves.notAdmitted admits
  · intro write sets same
    rw [same] at sets
    exact leaves.notReactivated sets

theorem patchUser_ok {state last : AppState} {token externalId : String}
    {operations : List ScimPatchOperation} {record : StoredScimUser}
    (answered : (ScimController.patchUser crypto token externalId operations).exec state
      = (.ok record, last))
    : ∃ (write : MemberWrite) (member : StoredOrganizationMember),
        (AppRequest.scimPatchUser token externalId operations).scimWrite crypto state = some write
          ∧ member.status = write.status
          ∧ last.organizations
            = state.organizations.withMember write.organizationId write.userId member := by
  obtain ⟨active, asked, answered⟩ := Eff.exec_check_bind_eq_ok.mp answered
  rw [ScimService.setUserActive, Eff.exec_get_bind] at answered
  obtain ⟨config, configured, answered⟩ := Eff.exec_check_bind_eq_ok.mp answered
  obtain ⟨key, normalized, answered⟩ := Eff.exec_check_bind_eq_ok.mp answered
  obtain ⟨user, middle, ran, answered⟩ := Eff.exec_bind_eq_ok.mp answered
  obtain ⟨scim, changed, rfl⟩ := Eff.exec_zoom_eq_ok.mp ran
  obtain ⟨_, middle, ran, answered⟩ := Eff.exec_bind_eq_ok.mp answered
  obtain ⟨organizations, set, rfl⟩ := Eff.exec_zoom_eq_ok.mp ran
  cases answered
  obtain ⟨member, _, rfl⟩ := OrganizationStore.setMemberStatus_ok set
  obtain ⟨stored, found, same⟩ := ScimStore.setUserActive_ok changed
  refine ⟨⟨config.organizationId, record.userId, statusFor active⟩,
    { member with status := statusFor active }, ?_, rfl, rfl⟩
  simp only [AppRequest.scimWrite, Eff.mapError_eq_ok.mp asked, Eff.mapError_eq_ok.mp configured,
    Eff.mapError_eq_ok.mp normalized, found, same, Except.toOption, bind, pure, Option.bind]

theorem provisionUser_ok {state last : AppState} {userId scimUserId : Uuid} {token : String}
    {request : ProvisionScimUserInput} {record : StoredScimUser}
    (answered : (ScimController.createUser crypto userId scimUserId token request).exec state
      = (.ok record, last))
    : ∃ (write : MemberWrite) (member : StoredOrganizationMember),
        (AppRequest.scimCreateUser userId scimUserId token request).scimWrite crypto state
            = some write
          ∧ member.status = write.status
          ∧ last.organizations
            = state.organizations.withMember write.organizationId write.userId member := by
  rw [ScimController.createUser, ScimService.provisionUser, Eff.exec_get_bind] at answered
  obtain ⟨checked, passed, answered⟩ := Eff.exec_check_bind_eq_ok.mp answered
  obtain ⟨user, middle, created, answered⟩ := Eff.exec_bind_eq_ok.mp answered
  obtain ⟨⟨auth, rfl⟩, same⟩ := createProvisionedUser_exec created
  cases same user rfl
  obtain ⟨_, middle, ran, answered⟩ := Eff.exec_bind_eq_ok.mp answered
  obtain ⟨organizations, provisioned, rfl⟩ := Eff.exec_zoom_eq_ok.mp ran
  obtain ⟨scim, stored, rfl⟩ := Eff.exec_zoom_eq_ok.mp answered
  by_cases known : checked.organizationId ∈ state.organizations.organizationsById
  · obtain ⟨member, status, ran⟩ := exec_provisionMembership
      (ScimService.provisionedUser crypto state userId checked).id request.active known
    obtain rfl : _ = organizations := congrArg Prod.snd (ran.symm.trans provisioned)
    refine ⟨⟨checked.organizationId, (ScimService.provisionedUser crypto state userId checked).id,
      statusFor request.active⟩, member, ?_, status, rfl⟩
    simp only [AppRequest.scimWrite, Eff.mapError_eq_ok.mp passed, Except.toOption, bind, pure,
      Option.bind]
  · have refused := exec_provisionMembership_of_missing
      (ScimService.provisionedUser crypto state userId checked).id request.active known
    cases refused.symm.trans provisioned

/-- An accepted SCIM request writes the row it is about, with the status it asks for. -/
theorem AppRequest.scimAccepted_writes {state : AppState} {request : AppRequest}
    (accepted : request.scimAccepted crypto state)
    : ∃ (write : MemberWrite) (member : StoredOrganizationMember),
        request.scimWrite crypto state = some write ∧ member.status = write.status
          ∧ (request.perform crypto state).organizations
            = state.organizations.withMember write.organizationId write.userId member := by
  cases request with
  | scimCreateUser userId scimUserId token request =>
      rcases ran : (ScimController.createUser crypto userId scimUserId token request).exec state
        with ⟨error | record, last⟩
      · rw [scimAccepted, ran] at accepted
        cases accepted
      · rw [perform, Eff.after, ran]
        exact provisionUser_ok ran
  | scimPatchUser token externalId operations =>
      rcases ran : (ScimController.patchUser crypto token externalId operations).exec state
        with ⟨error | record, last⟩
      · rw [scimAccepted, ran] at accepted
        cases accepted
      · rw [perform, Eff.after, ran]
        exact patchUser_ok ran
  | _ => cases accepted

/-- A user whom a SCIM request of an organization deactivates stays inactive in it, through
any requests among which none leads to an active row of the user.
-/
theorem deactivation_lasts_of_allowed {before start last : AppState} {request : AppRequest}
    {requests : List AppRequest} {organizationId userId : Uuid}
    (reached : before.Reached crypto) (accepted : request.scimAccepted crypto before)
    (deactivates : request.scimWrite crypto before = some ⟨organizationId, userId, .inactive⟩)
    (stepped : before.step crypto request = some start)
    (allowed : Allowed (AppState.step crypto)
      (AppRequest.LeavesInactive crypto organizationId userId) start requests)
    (ran : run (AppState.step crypto) start requests = some last)
    : last.organizations.InactiveMember organizationId userId := by
  obtain ⟨write, member, asked, status, written⟩ := AppRequest.scimAccepted_writes accepted
  rw [deactivates, Option.some.injEq] at asked
  have performed : start = request.perform crypto before := by
    rw [AppState.step] at stepped
    split at stepped <;> cases stepped
    rfl
  have inactive : start.organizations.InactiveMember organizationId userId := by
    rw [performed, written, ← asked]
    exact ⟨member, by rw [OrganizationStore.member?_withMember, if_pos rfl],
      by rw [status, ← asked]⟩
  have keyed : start.Keyed := AppState.Reached.keyed (reached.next stepped)
  have kept (state : AppState) (request : AppRequest) (next : AppState)
      (holds : state.Keyed ∧ state.organizations.InactiveMember organizationId userId)
      (leaves : request.LeavesInactive crypto organizationId userId state)
      (moved : state.step crypto request = some next)
      : next.Keyed ∧ next.organizations.InactiveMember organizationId userId :=
    AppState.step_inactive holds.1 holds.2 leaves moved
  exact (run_preserves_of_allowed kept ⟨keyed, inactive⟩ allowed ran).2

namespace Acme

/-- After Bob's deactivation Alice renames the space and removes him from it. -/
def renamedSpace : List AppRequest :=
  [.updateSpace (stamp 203) aliceToken main ⟨some "Lobby"⟩,
    .removeSpaceMember (stamp 204) aliceToken main bob]

end Acme

theorem renamedSpace_keepsDeactivation
    : ∃ before start last, AppState.Reached Acme.crypto before
        ∧ before.step Acme.crypto (Acme.setBobActive false) = some start
        ∧ run (AppState.step Acme.crypto) start Acme.renamedSpace = some last
        ∧ last.organizations.InactiveMember Acme.id Acme.bob := by
  have facts : (run (AppState.step Acme.crypto) .empty Acme.requests).any fun before =>
      (Acme.setBobActive false).scimAccepted Acme.crypto before
        ∧ (Acme.setBobActive false).scimWrite Acme.crypto before
          = some ⟨Acme.id, Acme.bob, .inactive⟩
        ∧ (before.step Acme.crypto (Acme.setBobActive false)).any fun start =>
            (run (AppState.step Acme.crypto) start Acme.renamedSpace).isSome
              ∧ Allowed (AppState.step Acme.crypto)
                  (AppRequest.LeavesInactive Acme.crypto Acme.id Acme.bob) start
                  Acme.renamedSpace := by
    decide +kernel
  obtain ⟨before, reached, facts⟩ := (Option.any_eq_true _ _).mp facts
  obtain ⟨accepted, deactivates, facts⟩ := of_decide_eq_true facts
  obtain ⟨start, stepped, facts⟩ := (Option.any_eq_true _ _).mp facts
  obtain ⟨ends, allowed⟩ := of_decide_eq_true facts
  obtain ⟨last, ran⟩ := Option.isSome_iff_exists.mp ends
  exact ⟨before, start, last, ⟨_, reached⟩, stepped, ran,
    deactivation_lasts_of_allowed ⟨_, reached⟩ accepted deactivates stepped allowed ran⟩

namespace Acme

/-- Alice adds Bob to the space again. -/
def bobInvited : AppRequest :=
  .addSpaceMember (stamp 203) "2026-01-01T00:00:00.000Z" aliceToken main ⟨bob.toString, none⟩

end Acme

/-- A sign-in with Acme's provider, or an invitation into Acme's space, undoes the
deactivation of Bob, while SCIM goes on to report him inactive.
-/
theorem deactivation_undone
    : ∃ before start, AppState.Reached Acme.crypto before
        ∧ (Acme.setBobActive false).scimAccepted Acme.crypto before
        ∧ (Acme.setBobActive false).scimWrite Acme.crypto before
          = some ⟨Acme.id, Acme.bob, .inactive⟩
        ∧ before.step Acme.crypto (Acme.setBobActive false) = some start
        ∧ ∀ request ∈ [Acme.bobSignsIn, Acme.bobInvited],
            ∃ last, start.step Acme.crypto request = some last
              ∧ ¬ last.organizations.InactiveMember Acme.id Acme.bob
              ∧ (last.scim.userByExternalId Acme.id "bob-1").map StoredScimUser.active
                = some false := by
  have facts : (run (AppState.step Acme.crypto) .empty
      (Acme.requests ++ [.configureOidcProvider Acme.aliceToken Acme.provider])).any
      fun before => (Acme.setBobActive false).scimAccepted Acme.crypto before
        ∧ (Acme.setBobActive false).scimWrite Acme.crypto before
          = some ⟨Acme.id, Acme.bob, .inactive⟩
        ∧ (before.step Acme.crypto (Acme.setBobActive false)).any fun start =>
            ∀ request ∈ [Acme.bobSignsIn, Acme.bobInvited],
              (start.step Acme.crypto request).any fun last =>
                ¬ last.organizations.InactiveMember Acme.id Acme.bob
                  ∧ (last.scim.userByExternalId Acme.id "bob-1").map StoredScimUser.active
                    = some false := by
    decide +kernel
  obtain ⟨before, reached, facts⟩ := (Option.any_eq_true _ _).mp facts
  obtain ⟨accepted, deactivates, facts⟩ := of_decide_eq_true facts
  obtain ⟨start, stepped, facts⟩ := (Option.any_eq_true _ _).mp facts
  refine ⟨before, start, ⟨_, reached⟩, accepted, deactivates, stepped, fun request listed => ?_⟩
  obtain ⟨last, undone, facts⟩ :=
    (Option.any_eq_true _ _).mp (of_decide_eq_true facts request listed)
  exact ⟨last, undone, of_decide_eq_true facts⟩

end OpenCord.Server

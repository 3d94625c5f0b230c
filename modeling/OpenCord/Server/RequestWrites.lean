import OpenCord.Server.Writes

/-! Every request is a chain of writes. -/

namespace OpenCord.Server

open Relation
open OpenCord.Library OpenCord.Platform OpenCord.Auth OpenCord.Tenancy OpenCord.Bots
  OpenCord.Realtime

/-- A chain of writes. -/
abbrev Writes (may : SpaceStore → MemberWrite → Prop) : AppState → AppState → Prop :=
  ReflTransGen (Write may)

variable {crypto : Crypto} {may : SpaceStore → MemberWrite → Prop} {start state : AppState}

/-- A write to another store continues a chain. -/
theorem Writes.elsewhere {after : AppState} (writes : Writes may start state)
    (members : after.organizations.membersByOrgUser = state.organizations.membersByOrgUser)
    (spaces : after.spaces = state.spaces) (channels : after.channels = state.channels)
    (published : after.published = state.published)
    : Writes may start after :=
  writes.tail (.elsewhere after members spaces channels published)

theorem onAuth_writes {α : Type} (writes : Writes may start state)
    (action : Eff AuthStore AuthError α)
    : Writes may start ((Handler.onAuth action).after state) :=
  writes.elsewhere rfl rfl rfl rfl

theorem onPermissions_writes {α : Type} (writes : Writes may start state)
    (action : Eff PermissionStore PermissionError α)
    : Writes may start ((Handler.onPermissions action).after state) :=
  writes.elsewhere rfl rfl rfl rfl

theorem onBots_writes {α : Type} (writes : Writes may start state)
    (action : Eff BotStore BotError α)
    : Writes may start ((Handler.onBots action).after state) :=
  writes.elsewhere rfl rfl rfl rfl

theorem onScim_writes {α : Type} (writes : Writes may start state)
    (action : Eff ScimStore ScimError α)
    : Writes may start ((Handler.onScim action).after state) :=
  writes.elsewhere rfl rfl rfl rfl

theorem publish_writes (writes : Writes may start state) {event : RealtimeEvent}
    (concerns : state.Concerns event) (plain : event.data.tokens = [])
    : Writes may start ((Handler.publish event).after state) :=
  writes.tail (.published event concerns (.of_plain plain))

/-- Publishing at the end of a controller. -/
theorem publish_bind_writes {α : Type} (writes : Writes may start state)
    {event : RealtimeEvent} (concerns : state.Concerns event) (plain : event.data.tokens = [])
    (answer : α)
    : Writes may start ((Handler.publish event >>= fun _ => pure answer).after state) :=
  writes.tail (.published event concerns (.of_plain plain))

/-- What a membership in a stored space says about the space. -/
theorem spaceForUser_eq_ok {userId spaceId : Uuid} {membership : SpaceMembership}
    : state.spaceForUser userId spaceId = .ok membership
      ↔ ∃ member space, state.spaces.member? spaceId userId = some member
          ∧ member.status = .active ∧ state.spaces.spacesById.lookup spaceId = some space
          ∧ membership = .of space member.role := by
  rw [← SpaceStore.getForUser_eq_some, ← SpaceService.getForUser_eq_ok]
  exact Eff.mapError_eq_ok

/-- A user who finds a space has an active row in it. -/
theorem activeMember_of_spaceForUser {userId spaceId : Uuid} {space : SpaceMembership}
    (found : state.spaceForUser userId spaceId = .ok space)
    : state.spaces.ActiveMember spaceId userId := by
  obtain ⟨member, _, row, active, _⟩ := spaceForUser_eq_ok.mp found
  exact ⟨member, row, active⟩

/-- The space that a member found, under the identifier of the membership. -/
theorem AppState.Keyed.storedSpace (keyed : state.Keyed) {userId spaceId : Uuid}
    {membership : SpaceMembership}
    (found : state.spaceForUser userId spaceId = .ok membership)
    : ∃ space, membership.id = spaceId ∧ state.spaces.spacesById.lookup membership.id = some space
        ∧ membership.organizationId = space.organizationId := by
  obtain ⟨member, space, _, _, stored, rfl⟩ := spaceForUser_eq_ok.mp found
  have same : space.id = spaceId := keyed.spaces spaceId space stored
  exact ⟨space, same, by rw [SpaceMembership.of, same, stored], rfl⟩

theorem channel_eq_ok {channelId : Uuid} {channel : Channel}
    : state.channel channelId = .ok channel
      ↔ state.channels.channelsById.lookup channelId = some channel := by
  rw [← ChannelService.get_eq_ok]
  exact Eff.mapError_eq_ok

-----------------------------------------------------------------------------------------
-- Spaces
-----------------------------------------------------------------------------------------

theorem createSpace_writes {spaceId organizationId : Uuid} (new : state.NewSpace spaceId)
    (token name : String)
    : Writes may state
        ((SpaceController.create crypto spaceId token organizationId name).after state) := by
  have kept : Writes may state state := .refl
  unfold SpaceController.create
  rw [Eff.after_get_bind]
  refine Eff.after_check_bind kept fun user _ => ?_
  refine Eff.after_check_bind kept fun membership visible => ?_
  have atomic := SpaceService.create_atomic spaceId user.id organizationId name
  refine Eff.after_atomic (atomic.zoom _ fun _ => rfl) kept fun _ last ran => ?_
  obtain ⟨spaces, created, rfl⟩ := Eff.exec_zoom_eq_ok.mp ran
  obtain ⟨space, rfl, rfl, _, rfl⟩ := SpaceService.create_ok created
  have found := OrganizationService.getForUser_eq_ok.mp (Eff.mapError_eq_ok.mp visible)
  have active := OrganizationStore.activeMember_of_getForUser found
  exact kept.tail (.spaceCreated space _ rfl new active)

theorem updateSpace_writes (keyed : state.Keyed) (stamp : EventStamp) (token : String)
    (spaceId : Uuid) (patch : SpacePatch)
    : Writes may state
        ((SpaceController.update crypto stamp token spaceId patch).after state) := by
  have kept : Writes may state state := .refl
  unfold SpaceController.update
  rw [Eff.after_get_bind]
  refine Eff.after_check_bind kept fun user _ => ?_
  refine Eff.after_check_bind kept fun existing found => ?_
  refine Eff.after_check_bind kept fun _ _ => ?_
  have atomic := SpaceService.update_atomic existing patch
  refine Eff.after_atomic_bind (atomic.zoom _ fun _ => rfl) kept fun updated middle ran => ?_
  obtain ⟨spaces, done, rfl⟩ := Eff.exec_zoom_eq_ok.mp ran
  obtain ⟨sameId, sameOrganization, done⟩ := SpaceService.update_ok done
  obtain ⟨_, members, previous, stored, byId⟩ := SpaceStore.updateSpace_ok done
  obtain ⟨space, _, storedSpace, organization⟩ := keyed.storedSpace found
  have same : updated.organizationId = previous.organizationId := by
    rw [sameId, storedSpace, Option.some.injEq] at stored
    rw [sameOrganization, organization, stored]
  let space : StoredSpace := ⟨updated.id, updated.organizationId, updated.slug, updated.name,
    previous.ownerUserId⟩
  refine publish_bind_writes ?_ (.space ..) ?_ updated
  · exact kept.tail (.spaceUpdated spaces space previous stored same members byId)
  · simp [RealtimeEvent.space]

theorem deleteSpace_writes (stamp : EventStamp) (token : String) (spaceId : Uuid)
    : Writes may state ((SpaceController.delete crypto stamp token spaceId).after state) := by
  have kept : Writes may state state := .refl
  unfold SpaceController.delete
  rw [Eff.after_get_bind]
  refine Eff.after_check_bind kept fun user _ => ?_
  refine Eff.after_check_bind kept fun existing found => ?_
  refine Eff.after_check_bind kept fun _ _ => ?_
  refine Eff.after_check_bind kept fun memberUserIds _ => ?_
  have atomic := SpaceService.delete_atomic existing
  refine Eff.after_atomic_bind (atomic.zoom _ fun _ => rfl) kept fun deleted middle ran => ?_
  obtain ⟨spaces, done, rfl⟩ := Eff.exec_zoom_eq_ok.mp ran
  obtain ⟨rfl, rfl⟩ := SpaceService.delete_ok done
  refine publish_writes (kept.tail (.spaceArchived deleted.id)) (.space ..) ?_
  simp [RealtimeEvent.space]

-----------------------------------------------------------------------------------------
-- Members
-----------------------------------------------------------------------------------------

/-- A user joins an organization, then one of its spaces, and an event tells of it. -/
theorem invitation_writes {organizationId spaceId userId : Uuid} {space : StoredSpace}
    (allowed : may state.spaces ⟨organizationId, userId, .active⟩)
    (stored : state.spaces.spacesById.lookup spaceId = some space)
    (own : space.organizationId = organizationId) (role : String)
    {event : RealtimeEvent} (concerns : ∀ state : AppState, state.Concerns event)
    (plain : event.data.tokens = [])
    : Writes may state
        ((do
            Handler.onOrganizations
              (OrganizationService.addMemberIfMissing organizationId userId "member")
            let member ← Handler.onSpaces (SpaceService.addMember spaceId userId role)
            Handler.publish event
            return member : Handler SpaceMembership).after state) := by
  have kept : Writes may state state := .refl
  have joins := OrganizationService.addMemberIfMissing_atomic organizationId userId "member"
  refine Eff.after_atomic_bind (joins.zoom _ fun _ => rfl) kept fun _ middle joined => ?_
  obtain ⟨organizations, added, rfl⟩ := Eff.exec_zoom_eq_ok.mp joined
  obtain ⟨row, active, rfl⟩ := OrganizationService.addMemberIfMissing_ok added
  have writes : Writes may state
      { state with
        organizations := state.organizations.withMember organizationId userId row } :=
    kept.tail (.memberWritten organizationId userId row (by rw [active]; exact allowed))
  have enters := SpaceService.addMember_atomic spaceId userId role
  refine Eff.after_atomic_bind (enters.zoom _ fun _ => rfl) writes fun _ last ran => ?_
  obtain ⟨spaces, entered, rfl⟩ := Eff.exec_zoom_eq_ok.mp ran
  obtain ⟨member, _, _, _, _, _, rfl⟩ := SpaceService.addMember_ok entered
  refine publish_bind_writes ?_ (concerns _) plain _
  have activeMember := OrganizationStore.activeMember_withMember state.organizations
    organizationId userId active
  rw [← own] at activeMember writes ⊢
  exact writes.tail (.spaceJoined spaceId userId _ space stored activeMember)

theorem addSpaceMember_writes (keyed : state.Keyed) (stamp : EventStamp)
    (joinedAt token : String) (spaceId : Uuid) (request : AddSpaceMemberRequest)
    (allowed : ∀ space userId, state.spaces.spacesById.lookup spaceId = some space →
      Uuid.parseStr request.userId = some userId →
        may state.spaces ⟨space.organizationId, userId, .active⟩)
    : Writes may state
        ((PermissionController.addSpaceMember crypto stamp joinedAt token spaceId
          request).after state) := by
  have kept : Writes may state state := .refl
  unfold PermissionController.addSpaceMember
  rw [Eff.after_get_bind]
  refine Eff.after_check_bind kept fun user _ => ?_
  refine Eff.after_check_bind kept fun membership found => ?_
  refine Eff.after_check_bind kept fun _ _ => ?_
  refine Eff.after_check_bind kept fun userId parsed => ?_
  obtain ⟨space, same, stored, own⟩ := keyed.storedSpace found
  have named : Uuid.parseStr request.userId = some userId := by
    rw [parseUuid] at parsed
    split at parsed
    · next id read =>
        cases parsed
        exact read
    · cases parsed
  have invited := allowed space userId (same ▸ stored) named
  rw [← own] at invited
  refine invitation_writes invited stored own.symm _ (fun _ => .space ..) ?_
  simp [RealtimeEvent.space]

theorem inviteToSpace_writes (keyed : state.Keyed) (stamp : EventStamp)
    (joinedAt token : String) (organizationId applicationId spaceId : Uuid)
    (role : Option String)
    (allowed : ∀ application, state.bots.applications.lookup applicationId = some application →
      may state.spaces ⟨organizationId, application.botUserId, .active⟩)
    : Writes may state
        ((BotController.inviteToSpace crypto stamp joinedAt token organizationId applicationId
          spaceId role).after state) := by
  have kept : Writes may state state := .refl
  unfold BotController.inviteToSpace
  rw [Eff.after_get_bind]
  refine Eff.after_check_bind kept fun user _ => ?_
  refine Eff.after_check_bind kept fun _ _ => ?_
  refine Eff.after_check_bind kept fun application selected => ?_
  refine Eff.after_check_bind kept fun membership found => ?_
  split
  · exact kept
  · next own =>
      rw [not_not] at own
      obtain ⟨space, _, stored, sameOrganization⟩ := keyed.storedSpace found
      have known : state.bots.applications.lookup applicationId = some application := by
        rw [BotService.applicationForOrganization] at selected
        cases stored : state.bots.applications.lookup applicationId with
        | none =>
            rw [stored] at selected
            cases selected
        | some other =>
            rw [stored, BotService.ownedBy] at selected
            split at selected
            · cases selected
              rfl
            · cases selected
      refine invitation_writes (allowed application known) stored
        (sameOrganization.symm.trans own) _ (fun _ => .space ..) ?_
      simp [RealtimeEvent.space]

theorem removeSpaceMember_writes (stamp : EventStamp) (token : String)
    (spaceId userId : Uuid)
    : Writes may state
        ((PermissionController.removeSpaceMember crypto stamp token spaceId userId).after
          state) := by
  have kept : Writes may state state := .refl
  unfold PermissionController.removeSpaceMember
  rw [Eff.after_get_bind]
  refine Eff.after_check_bind kept fun user _ => ?_
  refine Eff.after_check_bind kept fun membership _ => ?_
  refine Eff.after_check_bind kept fun _ _ => ?_
  have atomic := SpaceService.removeMember_atomic membership.id userId
  refine Eff.after_atomic_bind (atomic.zoom _ fun _ => rfl) kept fun _ middle ran => ?_
  obtain ⟨spaces, removed, rfl⟩ := Eff.exec_zoom_eq_ok.mp ran
  obtain ⟨member, _, rfl⟩ := SpaceService.removeMember_ok removed
  refine publish_writes (kept.tail (.spaceLeft _ userId _ rfl)) (.space ..) ?_
  simp [RealtimeEvent.space]

/-- A search that finds a user finds the one the lookups lead to. -/
theorem signedInUser_of_findsUser {store last : AuthStore} {generated : GeneratedIds}
    {organizationId : Uuid} {checked : AuthService.NormalizedAssertion} {user : StoredUser}
    (found : FindsUser crypto store generated organizationId checked (.ok user, last))
    : signedInUser store generated checked = user.id := by
  rw [signedInUser]
  cases found with
  | known identity _ stored known => simp only [stored, known]
  | linked _ unknown known => simp only [unknown, known]
  | created unknown newEmail =>
      have missing : store.findUserByEmail checked.email = none := by
        rw [AuthStore.findUserByEmail, AList.lookup_eq_none.mpr newEmail]
      simp only [unknown, missing, newUser]

/-- An accepted login signs its user in to the organization of the provider. -/
theorem admission_of_oidcLogin {last : AuthStore} {iteration : List StoredOidcProvider}
    {generated : GeneratedIds} {assertion : OidcProviderAssertion} {result : OidcLoginResult}
    (accepted : (AuthService.oidcLogin crypto iteration generated assertion).exec state.auth
      = (.ok result, last))
    : (AppRequest.oidcCallback iteration generated assertion).admission crypto state
      = some ⟨result.organizationId, result.auth.user.id, .active⟩ := by
  obtain ⟨checked, provider, user, middle, normalized, selected, found, _, sameUser, own⟩ :=
    oidcLogin_ok accepted
  have ways :=
    userForAssertion_findsUser crypto state.auth generated provider.organizationId checked
  rw [found] at ways
  simp only [AppRequest.admission, normalized, selected, Except.toOption, bind, pure,
    Option.bind]
  rw [own, sameUser, signedInUser_of_findsUser ways, AuthUser.from]

theorem oidcCallback_writes (iteration : List StoredOidcProvider) (generated : GeneratedIds)
    (assertion : OidcProviderAssertion)
    (allowed : ∀ write ∈
      (AppRequest.oidcCallback iteration generated assertion).admission crypto state,
        may state.spaces write)
    : Writes may state
        ((AuthController.oidcCallback crypto iteration generated assertion).after state) := by
  have kept : Writes may state state := .refl
  have written : ∀ auth, Writes may state { state with auth := auth } :=
    fun _ => kept.elsewhere rfl rfl rfl rfl
  refine Eff.after_zoom_bind written fun result auth accepted => ?_
  have writes := written auth
  have joins := OrganizationService.addMemberIfMissing_atomic result.organizationId
    result.auth.user.id result.autoJoinRole
  refine Eff.after_atomic_bind (joins.zoom _ fun _ => rfl) writes fun _ last joined => ?_
  obtain ⟨organizations, added, rfl⟩ := Eff.exec_zoom_eq_ok.mp joined
  obtain ⟨row, active, rfl⟩ := OrganizationService.addMemberIfMissing_ok added
  refine writes.tail (.memberWritten _ _ row ?_)
  rw [active]
  exact allowed _ (admission_of_oidcLogin accepted)

-----------------------------------------------------------------------------------------
-- SCIM and bots
-----------------------------------------------------------------------------------------

/-- Provisioning a membership writes one row, with the status asked for. -/
theorem exec_provisionMembership {organizationId : Uuid} (userId : Uuid) (active : Bool)
    {store : OrganizationStore} (stored : organizationId ∈ store.organizationsById)
    : ∃ member : StoredOrganizationMember, member.status = statusFor active
        ∧ (ScimService.provisionMembership organizationId userId active).exec store
          = (.ok (), store.withMember organizationId userId member) := by
  let member : StoredOrganizationMember := ⟨organizationId, userId, "member", .active⟩
  have added : (OrganizationStore.addMemberIfMissing member).exec store
      = (.ok (), store.withMember organizationId userId (store.joined member)) := by
    rw [OrganizationStore.addMemberIfMissing, Eff.exec_get_bind, if_pos stored]
    rfl
  have row : (store.withMember organizationId userId (store.joined member)).member?
      organizationId userId = some (store.joined member) := by
    rw [OrganizationStore.member?_withMember, if_pos rfl]
  rw [ScimService.provisionMembership, Eff.exec_bind, added]
  cases active with
  | true => exact ⟨store.joined member, OrganizationStore.joined_status store rfl, rfl⟩
  | false =>
      refine ⟨{ store.joined member with status := .inactive }, rfl, ?_⟩
      refine (OrganizationStore.exec_setMemberStatus .inactive row).trans ?_
      simp only [OrganizationStore.withMember, AList.insert_insert]

/-- Without the organization there is no membership to provision. -/
theorem exec_provisionMembership_of_missing {organizationId : Uuid} (userId : Uuid)
    (active : Bool) {store : OrganizationStore}
    (missing : organizationId ∉ store.organizationsById)
    : (ScimService.provisionMembership organizationId userId active).exec store
      = (.error .notFound, store) := by
  rw [ScimService.provisionMembership, Eff.exec_bind, OrganizationStore.addMemberIfMissing,
    Eff.exec_get_bind, if_neg missing]
  rfl

theorem provisionMembership_writes {organizationId userId : Uuid} {active : Bool}
    (writes : Writes may start state)
    (allowed : may state.spaces ⟨organizationId, userId, statusFor active⟩)
    : Writes may start
        ((Handler.onScimOrganizations
          (ScimService.provisionMembership organizationId userId active)).after state) := by
  rw [Handler.onScimOrganizations, Eff.after_zoom, Eff.after]
  by_cases stored : organizationId ∈ state.organizations.organizationsById
  · obtain ⟨member, status, ran⟩ := exec_provisionMembership userId active stored
    rw [ran]
    refine writes.tail (.memberWritten _ _ member ?_)
    rw [status]
    exact allowed
  · rw [exec_provisionMembership_of_missing userId active stored]
    exact writes

/-- Creating the account of a provisioned user writes accounts only. -/
theorem createProvisionedUser_exec {userId : Uuid} {checked : ScimService.CheckedProvision}
    {answer : Except ApiError StoredUser} {next : AppState}
    (ran : (ScimService.createProvisionedUser crypto userId checked).exec state
      = (answer, next))
    : (∃ auth, next = { state with auth := auth })
        ∧ ∀ user, answer = .ok user →
            user = ScimService.provisionedUser crypto state userId checked := by
  rw [ScimService.createProvisionedUser, Eff.exec_get_bind] at ran
  dsimp only at ran
  split at ran
  · cases ran
    refine ⟨⟨state.auth, rfl⟩, fun user same => ?_⟩
    cases same
    rfl
  · rw [Eff.exec_bind] at ran
    split at ran
    · next created =>
        cases ran
        refine ⟨⟨_, (congrArg Prod.snd created).symm⟩, fun user same => ?_⟩
        cases same
        rfl
    · next failed =>
        cases ran
        exact ⟨⟨_, (congrArg Prod.snd failed).symm⟩, nofun⟩

theorem provisionUser_writes (userId scimUserId : Uuid) (token : String)
    (input : ProvisionScimUserInput)
    (allowed : ∀ checked, ScimService.checkProvision crypto state token input = .ok checked →
      may state.spaces ⟨checked.organizationId,
        (ScimService.provisionedUser crypto state userId checked).id, statusFor input.active⟩)
    : Writes may state
        ((ScimService.provisionUser crypto userId scimUserId token input).after state) := by
  have kept : Writes may state state := .refl
  unfold ScimService.provisionUser
  rw [Eff.after_get_bind]
  refine Eff.after_check_bind kept fun checked passed => ?_
  have provisions := allowed checked (Eff.mapError_eq_ok.mp passed)
  refine Eff.after_bind (fun error middle failed => ?_) (fun user middle ran => ?_)
  · obtain ⟨⟨auth, rfl⟩, _⟩ := createProvisionedUser_exec failed
    exact kept.elsewhere rfl rfl rfl rfl
  obtain ⟨⟨auth, rfl⟩, same⟩ := createProvisionedUser_exec ran
  cases same user rfl
  have writes : Writes may state { state with auth := auth } := kept.elsewhere rfl rfl rfl rfl
  refine Eff.after_bind_of_after ?_ fun _ => onScim_writes ?_ _
  all_goals exact provisionMembership_writes writes provisions

theorem patchUser_writes (token externalId : String) (operations : List ScimPatchOperation)
    (allowed : ∀ write ∈
      (AppRequest.scimPatchUser token externalId operations).scimWrite crypto state,
        may state.spaces write)
    : Writes may state
        ((ScimController.patchUser crypto token externalId operations).after state) := by
  have kept : Writes may state state := .refl
  refine Eff.after_check_bind kept fun active asked => ?_
  unfold ScimService.setUserActive
  rw [Eff.after_get_bind]
  refine Eff.after_check_bind kept fun config configured => ?_
  refine Eff.after_check_bind kept fun key normalized => ?_
  have written : ∀ scim, Writes may state { state with scim := scim } :=
    fun _ => kept.elsewhere rfl rfl rfl rfl
  refine Eff.after_zoom_bind written fun record scim changed => ?_
  have writes := written scim
  have sets := OrganizationStore.setMemberStatus_atomic config.organizationId record.userId
    (statusFor active)
  refine Eff.after_atomic_bind (sets.zoom _ fun _ => rfl) writes fun _ last ran => ?_
  obtain ⟨organizations, done, rfl⟩ := Eff.exec_zoom_eq_ok.mp ran
  obtain ⟨member, _, rfl⟩ := OrganizationStore.setMemberStatus_ok done
  obtain ⟨stored, found, same⟩ := ScimStore.setUserActive_ok changed
  refine writes.tail
    (.memberWritten _ _ _ (allowed ⟨config.organizationId, record.userId, statusFor active⟩ ?_))
  simp only [AppRequest.scimWrite, Eff.mapError_eq_ok.mp asked,
    Eff.mapError_eq_ok.mp configured, Eff.mapError_eq_ok.mp normalized, found, same,
    Except.toOption, bind, pure, Option.bind, Option.mem_def]

theorem createOrganization_writes {organizationId : Uuid}
    (new : state.NewOrganization organizationId) (token name : String)
    : Writes may state
        ((OrganizationController.create crypto organizationId token name).after state) := by
  have kept : Writes may state state := .refl
  unfold OrganizationController.create
  rw [Eff.after_get_bind]
  refine Eff.after_check_bind kept fun user _ => ?_
  have atomic := OrganizationService.createWithOptions_atomic organizationId user.id name "free"
    "self_hosted" "local"
  refine Eff.after_atomic (atomic.zoom _ fun _ => rfl) kept fun _ last ran => ?_
  obtain ⟨organizations, created, rfl⟩ := Eff.exec_zoom_eq_ok.mp ran
  obtain ⟨organization, rfl, rfl⟩ := OrganizationService.createWithOptions_ok created
  exact kept.tail (.organizationCreated organization _ rfl rfl new)

theorem provisionTenant_writes {organizationId : Uuid}
    (new : state.NewOrganization organizationId)
    (token name plan deploymentMode primaryRegion : String)
    : Writes may state
        ((OrganizationController.provisionTenant crypto organizationId token name plan
          deploymentMode primaryRegion).after state) := by
  have kept : Writes may state state := .refl
  unfold OrganizationController.provisionTenant
  rw [Eff.after_get_bind]
  refine Eff.after_check_bind kept fun user _ => ?_
  have atomic := OrganizationService.provisionTenant_atomic organizationId user.id name plan
    deploymentMode primaryRegion
  refine Eff.after_atomic (atomic.zoom _ fun _ => rfl) kept fun _ last ran => ?_
  obtain ⟨organizations, created, rfl⟩ := Eff.exec_zoom_eq_ok.mp ran
  obtain ⟨organization, rfl, rfl⟩ := OrganizationService.provisionTenant_ok created
  exact kept.tail (.organizationCreated organization _ rfl rfl new)

-----------------------------------------------------------------------------------------
-- Channels
-----------------------------------------------------------------------------------------

theorem createChannel_writes (keyed : state.Keyed) (stamp : EventStamp) {channelId : Uuid}
    (new : state.NewChannel channelId) (token : String) (spaceId : Uuid)
    (request : CreateChannelRequest)
    : Writes may state
        ((ChannelController.create crypto stamp channelId token spaceId request).after
          state) := by
  have kept : Writes may state state := .refl
  unfold ChannelController.create
  rw [Eff.after_get_bind]
  refine Eff.after_check_bind kept fun user _ => ?_
  refine Eff.after_check_bind kept fun membership found => ?_
  refine Eff.after_check_bind kept fun _ _ => ?_
  have atomic := ChannelService.create_atomic channelId membership.organizationId membership.id
    request.kind request.name request.topic (request.isPrivate.getD false)
  refine Eff.after_atomic_bind (atomic.zoom _ fun _ => rfl) kept fun channel middle ran => ?_
  obtain ⟨channels, created, rfl⟩ := Eff.exec_zoom_eq_ok.mp ran
  obtain ⟨rfl, organization, ofSpace, rfl⟩ := ChannelService.create_ok created
  obtain ⟨space, _, stored, sameOrganization⟩ := keyed.storedSpace found
  refine publish_bind_writes (kept.tail (.channelCreated channel space new ?_ ?_))
    (.channel _ _ _ _ _ _ ?_) (ChannelController.tokens_event ..) channel
  · rw [ofSpace, stored]
  · rw [organization, sameOrganization]
  · intro other found
    rw [ChannelStore.withChannel, Option.mem_def, AList.lookup_insert] at found
    cases found
    exact ⟨rfl, rfl⟩

theorem enterChannel_ok {userId channelId : Uuid} {permission : Permission} {channel : Channel}
    {membership : SpaceMembership}
    (entered : state.enterChannel userId channelId permission = .ok (channel, membership))
    : state.channels.channelsById.lookup channelId = some channel
        ∧ state.spaceForUser userId channel.spaceId = .ok membership
        ∧ PermissionService.canInChannel state.permissions userId membership channel permission
          = true := by
  obtain ⟨other, stored, entered⟩ := Eff.check_bind_eq_ok.mp entered
  obtain ⟨space, visible, entered⟩ := Eff.check_bind_eq_ok.mp entered
  obtain ⟨_, required, entered⟩ := Eff.check_bind_eq_ok.mp entered
  cases entered
  refine ⟨channel_eq_ok.mp stored, visible, ?_⟩
  rw [AppState.requireChannel, PermissionService.requireChannel] at required
  split at required
  · assumption
  · cases required

theorem updateChannel_writes (keyed : state.Keyed) (stamp : EventStamp) (token : String)
    (channelId : Uuid) (patch : ChannelPatch)
    : Writes may state
        ((ChannelController.update crypto stamp token channelId patch).after state) := by
  have kept : Writes may state state := .refl
  unfold ChannelController.update
  rw [Eff.after_get_bind]
  refine Eff.after_check_bind kept fun user _ => ?_
  refine Eff.after_check_bind kept fun entry entered => ?_
  obtain ⟨existing, membership⟩ := entry
  have atomic := ChannelService.update_atomic existing patch
  refine Eff.after_atomic_bind (atomic.zoom _ fun _ => rfl) kept fun channel middle ran => ?_
  obtain ⟨channels, updated, rfl⟩ := Eff.exec_zoom_eq_ok.mp ran
  obtain ⟨same, byId⟩ := ChannelService.update_ok updated
  have stored := (enterChannel_ok entered).1
  have sameId := keyed.channels channelId existing stored
  refine publish_bind_writes (kept.tail (.channelUpdated channels channel existing ?_ same byId))
    (.channel _ _ _ _ _ _ ?_) (ChannelController.tokens_event ..) channel
  · rw [same.id, sameId, stored]
  · intro other found
    rw [byId, Option.mem_def, AList.lookup_insert] at found
    cases found
    exact ⟨rfl, rfl⟩

theorem deleteChannel_writes (stamp : EventStamp) (token : String) (channelId : Uuid)
    : Writes may state
        ((ChannelController.delete crypto stamp token channelId).after state) := by
  have kept : Writes may state state := .refl
  unfold ChannelController.delete
  rw [Eff.after_get_bind]
  refine Eff.after_check_bind kept fun user _ => ?_
  refine Eff.after_check_bind kept fun entry entered => ?_
  obtain ⟨existing, membership⟩ := entry
  have atomic := ChannelService.delete_atomic existing
  refine Eff.after_atomic_bind (atomic.zoom _ fun _ => rfl) kept fun deleted middle ran => ?_
  obtain ⟨channels, done, rfl⟩ := Eff.exec_zoom_eq_ok.mp ran
  obtain ⟨rfl, rfl⟩ := ChannelService.delete_ok done
  refine publish_writes (kept.tail (.channelArchived deleted.id)) (.channel _ _ _ _ _ _ ?_)
    (ChannelController.tokens_event ..)
  intro other found
  rw [Option.mem_def, AList.lookup_erase] at found
  cases found

/-- A stored channel is located where it is. -/
theorem AppState.Keyed.locates (keyed : state.Keyed) {channelId : Uuid} {channel : Channel}
    (stored : state.channels.channelsById.lookup channelId = some channel)
    : state.Locates channel.organizationId channel.spaceId channel.id := by
  intro other found
  rw [keyed.channels channelId channel stored, Option.mem_def, stored] at found
  cases found
  exact ⟨rfl, rfl⟩

theorem setChannelOverride_writes (keyed : state.Keyed) (stamp : EventStamp)
    (token : String) (channelId : Uuid) (request : SetChannelPermissionOverrideRequest)
    : Writes may state
        ((PermissionController.setChannelOverride crypto stamp token channelId request).after
          state) := by
  have kept : Writes may state state := .refl
  unfold PermissionController.setChannelOverride
  rw [Eff.after_get_bind]
  refine Eff.after_check_bind kept fun user _ => ?_
  refine Eff.after_check_bind kept fun entry entered => ?_
  obtain ⟨channel, membership⟩ := entry
  refine Eff.after_check_bind kept fun targetKind _ => ?_
  refine Eff.after_check_bind kept fun targetId _ => ?_
  have located := keyed.locates (enterChannel_ok entered).1
  have written : ∀ permissions, Writes may state { state with permissions := permissions } :=
    fun _ => kept.elsewhere rfl rfl rfl rfl
  refine Eff.after_zoom_bind written fun permissionOverride permissions _ => ?_
  have writes := written permissions
  split
  · next event revoked =>
      rw [PermissionController.mediaPermissionRevocation] at revoked
      dsimp only at revoked
      split at revoked
      · cases revoked
        refine publish_bind_writes writes (.channel _ _ _ _ _ _ located) ?_ permissionOverride
        simp [RealtimeEvent.channel]
      · cases revoked
  · exact writes

theorem publishTyping_writes (keyed : state.Keyed) (stamp : EventStamp) (userId : Uuid)
    (channelId : Option String) (activity : TypingActivity)
    : Writes may state
        ((RealtimeController.publishTyping stamp userId channelId activity).after state) := by
  have kept : Writes may state state := .refl
  unfold RealtimeController.publishTyping
  rw [Eff.after_get_bind]
  split
  · exact kept
  · split
    · exact kept
    · next channel membership entered =>
        refine publish_writes kept
          (.channel _ _ _ _ _ _ (keyed.locates (enterChannel_ok entered).1)) ?_
        simp [RealtimeEvent.channel]

-----------------------------------------------------------------------------------------
-- Commands and interactions
-----------------------------------------------------------------------------------------

theorem onCommands_writes {α : Type} (writes : Writes may start state)
    (action : Eff CommandStore CommandError α)
    : Writes may start ((Handler.onCommands action).after state) :=
  writes.elsewhere rfl rfl rfl rfl

theorem createCompatSpaceCommand_writes (commandId : Uuid) (now botToken : String)
    (applicationId spaceId : Uuid) (request : CreateCompatApplicationCommandRequest)
    : Writes may state
        ((CommandController.createCompatSpaceCommand crypto commandId now botToken
          applicationId spaceId request).after state) := by
  have kept : Writes may state state := .refl
  unfold CommandController.createCompatSpaceCommand
  rw [Eff.after_get_bind]
  refine Eff.after_check_bind kept fun bot _ => ?_
  split
  · exact kept
  · refine Eff.after_check_bind kept fun space _ => ?_
    split
    · exact kept
    · exact onCommands_writes kept _

theorem createCompatGlobalCommand_writes (commandId : Uuid) (now botToken : String)
    (applicationId : Uuid) (request : CreateCompatApplicationCommandRequest)
    : Writes may state
        ((CommandController.createCompatGlobalCommand crypto commandId now botToken
          applicationId request).after state) := by
  have kept : Writes may state state := .refl
  unfold CommandController.createCompatGlobalCommand
  rw [Eff.after_get_bind]
  refine Eff.after_check_bind kept fun bot _ => ?_
  split
  · exact kept
  · exact onCommands_writes kept _

/-- A new interaction is stored and an event tells of it, which shows its new token. -/
theorem interaction_writes (keyed : state.Keyed) {channelId : Uuid} {channel : Channel}
    (stored : state.channels.channelsById.lookup channelId = some channel)
    {stamp : EventStamp} {drawn : DrawnInteraction} (newToken : state.NewToken drawn.token)
    {action : Eff CommandStore CommandError CommandInteractionCreated}
    (draws : ∀ store created last, action.exec store = (.ok created, last) →
      created.token = drawn.token)
    (about : String × PlainJson)
    : Writes may state
        ((do
            let created ← Handler.onCommands action
            Handler.publish
              (CommandController.interactionCreated stamp channel created about)
            return created : Handler CommandInteractionCreated).after state) := by
  have kept : Writes may state state := .refl
  have written : ∀ commands, Writes may state { state with commands := commands } :=
    fun _ => kept.elsewhere rfl rfl rfl rfl
  refine Eff.after_zoom_bind written fun created commands done => ?_
  have locates := keyed.locates stored
  refine (written commands).tail (.published _ (.channel _ _ _ _ _ _ locates) ⟨?_, ?_⟩)
  · intro differs
    exact absurd rfl differs
  · intro token shown
    rw [CommandController.tokens_interactionCreated, List.mem_singleton,
      draws _ _ _ done] at shown
    rw [shown]
    exact newToken

theorem createChannelInteraction_writes (keyed : state.Keyed) (stamp : EventStamp)
    {drawn : DrawnInteraction} (newToken : state.NewToken drawn.token) (token : String)
    (channelId : Uuid) (request : CreateCommandInteractionRequest)
    : Writes may state
        ((CommandController.createChannelInteraction crypto stamp drawn token channelId
          request).after state) := by
  have kept : Writes may state state := .refl
  unfold CommandController.createChannelInteraction
  rw [Eff.after_get_bind]
  refine Eff.after_check_bind kept fun user _ => ?_
  refine Eff.after_check_bind kept fun entry entered => ?_
  obtain ⟨channel, membership⟩ := entry
  refine Eff.after_check_bind kept fun command _ => ?_
  exact interaction_writes keyed (enterChannel_ok entered).1 newToken
    (fun _ _ _ done => (CommandService.createInteraction_ok done).1) _

theorem createComponentInteraction_writes (keyed : state.Keyed) (stamp : EventStamp)
    {drawn : DrawnInteraction} (newToken : state.NewToken drawn.token) (token : String)
    (channelId : Uuid) (request : CreateComponentInteractionRequest)
    : Writes may state
        ((CommandController.createComponentInteraction crypto stamp drawn token channelId
          request).after state) := by
  have kept : Writes may state state := .refl
  unfold CommandController.createComponentInteraction
  rw [Eff.after_get_bind]
  refine Eff.after_check_bind kept fun user _ => ?_
  refine Eff.after_check_bind kept fun entry entered => ?_
  obtain ⟨channel, membership⟩ := entry
  refine Eff.after_check_bind kept fun message _ => ?_
  split
  · exact kept
  · refine Eff.after_check_bind kept fun componentType _ => ?_
    refine Eff.after_check_bind kept fun application _ => ?_
    exact interaction_writes keyed (enterChannel_ok entered).1 newToken
      (fun _ _ _ done => (CommandService.createComponentInteraction_ok done).1) _

-----------------------------------------------------------------------------------------
-- Requests that write elsewhere
-----------------------------------------------------------------------------------------

theorem configureOidcProvider_writes (token : String) (input : ConfigureOidcProviderInput)
    : Writes may state
        ((OrganizationController.configureOidcProvider crypto token input).after state) := by
  have kept : Writes may state state := .refl
  unfold OrganizationController.configureOidcProvider
  rw [Eff.after_get_bind]
  refine Eff.after_check_bind kept fun user _ => ?_
  refine Eff.after_check_bind kept fun _ _ => ?_
  exact onAuth_writes kept _

theorem updatePlan_writes (organizationId : Uuid) (plan : String)
    : Writes may state
        ((Handler.onOrganizations
          (OrganizationStore.updatePlan organizationId plan)).after state) := by
  have kept : Writes may state state := .refl
  have atomic := OrganizationStore.updatePlan_atomic organizationId plan
  refine Eff.after_atomic (atomic.zoom _ fun _ => rfl) kept fun _ last ran => ?_
  obtain ⟨organizations, updated, rfl⟩ := Eff.exec_zoom_eq_ok.mp ran
  exact kept.elsewhere (OrganizationStore.updatePlan_ok updated) rfl rfl rfl

theorem rotateScimToken_writes (token : String) (organizationId : Uuid) (scimToken : String)
    : Writes may state
        ((ScimController.rotateToken crypto token organizationId scimToken).after state) := by
  have kept : Writes may state state := .refl
  unfold ScimController.rotateToken
  rw [Eff.after_get_bind]
  refine Eff.after_check_bind kept fun user _ => ?_
  refine Eff.after_check_bind kept fun _ _ => ?_
  exact onScim_writes kept _

theorem createRole_writes (roleId : Uuid) (token : String) (spaceId : Uuid)
    (request : CreateRoleRequest)
    : Writes may state
        ((PermissionController.createRole crypto roleId token spaceId request).after state) := by
  have kept : Writes may state state := .refl
  unfold PermissionController.createRole
  rw [Eff.after_get_bind]
  refine Eff.after_check_bind kept fun user _ => ?_
  refine Eff.after_check_bind kept fun membership _ => ?_
  refine Eff.after_check_bind kept fun _ _ => ?_
  exact onPermissions_writes kept _

theorem assignRole_writes (token : String) (spaceId roleId : Uuid) (userId : String)
    : Writes may state
        ((PermissionController.assignRole crypto token spaceId roleId userId).after state) := by
  have kept : Writes may state state := .refl
  unfold PermissionController.assignRole
  rw [Eff.after_get_bind]
  refine Eff.after_check_bind kept fun user _ => ?_
  refine Eff.after_check_bind kept fun membership _ => ?_
  refine Eff.after_check_bind kept fun _ _ => ?_
  refine Eff.after_check_bind kept fun userId _ => ?_
  refine Eff.after_check_bind kept fun _ _ => ?_
  exact onPermissions_writes kept _

theorem createApplication_writes (applicationId botUserId tokenId : Uuid)
    (botToken token : String) (organizationId : Uuid) (name : String)
    (description : Option String)
    : Writes may state
        ((BotController.createApplication crypto applicationId botUserId tokenId botToken token
          organizationId name description).after state) := by
  have kept : Writes may state state := .refl
  unfold BotController.createApplication
  rw [Eff.after_get_bind]
  refine Eff.after_check_bind kept fun user _ => ?_
  refine Eff.after_check_bind kept fun _ _ => ?_
  refine Eff.after_check_bind kept fun name _ => ?_
  refine Eff.after_check_bind kept fun description _ => ?_
  have created (user : StoredUser) : Writes may state
      ((Eff.zoom AppState.auth (fun state auth => { state with auth := auth })
        (fun error => ApiError.bot (.ofAuth error)) (AuthStore.createUser user)).after state) :=
    kept.elsewhere rfl rfl rfl rfl
  refine Eff.after_bind_of_after (created _) fun _ => ?_
  exact Eff.after_bind_of_after (onBots_writes (created _) _) fun _ =>
    onBots_writes (created _) _

-----------------------------------------------------------------------------------------
-- Every request
-----------------------------------------------------------------------------------------

/-- Every request is a chain of writes, and the membership rows among them are those that
the request is about.
-/
theorem AppRequest.perform_writes (keyed : state.Keyed) (request : AppRequest)
    (admissible : request.Admissible state)
    (admits : ∀ write ∈ request.admission crypto state, may state.spaces write)
    (provisions : ∀ write ∈ request.scimWrite crypto state, may state.spaces write)
    : Writes may state (request.perform crypto state) := by
  have kept : Writes may state state := .refl
  cases request with
  | register | login | logout | createUser => exact onAuth_writes kept _
  | configureOidcProvider token input => exact configureOidcProvider_writes token input
  | oidcCallback iteration generated assertion =>
      exact oidcCallback_writes iteration generated assertion admits
  | createOrganization organizationId token name =>
      exact createOrganization_writes admissible token name
  | provisionTenant organizationId token name plan deploymentMode primaryRegion =>
      exact provisionTenant_writes admissible token name plan deploymentMode primaryRegion
  | updatePlan organizationId plan => exact updatePlan_writes organizationId plan
  | rotateScimToken token organizationId scimToken =>
      exact rotateScimToken_writes token organizationId scimToken
  | scimCreateUser userId scimUserId token request =>
      refine provisionUser_writes userId scimUserId token request fun checked passed => ?_
      refine provisions ⟨checked.organizationId,
        (ScimService.provisionedUser crypto state userId checked).id, statusFor request.active⟩ ?_
      simp only [scimWrite, passed, Except.toOption, bind, pure, Option.bind, Option.mem_def]
  | scimPatchUser token externalId operations =>
      exact patchUser_writes token externalId operations provisions
  | createSpace spaceId token organizationId name => exact createSpace_writes admissible token name
  | updateSpace stamp token spaceId patch =>
      exact updateSpace_writes keyed stamp token spaceId patch
  | deleteSpace stamp token spaceId => exact deleteSpace_writes stamp token spaceId
  | addSpaceMember stamp joinedAt token spaceId request =>
      refine addSpaceMember_writes keyed stamp joinedAt token spaceId request
        fun space userId stored named => admits ⟨_, _, _⟩ ?_
      simp only [admission, stored, named, bind, pure, Option.bind, Option.mem_def]
  | removeSpaceMember stamp token spaceId userId =>
      exact removeSpaceMember_writes stamp token spaceId userId
  | createRole roleId token spaceId request => exact createRole_writes roleId token spaceId request
  | assignRole token spaceId roleId userId => exact assignRole_writes token spaceId roleId userId
  | setChannelOverride stamp token channelId request =>
      exact setChannelOverride_writes keyed stamp token channelId request
  | createChannel stamp channelId token spaceId request =>
      exact createChannel_writes keyed stamp admissible token spaceId request
  | updateChannel stamp token channelId patch =>
      exact updateChannel_writes keyed stamp token channelId patch
  | deleteChannel stamp token channelId => exact deleteChannel_writes stamp token channelId
  | createBotApplication => exact createApplication_writes ..
  | inviteBotToSpace stamp joinedAt token organizationId applicationId spaceId role =>
      refine inviteToSpace_writes keyed stamp joinedAt token organizationId applicationId spaceId
        role fun application stored => admits ⟨_, _, _⟩ ?_
      simp only [admission, stored, bind, pure, Option.bind, Option.mem_def]
  | createSpaceCommand commandId now botToken applicationId spaceId request =>
      exact createCompatSpaceCommand_writes commandId now botToken applicationId spaceId request
  | createGlobalCommand commandId now botToken applicationId request =>
      exact createCompatGlobalCommand_writes commandId now botToken applicationId request
  | createChannelInteraction stamp drawn token channelId request =>
      exact createChannelInteraction_writes keyed stamp admissible token channelId request
  | createComponentInteraction stamp drawn token channelId request =>
      exact createComponentInteraction_writes keyed stamp admissible token channelId request
  | typing stamp userId channelId activity =>
      exact publishTyping_writes keyed stamp userId channelId activity
  | storeMessage message => exact kept.elsewhere rfl rfl rfl rfl
  | channelActivity stamp eventType organizationId spaceId channelId data =>
      exact publish_writes kept (.channel _ _ _ _ _ _ admissible.2) data.plain

end OpenCord.Server

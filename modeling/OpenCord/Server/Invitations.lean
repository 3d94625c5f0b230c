import OpenCord.Library.Failures
import OpenCord.Server.Invariants

/-! Invitations into a space when they fail. The organization is joined before the role of the
invitation is read, so a role that the space refuses leaves the invited user in the
organization.
-/

namespace OpenCord.Server

open OpenCord.Library OpenCord.Platform OpenCord.Auth OpenCord.Tenancy OpenCord.Realtime

variable {crypto : Crypto} {state : AppState}

/-- Who belongs to the organizations and to the spaces, with role and status. -/
def AppState.memberships (state : AppState)
    : (Uuid → Uuid → Option StoredOrganizationMember)
      × (Uuid → Uuid → Option StoredSpaceMember) :=
  (state.organizations.member?, state.spaces.member?)

/-- The invitation passes all that is checked before anything is written: it invites this user
into this space.
-/
def AppState.Invites (crypto : Crypto) (state : AppState) (token : String) (spaceId : Uuid)
    (request : AddSpaceMemberRequest) (space : SpaceMembership) (userId : Uuid) : Prop :=
  ∃ user, state.userForToken crypto token = .ok user
    ∧ state.spaceForUser user.id spaceId = .ok space
    ∧ state.requireSpace user.id space .inviteMembers = .ok ()
    ∧ Uuid.parseStr request.userId = some userId

/-- The role of an invitation, as the space reads it. -/
def AddSpaceMemberRequest.wantedRole (request : AddSpaceMemberRequest) : String :=
  Text.toAsciiLowercase (Text.trim (request.role.getD "member"))

theorem parseUuid_eq_ok {value message : String} {id : Uuid}
    : parseUuid value message = .ok id ↔ Uuid.parseStr value = some id := by
  rw [parseUuid]
  cases Uuid.parseStr value <;> simp

/-- The roles that a space accepts for a member. -/
theorem normalizeMemberRole_eq_ok {role given : String}
    : SpaceService.normalizeMemberRole role = .ok given
      ↔ given = Text.toAsciiLowercase (Text.trim role) ∧ given ∈ ["member", "guest"] := by
  rw [SpaceService.normalizeMemberRole, Eff.mapError_eq_ok, oneOf]
  constructor
  · intro accepted
    split at accepted
    · next known =>
        have same := (Except.ok.inj accepted).symm
        exact ⟨same, same ▸ known⟩
    · cases accepted
  · rintro ⟨rfl, known⟩
    rw [if_pos known]

-----------------------------------------------------------------------------------------
-- The two memberships of an invitation
-----------------------------------------------------------------------------------------

/-- Joining an organization as an ordinary member, in a stored organization. -/
theorem exec_addMemberIfMissing {store : OrganizationStore} {organizationId : Uuid}
    (userId : Uuid) (stored : organizationId ∈ store.organizationsById)
    : (OrganizationService.addMemberIfMissing organizationId userId "member").exec store
        = (.ok (), store.withMember organizationId userId
            (store.joined ⟨organizationId, userId, "member", .active⟩)) := by
  have accepted : OrganizationService.normalizeMemberRole "member" = .ok "member" := by
    decide +kernel
  rw [OrganizationService.addMemberIfMissing, Eff.exec_check_bind, accepted]
  change (OrganizationStore.addMemberIfMissing _).exec store = _
  rw [OrganizationStore.addMemberIfMissing, Eff.exec_get_bind, if_pos stored]
  rfl

/-- Without the organization nobody can join it. -/
theorem exec_addMemberIfMissing_of_missing {store : OrganizationStore} {organizationId : Uuid}
    (userId : Uuid) (missing : organizationId ∉ store.organizationsById)
    : (OrganizationService.addMemberIfMissing organizationId userId "member").exec store
        = (.error .notFound, store) := by
  have accepted : OrganizationService.normalizeMemberRole "member" = .ok "member" := by
    decide +kernel
  rw [OrganizationService.addMemberIfMissing, Eff.exec_check_bind, accepted]
  change (OrganizationStore.addMemberIfMissing _).exec store = _
  rw [OrganizationStore.addMemberIfMissing, Eff.exec_get_bind, if_neg missing]
  rfl

/-- Joining an organization changes no row exactly if the user is an active member already. -/
theorem member?_joined_eq_iff {store : OrganizationStore} {organizationId userId : Uuid}
    {role : String}
    : (store.withMember organizationId userId
          (store.joined ⟨organizationId, userId, role, .active⟩)).member? = store.member?
      ↔ store.ActiveMember organizationId userId := by
  constructor
  · intro same
    have row := congrFun (congrFun same organizationId) userId
    rw [OrganizationStore.member?_withMember, if_pos rfl] at row
    exact ⟨_, row.symm, OrganizationStore.joined_status store rfl⟩
  · rintro ⟨member, found, active⟩
    funext organization user
    rw [OrganizationStore.member?_withMember]
    by_cases own : (organization, user) = (organizationId, userId)
    · cases own
      rw [if_pos rfl, OrganizationStore.joined, found]
      rcases member with ⟨_, _, _, _⟩
      cases active
      rfl
    · rw [if_neg own]

/-- Entering a stored space with an accepted role succeeds. -/
theorem exec_addMember {store : SpaceStore} {spaceId userId : Uuid} {space : StoredSpace}
    {role : String} (stored : store.spacesById.lookup spaceId = some space)
    (accepted : Text.toAsciiLowercase (Text.trim role) ∈ ["member", "guest"])
    : ∃ member next, (SpaceService.addMember spaceId userId role).exec store
        = (.ok member, next) := by
  rw [SpaceService.addMember, Eff.exec_check_bind,
    normalizeMemberRole_eq_ok.mpr ⟨rfl, accepted⟩]
  change ∃ member next, (SpaceStore.addMember _).exec store = (.ok member, next)
  rw [SpaceStore.addMember, Eff.exec_get_bind, stored]
  exact ⟨_, _, rfl⟩

/-- A role that spaces do not know is refused, and nothing is written. -/
theorem exec_addMember_of_refused {store : SpaceStore} {spaceId userId : Uuid} {role : String}
    (refused : Text.toAsciiLowercase (Text.trim role) ∉ ["member", "guest"])
    : ∃ error, (SpaceService.addMember spaceId userId role).exec store
        = (.error error, store) := by
  rw [SpaceService.addMember, Eff.exec_check_bind]
  split
  · next given accepted =>
      obtain ⟨rfl, known⟩ := normalizeMemberRole_eq_ok.mp accepted
      exact absurd known refused
  · exact ⟨_, rfl⟩

/-- Once its checks have passed, a failed invitation changes no membership exactly if the role
is accepted, the user is an active member of the organization already, or there is no such
organization.
-/
theorem traceless_invitation_iff {organizationId spaceId userId : Uuid} {space : StoredSpace}
    (stored : state.spaces.spacesById.lookup spaceId = some space) (role : String)
    (event : RealtimeEvent)
    : Eff.Traceless AppState.memberships
          (do
            Handler.onOrganizations
              (OrganizationService.addMemberIfMissing organizationId userId "member")
            let member ← Handler.onSpaces (SpaceService.addMember spaceId userId role)
            Handler.publish event
            return member : Handler SpaceMembership) state
      ↔ Text.toAsciiLowercase (Text.trim role) ∈ ["member", "guest"]
        ∨ state.organizations.ActiveMember organizationId userId
        ∨ organizationId ∉ state.organizations.organizationsById := by
  by_cases known : organizationId ∈ state.organizations.organizationsById
  case neg =>
    have absent := exec_addMemberIfMissing_of_missing userId known
    exact iff_of_true ((Eff.traceless_bind_iff_of_error (Eff.exec_zoom_of_error absent)).mpr rfl)
      (.inr (.inr known))
  let middle : AppState := { state with
    organizations := state.organizations.withMember organizationId userId
      (state.organizations.joined ⟨organizationId, userId, "member", .active⟩) }
  have joined : (Handler.onOrganizations
      (OrganizationService.addMemberIfMissing organizationId userId "member")).exec state
        = (.ok (), middle) :=
    Eff.exec_zoom_eq_ok.mpr ⟨_, exec_addMemberIfMissing userId known, rfl⟩
  by_cases accepted : Text.toAsciiLowercase (Text.trim role) ∈ ["member", "guest"]
  · obtain ⟨member, spaces, entered⟩ := @exec_addMember _ _ userId _ _ stored accepted
    refine iff_of_true ?_ (.inl accepted)
    have ended : (Handler.onSpaces (SpaceService.addMember spaceId userId role)).exec middle
        = (.ok member, { middle with spaces := spaces }) :=
      Eff.exec_zoom_eq_ok.mpr ⟨spaces, entered, rfl⟩
    exact Eff.traceless_of_ok (Eff.exec_bind_eq_ok.mpr
      ⟨_, _, joined, Eff.exec_bind_eq_ok.mpr ⟨_, _, ended, rfl⟩⟩)
  · obtain ⟨error, refused⟩ := @exec_addMember_of_refused state.spaces spaceId userId role accepted
    have failed : (Handler.onSpaces (SpaceService.addMember spaceId userId role)).exec middle
        = (.error (.space error), middle) :=
      Eff.exec_zoom_of_error refused
    rw [or_iff_right accepted, or_iff_left (not_not.mpr known), ← @member?_joined_eq_iff
      state.organizations organizationId userId "member"]
    refine (Eff.traceless_iff_of_error
      (?_ : _ = (Except.error (ApiError.space error), middle))).trans ?_
    · rw [Eff.exec_bind_of_ok joined, Eff.exec_bind, failed]
    · exact ⟨fun same => congrArg Prod.fst same, fun same => Prod.ext same rfl⟩

/-- A failed request to add a member to a space changes no membership exactly if, should it pass
its checks, it names a role of the space, or a user who is an active member of the organization
already, or the organization is not stored.
-/
theorem addSpaceMember_traceless_iff (keyed : state.Keyed) (stamp : EventStamp)
    (joinedAt token : String) (spaceId : Uuid) (request : AddSpaceMemberRequest)
    : (PermissionController.addSpaceMember crypto stamp joinedAt token spaceId
          request).Traceless AppState.memberships state
      ↔ ∀ space userId, state.Invites crypto token spaceId request space userId →
          request.wantedRole ∈ ["member", "guest"]
          ∨ state.organizations.ActiveMember space.organizationId userId
          ∨ space.organizationId ∉ state.organizations.organizationsById := by
  unfold PermissionController.addSpaceMember
  simp only [Eff.traceless_get_bind_iff, Eff.traceless_check_bind_iff, parseUuid_eq_ok]
  constructor
  · rintro traceless space userId ⟨user, signedIn, found, granted, named⟩
    obtain ⟨_, _, stored, _⟩ := keyed.storedSpace found
    exact (traceless_invitation_iff stored _ _).mp
      (traceless user signedIn space found () granted userId named)
  · intro unseen user signedIn space found _ granted userId named
    obtain ⟨_, _, stored, _⟩ := keyed.storedSpace found
    exact (traceless_invitation_iff stored _ _).mpr
      (unseen space userId ⟨user, signedIn, found, granted, named⟩)

namespace Acme

/-- Alice invites Mallory into Acme's space. -/
def inviteMallory (role : String) : Handler SpaceMembership :=
  PermissionController.addSpaceMember Acme.crypto (stamp 203) "2026-01-01T00:00:00.000Z"
    aliceToken main ⟨mallory.toString, some role⟩

end Acme

/-- An invitation as a guest leaves nothing behind if it fails. -/
theorem guestInvited_traceless
    : ∃ state, AppState.Reached Acme.crypto state
        ∧ (Acme.inviteMallory " Guest").Traceless AppState.memberships state := by
  have ends : (run (AppState.step Acme.crypto) .empty Acme.requests).isSome := by
    decide +kernel
  obtain ⟨state, reached⟩ := Option.isSome_iff_exists.mp ends
  have reached : AppState.Reached Acme.crypto state := ⟨_, reached⟩
  refine ⟨state, reached, (addSpaceMember_traceless_iff reached.keyed _ _ _ _ _).mpr ?_⟩
  intro space userId _
  exact .inl (by decide +kernel)

/-- An invitation with a role that spaces do not know fails, and leaves Mallory in the
organization.
-/
theorem mallory_joinsByFailing
    : ∃ state, AppState.Reached Acme.crypto state
        ∧ ¬ (Acme.inviteMallory "moderator").Traceless AppState.memberships state := by
  have facts : (run (AppState.step Acme.crypto) .empty Acme.requests).any fun state =>
      (state.organizations.member? Acme.id Acme.mallory).isNone
        ∧ ((Acme.inviteMallory "moderator").exec state).1.toOption.isNone
        ∧ (((Acme.inviteMallory "moderator").after state).organizations.member? Acme.id
            Acme.mallory).isSome := by
    decide +kernel
  obtain ⟨state, reached, facts⟩ := (Option.any_eq_true _ _).mp facts
  obtain ⟨outside, failed, inside⟩ := of_decide_eq_true facts
  refine ⟨state, ⟨_, reached⟩, fun traceless => ?_⟩
  rcases ended : (Acme.inviteMallory "moderator").exec state with ⟨error | member, last⟩
  · have same : last.organizations.member? = state.organizations.member? :=
      congrArg Prod.fst (traceless error last ended)
    rw [Eff.after, ended, same, Option.isNone_iff_eq_none.mp outside] at inside
    cases inside
  · rw [ended] at failed
    cases failed

end OpenCord.Server

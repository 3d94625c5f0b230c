import OpenCord.Server.Footprints
import OpenCord.Server.Invitations

/-! What requests write to the stores that decide who may do what, with what their controllers
have checked by then about the user who makes the request.
-/

namespace OpenCord.Tenancy

open OpenCord.Library OpenCord.Platform

namespace PermissionService

theorem createRole_atomic (roleId organizationId spaceId : Uuid) (name : String)
    (color : Option String) (position : Option Int) (permissions : List String)
    : (createRole roleId organizationId spaceId name color position permissions).Atomic := by
  refine .check_bind fun name => .check_bind fun color => .check_bind fun bits => ?_
  refine Eff.Atomic.map (.get_bind fun store => ?_) _
  dsimp only
  split
  · exact .throw _
  · exact .set _

/-- A created role has the permissions that it was asked for with. -/
theorem createRole_ok {roleId organizationId spaceId : Uuid} {name : String}
    {color : Option String} {position : Option Int} {permissions : List String} {role : Role}
    {store next : PermissionStore}
    (created : (createRole roleId organizationId spaceId name color position permissions).exec
      store = (.ok role, next))
    : role.id = roleId ∧ role.spaceId = spaceId
        ∧ parsePermissionList permissions = .ok role.permissionsBitset
        ∧ next = { store with
            roleIdBySpaceName := store.roleIdBySpaceName.insert
              (role.spaceId, Text.toAsciiLowercase role.name) role.id
            rolesById := store.rolesById.insert role.id role } := by
  obtain ⟨name, _, created⟩ := Eff.exec_check_bind_eq_ok.mp created
  obtain ⟨color, _, created⟩ := Eff.exec_check_bind_eq_ok.mp created
  obtain ⟨bits, named, created⟩ := Eff.exec_check_bind_eq_ok.mp created
  obtain ⟨_, middle, stored, created⟩ := Eff.exec_bind_eq_ok.mp created
  cases created
  rw [PermissionStore.createRole, Eff.exec_get_bind] at stored
  dsimp only at stored
  split at stored
  · cases stored
  · cases stored
    exact ⟨rfl, rfl, named, rfl⟩

theorem assignRole_atomic (spaceId roleId userId assignedByUserId : Uuid)
    : (assignRole spaceId roleId userId assignedByUserId).Atomic := by
  refine .get_bind fun store => ?_
  split
  · exact .throw _
  · refine Eff.Atomic.map (.get_bind fun store => ?_) _
    split
    · exact .set _
    · exact .throw _

/-- Only roles of the space are assigned in it. -/
theorem assignRole_ok {spaceId roleId userId assignedByUserId : Uuid}
    {assignment : RoleAssignment} {store next : PermissionStore}
    (assigned : (assignRole spaceId roleId userId assignedByUserId).exec store
      = (.ok assignment, next))
    : assignment = ⟨spaceId, roleId, userId, assignedByUserId⟩
        ∧ (∃ role, store.rolesById.lookup roleId = some role ∧ role.spaceId = spaceId)
        ∧ next = { store with
            assignmentsByRoleUser :=
              store.assignmentsByRoleUser.insert (roleId, userId) assignment } := by
  rw [assignRole, Eff.exec_get_bind] at assigned
  split at assigned
  · cases assigned
  · next found =>
      obtain ⟨_, middle, stored, answered⟩ := Eff.exec_bind_eq_ok.mp assigned
      cases answered
      rw [PermissionStore.assignRole, Eff.exec_get_bind] at stored
      split at stored
      · cases stored
        rw [Option.isNone_iff_eq_none] at found
        obtain ⟨role, selected⟩ := Option.ne_none_iff_exists'.mp found
        obtain ⟨known, ofSpace⟩ := Option.filter_eq_some_iff.mp selected
        exact ⟨rfl, ⟨role, known, of_decide_eq_true ofSpace⟩, rfl⟩
      · cases stored

theorem setChannelOverride_atomic (channelId : Uuid) (targetKind : PermissionTargetKind)
    (targetId : Uuid) (allow deny : List String)
    : (setChannelOverride channelId targetKind targetId allow deny).Atomic :=
  .check_bind fun _ => .check_bind fun _ => (Eff.Atomic.writes _).map _

/-- A stored override allows the permissions that it was asked for with. -/
theorem setChannelOverride_ok {channelId : Uuid} {targetKind : PermissionTargetKind}
    {targetId : Uuid} {allow deny : List String}
    {permissionOverride : ChannelPermissionOverride} {store next : PermissionStore}
    (written : (setChannelOverride channelId targetKind targetId allow deny).exec store
      = (.ok permissionOverride, next))
    : permissionOverride.channelId = channelId ∧ permissionOverride.targetKind = targetKind
        ∧ permissionOverride.targetId = targetId
        ∧ parsePermissionList allow = .ok permissionOverride.allowBitset
        ∧ next = { store with
            overridesByTarget := store.overridesByTarget.insert
              (permissionOverride.channelId, permissionOverride.targetKind,
                permissionOverride.targetId)
              permissionOverride } := by
  obtain ⟨allowBits, allowed, written⟩ := Eff.exec_check_bind_eq_ok.mp written
  obtain ⟨denyBits, denied, written⟩ := Eff.exec_check_bind_eq_ok.mp written
  cases written
  exact ⟨rfl, rfl, rfl, allowed, rfl⟩

end PermissionService

end OpenCord.Tenancy

namespace OpenCord.Server

open OpenCord.Library OpenCord.Platform OpenCord.Auth OpenCord.Tenancy OpenCord.Bots
  OpenCord.Realtime

namespace AppState

/-- A member of a space has a permission in it. -/
def MayInSpace (state : AppState) (userId spaceId : Uuid) (permission : Permission) : Prop :=
  ∃ space, state.spaceForUser userId spaceId = .ok space
    ∧ state.requireSpace userId space permission = .ok ()

/-- A member of a space has a permission in one of its channels. -/
def MayInChannel (state : AppState) (userId spaceId channelId : Uuid) (permission : Permission)
    : Prop :=
  ∃ channel space, state.enterChannel userId channelId permission = .ok (channel, space)
    ∧ channel.spaceId = spaceId

/-- A member of a space administers the organization of the space. -/
def AdministersSpace (state : AppState) (userId spaceId : Uuid) : Prop :=
  ∃ space membership, state.spaceForUser userId spaceId = .ok space
    ∧ state.requireAdmin userId space.organizationId = .ok membership

end AppState

/-- The token of the user who makes a request about spaces, roles or channels. -/
def AppRequest.sessionToken : AppRequest → Option String
  | .createSpace _ token _ _ => some token
  | .updateSpace _ token _ _ => some token
  | .deleteSpace _ token _ => some token
  | .addSpaceMember _ _ token _ _ => some token
  | .removeSpaceMember _ token _ _ => some token
  | .createRole _ token _ _ => some token
  | .assignRole token _ _ _ => some token
  | .setChannelOverride _ token _ _ => some token
  | .createChannel _ _ token _ _ => some token
  | .updateChannel _ token _ _ => some token
  | .deleteChannel _ token _ => some token
  | .inviteBotToSpace _ _ token _ _ _ _ => some token
  | _ => none

/-- A request is made with a token of a user. -/
def AppRequest.MadeBy (crypto : Crypto) (state : AppState) (request : AppRequest)
    (userId : Uuid) : Prop :=
  ∃ token user, request.sessionToken = some token
    ∧ state.userForToken crypto token = .ok user ∧ user.id = userId

/-- The space and the user or bot that a request invites into it. -/
def AppRequest.invitee (state : AppState) : AppRequest → Option (Uuid × Uuid)
  | .addSpaceMember _ _ _ spaceId body =>
      (Uuid.parseStr body.userId).map fun userId => (spaceId, userId)
  | .inviteBotToSpace _ _ _ _ applicationId spaceId _ =>
      (state.bots.applications.lookup applicationId).map fun application =>
        (spaceId, application.botUserId)
  | _ => none

/-- What a request leaves of spaces, channels and permissions. A space has a new version or is
archived with `spaceWritten`, a channel with `channelWritten`.
-/
inductive AccessWrite (crypto : Crypto) (before : AppState) (request : AppRequest)
    (after : AppState) : Prop where
  | elsewhere (spaces : after.spaces = before.spaces)
      (channels : after.channels = before.channels)
      (permissions : after.permissions = before.permissions)
  | spaceCreated (userId : Uuid) (space : StoredSpace) (token name : String)
      (asked : request = .createSpace space.id token space.organizationId name)
      (made : request.MadeBy crypto before userId) (new : before.NewSpace space.id)
      (spaces : after.spaces
        = before.spaces.withSpace space ⟨space.id, userId, "owner", .active⟩)
      (channels : after.channels = before.channels)
      (permissions : after.permissions = before.permissions)
  | spaceWritten (userId spaceId : Uuid) (made : request.MadeBy crypto before userId)
      (may : before.MayInSpace userId spaceId .manageSpace)
      (members : after.spaces.membersBySpaceUser = before.spaces.membersBySpaceUser)
      (others : ∀ other ≠ spaceId,
        after.spaces.spacesById.lookup other = before.spaces.spacesById.lookup other)
      (channels : after.channels = before.channels)
      (permissions : after.permissions = before.permissions)
  | memberInvited (userId spaceId memberId : Uuid) (role : String)
      (made : request.MadeBy crypto before userId)
      (may : before.MayInSpace userId spaceId .inviteMembers
        ∨ before.AdministersSpace userId spaceId)
      (invited : request.invitee before = some (spaceId, memberId))
      (given : role ∈ ["member", "guest"])
      (spaces : after.spaces = before.spaces.withMember spaceId memberId
        (before.spaces.joined ⟨spaceId, memberId, role, .active⟩))
      (channels : after.channels = before.channels)
      (permissions : after.permissions = before.permissions)
  | memberRemoved (userId spaceId memberId : Uuid) (row : StoredSpaceMember)
      (made : request.MadeBy crypto before userId)
      (may : before.MayInSpace userId spaceId .manageSpace)
      (stored : before.spaces.member? spaceId memberId = some row)
      (spaces : after.spaces
        = before.spaces.withMember spaceId memberId { row with status := .inactive })
      (channels : after.channels = before.channels)
      (permissions : after.permissions = before.permissions)
      (asked : ∃ stamp token, request = .removeSpaceMember stamp token spaceId memberId)
  | channelCreated (userId : Uuid) (channel : Channel)
      (made : request.MadeBy crypto before userId)
      (may : before.MayInSpace userId channel.spaceId .manageChannels)
      (new : before.NewChannel channel.id) (spaces : after.spaces = before.spaces)
      (channels : after.channels = before.channels.withChannel channel)
      (permissions : after.permissions = before.permissions)
      (asked : ∃ stamp token body,
        request = .createChannel stamp channel.id token channel.spaceId body)
  | channelWritten (userId : Uuid) (channel : Channel)
      (made : request.MadeBy crypto before userId)
      (may : before.MayInChannel userId channel.spaceId channel.id .manageChannels)
      (stored : before.channels.channelsById.lookup channel.id = some channel)
      (spaces : after.spaces = before.spaces)
      (version : ∀ next, after.channels.channelsById.lookup channel.id = some next →
        channel.SamePlace next)
      (others : ∀ other ≠ channel.id,
        after.channels.channelsById.lookup other = before.channels.channelsById.lookup other)
      (permissions : after.permissions = before.permissions)
  | roleCreated (userId : Uuid) (role : Role) (token : String) (body : CreateRoleRequest)
      (asked : request = .createRole role.id token role.spaceId body)
      (made : request.MadeBy crypto before userId)
      (may : before.MayInSpace userId role.spaceId .manageRoles)
      (named : PermissionService.parsePermissionList body.permissions
        = .ok role.permissionsBitset)
      (spaces : after.spaces = before.spaces) (channels : after.channels = before.channels)
      (permissions : after.permissions = { before.permissions with
        roleIdBySpaceName := before.permissions.roleIdBySpaceName.insert
          (role.spaceId, Text.toAsciiLowercase role.name) role.id
        rolesById := before.permissions.rolesById.insert role.id role })
  | roleAssigned (userId : Uuid) (assignment : RoleAssignment) (role : Role)
      (token member : String)
      (asked : request = .assignRole token assignment.spaceId assignment.roleId member)
      (named : Uuid.parseStr member = some assignment.userId)
      (made : request.MadeBy crypto before userId)
      (assigned : assignment.assignedByUserId = userId)
      (may : before.MayInSpace userId assignment.spaceId .manageRoles)
      (known : before.permissions.rolesById.lookup assignment.roleId = some role)
      (ofSpace : role.spaceId = assignment.spaceId)
      (spaces : after.spaces = before.spaces) (channels : after.channels = before.channels)
      (permissions : after.permissions = { before.permissions with
        assignmentsByRoleUser := before.permissions.assignmentsByRoleUser.insert
          (assignment.roleId, assignment.userId) assignment })
  | overridden (userId : Uuid) (channel : Channel)
      (permissionOverride : ChannelPermissionOverride) (stamp : EventStamp) (token : String)
      (body : SetChannelPermissionOverrideRequest)
      (asked : request = .setChannelOverride stamp token channel.id body)
      (made : request.MadeBy crypto before userId)
      (may : before.MayInChannel userId channel.spaceId channel.id .manageChannels)
      (stored : before.channels.channelsById.lookup channel.id = some channel)
      (inChannel : permissionOverride.channelId = channel.id)
      (target : PermissionTargetKind.parse body.targetKind = .ok permissionOverride.targetKind
        ∧ Uuid.parseStr body.targetId = some permissionOverride.targetId)
      (named : PermissionService.parsePermissionList body.allow
        = .ok permissionOverride.allowBitset)
      (spaces : after.spaces = before.spaces) (channels : after.channels = before.channels)
      (permissions : after.permissions = { before.permissions with
        overridesByTarget := before.permissions.overridesByTarget.insert
          (permissionOverride.channelId, permissionOverride.targetKind,
            permissionOverride.targetId)
          permissionOverride })

variable {crypto : Crypto} {state : AppState}

/-- The way into a channel, check by check. -/
theorem enterChannel_eq_ok {userId channelId : Uuid} {permission : Permission}
    {channel : Channel} {space : SpaceMembership}
    : state.enterChannel userId channelId permission = .ok (channel, space)
      ↔ state.channels.channelsById.lookup channelId = some channel
        ∧ state.spaceForUser userId channel.spaceId = .ok space
        ∧ PermissionService.canInChannel state.permissions userId space channel permission
          = true := by
  refine ⟨enterChannel_ok, fun ⟨stored, found, permitted⟩ => ?_⟩
  refine Eff.check_bind_eq_ok.mpr ⟨channel, channel_eq_ok.mpr stored, ?_⟩
  refine Eff.check_bind_eq_ok.mpr ⟨space, found, ?_⟩
  refine Eff.check_bind_eq_ok.mpr ⟨(), ?_, rfl⟩
  rw [AppState.requireChannel, PermissionService.requireChannel, if_pos permitted]
  rfl

/-- A member of the space of a stored channel enters it with the permission. -/
theorem isOk_enterChannel_iff {userId channelId : Uuid} {permission : Permission}
    {channel : Channel} {space : SpaceMembership}
    (stored : state.channels.channelsById.lookup channelId = some channel)
    (found : state.spaceForUser userId channel.spaceId = .ok space)
    : (state.enterChannel userId channelId permission).isOk
      ↔ PermissionService.canInChannel state.permissions userId space channel permission
        = true := by
  constructor
  · intro enters
    cases entered : state.enterChannel userId channelId permission with
    | error error =>
        rw [entered] at enters
        cases enters
    | ok entry =>
        obtain ⟨same, visible, permitted⟩ := enterChannel_ok entered
        rw [stored, Option.some.injEq] at same
        rw [← same, found, Except.ok.injEq] at visible
        rwa [same, visible]
  · intro permitted
    rw [enterChannel_eq_ok.mpr ⟨stored, found, permitted⟩]
    rfl

namespace AccessWrite

/-- A request that stays outside of the three stores. -/
theorem kept (request : AppRequest) : AccessWrite crypto state request state :=
  .elsewhere rfl rfl rfl

-----------------------------------------------------------------------------------------
-- Spaces
-----------------------------------------------------------------------------------------

theorem createSpace {spaceId : Uuid} (new : state.NewSpace spaceId) (token : String)
    (organizationId : Uuid) (name : String)
    : AccessWrite crypto state (.createSpace spaceId token organizationId name)
        ((SpaceController.create crypto spaceId token organizationId name).after state) := by
  unfold SpaceController.create
  rw [Eff.after_get_bind]
  refine Eff.after_check_bind (kept _) fun user known => ?_
  refine Eff.after_check_bind (kept _) fun membership _ => ?_
  have atomic := SpaceService.create_atomic spaceId user.id organizationId name
  refine Eff.after_atomic (atomic.zoom _ fun _ => rfl) (kept _) fun _ last ran => ?_
  obtain ⟨spaces, created, rfl⟩ := Eff.exec_zoom_eq_ok.mp ran
  obtain ⟨space, rfl, rfl, _, rfl⟩ := SpaceService.create_ok created
  exact .spaceCreated user.id space token name rfl ⟨token, user, rfl, known, rfl⟩ new rfl rfl rfl

theorem updateSpace (keyed : state.Keyed) (stamp : EventStamp) (token : String)
    (spaceId : Uuid) (patch : SpacePatch)
    : AccessWrite crypto state (.updateSpace stamp token spaceId patch)
        ((SpaceController.update crypto stamp token spaceId patch).after state) := by
  unfold SpaceController.update
  rw [Eff.after_get_bind]
  refine Eff.after_check_bind (kept _) fun user known => ?_
  refine Eff.after_check_bind (kept _) fun existing found => ?_
  refine Eff.after_check_bind (kept _) fun _ allowed => ?_
  have atomic := SpaceService.update_atomic existing patch
  refine Eff.after_atomic_bind (atomic.zoom _ fun _ => rfl) (kept _) fun updated middle ran => ?_
  obtain ⟨spaces, done, rfl⟩ := Eff.exec_zoom_eq_ok.mp ran
  obtain ⟨sameId, _, done⟩ := SpaceService.update_ok done
  obtain ⟨_, members, previous, _, byId⟩ := SpaceStore.updateSpace_ok done
  obtain ⟨_, own, _⟩ := keyed.storedSpace found
  refine .spaceWritten user.id spaceId ⟨token, user, rfl, known, rfl⟩
    ⟨existing, found, allowed⟩ members (fun other differs => ?_) rfl rfl
  show spaces.spacesById.lookup other = _
  rw [byId, AList.lookup_insert_ne fun same => differs (by rw [same, sameId, own])]

theorem deleteSpace (keyed : state.Keyed) (stamp : EventStamp) (token : String)
    (spaceId : Uuid)
    : AccessWrite crypto state (.deleteSpace stamp token spaceId)
        ((SpaceController.delete crypto stamp token spaceId).after state) := by
  unfold SpaceController.delete
  rw [Eff.after_get_bind]
  refine Eff.after_check_bind (kept _) fun user known => ?_
  refine Eff.after_check_bind (kept _) fun existing found => ?_
  refine Eff.after_check_bind (kept _) fun _ allowed => ?_
  refine Eff.after_check_bind (kept _) fun memberUserIds _ => ?_
  have atomic := SpaceService.delete_atomic existing
  refine Eff.after_atomic_bind (atomic.zoom _ fun _ => rfl) (kept _) fun deleted middle ran => ?_
  obtain ⟨spaces, done, rfl⟩ := Eff.exec_zoom_eq_ok.mp ran
  obtain ⟨rfl, rfl⟩ := SpaceService.delete_ok done
  obtain ⟨_, own, _⟩ := keyed.storedSpace found
  refine .spaceWritten user.id spaceId ⟨token, user, rfl, known, rfl⟩
    ⟨deleted, found, allowed⟩ rfl (fun other differs => ?_) rfl rfl
  exact AList.lookup_erase_ne fun same => differs (same.trans own)

-----------------------------------------------------------------------------------------
-- Members
-----------------------------------------------------------------------------------------

/-- An invitation gives the role of a member or of a guest. -/
theorem addMember_ok {spaceId userId : Uuid} {asked : String} {membership : SpaceMembership}
    {store next : SpaceStore}
    (added : (SpaceService.addMember spaceId userId asked).exec store = (.ok membership, next))
    : ∃ role ∈ ["member", "guest"], next
        = store.withMember spaceId userId (store.joined ⟨spaceId, userId, role, .active⟩) := by
  obtain ⟨role, normalized, added⟩ := Eff.exec_check_bind_eq_ok.mp added
  obtain ⟨_, _, same⟩ := SpaceStore.addMember_ok added
  exact ⟨role, (normalizeMemberRole_eq_ok.mp normalized).2, same⟩

theorem lookup_of_applicationForOrganization {store : BotStore}
    {applicationId organizationId : Uuid} {application : BotApplication}
    (selected : BotService.applicationForOrganization store applicationId organizationId
      = .ok application)
    : store.applications.lookup applicationId = some application := by
  rw [BotService.applicationForOrganization] at selected
  cases stored : store.applications.lookup applicationId with
  | none => simp [BotService.ownedBy, stored] at selected
  | some other =>
      rw [stored, BotService.ownedBy] at selected
      split at selected
      · exact congrArg some (Except.ok.inj selected)
      · cases selected

/-- A user joins an organization and one of its spaces at the request of another user. -/
theorem invitation {request : AppRequest} {userId spaceId memberId : Uuid}
    (made : request.MadeBy crypto state userId)
    (may : state.MayInSpace userId spaceId .inviteMembers
      ∨ state.AdministersSpace userId spaceId)
    (invited : request.invitee state = some (spaceId, memberId))
    (organizationId : Uuid) (role : String) (event : RealtimeEvent)
    : AccessWrite crypto state request
        ((do
            Handler.onOrganizations
              (OrganizationService.addMemberIfMissing organizationId memberId "member")
            let member ← Handler.onSpaces (SpaceService.addMember spaceId memberId role)
            Handler.publish event
            return member : Handler SpaceMembership).after state) := by
  have joined (organizations : OrganizationStore) : AccessWrite crypto state request
      { state with organizations := organizations } := .elsewhere rfl rfl rfl
  refine Eff.after_zoom_bind joined fun _ organizations _ => ?_
  have atomic := SpaceService.addMember_atomic spaceId memberId role
  refine Eff.after_atomic_bind (atomic.zoom _ fun _ => rfl) (joined _) fun member last ran => ?_
  obtain ⟨spaces, added, rfl⟩ := Eff.exec_zoom_eq_ok.mp ran
  obtain ⟨role, given, rfl⟩ := addMember_ok added
  exact .memberInvited userId spaceId memberId role made may invited given rfl rfl rfl

theorem addSpaceMember (keyed : state.Keyed) (stamp : EventStamp) (joinedAt token : String)
    (spaceId : Uuid) (body : AddSpaceMemberRequest)
    : AccessWrite crypto state (.addSpaceMember stamp joinedAt token spaceId body)
        ((PermissionController.addSpaceMember crypto stamp joinedAt token spaceId body).after
          state) := by
  unfold PermissionController.addSpaceMember
  rw [Eff.after_get_bind]
  refine Eff.after_check_bind (kept _) fun user known => ?_
  refine Eff.after_check_bind (kept _) fun space found => ?_
  refine Eff.after_check_bind (kept _) fun _ allowed => ?_
  refine Eff.after_check_bind (kept _) fun memberId named => ?_
  obtain ⟨_, rfl, _⟩ := keyed.storedSpace found
  have invited : (AppRequest.addSpaceMember stamp joinedAt token space.id body).invitee state
      = some (space.id, memberId) := by
    rw [AppRequest.invitee, parseUuid_eq_ok.mp named, Option.map_some]
  exact invitation ⟨token, user, rfl, known, rfl⟩ (.inl ⟨space, found, allowed⟩) invited _ _ _

theorem inviteBotToSpace (keyed : state.Keyed) (stamp : EventStamp) (joinedAt token : String)
    (organizationId applicationId spaceId : Uuid) (role : Option String)
    : AccessWrite crypto state
        (.inviteBotToSpace stamp joinedAt token organizationId applicationId spaceId role)
        ((BotController.inviteToSpace crypto stamp joinedAt token organizationId applicationId
          spaceId role).after state) := by
  unfold BotController.inviteToSpace
  rw [Eff.after_get_bind]
  refine Eff.after_check_bind (kept _) fun user known => ?_
  refine Eff.after_check_bind (kept _) fun membership admin => ?_
  refine Eff.after_check_bind (kept _) fun application selected => ?_
  refine Eff.after_check_bind (kept _) fun space found => ?_
  split
  · exact kept _
  · next own =>
      obtain rfl : space.organizationId = organizationId := not_not.mp own
      obtain ⟨_, rfl, _⟩ := keyed.storedSpace found
      have invited : (AppRequest.inviteBotToSpace stamp joinedAt token space.organizationId
          applicationId space.id role).invitee state = some (space.id, application.botUserId) := by
        rw [AppRequest.invitee,
          lookup_of_applicationForOrganization (Eff.mapError_eq_ok.mp selected), Option.map_some]
      exact invitation ⟨token, user, rfl, known, rfl⟩
        (.inr ⟨space, membership, found, admin⟩) invited _ _ _

theorem removeSpaceMember (keyed : state.Keyed) (stamp : EventStamp) (token : String)
    (spaceId memberId : Uuid)
    : AccessWrite crypto state (.removeSpaceMember stamp token spaceId memberId)
        ((PermissionController.removeSpaceMember crypto stamp token spaceId memberId).after
          state) := by
  unfold PermissionController.removeSpaceMember
  rw [Eff.after_get_bind]
  refine Eff.after_check_bind (kept _) fun user known => ?_
  refine Eff.after_check_bind (kept _) fun space found => ?_
  refine Eff.after_check_bind (kept _) fun _ allowed => ?_
  have atomic := SpaceService.removeMember_atomic space.id memberId
  refine Eff.after_atomic_bind (atomic.zoom _ fun _ => rfl) (kept _) fun removed last ran => ?_
  obtain ⟨spaces, done, rfl⟩ := Eff.exec_zoom_eq_ok.mp ran
  obtain ⟨row, stored, rfl⟩ := SpaceService.removeMember_ok done
  obtain ⟨_, rfl, _⟩ := keyed.storedSpace found
  exact .memberRemoved user.id space.id memberId row ⟨token, user, rfl, known, rfl⟩
    ⟨space, found, allowed⟩ stored rfl rfl rfl ⟨stamp, token, rfl⟩

-----------------------------------------------------------------------------------------
-- Channels
-----------------------------------------------------------------------------------------

/-- The way into a channel leads to the channel under its own identifier. -/
theorem mayInChannel_of_enterChannel (keyed : state.Keyed) {userId channelId : Uuid}
    {permission : Permission} {channel : Channel} {space : SpaceMembership}
    (entered : state.enterChannel userId channelId permission = .ok (channel, space))
    : channel.id = channelId
        ∧ state.MayInChannel userId channel.spaceId channel.id permission := by
  have same := keyed.channels channelId channel (enterChannel_ok entered).1
  exact ⟨same, channel, space, by rw [same, entered], rfl⟩

theorem createChannel (keyed : state.Keyed) (stamp : EventStamp) {channelId : Uuid}
    (new : state.NewChannel channelId) (token : String) (spaceId : Uuid)
    (body : CreateChannelRequest)
    : AccessWrite crypto state (.createChannel stamp channelId token spaceId body)
        ((ChannelController.create crypto stamp channelId token spaceId body).after state) := by
  unfold ChannelController.create
  rw [Eff.after_get_bind]
  refine Eff.after_check_bind (kept _) fun user known => ?_
  refine Eff.after_check_bind (kept _) fun space found => ?_
  refine Eff.after_check_bind (kept _) fun _ allowed => ?_
  have atomic := ChannelService.create_atomic channelId space.organizationId space.id body.kind
    body.name body.topic (body.isPrivate.getD false)
  refine Eff.after_atomic_bind (atomic.zoom _ fun _ => rfl) (kept _) fun channel middle ran => ?_
  obtain ⟨channels, created, rfl⟩ := Eff.exec_zoom_eq_ok.mp ran
  obtain ⟨rfl, _, ofSpace, rfl⟩ := ChannelService.create_ok created
  obtain ⟨_, rfl, _⟩ := keyed.storedSpace found
  refine .channelCreated user.id channel ⟨token, user, rfl, known, rfl⟩ ?_ new rfl rfl rfl
    ⟨stamp, token, body, by rw [ofSpace]⟩
  rw [ofSpace]
  exact ⟨space, found, allowed⟩

theorem updateChannel (keyed : state.Keyed) (stamp : EventStamp) (token : String)
    (channelId : Uuid) (patch : ChannelPatch)
    : AccessWrite crypto state (.updateChannel stamp token channelId patch)
        ((ChannelController.update crypto stamp token channelId patch).after state) := by
  unfold ChannelController.update
  rw [Eff.after_get_bind]
  refine Eff.after_check_bind (kept _) fun user known => ?_
  refine Eff.after_check_bind (kept _) fun (existing, space) entered => ?_
  have atomic := ChannelService.update_atomic existing patch
  refine Eff.after_atomic_bind (atomic.zoom _ fun _ => rfl) (kept _) fun channel middle ran => ?_
  obtain ⟨channels, updated, rfl⟩ := Eff.exec_zoom_eq_ok.mp ran
  obtain ⟨same, byId⟩ := ChannelService.update_ok updated
  obtain ⟨rfl, may⟩ := mayInChannel_of_enterChannel keyed entered
  refine .channelWritten user.id existing ⟨token, user, rfl, known, rfl⟩ may
    (enterChannel_ok entered).1 rfl (fun next found => ?_) (fun other differs => ?_) rfl
  · have written : channels.channelsById.lookup existing.id = some next := found
    rw [byId, same.id, AList.lookup_insert] at written
    cases written
    exact same
  · show channels.channelsById.lookup other = _
    rw [byId, same.id, AList.lookup_insert_ne differs]

theorem deleteChannel (keyed : state.Keyed) (stamp : EventStamp) (token : String)
    (channelId : Uuid)
    : AccessWrite crypto state (.deleteChannel stamp token channelId)
        ((ChannelController.delete crypto stamp token channelId).after state) := by
  unfold ChannelController.delete
  rw [Eff.after_get_bind]
  refine Eff.after_check_bind (kept _) fun user known => ?_
  refine Eff.after_check_bind (kept _) fun (existing, space) entered => ?_
  have atomic := ChannelService.delete_atomic existing
  refine Eff.after_atomic_bind (atomic.zoom _ fun _ => rfl) (kept _) fun channel middle ran => ?_
  obtain ⟨channels, deleted, rfl⟩ := Eff.exec_zoom_eq_ok.mp ran
  obtain ⟨rfl, rfl⟩ := ChannelService.delete_ok deleted
  obtain ⟨rfl, may⟩ := mayInChannel_of_enterChannel keyed entered
  refine .channelWritten user.id channel ⟨token, user, rfl, known, rfl⟩ may
    (enterChannel_ok entered).1 rfl (fun next found => ?_) (fun other differs => ?_) rfl
  · have erased : (state.channels.channelsById.erase channel.id).lookup channel.id = some next :=
      found
    rw [AList.lookup_erase] at erased
    cases erased
  · exact AList.lookup_erase_ne differs

-----------------------------------------------------------------------------------------
-- Roles and overrides
-----------------------------------------------------------------------------------------

theorem createRole (keyed : state.Keyed) (roleId : Uuid) (token : String) (spaceId : Uuid)
    (body : CreateRoleRequest)
    : AccessWrite crypto state (.createRole roleId token spaceId body)
        ((PermissionController.createRole crypto roleId token spaceId body).after state) := by
  unfold PermissionController.createRole
  rw [Eff.after_get_bind]
  refine Eff.after_check_bind (kept _) fun user known => ?_
  refine Eff.after_check_bind (kept _) fun space found => ?_
  refine Eff.after_check_bind (kept _) fun _ allowed => ?_
  obtain ⟨_, rfl, _⟩ := keyed.storedSpace found
  have atomic := PermissionService.createRole_atomic roleId space.organizationId space.id body.name
    body.color body.position body.permissions
  refine Eff.after_atomic (atomic.zoom _ fun _ => rfl) (kept _) fun role last ran => ?_
  obtain ⟨permissions, created, rfl⟩ := Eff.exec_zoom_eq_ok.mp ran
  obtain ⟨rfl, ofSpace, named, rfl⟩ := PermissionService.createRole_ok created
  rw [← ofSpace] at found ⊢
  exact .roleCreated user.id role token body rfl ⟨token, user, rfl, known, rfl⟩
    ⟨space, found, allowed⟩ named rfl rfl rfl

theorem assignRole (keyed : state.Keyed) (token : String) (spaceId roleId : Uuid)
    (memberId : String)
    : AccessWrite crypto state (.assignRole token spaceId roleId memberId)
        ((PermissionController.assignRole crypto token spaceId roleId memberId).after state) := by
  unfold PermissionController.assignRole
  rw [Eff.after_get_bind]
  refine Eff.after_check_bind (kept _) fun user known => ?_
  refine Eff.after_check_bind (kept _) fun space found => ?_
  refine Eff.after_check_bind (kept _) fun _ allowed => ?_
  refine Eff.after_check_bind (kept _) fun memberId named => ?_
  refine Eff.after_check_bind (kept _) fun _ _ => ?_
  obtain ⟨_, rfl, _⟩ := keyed.storedSpace found
  have atomic := PermissionService.assignRole_atomic space.id roleId memberId user.id
  refine Eff.after_atomic (atomic.zoom _ fun _ => rfl) (kept _) fun assignment last ran => ?_
  obtain ⟨permissions, assigned, rfl⟩ := Eff.exec_zoom_eq_ok.mp ran
  obtain ⟨rfl, ⟨role, stored, ofSpace⟩, rfl⟩ := PermissionService.assignRole_ok assigned
  exact .roleAssigned user.id ⟨space.id, roleId, memberId, user.id⟩ role token _ rfl
    (parseUuid_eq_ok.mp named) ⟨token, user, rfl, known, rfl⟩ rfl ⟨space, found, allowed⟩
    stored ofSpace rfl rfl rfl

theorem setChannelOverride (keyed : state.Keyed) (stamp : EventStamp) (token : String)
    (channelId : Uuid) (body : SetChannelPermissionOverrideRequest)
    : AccessWrite crypto state (.setChannelOverride stamp token channelId body)
        ((PermissionController.setChannelOverride crypto stamp token channelId body).after
          state) := by
  unfold PermissionController.setChannelOverride
  rw [Eff.after_get_bind]
  refine Eff.after_check_bind (kept _) fun user known => ?_
  refine Eff.after_check_bind (kept _) fun (channel, space) entered => ?_
  refine Eff.after_check_bind (kept _) fun targetKind kind => ?_
  refine Eff.after_check_bind (kept _) fun targetId target => ?_
  obtain ⟨rfl, may⟩ := mayInChannel_of_enterChannel keyed entered
  have atomic := PermissionService.setChannelOverride_atomic channel.id targetKind targetId
    body.allow body.deny
  refine Eff.after_atomic_bind (atomic.zoom _ fun _ => rfl) (kept _)
    fun permissionOverride middle ran => ?_
  obtain ⟨permissions, written, rfl⟩ := Eff.exec_zoom_eq_ok.mp ran
  obtain ⟨inChannel, rfl, rfl, named, rfl⟩ := PermissionService.setChannelOverride_ok written
  have made : (AppRequest.setChannelOverride stamp token channel.id body).MadeBy crypto state
      user.id := ⟨token, user, rfl, known, rfl⟩
  split <;> exact .overridden user.id channel permissionOverride stamp token body rfl made may
    (enterChannel_ok entered).1 inChannel ⟨Eff.mapError_eq_ok.mp kind, parseUuid_eq_ok.mp target⟩
    named rfl rfl rfl

end AccessWrite

-----------------------------------------------------------------------------------------
-- Requests
-----------------------------------------------------------------------------------------

/-- A request that writes none of the three stores leaves them. -/
theorem AppRequest.perform_elsewhere {request : AppRequest}
    (spaces : StatePart.spaces ∉ request.footprint)
    (channels : StatePart.channels ∉ request.footprint)
    (permissions : StatePart.permissions ∉ request.footprint)
    : AccessWrite crypto state request (request.perform crypto state) :=
  .elsewhere (perform_samePart spaces state) (perform_samePart channels state)
    (perform_samePart permissions state)

/-- By cases of the requests. -/
theorem AppRequest.perform_access (keyed : state.Keyed) {request : AppRequest}
    (admissible : request.Admissible state)
    : AccessWrite crypto state request (request.perform crypto state) := by
  cases request with
  | createSpace spaceId token organizationId name =>
      exact .createSpace admissible token organizationId name
  | updateSpace stamp token spaceId patch => exact .updateSpace keyed stamp token spaceId patch
  | deleteSpace stamp token spaceId => exact .deleteSpace keyed stamp token spaceId
  | addSpaceMember stamp joinedAt token spaceId body =>
      exact .addSpaceMember keyed stamp joinedAt token spaceId body
  | removeSpaceMember stamp token spaceId memberId =>
      exact .removeSpaceMember keyed stamp token spaceId memberId
  | createRole roleId token spaceId body => exact .createRole keyed roleId token spaceId body
  | assignRole token spaceId roleId memberId =>
      exact .assignRole keyed token spaceId roleId memberId
  | setChannelOverride stamp token channelId body =>
      exact .setChannelOverride keyed stamp token channelId body
  | createChannel stamp channelId token spaceId body =>
      exact .createChannel keyed stamp admissible token spaceId body
  | updateChannel stamp token channelId patch =>
      exact .updateChannel keyed stamp token channelId patch
  | deleteChannel stamp token channelId => exact .deleteChannel keyed stamp token channelId
  | inviteBotToSpace stamp joinedAt token organizationId applicationId spaceId role =>
      exact .inviteBotToSpace keyed stamp joinedAt token organizationId applicationId spaceId role
  | _ =>
      exact perform_elsewhere (by simp [footprint]) (by simp [footprint]) (by simp [footprint])

end OpenCord.Server

import OpenCord.Server.Escalation

/-! Where permissions come from. Whatever anyone may do in a channel has been given by requests of
users who were allowed to give it: who founded the space, who invited the member, who created and
assigned the role, or who wrote the override.
-/

namespace OpenCord.Tenancy

open OpenCord.Library OpenCord.Platform

/-- A bit stands for one permission. -/
theorem Permission.has_bit_iff {permission other : Permission}
    : PermissionBits.Has other.bit permission ↔ other = permission := by
  show (BitVec.ofNat 64 1 <<< other.position).getLsbD permission.position = true ↔ _
  rw [← BitVec.twoPow_eq, BitVec.getLsbD_twoPow]
  simp only [other.position_lt, decide_true, Bool.true_and, decide_eq_true_eq]
  cases other <;> cases permission <;> simp [position]

/-- The permissions of a list are those that its names are read as, by induction over the list. -/
theorem PermissionService.has_of_parsePermissionList {names : List String}
    {bits : PermissionBits} {permission : Permission}
    (named : parsePermissionList names = .ok bits) (has : bits.Has permission)
    : ∃ name ∈ names, Permission.parse name = .ok permission := by
  suffices fromBits : ∀ first : PermissionBits,
      names.foldlM (fun bitset name => do
        let permission ← Permission.parse name
        return bitset ||| permission.bit) first = .ok bits →
      first.Has permission ∨ ∃ name ∈ names, Permission.parse name = .ok permission by
    refine (fromBits 0 named).resolve_left ?_
    simp [PermissionBits.Has]
  clear named
  induction names with
  | nil =>
      intro first named
      cases named
      exact .inl has
  | cons name names ih =>
      intro first named
      obtain ⟨joined, added, named⟩ := Eff.check_bind_eq_ok.mp named
      obtain ⟨other, parsed, joins⟩ := Eff.check_bind_eq_ok.mp added
      cases joins
      rcases ih _ named with union | ⟨later, listed, read⟩
      · rw [PermissionBits.Has, BitVec.getLsbD_or, Bool.or_eq_true] at union
        refine union.imp_right fun inBit => ?_
        obtain rfl := Permission.has_bit_iff.mp inBit
        exact ⟨name, List.mem_cons_self, parsed⟩
      · exact .inr ⟨later, List.mem_cons_of_mem _ listed, read⟩

end OpenCord.Tenancy

namespace OpenCord.Server

open OpenCord.Library OpenCord.Platform OpenCord.Auth OpenCord.Tenancy OpenCord.Bots
  OpenCord.Realtime

/-- A user founds a space. -/
def Founds (crypto : Crypto) (userId spaceId : Uuid) (state : AppState) (request : AppRequest)
    : Prop :=
  request.MadeBy crypto state userId
    ∧ ∃ token organizationId name, request = .createSpace spaceId token organizationId name

/-- Someone who may invite members into a space, or who administers its organization as a member
of the space, invites a user or a bot into it.
-/
def Invites (crypto : Crypto) (memberId spaceId : Uuid) (state : AppState)
    (request : AppRequest) : Prop :=
  request.invitee state = some (spaceId, memberId)
    ∧ ∃ userId, request.MadeBy crypto state userId
      ∧ (state.MayInSpace userId spaceId .inviteMembers ∨ state.AdministersSpace userId spaceId)

/-- Someone who may manage the roles of a space creates one with a permission. -/
def CreatesRole (crypto : Crypto) (spaceId roleId : Uuid) (permission : Permission)
    (state : AppState) (request : AppRequest) : Prop :=
  ∃ userId token body, request = .createRole roleId token spaceId body
    ∧ request.MadeBy crypto state userId ∧ state.MayInSpace userId spaceId .manageRoles
    ∧ ∃ name ∈ body.permissions, Permission.parse name = .ok permission

/-- Someone who may manage the roles of a space assigns one of them. -/
def AssignsRole (crypto : Crypto) (spaceId roleId memberId : Uuid) (state : AppState)
    (request : AppRequest) : Prop :=
  ∃ userId token member, request = .assignRole token spaceId roleId member
    ∧ Uuid.parseStr member = some memberId ∧ request.MadeBy crypto state userId
    ∧ state.MayInSpace userId spaceId .manageRoles

/-- Someone who may manage a channel allows a permission in it to a member or to a role. -/
def AllowsInChannel (crypto : Crypto) (channelId : Uuid) (targetKind : PermissionTargetKind)
    (targetId : Uuid) (permission : Permission) (state : AppState) (request : AppRequest)
    : Prop :=
  ∃ userId entered stamp token body, request = .setChannelOverride stamp token channelId body
    ∧ PermissionTargetKind.parse body.targetKind = .ok targetKind
    ∧ Uuid.parseStr body.targetId = some targetId ∧ request.MadeBy crypto state userId
    ∧ state.enterChannel userId channelId .manageChannels = .ok entered
    ∧ ∃ name ∈ body.allow, Permission.parse name = .ok permission

variable {crypto : Crypto} {before after : AppState} {request : AppRequest}
  {userId spaceId channelId roleId targetId : Uuid} {permission : Permission}
  {targetKind : PermissionTargetKind}

-----------------------------------------------------------------------------------------
-- Members
-----------------------------------------------------------------------------------------

/-- What a request may do to the row of a member. -/
inductive RowWrite (crypto : Crypto) (before : AppState) (request : AppRequest)
    (after : AppState) (spaceId userId : Uuid) : Prop where
  | kept (same : after.spaces.member? spaceId userId = before.spaces.member? spaceId userId)
  | founded (row : StoredSpaceMember) (founds : Founds crypto userId spaceId before request)
      (admin : isAdminRole row.role = true)
      (stored : after.spaces.member? spaceId userId = some row)
  | invited (role : String) (invites : Invites crypto userId spaceId before request)
      (given : role ∈ ["member", "guest"])
      (row : after.spaces.member? spaceId userId
        = some (before.spaces.joined ⟨spaceId, userId, role, .active⟩))
  | removed (old : StoredSpaceMember)
      (stored : before.spaces.member? spaceId userId = some old)
      (row : after.spaces.member? spaceId userId = some { old with status := .inactive })

/-- By cases of the writes. -/
theorem AccessWrite.row (write : AccessWrite crypto before request after)
    (spaceId userId : Uuid)
    : RowWrite crypto before request after spaceId userId := by
  cases write with
  | elsewhere spaces => exact .kept (by rw [spaces])
  | spaceCreated founder space token name asked made new spaces =>
      by_cases same : (spaceId, userId) = (space.id, founder)
      · obtain ⟨rfl, rfl⟩ := Prod.mk.inj same
        refine .founded ⟨space.id, userId, "owner", .active⟩ ⟨made, token, _, name, asked⟩
          (decide_eq_true (.inl rfl)) ?_
        rw [spaces, SpaceStore.withSpace, SpaceStore.member?, AList.lookup_insert]
      · refine .kept ?_
        rw [spaces, SpaceStore.withSpace, SpaceStore.member?, AList.lookup_insert_ne same]
        rfl
  | spaceWritten other space made may members =>
      exact .kept (by rw [SpaceStore.member?, members, SpaceStore.member?])
  | memberInvited other space memberId role made may invited given spaces =>
      by_cases same : (spaceId, userId) = (space, memberId)
      · obtain ⟨rfl, rfl⟩ := Prod.mk.inj same
        refine .invited role ⟨invited, other, made, may⟩ given ?_
        rw [spaces, SpaceStore.member?_withMember, if_pos rfl]
      · exact .kept (by rw [spaces, SpaceStore.member?_withMember, if_neg same])
  | memberRemoved other space memberId row made may stored spaces =>
      by_cases same : (spaceId, userId) = (space, memberId)
      · obtain ⟨rfl, rfl⟩ := Prod.mk.inj same
        refine .removed row stored ?_
        rw [spaces, SpaceStore.member?_withMember, if_pos rfl]
      · exact .kept (by rw [spaces, SpaceStore.member?_withMember, if_neg same])
  | channelCreated other channel made may new spaces => exact .kept (by rw [spaces])
  | channelWritten other channel made may stored spaces => exact .kept (by rw [spaces])
  | roleCreated other role token body asked made may named spaces => exact .kept (by rw [spaces])
  | roleAssigned other assignment role token member asked named made assigned may known ofSpace
      spaces => exact .kept (by rw [spaces])
  | overridden other channel permissionOverride stamp token body asked made may stored inChannel
      target named spaces => exact .kept (by rw [spaces])

/-- A member is stored as an owner or an admin of a space. -/
def Administers (spaceId userId : Uuid) (state : AppState) : Prop :=
  ∃ row, state.spaces.member? spaceId userId = some row ∧ isAdminRole row.role = true

/-- A member takes part in a space without being an owner or an admin of it. -/
def TakesPart (spaceId userId : Uuid) (state : AppState) : Prop :=
  ∃ row, state.spaces.member? spaceId userId = some row ∧ row.status = .active
    ∧ isAdminRole row.role = false

/-- Only its founder becomes an owner or an admin of a space. -/
theorem RowWrite.admin (write : RowWrite crypto before request after spaceId userId)
    (there : Administers spaceId userId after)
    : Administers spaceId userId before ∨ Founds crypto userId spaceId before request := by
  obtain ⟨row, stored, admin⟩ := there
  cases write with
  | kept same => exact .inl ⟨row, same.symm.trans stored, admin⟩
  | founded own founds => exact .inr founds
  | invited role invites given written =>
      have ordinary : isAdminRole role = false := by
        rcases List.mem_pair.mp given with rfl | rfl <;> decide
      cases written.symm.trans stored
      rw [SpaceStore.joined] at admin
      split at admin
      · next old known =>
          dsimp only at admin
          split at admin
          · next owner => exact .inl ⟨old, known, admin⟩
          · rw [ordinary] at admin
            cases admin
      · rw [ordinary] at admin
        cases admin
  | removed old known written =>
      cases written.symm.trans stored
      exact .inl ⟨old, known, admin⟩

/-- The other members take part once they are invited, until they are removed. -/
theorem RowWrite.member (write : RowWrite crypto before request after spaceId userId)
    (there : TakesPart spaceId userId after)
    : TakesPart spaceId userId before ∨ Invites crypto userId spaceId before request := by
  obtain ⟨row, stored, active, ordinary⟩ := there
  cases write with
  | kept same => exact .inl ⟨row, same.symm.trans stored, active, ordinary⟩
  | founded own founds admin written =>
      cases written.symm.trans stored
      cases admin.symm.trans ordinary
  | invited role invites => exact .inr invites
  | removed old known written =>
      cases written.symm.trans stored
      cases active

-----------------------------------------------------------------------------------------
-- Roles and overrides
-----------------------------------------------------------------------------------------

/-- A role of a space is stored and has a permission. -/
def HasRole (spaceId roleId : Uuid) (permission : Permission) (state : AppState) : Prop :=
  ∃ role, state.permissions.rolesById.lookup roleId = some role ∧ role.spaceId = spaceId
    ∧ role.permissionsBitset.Has permission

/-- A role is assigned to a member of a space. -/
def HasAssignment (spaceId roleId memberId : Uuid) (state : AppState) : Prop :=
  ∃ assignment, state.permissions.assignmentsByRoleUser.lookup (roleId, memberId)
      = some assignment
    ∧ assignment.spaceId = spaceId

/-- The override for a target in a channel allows a permission. -/
def HasOverride (channelId : Uuid) (targetKind : PermissionTargetKind) (targetId : Uuid)
    (permission : Permission) (state : AppState) : Prop :=
  ∃ permissionOverride,
    state.permissions.override? channelId targetKind targetId = some permissionOverride
      ∧ permissionOverride.allowBitset.Has permission

theorem AccessWrite.role (write : AccessWrite crypto before request after)
    (there : HasRole spaceId roleId permission after)
    : HasRole spaceId roleId permission before
      ∨ CreatesRole crypto spaceId roleId permission before request := by
  cases write with
  | roleCreated userId role token body asked made may named spaces channels permissions =>
      obtain ⟨found, stored, rfl, has⟩ := there
      rw [permissions, Table.lookup_insert_eq] at stored
      split at stored
      · next same =>
          cases stored
          rw [same]
          exact .inr ⟨userId, token, body, asked, made, may,
            PermissionService.has_of_parsePermissionList named has⟩
      · exact .inl ⟨found, stored, rfl, has⟩
  | roleAssigned userId assignment role token member asked named made assigned may known ofSpace
      spaces channels permissions =>
      rw [HasRole, permissions] at there
      exact .inl there
  | overridden userId channel permissionOverride stamp token body asked made may stored inChannel
      target named spaces channels permissions =>
      rw [HasRole, permissions] at there
      exact .inl there
  | _ =>
      rw [HasRole, ‹after.permissions = before.permissions›] at there
      exact .inl there

theorem AccessWrite.assignment {memberId : Uuid}
    (write : AccessWrite crypto before request after)
    (there : HasAssignment spaceId roleId memberId after)
    : HasAssignment spaceId roleId memberId before
      ∨ AssignsRole crypto spaceId roleId memberId before request := by
  cases write with
  | roleCreated userId role token body asked made may named spaces channels permissions =>
      rw [HasAssignment, permissions] at there
      exact .inl there
  | roleAssigned userId assignment role token member asked named made assigned may known ofSpace
      spaces channels permissions =>
      obtain ⟨found, stored, rfl⟩ := there
      rw [permissions, Table.lookup_insert_eq] at stored
      split at stored
      · next same =>
          cases stored
          obtain ⟨rfl, rfl⟩ := Prod.mk.inj same
          exact .inr ⟨userId, token, member, asked, named, made, may⟩
      · exact .inl ⟨found, stored, rfl⟩
  | overridden userId channel permissionOverride stamp token body asked made may stored inChannel
      target named spaces channels permissions =>
      rw [HasAssignment, permissions] at there
      exact .inl there
  | _ =>
      rw [HasAssignment, ‹after.permissions = before.permissions›] at there
      exact .inl there

theorem AccessWrite.allowance (write : AccessWrite crypto before request after)
    (there : HasOverride channelId targetKind targetId permission after)
    : HasOverride channelId targetKind targetId permission before
      ∨ AllowsInChannel crypto channelId targetKind targetId permission before request := by
  cases write with
  | roleCreated userId role token body asked made may named spaces channels permissions =>
      rw [HasOverride, permissions] at there
      exact .inl there
  | roleAssigned userId assignment role token member asked named made assigned may known ofSpace
      spaces channels permissions =>
      rw [HasOverride, permissions] at there
      exact .inl there
  | overridden userId channel permissionOverride stamp token body asked made may stored inChannel
      target named spaces channels permissions =>
      obtain ⟨found, written, has⟩ := there
      rw [permissions, PermissionStore.override?, Table.lookup_insert_eq] at written
      split at written
      · next same =>
          cases written
          simp only [Prod.mk.injEq] at same
          obtain ⟨rfl, rfl, rfl⟩ := same
          obtain ⟨other, space, entered, _⟩ := may
          rw [← inChannel] at asked entered
          exact .inr ⟨userId, (other, space), stamp, token, body, asked, target.1, target.2, made,
            entered, PermissionService.has_of_parsePermissionList named has⟩
      · exact .inl ⟨found, written, has⟩
  | _ =>
      rw [HasOverride, ‹after.permissions = before.permissions›] at there
      exact .inl there

-----------------------------------------------------------------------------------------
-- Runs
-----------------------------------------------------------------------------------------

/-- A run gained something by a request with a property. -/
abbrev GainedBy (crypto : Crypto) (requests : List AppRequest) (has : AppState → Prop)
    (property : AppState → AppRequest → Prop) : Prop :=
  Gained (AppState.drawStep crypto) .empty requests has property

/-- What only requests with a property bring comes, in every run, from such a request. -/
theorem gainedBy_of_has {has : AppState → Prop} {property : AppState → AppRequest → Prop}
    (brought : ∀ before request after, AccessWrite crypto before request after → has after →
      has before ∨ property before request)
    (nothing : ¬ has .empty) {requests : List AppRequest} {state : AppState}
    (ran : run (AppState.drawStep crypto) .empty requests = some state) (there : has state)
    : GainedBy crypto requests has property := by
  refine gained_of_run AppState.Ordered has (fun _ _ _ ordered stepped => ordered.step stepped)
    ?_ .empty nothing ran there
  intro before request after ordered stepped missing now
  obtain ⟨_, admissible, rfl⟩ := AppState.drawStep_eq_some.mp stepped
  have write : AccessWrite crypto before request (request.perform crypto before) :=
    request.perform_access ordered.keyed admissible
  exact (brought before request _ write now).resolve_left missing

section

variable {state : AppState} {requests : List AppRequest}
  (ran : run (AppState.drawStep crypto) .empty requests = some state)

include ran

theorem founds_of_admin (there : Administers spaceId userId state)
    : GainedBy crypto requests (Administers spaceId userId) (Founds crypto userId spaceId) :=
  gainedBy_of_has (fun _ _ _ write => (write.row spaceId userId).admin)
    (fun ⟨_, stored, _⟩ => by cases stored) ran there

theorem invites_of_takesPart (there : TakesPart spaceId userId state)
    : GainedBy crypto requests (TakesPart spaceId userId) (Invites crypto userId spaceId) :=
  gainedBy_of_has (fun _ _ _ write => (write.row spaceId userId).member)
    (fun ⟨_, stored, _⟩ => by cases stored) ran there

theorem createsRole_of_role (there : HasRole spaceId roleId permission state)
    : GainedBy crypto requests (HasRole spaceId roleId permission)
        (CreatesRole crypto spaceId roleId permission) :=
  gainedBy_of_has (fun _ _ _ write => write.role) (fun ⟨_, stored, _⟩ => by cases stored) ran
    there

theorem assignsRole_of_assignment (there : HasAssignment spaceId roleId userId state)
    : GainedBy crypto requests (HasAssignment spaceId roleId userId)
        (AssignsRole crypto spaceId roleId userId) :=
  gainedBy_of_has (fun _ _ _ write => write.assignment) (fun ⟨_, stored, _⟩ => by cases stored)
    ran there

theorem allows_of_override (there : HasOverride channelId targetKind targetId permission state)
    : GainedBy crypto requests (HasOverride channelId targetKind targetId permission)
        (AllowsInChannel crypto channelId targetKind targetId permission) :=
  gainedBy_of_has (fun _ _ _ write => write.allowance) (fun ⟨_, stored, _⟩ => by cases stored) ran
    there

/-- A role with a permission was created, and assigned to a member, by those who might. -/
theorem granted_of_assigned (ordered : state.Ordered) {role : Role}
    (assigned : state.permissions.Assigned spaceId userId role)
    (has : role.permissionsBitset.Has permission)
    : GainedBy crypto requests (HasRole spaceId role.id permission)
          (CreatesRole crypto spaceId role.id permission)
      ∧ GainedBy crypto requests (HasAssignment spaceId role.id userId)
          (AssignsRole crypto spaceId role.id userId) := by
  obtain ⟨assignment, row, rfl, stored⟩ := assigned
  obtain ⟨listed, found, ofSpace⟩ := ordered.permissions.assigned _ assignment row
  have sameRole : assignment.roleId = role.id :=
    (Prod.mk.inj (ordered.permissions.keyed.assignments _ assignment row)).1
  rw [sameRole, stored] at found
  cases found
  exact ⟨createsRole_of_role ran ⟨role, stored, ofSpace, has⟩,
    assignsRole_of_assignment ran ⟨assignment, row, rfl⟩⟩

end

/-- The requests that wrote what a permission in a channel rests on. -/
inductive Granted (crypto : Crypto) (requests : List AppRequest)
    (userId spaceId channelId : Uuid) (permission : Permission) : Prop where
  | founder
      (founded : GainedBy crypto requests (Administers spaceId userId)
        (Founds crypto userId spaceId))
  | member (usual : permission ∈ [.viewChannel, .sendMessages])
      (invited : GainedBy crypto requests (TakesPart spaceId userId)
        (Invites crypto userId spaceId))
  | role (roleId : Uuid)
      (created : GainedBy crypto requests (HasRole spaceId roleId permission)
        (CreatesRole crypto spaceId roleId permission))
      (assigned : GainedBy crypto requests (HasAssignment spaceId roleId userId)
        (AssignsRole crypto spaceId roleId userId))
  | override
      (allowed : GainedBy crypto requests (HasOverride channelId .member userId permission)
        (AllowsInChannel crypto channelId .member userId permission))
  | roleOverride (roleId : Uuid)
      (assigned : GainedBy crypto requests (HasAssignment spaceId roleId userId)
        (AssignsRole crypto spaceId roleId userId))
      (allowed : GainedBy crypto requests (HasOverride channelId .role roleId permission)
        (AllowsInChannel crypto channelId .role roleId permission))

/-- The built-in roles other than owner and admin have two permissions at most. -/
theorem usual_of_builtin {role : String} (notAdmin : ¬ (role = "owner" ∨ role = "admin"))
    (has : (builtinPermissionsForRole role).Has permission)
    : permission ∈ [Permission.viewChannel, .sendMessages] := by
  rw [builtinPermissionsForRole, if_neg notAdmin] at has
  split_ifs at has
  all_goals
    revert has
    cases permission <;> decide

/-- Whatever anyone may do in a channel, in any run, has been given by requests of users who might
give it when they did: as the founder of the space, as a member who was invited, through a role, or
through an override.
-/
theorem permission_granted {state : AppState} {requests : List AppRequest}
    (ran : run (AppState.drawStep crypto) .empty requests = some state)
    (may : state.MayInChannel userId spaceId channelId permission)
    : Granted crypto requests userId spaceId channelId permission := by
  have ordered := AppState.ordered_of_run ran
  obtain ⟨channel, space, entered, rfl⟩ := may
  obtain ⟨stored, found, permitted⟩ := enterChannel_ok entered
  obtain ⟨row, storedSpace, member, active, _, same⟩ := spaceForUser_eq_ok.mp found
  obtain ⟨_, inSpace, _⟩ := ordered.keyed.storedSpace found
  have sameChannel := ordered.keyed.channels channelId channel stored
  have sameRole : space.role = row.role := by rw [same, SpaceMembership.of]
  rw [ordered.permissions.keyed.canInChannel_iff, ChannelRules] at permitted
  simp only [Decides] at permitted
  split_ifs at permitted with admin memberDenies memberAllows roleDenies roleAllows
  · exact .founder (founds_of_admin ran ⟨row, member, decide_eq_true (sameRole ▸ admin)⟩)
  · obtain ⟨own, written, has⟩ := memberAllows
    exact .override (allows_of_override ran ⟨own, sameChannel ▸ written, has⟩)
  · obtain ⟨role, assigned, ofRole, written, has⟩ := roleAllows
    obtain ⟨assignment, listed, ofSpace, _⟩ := assigned
    rw [inSpace] at ofSpace
    exact .roleOverride role.id (assignsRole_of_assignment ran ⟨assignment, listed, ofSpace⟩)
      (allows_of_override ran ⟨ofRole, sameChannel ▸ written, has⟩)
  · rcases permitted with builtin | ⟨role, assigned, has⟩
    · have ordinary : isAdminRole row.role = false := decide_eq_false (sameRole ▸ admin)
      exact .member (usual_of_builtin admin builtin)
        (invites_of_takesPart ran ⟨row, member, active, ordinary⟩)
    · rw [inSpace] at assigned
      obtain ⟨created, assigned⟩ := granted_of_assigned ran ordered assigned has
      exact .role role.id created assigned

/-- Bob sees Acme's channel, and so has been given to. -/
theorem view_granted
    : ∃ state, run (AppState.drawStep Acme.crypto) .empty Acme.requests = some state
        ∧ state.MayInChannel Acme.bob Acme.main Acme.general .viewChannel
        ∧ Granted Acme.crypto Acme.requests Acme.bob Acme.main Acme.general .viewChannel := by
  have facts : (run (AppState.drawStep Acme.crypto) .empty Acme.requests).any fun state =>
      (state.enterChannel Acme.bob Acme.general .viewChannel).toOption.any fun entered =>
        entered.1.spaceId = Acme.main := by
    decide +kernel
  obtain ⟨state, ran, facts⟩ := (Option.any_eq_true _ _).mp facts
  obtain ⟨⟨channel, space⟩, entered, own⟩ := (Option.any_eq_true _ _).mp facts
  have may : state.MayInChannel Acme.bob Acme.main Acme.general .viewChannel :=
    ⟨channel, space, Eff.toOption_eq_some.mp entered, of_decide_eq_true own⟩
  exact ⟨state, ran, may, permission_granted ran may⟩

end OpenCord.Server

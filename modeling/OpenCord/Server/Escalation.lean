import OpenCord.Library.Origins
import OpenCord.Server.AccessWrites
import OpenCord.Server.Invariants
import OpenCord.Tenancy.PermissionResolution

/-! Who may do what in a space changes only at the requests of users who could already manage
the space: the powerless gain nothing, whatever requests they make in whatever order.
-/

namespace OpenCord.Tenancy

open OpenCord.Library OpenCord.Platform

/-- What a member may do in a space, permission by permission. -/
theorem PermissionStore.Keyed.canInSpace_iff {store : PermissionStore} (keyed : store.Keyed)
    {userId : Uuid} {space : SpaceMembership} {permission : Permission}
    : PermissionService.canInSpace store userId space permission = true
      ↔ isAdminRole space.role = true ∨ RoleBits store userId space permission := by
  rw [PermissionService.canInSpace]
  split
  · next admin => exact iff_of_true rfl (.inl admin)
  · next notAdmin =>
      rw [decide_eq_true_iff, PermissionBits.has_iff, keyed.has_effective, or_iff_right notAdmin]

/-- Rows are under their keys, and roles are assigned in the spaces that they belong to. -/
structure PermissionStore.Ordered (store : PermissionStore) : Prop where
  keyed : store.Keyed
  assigned : ∀ key assignment, store.assignmentsByRoleUser.lookup key = some assignment →
    ∃ role, store.rolesById.lookup assignment.roleId = some role
      ∧ role.spaceId = assignment.spaceId

theorem PermissionStore.Ordered.empty : PermissionStore.empty.Ordered :=
  ⟨.empty, nofun⟩

end OpenCord.Tenancy

namespace OpenCord.Server

open OpenCord.Library OpenCord.Platform OpenCord.Auth OpenCord.Tenancy OpenCord.Bots
  OpenCord.Realtime

/-- A role is created under a new identifier. -/
def AppRequest.DrawsNewRole (state : AppState) : AppRequest → Prop
  | .createRole roleId _ _ _ => roleId ∉ state.permissions.rolesById
  | _ => True

instance (state : AppState) (request : AppRequest) : Decidable (request.DrawsNewRole state) := by
  induction request using AppRequest.casesOn with
  | createRole => exact inferInstanceAs (Decidable (_ ∉ state.permissions.rolesById))
  | _ => exact instDecidableTrue

/-- One request on a server that draws a new identifier for every role. -/
def AppState.drawStep (crypto : Crypto) (state : AppState) (request : AppRequest)
    : Option AppState :=
  if request.DrawsNewRole state then state.step crypto request else none

/-- Spaces, channels and permissions in order. -/
structure AppState.Ordered (state : AppState) : Prop where
  keyed : state.Keyed
  permissions : state.permissions.Ordered

variable {crypto : Crypto} {state before after next : AppState} {request : AppRequest}
  {spaceId : Uuid}

theorem AppState.drawStep_eq_some
    : state.drawStep crypto request = some next
      ↔ request.DrawsNewRole state ∧ request.Admissible state
        ∧ request.perform crypto state = next := by
  simp [drawStep, AppState.step]

/-- By cases of the writes. -/
theorem AccessWrite.ordered (write : AccessWrite crypto before request after)
    (draws : request.DrawsNewRole before) (ordered : before.permissions.Ordered)
    : after.permissions.Ordered := by
  cases write with
  | roleCreated userId role token body asked made may named spaces channels permissions =>
      rw [asked] at draws
      obtain ⟨⟨roles, assignments, overrides⟩, assigned⟩ := ordered
      rw [permissions]
      refine ⟨⟨Table.forall_insert rfl roles, assignments, overrides⟩, ?_⟩
      intro key row stored
      obtain ⟨known, listed, ofSpace⟩ := assigned key row stored
      have differs : row.roleId ≠ role.id :=
        fun same => draws (same ▸ Table.mem_of_lookup listed)
      exact ⟨known, (AList.lookup_insert_ne differs).trans listed, ofSpace⟩
  | roleAssigned userId assignment role token member asked named made assigned may known ofSpace
      spaces channels permissions =>
      obtain ⟨⟨roles, assignments, overrides⟩, assigned⟩ := ordered
      rw [permissions]
      exact ⟨⟨roles, Table.forall_insert rfl assignments, overrides⟩,
        Table.forall_insert ⟨role, known, ofSpace⟩ assigned⟩
  | overridden userId channel permissionOverride stamp token body asked made may stored inChannel
      target named spaces channels permissions =>
      obtain ⟨⟨roles, assignments, overrides⟩, assigned⟩ := ordered
      rw [permissions]
      exact ⟨⟨roles, assignments, Table.forall_insert rfl overrides⟩, assigned⟩
  | _ => rwa [‹after.permissions = before.permissions›]

theorem AppState.Ordered.step (ordered : state.Ordered)
    (stepped : state.drawStep crypto request = some next)
    : next.Ordered := by
  obtain ⟨draws, admissible, rfl⟩ := AppState.drawStep_eq_some.mp stepped
  have once : state.step crypto request = some (request.perform crypto state) :=
    if_pos admissible
  exact ⟨(ordered.keyed.step once).1,
    (request.perform_access ordered.keyed admissible).ordered draws ordered.permissions⟩

theorem AppState.Ordered.empty : AppState.empty.Ordered :=
  ⟨AppState.empty_keyed, .empty⟩

/-- In every run, by steps. -/
theorem AppState.ordered_of_run {earlier : List AppRequest}
    (begun : run (AppState.drawStep crypto) .empty earlier = some state)
    : state.Ordered :=
  run_preserves (fun _ _ _ ordered stepped => AppState.Ordered.step ordered stepped)
    AppState.Ordered.empty begun

-----------------------------------------------------------------------------------------
-- The rows of a space
-----------------------------------------------------------------------------------------

/-- Two states with the same rows about who may do what in a space. -/
structure AppState.SameAccess (before after : AppState) (spaceId : Uuid) : Prop where
  space : after.spaces.spacesById.lookup spaceId = before.spaces.spacesById.lookup spaceId
  members : ∀ userId, after.spaces.member? spaceId userId = before.spaces.member? spaceId userId
  channels : ∀ channelId channel, channel.spaceId = spaceId →
    (after.channels.channelsById.lookup channelId = some channel
      ↔ before.channels.channelsById.lookup channelId = some channel)
  assigned : ∀ userId role, after.permissions.Assigned spaceId userId role
    ↔ before.permissions.Assigned spaceId userId role
  overrides : ∀ channelId channel,
    before.channels.channelsById.lookup channelId = some channel → channel.spaceId = spaceId →
      ∀ targetKind targetId, after.permissions.override? channelId targetKind targetId
        = before.permissions.override? channelId targetKind targetId

namespace AppState.SameAccess

theorem refl (state : AppState) (spaceId : Uuid) : state.SameAccess state spaceId :=
  ⟨rfl, fun _ => rfl, fun _ _ _ => Iff.rfl, fun _ _ => Iff.rfl, fun _ _ _ _ _ _ => rfl⟩

theorem trans {first middle last : AppState} (one : first.SameAccess middle spaceId)
    (two : middle.SameAccess last spaceId)
    : first.SameAccess last spaceId where
  space := two.space.trans one.space
  members userId := (two.members userId).trans (one.members userId)
  channels channelId channel own :=
    (two.channels channelId channel own).trans (one.channels channelId channel own)
  assigned userId role := (two.assigned userId role).trans (one.assigned userId role)
  overrides channelId channel stored own targetKind targetId := by
    have still := (one.channels channelId channel own).mpr stored
    rw [two.overrides channelId channel still own, one.overrides channelId channel stored own]

/-- The same stores have the same rows. -/
theorem of_eq (spaces : after.spaces = before.spaces) (channels : after.channels = before.channels)
    (permissions : after.permissions = before.permissions)
    : before.SameAccess after spaceId := by
  constructor <;> simp [spaces, channels, permissions]

/-- Writes to the spaces that keep one of them. -/
theorem of_spaces
    (space : after.spaces.spacesById.lookup spaceId = before.spaces.spacesById.lookup spaceId)
    (members : ∀ userId,
      after.spaces.member? spaceId userId = before.spaces.member? spaceId userId)
    (channels : after.channels = before.channels)
    (permissions : after.permissions = before.permissions)
    : before.SameAccess after spaceId :=
  ⟨space, members, fun _ _ _ => by rw [channels], fun _ _ => by rw [permissions],
    fun _ _ _ _ _ _ => by rw [permissions]⟩

/-- Writes to the channels of other spaces. -/
theorem of_channels (spaces : after.spaces = before.spaces)
    (channels : ∀ channelId channel, channel.spaceId = spaceId →
      (after.channels.channelsById.lookup channelId = some channel
        ↔ before.channels.channelsById.lookup channelId = some channel))
    (permissions : after.permissions = before.permissions)
    : before.SameAccess after spaceId :=
  ⟨by rw [spaces], fun _ => by rw [spaces], channels, fun _ _ => by rw [permissions],
    fun _ _ _ _ _ _ => by rw [permissions]⟩

/-- A row of another space's member. -/
theorem of_withMember {other memberId : Uuid} {row : StoredSpaceMember}
    (spaces : after.spaces = before.spaces.withMember other memberId row)
    (channels : after.channels = before.channels)
    (permissions : after.permissions = before.permissions) (differs : other ≠ spaceId)
    : before.SameAccess after spaceId := by
  refine of_spaces (by rw [spaces, SpaceStore.withMember]) (fun userId => ?_) channels permissions
  rw [spaces, SpaceStore.member?_withMember, if_neg]
  exact fun same => differs (Prod.mk.inj same).1.symm

variable (same : before.SameAccess after spaceId)

include same

theorem spaceForUser (userId : Uuid)
    : after.spaceForUser userId spaceId = before.spaceForUser userId spaceId := by
  rw [AppState.spaceForUser, AppState.spaceForUser, SpaceService.getForUser,
    SpaceService.getForUser, SpaceStore.getForUser, SpaceStore.getForUser, same.space,
    same.members]

/-- A member's permissions in the space are the same. -/
theorem mayInSpace_iff (keyed : before.Keyed) (rows : before.permissions.Keyed)
    (later : after.permissions.Keyed) {userId : Uuid} {permission : Permission}
    : after.MayInSpace userId spaceId permission
      ↔ before.MayInSpace userId spaceId permission := by
  refine exists_congr fun space => ?_
  rw [same.spaceForUser]
  refine and_congr_right fun found => ?_
  obtain ⟨_, own, _⟩ := keyed.storedSpace found
  simp only [AppState.requireSpace, PermissionService.requireSpace, Eff.mapError_eq_ok]
  have bits : PermissionService.canInSpace after.permissions userId space permission = true
      ↔ PermissionService.canInSpace before.permissions userId space permission = true := by
    rw [later.canInSpace_iff, rows.canInSpace_iff, RoleBits, RoleBits, own]
    simp only [same.assigned]
  rw [Bool.eq_iff_iff.mpr bits]

/-- A member's permissions in the channels of the space are the same. -/
theorem mayInChannel_iff (keyed : before.Keyed) (rows : before.permissions.Keyed)
    (later : after.permissions.Keyed) {userId channelId : Uuid} {permission : Permission}
    : after.MayInChannel userId spaceId channelId permission
      ↔ before.MayInChannel userId spaceId channelId permission := by
  refine exists_congr fun channel => exists_congr fun space => ?_
  rw [and_congr_left_iff]
  intro own
  rw [enterChannel_eq_ok, enterChannel_eq_ok, own, same.channels channelId channel own,
    same.spaceForUser]
  refine and_congr_right fun stored => and_congr_right fun found => ?_
  obtain ⟨_, inSpace, _⟩ := keyed.storedSpace found
  have sameId := keyed.channels channelId channel stored
  have rules : after.permissions.SameFor before.permissions userId space.id channel.id := by
    rw [inSpace, sameId]
    exact ⟨same.assigned userId, same.overrides channelId channel stored own .member userId,
      fun role _ => same.overrides channelId channel stored own .role role.id⟩
  rw [later.canInChannel_iff, rows.canInChannel_iff, rules.rules_iff]

end AppState.SameAccess

-----------------------------------------------------------------------------------------
-- Steps
-----------------------------------------------------------------------------------------

/-- A user manages a space, its roles or its channels, one of its channels, or invites members into
the space.
-/
def AppState.Manages (state : AppState) (userId spaceId : Uuid) : Prop :=
  (∃ permission ∈ [Permission.manageChannels, .manageRoles, .inviteMembers, .manageSpace],
      state.MayInSpace userId spaceId permission)
    ∨ ∃ channelId, state.MayInChannel userId spaceId channelId .manageChannels

/-- A request is made by a user who manages the space, or by a member of the space who
administers its organization.
-/
def AppRequest.MadeByManager (crypto : Crypto) (spaceId : Uuid) (state : AppState)
    (request : AppRequest) : Prop :=
  ∃ userId, request.MadeBy crypto state userId
    ∧ (state.Manages userId spaceId ∨ state.AdministersSpace userId spaceId)

/-- A new role is not assigned to anyone. -/
theorem assigned_insert_role_iff (rows : before.permissions.Ordered) {role known : Role}
    (new : role.id ∉ before.permissions.rolesById) {userId : Uuid}
    {names : Table (Uuid × String) Uuid}
    : ({ before.permissions with
          roleIdBySpaceName := names
          rolesById := before.permissions.rolesById.insert role.id role }
        : PermissionStore).Assigned spaceId userId known
      ↔ before.permissions.Assigned spaceId userId known := by
  refine exists_congr fun assignment => and_congr_right fun row => and_congr_right fun _ => ?_
  obtain ⟨listed, stored, _⟩ := rows.assigned _ assignment row
  have sameRole : assignment.roleId = known.id :=
    (Prod.mk.inj (rows.keyed.assignments _ assignment row)).1
  have differs : known.id ≠ role.id := by
    rw [← sameRole]
    exact fun same => new (same ▸ Table.mem_of_lookup stored)
  rw [AList.lookup_insert_ne differs]

/-- A role of another space is assigned in that space only. -/
theorem assigned_insert_assignment_iff (rows : before.permissions.Ordered)
    {assignment : RoleAssignment} {role known : Role}
    (stored : before.permissions.rolesById.lookup assignment.roleId = some role)
    (ofSpace : role.spaceId = assignment.spaceId) (differs : assignment.spaceId ≠ spaceId)
    {userId : Uuid}
    : ({ before.permissions with
          assignmentsByRoleUser := before.permissions.assignmentsByRoleUser.insert
            (assignment.roleId, assignment.userId) assignment }
        : PermissionStore).Assigned spaceId userId known
      ↔ before.permissions.Assigned spaceId userId known := by
  by_cases same : (known.id, userId) = (assignment.roleId, assignment.userId)
  · have sameRole := (Prod.mk.inj same).1
    refine iff_of_false ?_ ?_
    · rintro ⟨row, found, own, _⟩
      rw [same, AList.lookup_insert] at found
      cases found
      exact differs own
    · rintro ⟨row, found, own, _⟩
      obtain ⟨listed, storedRow, inSpace⟩ := rows.assigned _ row found
      have named : row.roleId = known.id :=
        (Prod.mk.inj (rows.keyed.assignments _ row found)).1
      rw [named, sameRole, stored] at storedRow
      cases storedRow
      exact differs (ofSpace.symm.trans (inSpace.trans own))
  · refine exists_congr fun row => ?_
    rw [AList.lookup_insert_ne same]

/-- A write changes who may do what in a space only if a manager of the space asks for it, by
cases of the writes.
-/
theorem AccessWrite.sameAccess_or (write : AccessWrite crypto before request after)
    (draws : request.DrawsNewRole before) (ordered : before.Ordered)
    (stored : spaceId ∈ before.spaces.spacesById)
    : before.SameAccess after spaceId ∨ request.MadeByManager crypto spaceId before := by
  cases write with
  | elsewhere spaces channels permissions => exact .inl (.of_eq spaces channels permissions)
  | spaceCreated userId space token name asked made new spaces channels permissions =>
      have differs : spaceId ≠ space.id := fun same => new.1 (same ▸ stored)
      refine .inl (.of_spaces ?_ (fun memberId => ?_) channels permissions)
      · rw [spaces, SpaceStore.withSpace, AList.lookup_insert_ne differs]
      · rw [spaces, SpaceStore.withSpace, SpaceStore.member?, AList.lookup_insert_ne]
        · rfl
        · exact fun same => differs (Prod.mk.inj same).1
  | spaceWritten userId other made may members others channels permissions =>
      by_cases same : spaceId = other
      · subst same
        exact .inr ⟨userId, made, .inl (.inl ⟨_, by simp, may⟩)⟩
      · refine .inl (.of_spaces (others spaceId same) (fun memberId => ?_) channels permissions)
        rw [SpaceStore.member?, members, SpaceStore.member?]
  | memberInvited userId other memberId role made may invited given spaces channels permissions =>
      by_cases same : other = spaceId
      · subst same
        refine .inr ⟨userId, made, may.imp_left fun invites => ?_⟩
        exact .inl ⟨_, by simp, invites⟩
      · exact .inl (.of_withMember spaces channels permissions same)
  | memberRemoved userId other memberId row made may stored spaces channels permissions =>
      by_cases same : other = spaceId
      · subst same
        exact .inr ⟨userId, made, .inl (.inl ⟨_, by simp, may⟩)⟩
      · exact .inl (.of_withMember spaces channels permissions same)
  | channelCreated userId channel made may new spaces channels permissions =>
      by_cases same : channel.spaceId = spaceId
      · subst same
        exact .inr ⟨userId, made, .inl (.inl ⟨_, by simp, may⟩)⟩
      · refine .inl (.of_channels spaces (fun channelId stored own => ?_) permissions)
        rw [channels, ChannelStore.withChannel, Table.lookup_insert_eq]
        split
        · next created =>
            subst created
            refine iff_of_false (fun found => ?_) (fun found => new.1 (Table.mem_of_lookup found))
            cases found
            exact same own
        · exact Iff.rfl
  | channelWritten userId channel made may found spaces version others permissions =>
      by_cases same : channel.spaceId = spaceId
      · subst same
        exact .inr ⟨userId, made, .inl (.inr ⟨_, may⟩)⟩
      · refine .inl (.of_channels spaces (fun channelId stored own => ?_) permissions)
        by_cases changed : channelId = channel.id
        · subst changed
          refine iff_of_false (fun written => ?_) (fun before => ?_)
          · exact same ((version stored written).spaceId.symm.trans own)
          · rw [found] at before
            cases before
            exact same own
        · rw [others channelId changed]
  | roleCreated userId role token body asked made may named spaces channels permissions =>
      rw [asked] at draws
      refine .inl ⟨by rw [spaces], fun _ => by rw [spaces], fun _ _ _ => by rw [channels],
        fun _ _ => ?_, fun _ _ _ _ _ _ => by rw [permissions]; rfl⟩
      rw [permissions]
      exact assigned_insert_role_iff ordered.permissions draws
  | roleAssigned userId assignment role token member asked named made assigned may known ofSpace
      spaces channels permissions =>
      by_cases same : assignment.spaceId = spaceId
      · subst same
        exact .inr ⟨userId, made, .inl (.inl ⟨_, by simp, may⟩)⟩
      · refine .inl ⟨by rw [spaces], fun _ => by rw [spaces], fun _ _ _ => by rw [channels],
          fun _ _ => ?_, fun _ _ _ _ _ _ => by rw [permissions]; rfl⟩
        rw [permissions]
        exact assigned_insert_assignment_iff ordered.permissions known ofSpace same
  | overridden userId channel permissionOverride stamp token body asked made may found inChannel
      target named spaces channels permissions =>
      by_cases same : channel.spaceId = spaceId
      · subst same
        exact .inr ⟨userId, made, .inl (.inr ⟨_, may⟩)⟩
      · refine .inl ⟨by rw [spaces], fun _ => by rw [spaces], fun _ _ _ => by rw [channels],
          fun _ _ => by rw [permissions]; rfl, fun channelId other stored own kind target => ?_⟩
        rw [permissions, PermissionStore.override?, AList.lookup_insert_ne]
        · rfl
        · intro collides
          obtain rfl := (Prod.mk.inj collides).1.trans inChannel
          rw [found] at stored
          cases stored
          exact same own

-----------------------------------------------------------------------------------------
-- Runs
-----------------------------------------------------------------------------------------

/-- Everyone may do the same in a space. -/
structure AppState.SameRights (before after : AppState) (spaceId : Uuid) : Prop where
  members : ∀ userId, after.spaceForUser userId spaceId = before.spaceForUser userId spaceId
  inSpace : ∀ userId permission, after.MayInSpace userId spaceId permission
    ↔ before.MayInSpace userId spaceId permission
  inChannels : ∀ userId channelId permission,
    after.MayInChannel userId spaceId channelId permission
      ↔ before.MayInChannel userId spaceId channelId permission

/-- The same rows give the same rights. -/
theorem AppState.SameAccess.sameRights (same : before.SameAccess after spaceId)
    (ordered : before.Ordered) (later : after.Ordered)
    : before.SameRights after spaceId where
  members := same.spaceForUser
  inSpace _ _ :=
    same.mayInSpace_iff ordered.keyed ordered.permissions.keyed later.permissions.keyed
  inChannels _ _ _ :=
    same.mayInChannel_iff ordered.keyed ordered.permissions.keyed later.permissions.keyed

/-- A request is made by a user who could manage the space at the start, or by a member at the
start who now administers the organization.
-/
def AppRequest.MadeByManagerOf (crypto : Crypto) (start : AppState) (spaceId : Uuid)
    (state : AppState) (request : AppRequest) : Prop :=
  ∃ userId, request.MadeBy crypto state userId
    ∧ (start.Manages userId spaceId
      ∨ ∃ space membership, start.spaceForUser userId spaceId = .ok space
          ∧ state.requireAdmin userId space.organizationId = .ok membership)

theorem AppRequest.MadeByManager.atStart {start : AppState}
    (made : request.MadeByManager crypto spaceId state) (rights : start.SameRights state spaceId)
    : request.MadeByManagerOf crypto start spaceId state := by
  obtain ⟨userId, made, (⟨permission, managing, may⟩ | ⟨channelId, may⟩) | admin⟩ := made
  · exact ⟨userId, made, .inl (.inl ⟨permission, managing, (rights.inSpace _ _).mp may⟩)⟩
  · exact ⟨userId, made, .inl (.inr ⟨channelId, (rights.inChannels _ _ _).mp may⟩)⟩
  · obtain ⟨space, membership, found, admin⟩ := admin
    exact ⟨userId, made, .inr ⟨space, membership, rights.members userId ▸ found, admin⟩⟩

/-- When the rows about a space, or anyone's rights in it, differ at the end of a run from what they
were at the start, then the request of the run that changed the rows was made by a user who could
manage the space or invite into it at the start already, or who was a member of it at the start and
administers its organization. The others cannot bring themselves or each other any right.
-/
theorem rights_changed_by_manager {start last : AppState} {earlier later : List AppRequest}
    (begun : run (AppState.drawStep crypto) .empty earlier = some start)
    (ran : run (AppState.drawStep crypto) start later = some last)
    (stored : spaceId ∈ start.spaces.spacesById)
    (changed : ¬ (start.SameAccess last spaceId ∧ start.SameRights last spaceId))
    : Gained (AppState.drawStep crypto) start later
        (fun state => ¬ start.SameAccess state spaceId)
        (AppRequest.MadeByManagerOf crypto start spaceId) := by
  have ordered := AppState.ordered_of_run begun
  have finallyOrdered : last.Ordered :=
    run_preserves (fun _ _ _ ordered stepped => AppState.Ordered.step ordered stepped) ordered ran
  refine gained_of_run AppState.Ordered _ (fun _ _ _ ordered stepped => ordered.step stepped) ?_
    ordered (not_not_intro (.refl start spaceId)) ran
    (fun same => changed ⟨same, same.sameRights ordered finallyOrdered⟩)
  intro state request next valid stepped before differs
  have same := not_not.mp before
  obtain ⟨draws, admissible, rfl⟩ := AppState.drawStep_eq_some.mp stepped
  have there : spaceId ∈ state.spaces.spacesById := by
    rw [← AList.lookup_isSome, same.space, AList.lookup_isSome]
    exact stored
  have write : AccessWrite crypto state request (request.perform crypto state) :=
    request.perform_access valid.keyed admissible
  rcases write.sameAccess_or draws valid there with kept | made
  · exact absurd (same.trans kept) differs
  · exact made.atStart (same.sameRights ordered valid)

open Acme in
/-- Alice, who founded Acme's space, takes Bob out of it. -/
theorem removal_by_manager
    : ∃ start last, run (AppState.drawStep Acme.crypto) .empty requests = some start
        ∧ run (AppState.drawStep Acme.crypto) start
            [.removeSpaceMember (stamp 203) aliceToken main bob] = some last
        ∧ ¬ start.SameRights last main
        ∧ Gained (AppState.drawStep Acme.crypto) start
            [.removeSpaceMember (stamp 203) aliceToken main bob]
            (fun state => ¬ start.SameAccess state main)
            (AppRequest.MadeByManagerOf Acme.crypto start main) := by
  have facts : (run (AppState.drawStep Acme.crypto) .empty requests).any fun start =>
      (run (AppState.drawStep Acme.crypto) start
          [.removeSpaceMember (stamp 203) aliceToken main bob]).any fun last =>
        main ∈ start.spaces.spacesById
          ∧ last.spaceForUser bob main ≠ start.spaceForUser bob main := by
    decide +kernel
  obtain ⟨start, begun, facts⟩ := (Option.any_eq_true _ _).mp facts
  obtain ⟨last, removed, facts⟩ := (Option.any_eq_true _ _).mp facts
  obtain ⟨stored, differs⟩ := of_decide_eq_true facts
  have changed : ¬ start.SameRights last main := fun same => differs (same.members bob)
  exact ⟨start, last, begun, removed, changed,
    rights_changed_by_manager begun removed stored fun same => changed same.2⟩

end OpenCord.Server

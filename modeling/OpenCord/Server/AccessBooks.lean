import OpenCord.Server.AuditedRequests
import OpenCord.Server.Grants

/-! The stores of a space against the book that a reader of its audit events keeps: they agree on
who may do what, and go on agreeing when both are changed.
-/

namespace OpenCord.Audit

open OpenCord.Library OpenCord.Platform OpenCord.Tenancy

/-- An event about an override has the channel as its target. -/
theorem AuditEvent.targetId_of_overridden {event : AuditEvent} {channelId targetId : Uuid}
    {targetKind : PermissionTargetKind} {allow deny : List String}
    (told : event.accessChange = some (.overridden channelId targetKind targetId allow deny))
    : event.targetId = channelId := by
  unfold accessChange at told
  split_ifs at told <;> simp_all [Option.bind_eq_some_iff]

/-- A book has no override for a channel that no event is about, by induction over the events. -/
theorem SpaceAccess.lookup_overrides_readAll {access : SpaceAccess} {channelId : Uuid}
    (blank : ∀ targetKind targetId,
      access.overrides.lookup (channelId, targetKind, targetId) = none)
    {events : List AuditEvent} (elsewhere : ∀ event ∈ events, event.targetId ≠ channelId)
    (targetKind : PermissionTargetKind) (targetId : Uuid)
    : (access.readAll events).overrides.lookup (channelId, targetKind, targetId) = none := by
  induction events generalizing access with
  | nil => exact blank targetKind targetId
  | cons event events ih =>
      obtain ⟨other, later⟩ := List.forall_mem_cons.mp elsewhere
      change ((access.read event).readAll events).overrides.lookup _ = none
      refine ih (fun targetKind targetId => ?_) later
      cases told : event.accessChange with
      | none => rw [read_of_none told, blank]
      | some change =>
          rw [read_of_some told]
          cases change with
          | overridden otherId otherKind otherTarget allow deny =>
              have about := event.targetId_of_overridden told
              rw [apply, Table.lookup_insert_eq, if_neg, blank]
              intro same
              exact other (about.trans (Prod.mk.inj same).1.symm)
          | _ => exact blank targetKind targetId

end OpenCord.Audit

namespace OpenCord.Server

open OpenCord.Library OpenCord.Platform OpenCord.Auth OpenCord.Tenancy OpenCord.Bots
  OpenCord.Realtime OpenCord.Audit

-----------------------------------------------------------------------------------------
-- The stores and the book
-----------------------------------------------------------------------------------------

/-- The stores hold the access to a space that a book says. -/
structure AppState.Holds (state : AppState) (spaceId : Uuid) (access : SpaceAccess) : Prop where
  members : ∀ userId, access.members.lookup userId
    = ((state.spaces.member? spaceId userId).filter fun row => row.status = .active).map
      StoredSpaceMember.role
  roles : ∀ roleId, access.roles.lookup roleId
    = (state.permissions.getRole spaceId roleId).map fun role =>
      (role.name, permissionNames role.permissionsBitset)
  assignments : ∀ roleId userId, access.assignments.lookup (roleId, userId)
    = ((state.permissions.assignmentsByRoleUser.lookup (roleId, userId)).filter fun assignment =>
      assignment.spaceId = spaceId).map RoleAssignment.assignedByUserId
  overrides : ∀ channelId channel, state.channels.channelsById.lookup channelId = some channel →
    channel.spaceId = spaceId → ∀ targetKind targetId,
      access.overrides.lookup (channelId, targetKind, targetId)
        = (state.permissions.override? channelId targetKind targetId).map
          fun permissionOverride => (permissionNames permissionOverride.allowBitset,
            permissionNames permissionOverride.denyBitset)

variable {crypto : Crypto} {before after state : AppState} {spaceId other : Uuid}
  {access : SpaceAccess}

/-- A book stays right for a space whose members, channels and permissions stay. -/
theorem AppState.Holds.kept (holds : before.Holds spaceId access)
    (members : ∀ userId, after.spaces.member? spaceId userId
      = before.spaces.member? spaceId userId)
    (channels : after.channels = before.channels)
    (permissions : after.permissions = before.permissions)
    : after.Holds spaceId access := by
  refine ⟨fun userId => ?_, ?_, ?_, ?_⟩
  · rw [members]
    exact holds.members userId
  · rw [permissions]
    exact holds.roles
  · rw [permissions]
    exact holds.assignments
  · rw [permissions, channels]
    exact holds.overrides

theorem member?_withMember {store : SpaceStore} {userId : Uuid} {row : StoredSpaceMember}
    (user : Uuid)
    : (store.withMember spaceId userId row).member? spaceId user
        = if user = userId then some row else store.member? spaceId user := by
  rw [SpaceStore.member?, SpaceStore.withMember, Table.lookup_insert_eq]
  simp only [Prod.mk.injEq, true_and]
  rfl

/-- A row of one space is none of another. -/
theorem member?_withMember_of_ne {store : SpaceStore} {userId user : Uuid}
    {row : StoredSpaceMember} (differs : other ≠ spaceId)
    : (store.withMember spaceId userId row).member? other user = store.member? other user := by
  rw [SpaceStore.member?, SpaceStore.withMember, Table.lookup_insert_eq,
    if_neg (by simp [differs])]
  rfl

/-- A new membership row is the member's line in the book. -/
theorem AppState.Holds.withRow (holds : before.Holds spaceId access) {userId : Uuid}
    {row : StoredSpaceMember} {members : Table Uuid String}
    (written : ∀ other, members.lookup other
      = if other = userId then ((some row).filter fun row => row.status = .active).map
          StoredSpaceMember.role
        else access.members.lookup other)
    (rows : ∀ other, after.spaces.member? spaceId other
      = if other = userId then some row else before.spaces.member? spaceId other)
    (channels : after.channels = before.channels)
    (permissions : after.permissions = before.permissions)
    : after.Holds spaceId { access with members := members } := by
  refine ⟨fun other => ?_, ?_, ?_, ?_⟩
  · rw [written, rows]
    split
    · rfl
    · exact holds.members other
  · rw [permissions]
    exact holds.roles
  · rw [permissions]
    exact holds.assignments
  · rw [permissions, channels]
    exact holds.overrides

/-- A change of the stores is the change of the book, by cases of the changes. -/
theorem AppState.ChangedTo.holds {change : AccessChange}
    (changed : before.ChangedTo after spaceId change) (holds : before.Holds spaceId access)
    : after.Holds spaceId (access.apply change) := by
  cases change with
  | joined userId role =>
      obtain ⟨row, rfl, active, spaces, channels, permissions⟩ := changed
      have shown : (some row).filter (fun row => row.status = .active) = some row := by
        simp [active]
      refine holds.withRow (fun other => ?_) (fun user => spaces ▸ member?_withMember user)
        channels permissions
      rw [Table.lookup_insert_eq, shown]
      rfl
  | left userId =>
      obtain ⟨row, inactive, spaces, channels, permissions⟩ := changed
      have hidden : (some row).filter (fun row => row.status = .active) = none := by
        simp [inactive]
      refine holds.withRow (fun other => ?_) (fun user => spaces ▸ member?_withMember user)
        channels permissions
      rw [Table.lookup_erase_eq, hidden]
      rfl
  | roleCreated roleId name permissions =>
      obtain ⟨role, rfl, ofSpace, rfl, rfl, new, spaces, channels, permissions⟩ := changed
      refine ⟨?_, fun other => ?_, ?_, ?_⟩
      · rw [spaces]
        exact holds.members
      · rw [SpaceAccess.apply, Table.lookup_insert_eq, permissions, PermissionStore.getRole,
          Table.lookup_insert_eq]
        split
        · simp [ofSpace]
        · exact holds.roles other
      · rw [permissions]
        exact holds.assignments
      · rw [permissions, channels]
        exact holds.overrides
  | roleAssigned roleId userId assignedByUserId =>
      obtain ⟨known, spaces, channels, permissions⟩ := changed
      refine ⟨?_, ?_, fun role user => ?_, ?_⟩
      · rw [spaces]
        exact holds.members
      · rw [permissions]
        exact holds.roles
      · rw [SpaceAccess.apply, Table.lookup_insert_eq, permissions, Table.lookup_insert_eq]
        split
        · simp
        · exact holds.assignments role user
      · rw [permissions, channels]
        exact holds.overrides
  | overridden channelId targetKind targetId allow deny =>
      obtain ⟨place, spaces, channels, permissionOverride, rfl, rfl, permissions⟩ := changed
      refine ⟨?_, ?_, ?_, fun otherId channel stored ofSpace kind target => ?_⟩
      · rw [spaces]
        exact holds.members
      · rw [permissions]
        exact holds.roles
      · rw [permissions]
        exact holds.assignments
      · rw [channels] at stored
        rw [SpaceAccess.apply, Table.lookup_insert_eq, permissions, PermissionStore.override?,
          Table.lookup_insert_eq]
        split
        · simp
        · exact holds.overrides otherId channel stored ofSpace kind target

/-- A change of the access to one space is none of the access to another. -/
theorem AppState.ChangedTo.holds_elsewhere {change : AccessChange} (ordered : before.Ordered)
    (changed : before.ChangedTo after spaceId change) (differs : other ≠ spaceId)
    (holds : before.Holds other access)
    : after.Holds other access := by
  cases change with
  | joined userId role =>
      obtain ⟨row, _, _, spaces, channels, permissions⟩ := changed
      exact holds.kept (fun user => spaces ▸ member?_withMember_of_ne differs) channels permissions
  | left userId =>
      obtain ⟨row, _, spaces, channels, permissions⟩ := changed
      exact holds.kept (fun user => spaces ▸ member?_withMember_of_ne differs) channels permissions
  | roleCreated roleId name permissions =>
      obtain ⟨role, rfl, ofSpace, _, _, new, spaces, channels, permissions⟩ := changed
      refine ⟨?_, fun roleId => ?_, ?_, ?_⟩
      · rw [spaces]
        exact holds.members
      · rw [holds.roles, permissions, PermissionStore.getRole, PermissionStore.getRole,
          Table.lookup_insert_eq]
        split
        · next same =>
            rw [same, AList.lookup_eq_none.mpr new]
            simp [ofSpace, differs.symm]
        · rfl
      · rw [permissions]
        exact holds.assignments
      · rw [permissions, channels]
        exact holds.overrides
  | roleAssigned roleId userId assignedByUserId =>
      obtain ⟨⟨role, known, ofSpace⟩, spaces, channels, permissions⟩ := changed
      refine ⟨?_, ?_, fun otherRole user => ?_, ?_⟩
      · rw [spaces]
        exact holds.members
      · rw [permissions]
        exact holds.roles
      · rw [holds.assignments, permissions, Table.lookup_insert_eq]
        split
        · next same =>
            -- a role is assigned in its own space only
            have none : (before.permissions.assignmentsByRoleUser.lookup (otherRole, user)).filter
                (fun assignment => assignment.spaceId = other) = none := by
              rw [Option.filter_eq_none_iff]
              intro assignment stored inOther
              obtain ⟨ownRole, found, place⟩ := ordered.permissions.assigned _ assignment stored
              have key := ordered.permissions.keyed.assignments _ assignment stored
              rw [(Prod.mk.inj (key.trans same)).1, known] at found
              cases found
              exact differs ((of_decide_eq_true inOther).symm.trans (place.symm.trans ofSpace))
            rw [none]
            simp [differs.symm]
        · rfl
      · rw [permissions, channels]
        exact holds.overrides
  | overridden channelId targetKind targetId allow deny =>
      obtain ⟨⟨channel, stored, ofSpace⟩, spaces, channels, permissionOverride, _, _,
        permissions⟩ := changed
      refine ⟨?_, ?_, ?_, fun otherId otherChannel found ofOther kind target => ?_⟩
      · rw [spaces]
        exact holds.members
      · rw [permissions]
        exact holds.roles
      · rw [permissions]
        exact holds.assignments
      · rw [channels] at found
        rw [permissions, PermissionStore.override?, Table.lookup_insert_eq, if_neg]
        · exact holds.overrides otherId otherChannel found ofOther kind target
        · intro same
          rw [(Prod.mk.inj same).1, stored] at found
          cases found
          exact differs (ofOther.symm.trans ofSpace)

/-- Changes of access leave the stored spaces. -/
theorem AppState.ChangedTo.spacesById {change : AccessChange}
    (changed : before.ChangedTo after spaceId change)
    : after.spaces.spacesById = before.spaces.spacesById := by
  cases change with
  | joined =>
      obtain ⟨_, _, _, spaces, _⟩ := changed
      rw [spaces, SpaceStore.withMember]
  | left =>
      obtain ⟨_, _, spaces, _⟩ := changed
      rw [spaces, SpaceStore.withMember]
  | roleCreated =>
      obtain ⟨_, _, _, _, _, _, spaces, _⟩ := changed
      rw [spaces]
  | roleAssigned =>
      obtain ⟨_, spaces, _⟩ := changed
      rw [spaces]
  | overridden =>
      obtain ⟨_, spaces, _⟩ := changed
      rw [spaces]

/-- A new space has no founder in the stores. -/
theorem AppState.not_holds_foundedBy (new : state.NewSpace spaceId) (founderId : Uuid)
    : ¬ state.Holds spaceId (.foundedBy founderId) := by
  intro holds
  have unknown : state.spaces.member? spaceId founderId = none :=
    AList.lookup_eq_none.mpr fun stored => new.2.1 _ (AList.mem_keys.mpr stored) rfl
  have listed := holds.members founderId
  rw [unknown, SpaceAccess.foundedBy, AList.lookup_insert] at listed
  cases listed

theorem AppRequest.isAudited_of_invitee {request : AppRequest} {invitee : Uuid × Uuid}
    (invited : request.invitee state = some invitee)
    : request.IsAudited := by
  cases request <;> trivial

/-- What a request leaves that records no events itself: the book of a space stays right, or the
space is new and has its founder. By cases of the writes.
-/
theorem AccessWrite.holds {request : AppRequest}
    (write : AccessWrite crypto before request after) (keyed : before.Keyed)
    (unaudited : ¬ request.IsAudited) (holds : before.Holds spaceId access)
    (unused : ∀ stamp channelId token place body,
      request = .createChannel stamp channelId token place body → ∀ targetKind targetId,
        access.overrides.lookup (channelId, targetKind, targetId) = none
          ∧ before.permissions.override? channelId targetKind targetId = none)
    : after.Holds spaceId access
        ∧ (spaceId ∈ after.spaces.spacesById → spaceId ∈ before.spaces.spacesById)
      ∨ ∃ founderId, Founds crypto founderId spaceId before request ∧ before.NewSpace spaceId
          ∧ (before.Holds spaceId .empty → after.Holds spaceId (.foundedBy founderId)) := by
  cases write with
  | elsewhere spaces channels permissions =>
      refine .inl ⟨holds.kept (fun user => ?_) channels permissions, ?_⟩
      · rw [spaces]
      · rw [spaces]
        exact id
  | spaceCreated userId space token name asked made new spaces channels permissions =>
      by_cases same : spaceId = space.id
      · subst same
        have rows (user : Uuid) : after.spaces.member? space.id user
            = if user = userId then some ⟨space.id, userId, "owner", .active⟩
              else before.spaces.member? space.id user := by
          rw [spaces, SpaceStore.withSpace, SpaceStore.member?, Table.lookup_insert_eq]
          simp only [Prod.mk.injEq, true_and]
          rfl
        refine .inr ⟨userId, ⟨made, token, _, name, asked⟩, new, fun blank => ?_⟩
        refine blank.withRow (fun user => ?_) rows channels permissions
        rw [Table.lookup_insert_eq]
        rfl
      · refine .inl ⟨holds.kept (fun user => ?_) channels permissions, ?_⟩
        · rw [spaces, SpaceStore.member?, SpaceStore.withSpace, Table.lookup_insert_eq,
            if_neg (by simp [same])]
          rfl
        · rw [spaces, SpaceStore.withSpace, AList.mem_insert]
          exact fun stored => stored.resolve_left same
  | spaceWritten userId written made may members others channels permissions =>
      refine .inl ⟨holds.kept (fun user => ?_) channels permissions, ?_⟩
      · rw [SpaceStore.member?, members]
        rfl
      · intro stored
        by_cases same : spaceId = written
        · obtain ⟨space, found, _⟩ := may
          obtain ⟨_, own, stored, _⟩ := keyed.storedSpace found
          rw [same, ← own]
          exact Table.mem_of_lookup stored
        · rwa [← AList.lookup_isSome, ← others spaceId same, AList.lookup_isSome]
  | channelCreated userId channel made may new spaces channels permissions asked =>
      obtain ⟨stamp, token, body, asked⟩ := asked
      refine .inl ⟨⟨?_, ?_, ?_, fun otherId other stored ofSpace kind target => ?_⟩, ?_⟩
      · rw [spaces]
        exact holds.members
      · rw [permissions]
        exact holds.roles
      · rw [permissions]
        exact holds.assignments
      · rw [channels, ChannelStore.withChannel, Table.lookup_insert_eq] at stored
        rw [permissions]
        split at stored
        · next same =>
            obtain ⟨blank, free⟩ := unused stamp channel.id token _ body asked kind target
            rw [same, blank, free]
            rfl
        · exact holds.overrides otherId other stored ofSpace kind target
      · rw [spaces]
        exact id
  | channelWritten userId channel made may stored spaces version others permissions =>
      refine .inl ⟨⟨?_, ?_, ?_, fun otherId other found ofSpace kind target => ?_⟩, ?_⟩
      · rw [spaces]
        exact holds.members
      · rw [permissions]
        exact holds.roles
      · rw [permissions]
        exact holds.assignments
      · rw [permissions]
        by_cases same : otherId = channel.id
        · subst same
          have place := (version other found).spaceId.symm.trans ofSpace
          exact holds.overrides channel.id channel stored place kind target
        · rw [others otherId same] at found
          exact holds.overrides otherId other found ofSpace kind target
      · rw [spaces]
        exact id
  | memberInvited userId space memberId role made may invited =>
      exact absurd (AppRequest.isAudited_of_invitee invited) unaudited
  | memberRemoved userId space memberId row made may stored spaces channels permissions asked =>
      obtain ⟨stamp, token, rfl⟩ := asked
      exact absurd trivial unaudited
  | roleCreated userId role token body asked =>
      rw [asked] at unaudited
      exact absurd trivial unaudited
  | roleAssigned userId assignment role token member asked =>
      rw [asked] at unaudited
      exact absurd trivial unaudited
  | overridden userId channel permissionOverride stamp token body asked =>
      rw [asked] at unaudited
      exact absurd trivial unaudited

-----------------------------------------------------------------------------------------
-- Decisions by the book
-----------------------------------------------------------------------------------------

namespace AppState.Holds

variable {userId channelId : Uuid} {permission : Permission} {channel : Channel}
  {space : SpaceMembership} (holds : state.Holds spaceId access)

include holds

/-- The members of the book are those with an active row. -/
theorem members_eq_some {role : String}
    : access.members.lookup userId = some role
      ↔ ∃ row, state.spaces.member? spaceId userId = some row ∧ row.status = .active
          ∧ row.role = role := by
  rw [holds.members]
  simp only [Option.map_eq_some_iff, Option.filter_eq_some_iff, decide_eq_true_eq, and_assoc]

/-- The assigned roles of the book are the stored ones of the space. -/
theorem assigned_iff (ordered : state.Ordered) {roleId : Uuid} {permissions : List String}
    : access.Assigned userId roleId permissions
      ↔ ∃ role, state.permissions.Assigned spaceId userId role ∧ role.id = roleId
          ∧ permissionNames role.permissionsBitset = permissions := by
  simp only [SpaceAccess.Assigned, holds.assignments, holds.roles, PermissionStore.getRole,
    Option.isSome_map, Option.isSome_iff_exists, Option.filter_eq_some_iff,
    Option.map_eq_some_iff, decide_eq_true_eq, Prod.mk.injEq]
  constructor
  · rintro ⟨⟨assignment, listed, ofSpace⟩, name, role, ⟨stored, _⟩, _, named⟩
    obtain rfl := ordered.permissions.keyed.roles roleId role stored
    exact ⟨role, ⟨assignment, listed, ofSpace, stored⟩, rfl, named⟩
  · rintro ⟨role, ⟨assignment, listed, ofSpace, stored⟩, rfl, named⟩
    obtain ⟨own, found, place⟩ := ordered.permissions.assigned _ assignment listed
    have key := ordered.permissions.keyed.assignments _ assignment listed
    rw [(Prod.mk.inj key).1, stored] at found
    cases found
    exact ⟨⟨assignment, listed, ofSpace⟩, role.name, role, ⟨stored, place.trans ofSpace⟩, rfl,
      named⟩

section

variable (stored : state.channels.channelsById.lookup channelId = some channel)
  (place : channel.spaceId = spaceId) {bits : ChannelPermissionOverride → PermissionBits}
  {names : List String × List String → List String}
  (chosen : ∀ permissionOverride : ChannelPermissionOverride,
    names (permissionNames permissionOverride.allowBitset,
      permissionNames permissionOverride.denyBitset)
        = permissionNames (bits permissionOverride))

include stored place chosen

theorem override_iff (targetKind : PermissionTargetKind) (targetId : Uuid)
    : (∃ lists, access.overrides.lookup (channelId, targetKind, targetId) = some lists
          ∧ permission.asStr ∈ names lists)
      ↔ ∃ permissionOverride,
          state.permissions.override? channelId targetKind targetId = some permissionOverride
            ∧ (bits permissionOverride).Has permission := by
  simp only [holds.overrides channelId channel stored place, Option.map_eq_some_iff]
  constructor
  · rintro ⟨_, ⟨permissionOverride, written, rfl⟩, named⟩
    rw [chosen, asStr_mem_permissionNames] at named
    exact ⟨permissionOverride, written, named⟩
  · rintro ⟨permissionOverride, written, has⟩
    refine ⟨_, ⟨permissionOverride, written, rfl⟩, ?_⟩
    rwa [chosen, asStr_mem_permissionNames]

theorem memberOverride_iff (own : channel.id = channelId)
    : access.MemberOverride userId channelId permission names
      ↔ MemberOverride state.permissions userId channel permission bits := by
  rw [SpaceAccess.MemberOverride, holds.override_iff stored place chosen, MemberOverride, own]

theorem roleOverride_iff (ordered : state.Ordered) (own : channel.id = channelId)
    (inSpace : space.id = spaceId)
    : access.RoleOverride userId channelId permission names
      ↔ RoleOverride state.permissions userId space channel permission bits := by
  simp only [SpaceAccess.RoleOverride, holds.assigned_iff ordered,
    holds.override_iff stored place chosen, RoleOverride, own, inSpace]
  constructor
  · rintro ⟨_, _, ⟨role, assigned, rfl, rfl⟩, written⟩
    exact ⟨role, assigned, written⟩
  · rintro ⟨role, assigned, written⟩
    exact ⟨_, _, ⟨role, assigned, rfl, rfl⟩, written⟩

end

theorem roleBits_iff (ordered : state.Ordered) (inSpace : space.id = spaceId)
    : ((builtinPermissionsForRole space.role).Has permission
        ∨ ∃ roleId permissions, access.Assigned userId roleId permissions
          ∧ permission.asStr ∈ permissions)
      ↔ RoleBits state.permissions userId space permission := by
  simp only [holds.assigned_iff ordered, RoleBits, inSpace]
  refine or_congr_right ⟨?_, ?_⟩
  · rintro ⟨_, _, ⟨role, assigned, rfl, rfl⟩, named⟩
    exact ⟨role, assigned, asStr_mem_permissionNames.mp named⟩
  · rintro ⟨role, assigned, has⟩
    exact ⟨_, _, ⟨role, assigned, rfl, rfl⟩, asStr_mem_permissionNames.mpr has⟩

/-- The book decides as the server does, in every stored channel of the space. -/
theorem mayInChannel_iff (ordered : state.Ordered)
    (known : spaceId ∈ state.spaces.spacesById)
    (stored : state.channels.channelsById.lookup channelId = some channel)
    (place : channel.spaceId = spaceId)
    : state.MayInChannel userId spaceId channelId permission
      ↔ access.May userId channelId permission := by
  have own := ordered.keyed.channels channelId channel stored
  obtain ⟨storedSpace, found⟩ := Option.isSome_iff_exists.mp (AList.lookup_isSome.mpr known)
  have inSpace := ordered.keyed.spaces spaceId storedSpace found
  -- a membership with the role of the book decides by the rules of the book
  have decides (role : String) :
      PermissionService.canInChannel state.permissions userId (.of storedSpace role) channel
          permission = true
        ↔ Decides
            ((builtinPermissionsForRole role).Has permission
              ∨ ∃ roleId permissions, access.Assigned userId roleId permissions
                ∧ permission.asStr ∈ permissions)
            [(role = "owner" ∨ role = "admin", True),
              (access.MemberOverride userId channelId permission Prod.snd, False),
              (access.MemberOverride userId channelId permission Prod.fst, True),
              (access.RoleOverride userId channelId permission Prod.snd, False),
              (access.RoleOverride userId channelId permission Prod.fst, True)] := by
    have same : (SpaceMembership.of storedSpace role).id = spaceId := inSpace
    have allows (written : ChannelPermissionOverride) :
        Prod.fst (permissionNames written.allowBitset, permissionNames written.denyBitset)
          = permissionNames written.allowBitset := rfl
    have denies (written : ChannelPermissionOverride) :
        Prod.snd (permissionNames written.allowBitset, permissionNames written.denyBitset)
          = permissionNames written.denyBitset := rfl
    rw [ordered.permissions.keyed.canInChannel_iff, ChannelRules,
      ← holds.roleBits_iff ordered same,
      ← holds.memberOverride_iff stored place denies own,
      ← holds.memberOverride_iff stored place allows own,
      ← holds.roleOverride_iff stored place denies ordered own same,
      ← holds.roleOverride_iff stored place allows ordered own same]
    rfl
  constructor
  · rintro ⟨other, membership, entered, _⟩
    obtain ⟨again, visible, permitted⟩ := enterChannel_ok entered
    cases stored.symm.trans again
    obtain ⟨row, space, member, active, foundAgain, rfl⟩ := spaceForUser_eq_ok.mp visible
    rw [place, found] at foundAgain
    cases foundAgain
    rw [place] at member
    exact ⟨row.role, holds.members_eq_some.mpr ⟨row, member, active, rfl⟩,
      (decides row.role).mp permitted⟩
  · rintro ⟨role, listed, permitted⟩
    obtain ⟨row, member, active, rfl⟩ := holds.members_eq_some.mp listed
    have visible : state.spaceForUser userId channel.spaceId
        = .ok (.of storedSpace row.role) :=
      spaceForUser_eq_ok.mpr ⟨row, storedSpace, place ▸ member, active, place ▸ found, rfl⟩
    exact ⟨channel, _, enterChannel_eq_ok.mpr ⟨stored, visible, (decides row.role).mpr permitted⟩,
      place⟩

end AppState.Holds

end OpenCord.Server

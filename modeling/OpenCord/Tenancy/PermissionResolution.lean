import OpenCord.Library.BitSets
import OpenCord.Library.Runs
import OpenCord.Tenancy.Permissions

/-! How channel permissions are decided, permission by permission: the bitsets that the
service accumulates compute a list of rules of which the first that applies decides.
-/

namespace OpenCord.Tenancy

open OpenCord.Library OpenCord.Platform

/-- A set of permissions has a permission. -/
def PermissionBits.Has (bits : PermissionBits) (permission : Permission) : Prop :=
  bits.getLsbD permission.position = true

instance (bits : PermissionBits) (permission : Permission)
    : Decidable (bits.Has permission) :=
  inferInstanceAs (Decidable (_ = true))

theorem Permission.position_lt (permission : Permission) : permission.position < 64 := by
  cases permission <;> decide

theorem PermissionBits.has_iff {bits : PermissionBits} {permission : Permission}
    : bits &&& permission.bit ≠ 0 ↔ bits.Has permission :=
  BitSets.and_bit_ne_zero permission.position_lt

-----------------------------------------------------------------------------------------
-- The rules
-----------------------------------------------------------------------------------------

open Classical in
/-- The first of some rules that applies decides, and a default if none does. -/
def Decides (default : Prop) : List (Prop × Prop) → Prop
  | [] => default
  | (applies, answer) :: rules => if applies then answer else Decides default rules

/-- A stored role that is assigned to a user in a space. -/
def PermissionStore.Assigned (store : PermissionStore) (spaceId userId : Uuid) (role : Role)
    : Prop :=
  ∃ assignment, store.assignmentsByRoleUser.lookup (role.id, userId) = some assignment
    ∧ assignment.spaceId = spaceId ∧ store.rolesById.lookup role.id = some role

/-- The override of a channel for a target. -/
def PermissionStore.override? (store : PermissionStore) (channelId : Uuid)
    (targetKind : PermissionTargetKind) (targetId : Uuid) : Option ChannelPermissionOverride :=
  store.overridesByTarget.lookup (channelId, targetKind, targetId)

section

variable (store : PermissionStore) (userId : Uuid) (space : SpaceMembership)
  (channel : Channel) (permission : Permission)

/-- The user's own override in the channel has the permission in the chosen bits. -/
def MemberOverride (bits : ChannelPermissionOverride → PermissionBits) : Prop :=
  ∃ own, store.override? channel.id .member userId = some own ∧ (bits own).Has permission

/-- The override of some role assigned to the user has the permission in the chosen bits. -/
def RoleOverride (bits : ChannelPermissionOverride → PermissionBits) : Prop :=
  ∃ role, store.Assigned space.id userId role ∧
    ∃ ofRole, store.override? channel.id .role role.id = some ofRole
      ∧ (bits ofRole).Has permission

/-- The built-in bits of the space role or some assigned role have the permission. -/
def RoleBits : Prop :=
  (builtinPermissionsForRole space.role).Has permission
    ∨ ∃ role, store.Assigned space.id userId role ∧ role.permissionsBitset.Has permission

/-- The rules of a channel. -/
def ChannelRules : Prop :=
  Decides (RoleBits store userId space permission)
    [(space.role = "owner" ∨ space.role = "admin", True),
      (MemberOverride store userId channel permission (·.denyBitset), False),
      (MemberOverride store userId channel permission (·.allowBitset), True),
      (RoleOverride store userId space channel permission (·.denyBitset), False),
      (RoleOverride store userId space channel permission (·.allowBitset), True)]

end

-----------------------------------------------------------------------------------------
-- Reachable stores
-----------------------------------------------------------------------------------------

/-- The operations on the store. -/
inductive PermissionOperation where
  | createRole (role : Role)
  | assignRole (assignment : RoleAssignment)
  | upsertChannelOverride (permissionOverride : ChannelPermissionOverride)

/-- The store after an operation, whether or not it succeeds. -/
def PermissionStore.step (store : PermissionStore) : PermissionOperation → Option PermissionStore
  | .createRole role => some ((PermissionStore.createRole role).after store)
  | .assignRole assignment => some ((PermissionStore.assignRole assignment).after store)
  | .upsertChannelOverride permissionOverride =>
      some ((PermissionStore.upsertChannelOverride permissionOverride).after store)

/-- Everything is stored under its own key. -/
structure PermissionStore.Keyed (store : PermissionStore) : Prop where
  roles : ∀ roleId role, store.rolesById.lookup roleId = some role → role.id = roleId
  assignments : ∀ key assignment, store.assignmentsByRoleUser.lookup key = some assignment →
    (assignment.roleId, assignment.userId) = key
  overrides : ∀ key permissionOverride,
    store.overridesByTarget.lookup key = some permissionOverride →
      (permissionOverride.channelId, permissionOverride.targetKind,
        permissionOverride.targetId) = key

theorem PermissionStore.Keyed.step {store next : PermissionStore} (keyed : store.Keyed)
    {operation : PermissionOperation} (stepped : store.step operation = some next)
    : next.Keyed := by
  cases operation with
  | createRole role =>
      cases stepped
      show Keyed ((PermissionStore.createRole role).after store)
      unfold PermissionStore.createRole
      rw [Eff.after_get_bind]
      dsimp only
      split
      · exact keyed
      · exact ⟨Table.forall_insert rfl keyed.roles, keyed.assignments, keyed.overrides⟩
  | assignRole assignment =>
      cases stepped
      show Keyed ((PermissionStore.assignRole assignment).after store)
      unfold PermissionStore.assignRole
      rw [Eff.after_get_bind]
      split
      · exact ⟨keyed.roles, Table.forall_insert rfl keyed.assignments, keyed.overrides⟩
      · exact keyed
  | upsertChannelOverride permissionOverride =>
      cases stepped
      exact ⟨keyed.roles, keyed.assignments, Table.forall_insert rfl keyed.overrides⟩

theorem PermissionStore.Keyed.empty : PermissionStore.empty.Keyed :=
  ⟨nofun, nofun, nofun⟩

/-- Stored rows stay under their keys in every run. -/
theorem PermissionStore.keyed_of_reachable {store : PermissionStore}
    (reachable : Reachable PermissionStore.step .empty store)
    : store.Keyed :=
  reachable.invariant .empty fun _ _ _ keyed stepped => keyed.step stepped

-----------------------------------------------------------------------------------------
-- Accumulated bits
-----------------------------------------------------------------------------------------

def ChannelPermissionOverride.concernsRoles (roleIds : List Uuid)
    (permissionOverride : ChannelPermissionOverride) : Bool :=
  permissionOverride.targetKind = .role ∧ permissionOverride.targetId ∈ roleIds

def ChannelPermissionOverride.concernsMember (userId : Uuid)
    (permissionOverride : ChannelPermissionOverride) : Bool :=
  permissionOverride.targetKind = .member ∧ permissionOverride.targetId = userId

/-- The union of the chosen bits of overrides. -/
def unionBits (bits : ChannelPermissionOverride → PermissionBits) (first : PermissionBits)
    (overrides : List ChannelPermissionOverride) : PermissionBits :=
  overrides.foldl (fun joined permissionOverride => joined ||| bits permissionOverride) first

/-- Each accumulated bitset is the union over the overrides it is about, by induction over
the overrides.
-/
theorem foldl_collect (userId : Uuid) (roleIds : List Uuid)
    (overrides : List ChannelPermissionOverride) (bits : OverrideBits)
    : overrides.foldl (OverrideBits.collect userId roleIds) bits
      = ⟨unionBits (·.allowBitset) bits.roleAllow
            (overrides.filter (·.concernsRoles roleIds)),
          unionBits (·.denyBitset) bits.roleDeny (overrides.filter (·.concernsRoles roleIds)),
          unionBits (·.allowBitset) bits.memberAllow
            (overrides.filter (·.concernsMember userId)),
          unionBits (·.denyBitset) bits.memberDeny
            (overrides.filter (·.concernsMember userId))⟩ := by
  induction overrides generalizing bits with
  | nil => rfl
  | cons first overrides ih =>
      rw [List.foldl_cons, ih, OverrideBits.collect]
      cases kind : first.targetKind with
      | role =>
          by_cases listed : first.targetId ∈ roleIds <;>
            simp [ChannelPermissionOverride.concernsRoles,
              ChannelPermissionOverride.concernsMember, kind, listed, unionBits]
      | member =>
          by_cases own : first.targetId = userId <;>
            simp [ChannelPermissionOverride.concernsRoles,
              ChannelPermissionOverride.concernsMember, kind, own, unionBits]

/-- A union of overrides has a permission when one of them has it. -/
theorem has_unionBits {bits : ChannelPermissionOverride → PermissionBits}
    {concerns : ChannelPermissionOverride → Bool}
    {overrides : List ChannelPermissionOverride} {permission : Permission}
    : (unionBits bits 0 (overrides.filter concerns)).Has permission
      ↔ ∃ permissionOverride ∈ overrides, concerns permissionOverride = true
          ∧ (bits permissionOverride).Has permission := by
  rw [PermissionBits.Has, unionBits, BitSets.getLsbD_union, BitVec.ofNat_eq_ofNat,
    BitVec.getLsbD_zero, Bool.false_or, List.any_filter, List.any_eq_true]
  simp only [Bool.and_eq_true, PermissionBits.Has]

/-- Denied bits are taken out and allowed ones put in for roles, then for the member, so the
member's override comes first and a denial before a grant.
-/
theorem precedence (effective roleAllow roleDeny memberAllow memberDeny : Bool)
    : (((effective && !roleDeny) || (roleAllow && !roleDeny)) && !memberDeny
        || (memberAllow && !memberDeny)) = true
      ↔ Decides (effective = true)
          [(memberDeny = true, False), (memberAllow = true, True), (roleDeny = true, False),
            (roleAllow = true, True)] := by
  cases memberDeny <;> cases memberAllow <;> cases roleDeny <;> cases roleAllow <;>
    simp [Decides]

/-- Overrides decide a permission before the bits they apply to. -/
theorem has_applyChannelOverrides {effective : PermissionBits} {userId : Uuid}
    {roleIds : List Uuid} {overrides : List ChannelPermissionOverride}
    {permission : Permission}
    : (applyChannelOverrides effective userId roleIds overrides).Has permission
      ↔ Decides (effective.Has permission)
          [(∃ own ∈ overrides, own.concernsMember userId = true
              ∧ own.denyBitset.Has permission, False),
            (∃ own ∈ overrides, own.concernsMember userId = true
              ∧ own.allowBitset.Has permission, True),
            (∃ ofRole ∈ overrides, ofRole.concernsRoles roleIds = true
              ∧ ofRole.denyBitset.Has permission, False),
            (∃ ofRole ∈ overrides, ofRole.concernsRoles roleIds = true
              ∧ ofRole.allowBitset.Has permission, True)] := by
  simp only [← has_unionBits]
  rw [applyChannelOverrides, foldl_collect, PermissionBits.Has]
  simp only [BitVec.getLsbD_or, BitVec.getLsbD_and, BitVec.getLsbD_not, permission.position_lt,
    decide_true, Bool.true_and]
  exact precedence ..

-----------------------------------------------------------------------------------------
-- What the queries find
-----------------------------------------------------------------------------------------

variable {store : PermissionStore} {userId : Uuid} {space : SpaceMembership}
  {channel : Channel} {permission : Permission}

/-- The assigned roles of a user are the stored roles with an assignment in the space. -/
theorem PermissionStore.Keyed.mem_assignedRoles (keyed : store.Keyed) {spaceId : Uuid}
    {assigned : AssignedRole}
    : assigned ∈ store.assignedRolesForUser spaceId userId
      ↔ ∃ role, store.Assigned spaceId userId role
          ∧ assigned = ⟨role.id, role.permissionsBitset⟩ := by
  rw [assignedRolesForUser, List.mem_filterMap]
  constructor
  · intro found
    obtain ⟨assignment, listed, named⟩ := found
    obtain ⟨stored, inSpace⟩ := List.mem_filter.mp listed
    obtain ⟨key, stored⟩ := Table.mem_values.mp stored
    obtain ⟨sameSpace, sameUser⟩ := of_decide_eq_true inSpace
    obtain ⟨role, known, rfl⟩ := Option.map_eq_some_iff.mp named
    have sameRole := keyed.roles _ role known
    have sameKey := keyed.assignments key assignment stored
    rw [← sameKey, sameUser, ← sameRole] at stored
    rw [← sameRole] at known
    exact ⟨role, ⟨assignment, stored, sameSpace, known⟩, rfl⟩
  · intro found
    obtain ⟨role, ⟨assignment, stored, sameSpace, known⟩, rfl⟩ := found
    have sameKey := keyed.assignments _ assignment stored
    obtain ⟨sameRole, sameUser⟩ := Prod.mk.inj sameKey
    refine ⟨assignment, List.mem_filter.mpr ⟨Table.mem_values.mpr ⟨_, stored⟩, ?_⟩, ?_⟩
    · exact decide_eq_true ⟨sameSpace, sameUser⟩
    · rw [sameRole, known, Option.map_some]

/-- The accumulated role bits are the built-in ones and those of the assigned roles. -/
theorem PermissionStore.Keyed.has_effective (keyed : store.Keyed)
    : PermissionBits.Has ((store.assignedRolesForUser space.id userId).foldl
        (fun bitset role => bitset ||| role.permissionsBitset)
        (builtinPermissionsForRole space.role)) permission
      ↔ RoleBits store userId space permission := by
  rw [RoleBits, PermissionBits.Has, BitSets.getLsbD_union, Bool.or_eq_true, List.any_eq_true]
  refine or_congr Iff.rfl ⟨fun found => ?_, fun found => ?_⟩
  · obtain ⟨assigned, listed, has⟩ := found
    obtain ⟨role, isAssigned, rfl⟩ := keyed.mem_assignedRoles.mp listed
    exact ⟨role, isAssigned, has⟩
  · obtain ⟨role, isAssigned, has⟩ := found
    exact ⟨_, keyed.mem_assignedRoles.mpr ⟨role, isAssigned, rfl⟩, has⟩

/-- Among the fetched overrides, those of the member are the one stored for the member. -/
theorem PermissionStore.Keyed.memberOverride_iff (keyed : store.Keyed) {roleIds : List Uuid}
    (bits : ChannelPermissionOverride → PermissionBits)
    : (∃ own ∈ store.channelOverridesForUser channel.id userId roleIds,
        own.concernsMember userId = true ∧ (bits own).Has permission)
      ↔ MemberOverride store userId channel permission bits := by
  constructor
  · intro found
    obtain ⟨own, listed, concerns, has⟩ := found
    obtain ⟨listed, _⟩ := List.mem_filter.mp listed
    obtain ⟨stored, inChannel⟩ := List.mem_filter.mp listed
    obtain ⟨key, stored⟩ := Table.mem_values.mp stored
    obtain ⟨isMember, isOwn⟩ := of_decide_eq_true concerns
    have sameKey := keyed.overrides key own stored
    rw [← sameKey, of_decide_eq_true inChannel, isMember, isOwn] at stored
    exact ⟨own, stored, has⟩
  · intro found
    obtain ⟨own, stored, has⟩ := found
    have sameKey := keyed.overrides _ own stored
    simp only [Prod.mk.injEq] at sameKey
    obtain ⟨inChannel, isMember, isOwn⟩ := sameKey
    refine ⟨own, List.mem_filter.mpr ⟨List.mem_filter.mpr ⟨?_, ?_⟩, ?_⟩, ?_, has⟩
    · exact Table.mem_values.mpr ⟨_, stored⟩
    · exact decide_eq_true inChannel
    · exact decide_eq_true (.inl isOwn)
    · exact decide_eq_true ⟨isMember, isOwn⟩

/-- Among the fetched overrides, those of roles are the ones of assigned roles. -/
theorem PermissionStore.Keyed.roleOverride_iff (keyed : store.Keyed)
    (bits : ChannelPermissionOverride → PermissionBits)
    : (∃ ofRole ∈ store.channelOverridesForUser channel.id userId
          ((store.assignedRolesForUser space.id userId).map AssignedRole.id),
        ofRole.concernsRoles
            ((store.assignedRolesForUser space.id userId).map AssignedRole.id) = true
          ∧ (bits ofRole).Has permission)
      ↔ RoleOverride store userId space channel permission bits := by
  constructor
  · intro found
    obtain ⟨ofRole, listed, concerns, has⟩ := found
    obtain ⟨listed, _⟩ := List.mem_filter.mp listed
    obtain ⟨stored, inChannel⟩ := List.mem_filter.mp listed
    obtain ⟨key, stored⟩ := Table.mem_values.mp stored
    obtain ⟨isRole, assigned⟩ := of_decide_eq_true concerns
    obtain ⟨assignedRole, listed, isTarget⟩ := List.mem_map.mp assigned
    obtain ⟨role, isAssigned, rfl⟩ := keyed.mem_assignedRoles.mp listed
    have sameKey := keyed.overrides key ofRole stored
    rw [← sameKey, of_decide_eq_true inChannel, isRole, ← isTarget] at stored
    exact ⟨role, isAssigned, ofRole, stored, has⟩
  · intro found
    obtain ⟨role, isAssigned, ofRole, stored, has⟩ := found
    have sameKey := keyed.overrides _ ofRole stored
    simp only [Prod.mk.injEq] at sameKey
    obtain ⟨inChannel, isRole, isTarget⟩ := sameKey
    have assigned : ofRole.targetId
        ∈ (store.assignedRolesForUser space.id userId).map AssignedRole.id := by
      rw [isTarget]
      exact List.mem_map.mpr ⟨_, keyed.mem_assignedRoles.mpr ⟨role, isAssigned, rfl⟩, rfl⟩
    refine ⟨ofRole, List.mem_filter.mpr ⟨List.mem_filter.mpr ⟨?_, ?_⟩, ?_⟩, ?_, has⟩
    · exact Table.mem_values.mpr ⟨_, stored⟩
    · exact decide_eq_true inChannel
    · exact decide_eq_true (.inr assigned)
    · exact decide_eq_true ⟨isRole, assigned⟩

-----------------------------------------------------------------------------------------
-- Main result
-----------------------------------------------------------------------------------------

/-- The service decides as the rules say, where everything is stored under its key. -/
theorem PermissionStore.Keyed.canInChannel_iff (keyed : store.Keyed)
    : PermissionService.canInChannel store userId space channel permission = true
      ↔ ChannelRules store userId space channel permission := by
  rw [PermissionService.canInChannel, ChannelRules, Decides]
  by_cases admin : space.role = "owner" ∨ space.role = "admin"
  · have isAdmin : isAdminRole space.role = true := decide_eq_true admin
    rw [if_pos isAdmin, if_pos admin]
    exact iff_of_true rfl trivial
  · have notAdmin : ¬ isAdminRole space.role = true := fun isAdmin =>
      admin (of_decide_eq_true isAdmin)
    rw [if_neg notAdmin, if_neg admin, decide_eq_true_iff, PermissionBits.has_iff,
      has_applyChannelOverrides]
    rw [propext (keyed.memberOverride_iff (·.denyBitset)),
      propext (keyed.roleOverride_iff (·.denyBitset)),
      propext (keyed.memberOverride_iff (·.allowBitset)),
      propext (keyed.roleOverride_iff (·.allowBitset)), propext keyed.has_effective]

/-- Two stores hold the same roles of a user and the same overrides for the user and these
roles in a channel.
-/
structure PermissionStore.SameFor (store other : PermissionStore)
    (userId spaceId channelId : Uuid) : Prop where
  roles : ∀ role, store.Assigned spaceId userId role ↔ other.Assigned spaceId userId role
  member : store.override? channelId .member userId = other.override? channelId .member userId
  role : ∀ role, store.Assigned spaceId userId role →
    store.override? channelId .role role.id = other.override? channelId .role role.id

/-- Two stores list the same rows, in any order. -/
structure PermissionStore.Permuted (store other : PermissionStore) : Prop where
  roles : store.rolesById.entries.Perm other.rolesById.entries
  assignments : store.assignmentsByRoleUser.entries.Perm other.assignmentsByRoleUser.entries
  overrides : store.overridesByTarget.entries.Perm other.overridesByTarget.entries

/-- The rules look at nothing but the roles of the user and the overrides for them. -/
theorem PermissionStore.SameFor.rules_iff {other : PermissionStore}
    (same : store.SameFor other userId space.id channel.id)
    : ChannelRules store userId space channel permission
      ↔ ChannelRules other userId space channel permission := by
  have member (bits : ChannelPermissionOverride → PermissionBits)
      : MemberOverride store userId channel permission bits
        ↔ MemberOverride other userId channel permission bits := by
    rw [MemberOverride, MemberOverride, same.member]
  have ofRole (bits : ChannelPermissionOverride → PermissionBits)
      : RoleOverride store userId space channel permission bits
        ↔ RoleOverride other userId space channel permission bits := by
    refine exists_congr fun role => ?_
    rw [← same.roles]
    refine and_congr_right fun assigned => ?_
    rw [same.role role assigned]
  simp only [ChannelRules, RoleBits, member, ofRole, same.roles]

/-- Rows in another order answer the same lookups. -/
theorem PermissionStore.Permuted.sameFor {other : PermissionStore}
    (permuted : store.Permuted other) (userId spaceId channelId : Uuid)
    : store.SameFor other userId spaceId channelId := by
  have overrides (key : Uuid × PermissionTargetKind × Uuid)
      : store.overridesByTarget.lookup key = other.overridesByTarget.lookup key :=
    AList.perm_lookup permuted.overrides
  refine ⟨fun role => ?_, overrides _, fun role _ => overrides _⟩
  simp only [PermissionStore.Assigned, AList.perm_lookup permuted.assignments,
    AList.perm_lookup permuted.roles]

theorem PermissionStore.Keyed.permuted {other : PermissionStore} (keyed : store.Keyed)
    (permuted : store.Permuted other)
    : other.Keyed := by
  refine ⟨?_, ?_, ?_⟩
  · simp only [← AList.perm_lookup permuted.roles]
    exact keyed.roles
  · simp only [← AList.perm_lookup permuted.assignments]
    exact keyed.assignments
  · simp only [← AList.perm_lookup permuted.overrides]
    exact keyed.overrides

/-- In a reachable store the rules decide what a user may do in a channel; neither the order
of the rows nor any row about other channels, users or unassigned roles matters.
-/
theorem canInChannel_eq_rules (reachable : Reachable PermissionStore.step .empty store)
    (userId : Uuid) (space : SpaceMembership) (channel : Channel) (permission : Permission)
    : (PermissionService.canInChannel store userId space channel permission = true
        ↔ ChannelRules store userId space channel permission)
      ∧ (∀ other, store.Permuted other →
          PermissionService.canInChannel other userId space channel permission
            = PermissionService.canInChannel store userId space channel permission)
      ∧ ∀ other, Reachable PermissionStore.step .empty other →
          store.SameFor other userId space.id channel.id →
            PermissionService.canInChannel other userId space channel permission
              = PermissionService.canInChannel store userId space channel permission := by
  have keyed := PermissionStore.keyed_of_reachable reachable
  have agree (other : PermissionStore) (otherKeyed : other.Keyed)
      (same : store.SameFor other userId space.id channel.id)
      : PermissionService.canInChannel other userId space channel permission
        = PermissionService.canInChannel store userId space channel permission := by
    rw [Bool.eq_iff_iff, keyed.canInChannel_iff, otherKeyed.canInChannel_iff]
    exact same.rules_iff.symm
  refine ⟨keyed.canInChannel_iff, fun other permuted => ?_, fun other otherReachable same => ?_⟩
  · exact agree other (keyed.permuted permuted) (permuted.sameFor ..)
  · exact agree other (PermissionStore.keyed_of_reachable otherReachable) same

namespace Moderated

def user : Uuid := .ofNat 1
def helpers : Role := ⟨.ofNat 40, .ofNat 10, .ofNat 20, "Helpers", none, 0, 0⟩
def lobby : SpaceMembership := ⟨.ofNat 20, .ofNat 10, "lobby", "Lobby", "guest"⟩
def news : Channel :=
  ⟨.ofNat 30, .ofNat 10, .ofNat 20, "text", "news", "news", 0, none, false⟩

def helpersDenied : ChannelPermissionOverride :=
  ⟨news.id, .role, helpers.id, 0, Permission.sendMessages.bit⟩

def userAllowed : ChannelPermissionOverride :=
  ⟨news.id, .member, user, Permission.sendMessages.bit, 0⟩

/-- A helper who may write in a channel where helpers may not. -/
def operations : List PermissionOperation :=
  [.createRole helpers, .assignRole ⟨lobby.id, helpers.id, user, user⟩,
    .upsertChannelOverride helpersDenied, .upsertChannelOverride userAllowed]

/-- The same, with the overrides set in the other order. -/
def reordered : List PermissionOperation :=
  [.createRole helpers, .assignRole ⟨lobby.id, helpers.id, user, user⟩,
    .upsertChannelOverride userAllowed, .upsertChannelOverride helpersDenied]

/-- The same, with an override for helpers in another channel. -/
def extended : List PermissionOperation :=
  operations ++ [.upsertChannelOverride { helpersDenied with channelId := .ofNat 31 }]

end Moderated

open Moderated in
theorem moderated_rules
    : ∃ store permuted other, run PermissionStore.step .empty operations = some store
        ∧ run PermissionStore.step .empty reordered = some permuted
        ∧ run PermissionStore.step .empty extended = some other
        ∧ ChannelRules store user lobby news .sendMessages
        ∧ PermissionService.canInChannel permuted user lobby news .sendMessages = true
        ∧ PermissionService.canInChannel other user lobby news .sendMessages = true := by
  have facts : (run PermissionStore.step .empty operations).any fun store =>
      PermissionService.canInChannel store user lobby news .sendMessages = true := by
    decide +kernel
  obtain ⟨store, ran, facts⟩ := (Option.any_eq_true _ _).mp facts
  have allowed := of_decide_eq_true facts
  obtain ⟨rules, inAnyOrder, whateverElse⟩ :=
    canInChannel_eq_rules ⟨_, ran⟩ user lobby news .sendMessages
  obtain rfl := Option.some.inj ran
  refine ⟨_, _, _, rfl, rfl, rfl, rules.mp allowed, ?_, ?_⟩
  · rw [inAnyOrder _ ⟨?_, ?_, ?_⟩, allowed]
    · exact .refl _
    · exact .refl _
    · exact .swap ..
  · rw [whateverElse _ ⟨extended, rfl⟩ ⟨?_, ?_, ?_⟩, allowed]
    · exact fun role => Iff.rfl
    · exact (AList.lookup_insert_ne (by decide)).symm
    · refine fun role _ => (AList.lookup_insert_ne fun same => ?_).symm
      have sameChannel : news.id = .ofNat 31 := congrArg Prod.fst same
      exact absurd sameChannel (by decide)

end OpenCord.Tenancy

import OpenCord.Tenancy.PermissionResolution

/-! Private channels. The flag is stored with a channel and shown, but no permission depends on
it: who sees a channel is decided by roles and overrides, for private channels as for others.
-/

namespace OpenCord.Tenancy

open OpenCord.Library OpenCord.Platform

/-- A stored override of a channel for a user or for a role assigned to the user. -/
structure PermissionStore.Concerns (store : PermissionStore) (userId : Uuid)
    (space : SpaceMembership) (channel : Channel)
    (permissionOverride : ChannelPermissionOverride) : Prop where
  stored : permissionOverride ∈ store.overridesByTarget.values
  inChannel : permissionOverride.channelId = channel.id
  targets : permissionOverride.targetKind = .member ∧ permissionOverride.targetId = userId
    ∨ permissionOverride.targetKind = .role ∧ permissionOverride.targetId
      ∈ (store.assignedRolesForUser space.id userId).map AssignedRole.id

/-- Some override that concerns the user has the permission in the chosen bits. -/
def PermissionStore.SomeOverride (store : PermissionStore) (userId : Uuid)
    (space : SpaceMembership) (channel : Channel) (permission : Permission)
    (bits : ChannelPermissionOverride → PermissionBits) : Prop :=
  ∃ permissionOverride, store.Concerns userId space channel permissionOverride
    ∧ (bits permissionOverride).Has permission

variable {store : PermissionStore} {userId : Uuid} {space : SpaceMembership} {channel : Channel}
  {permission : Permission}

theorem PermissionStore.mem_channelOverridesForUser {roleIds : List Uuid}
    {permissionOverride : ChannelPermissionOverride}
    : permissionOverride ∈ store.channelOverridesForUser channel.id userId roleIds
      ↔ permissionOverride ∈ store.overridesByTarget.values
        ∧ permissionOverride.channelId = channel.id
        ∧ (permissionOverride.targetId = userId ∨ permissionOverride.targetId ∈ roleIds) := by
  simp only [channelOverridesForUser, List.mem_filter, decide_eq_true_eq, and_assoc]

/-- Among the fetched overrides, those of the member or of an assigned role concern the user. -/
theorem PermissionStore.someOverride_iff (bits : ChannelPermissionOverride → PermissionBits)
    : store.SomeOverride userId space channel permission bits
      ↔ (∃ own ∈ store.channelOverridesForUser channel.id userId
            ((store.assignedRolesForUser space.id userId).map AssignedRole.id),
          own.concernsMember userId = true ∧ (bits own).Has permission)
        ∨ ∃ ofRole ∈ store.channelOverridesForUser channel.id userId
            ((store.assignedRolesForUser space.id userId).map AssignedRole.id),
          ofRole.concernsRoles
              ((store.assignedRolesForUser space.id userId).map AssignedRole.id) = true
            ∧ (bits ofRole).Has permission := by
  simp only [mem_channelOverridesForUser, ChannelPermissionOverride.concernsMember,
    ChannelPermissionOverride.concernsRoles, decide_eq_true_eq]
  constructor
  · rintro ⟨found, ⟨stored, inChannel, member | role⟩, has⟩
    · exact .inl ⟨found, ⟨stored, inChannel, .inl member.2⟩, member, has⟩
    · exact .inr ⟨found, ⟨stored, inChannel, .inr role.2⟩, role, has⟩
  · rintro (⟨own, ⟨stored, inChannel, _⟩, member, has⟩
      | ⟨ofRole, ⟨stored, inChannel, _⟩, role, has⟩)
    · exact ⟨own, ⟨stored, inChannel, .inl member⟩, has⟩
    · exact ⟨ofRole, ⟨stored, inChannel, .inr role⟩, has⟩

/-- Without an override that allows it, a member has a permission in a channel only by role, and
only if no override denies it.
-/
theorem PermissionStore.granted_of_canInChannel
    (notAdmin : space.role ≠ "owner" ∧ space.role ≠ "admin")
    (can : PermissionService.canInChannel store userId space channel permission = true)
    : store.SomeOverride userId space channel permission (·.allowBitset)
      ∨ ((builtinPermissionsForRole space.role).Has permission
          ∨ ∃ assigned ∈ store.assignedRolesForUser space.id userId,
            assigned.permissionsBitset.Has permission)
        ∧ ¬ store.SomeOverride userId space channel permission (·.denyBitset) := by
  have noAdmin : ¬ isAdminRole space.role = true := by
    intro admin
    rcases of_decide_eq_true admin with owner | admin
    · exact notAdmin.1 owner
    · exact notAdmin.2 admin
  rw [PermissionService.canInChannel, if_neg noAdmin, decide_eq_true_iff, PermissionBits.has_iff,
    has_applyChannelOverrides] at can
  rw [someOverride_iff, someOverride_iff]
  simp only [Decides] at can
  split_ifs at can with memberDenies memberAllows roleDenies roleAllows
  · exact .inl (.inl memberAllows)
  · exact .inl (.inr roleAllows)
  · refine .inr ⟨?_, not_or.mpr ⟨memberDenies, roleDenies⟩⟩
    rw [PermissionBits.Has, BitSets.getLsbD_union, Bool.or_eq_true, List.any_eq_true] at can
    exact can

/-- The built-in roles that see channels, the owners and admins apart, are members and guests. -/
theorem builtin_has_viewChannel {role : String} (notAdmin : role ≠ "owner" ∧ role ≠ "admin")
    : (builtinPermissionsForRole role).Has .viewChannel ↔ role = "member" ∨ role = "guest" := by
  rw [builtinPermissionsForRole, if_neg (not_or.mpr notAdmin)]
  split_ifs with member guest
  · exact iff_of_true (by decide) (.inl member)
  · exact iff_of_true (by decide) (.inr guest)
  · exact iff_of_false (by decide) (not_or.mpr ⟨member, guest⟩)

/-- Who is neither owner nor admin sees a channel, private or not, only by an override that
allows it, or by a role without an override that denies it; making the channel private changes
nothing.
-/
theorem viewChannel_granted (store : PermissionStore) (userId : Uuid) (space : SpaceMembership)
    (channel : Channel) (notAdmin : space.role ≠ "owner" ∧ space.role ≠ "admin")
    : (PermissionService.canInChannel store userId space channel .viewChannel = true →
        store.SomeOverride userId space channel .viewChannel (·.allowBitset)
          ∨ (space.role = "member" ∨ space.role = "guest"
              ∨ ∃ assigned ∈ store.assignedRolesForUser space.id userId,
                assigned.permissionsBitset.Has .viewChannel)
            ∧ ¬ store.SomeOverride userId space channel .viewChannel (·.denyBitset))
      ∧ ∀ isPrivate,
          PermissionService.canInChannel store userId space { channel with isPrivate := isPrivate }
              .viewChannel
            = PermissionService.canInChannel store userId space channel .viewChannel := by
  refine ⟨fun can => ?_, fun _ => rfl⟩
  rcases PermissionStore.granted_of_canInChannel notAdmin can with allowed | ⟨byRole, notDenied⟩
  · exact .inl allowed
  · rw [builtin_has_viewChannel notAdmin, or_assoc] at byRole
    exact .inr ⟨byRole, notDenied⟩

namespace Moderated

/-- A private channel without overrides. -/
def board : Channel := { news with id := .ofNat 32, isPrivate := true }

end Moderated

open Moderated in
/-- A guest sees a private channel that no override is about. -/
theorem not_private_of_isPrivate
    : ¬ ∀ (store : PermissionStore) (userId : Uuid) (space : SpaceMembership) (channel : Channel),
        channel.isPrivate = true → space.role ≠ "owner" ∧ space.role ≠ "admin" →
          PermissionService.canInChannel store userId space channel .viewChannel = true →
            store.SomeOverride userId space channel .viewChannel (·.allowBitset) := by
  intro claim
  obtain ⟨_, concerns, _⟩ :=
    claim .empty user lobby board rfl ⟨by decide, by decide⟩ (by decide)
  cases concerns.stored

open Moderated in
theorem board_granted
    : (lobby.role = "member" ∨ lobby.role = "guest"
        ∨ ∃ assigned ∈ PermissionStore.empty.assignedRolesForUser lobby.id user,
          assigned.permissionsBitset.Has .viewChannel)
      ∧ PermissionService.canInChannel .empty user lobby { board with isPrivate := false }
          .viewChannel
        = true := by
  have granted := viewChannel_granted .empty user lobby board ⟨by decide, by decide⟩
  have seen : PermissionService.canInChannel .empty user lobby board .viewChannel = true := by
    decide
  rcases granted.1 seen with ⟨_, concerns, _⟩ | ⟨byRole, _⟩
  · cases concerns.stored
  · exact ⟨byRole, (granted.2 false).trans seen⟩

end OpenCord.Tenancy

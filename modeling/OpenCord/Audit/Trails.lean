import OpenCord.Audit.Records
import OpenCord.Tenancy.PermissionResolution

/-! What the audit events of a space say about who may do what in it. Whoever knows the founder
of the space and reads its events in order keeps a book of its members, roles and overrides.
-/

namespace OpenCord.Audit

open OpenCord.Library OpenCord.Platform OpenCord.Tenancy

/-- A change of who may do what in a space. -/
inductive AccessChange where
  | joined (userId : Uuid) (role : String)
  | left (userId : Uuid)
  | roleCreated (roleId : Uuid) (name : String) (permissions : List String)
  | roleAssigned (roleId userId assignedByUserId : Uuid)
  | overridden (channelId : Uuid) (targetKind : PermissionTargetKind) (targetId : Uuid)
      (allow deny : List String)

-----------------------------------------------------------------------------------------
-- Reading events
-----------------------------------------------------------------------------------------

namespace AuditEvent

def textAt (event : AuditEvent) (key : String) : Option String :=
  (event.metadata.get key).bind Json.asStr

def uuidAt (event : AuditEvent) (key : String) : Option Uuid :=
  (event.textAt key).bind Uuid.parseStr

def textsAt (event : AuditEvent) (key : String) : Option (List String) :=
  (event.metadata.get key).bind fun value => value.asArray.bind fun items =>
    items.mapM Json.asStr

def targetKindAt (event : AuditEvent) (key : String) : Option PermissionTargetKind :=
  (event.textAt key).bind fun text => (PermissionTargetKind.parse text).toOption

/-- The actions of events about access. -/
def accessActions : List String :=
  ["space.member.added", "bot.invited_to_space", "space.member.removed", "role.created",
    "role.assigned", "channel.permission_override.set"]

/-- The change of access that an event tells of. -/
def accessChange (event : AuditEvent) : Option AccessChange :=
  if event.action = "space.member.added" then do
    return .joined event.targetId (← event.textAt "role")
  else if event.action = "bot.invited_to_space" then do
    return .joined (← event.uuidAt "bot_user_id") (← event.textAt "role")
  else if event.action = "space.member.removed" then
    some (.left event.targetId)
  else if event.action = "role.created" then do
    return .roleCreated event.targetId (← event.textAt "name") (← event.textsAt "permissions")
  else if event.action = "role.assigned" then do
    return .roleAssigned (← event.uuidAt "role_id") (← event.uuidAt "user_id")
      (← event.uuidAt "assigned_by_user_id")
  else if event.action = "channel.permission_override.set" then do
    return .overridden event.targetId (← event.targetKindAt "target_kind")
      (← event.uuidAt "target_id") (← event.textsAt "allow") (← event.textsAt "deny")
  else
    none

/-- Events with other actions say nothing about access. -/
theorem accessChange_of_notMem {event : AuditEvent} (other : event.action ∉ accessActions)
    : event.accessChange = none := by
  simp only [accessActions, List.mem_cons, List.not_mem_nil, or_false, not_or] at other
  obtain ⟨added, invited, removed, created, assigned, overridden⟩ := other
  rw [accessChange, if_neg added, if_neg invited, if_neg removed, if_neg created,
    if_neg assigned, if_neg overridden]

/-- Texts are read as they were written, by induction over them. -/
@[simp] theorem mapM_asStr (texts : List String)
    : texts.mapM (Json.asStr ∘ Json.string) = some texts := by
  induction texts with
  | nil => rfl
  | cons text texts ih =>
      rw [List.mapM_cons, ih]
      rfl

/-- The name of a kind of target is read as the kind. -/
theorem parse_asStr (kind : PermissionTargetKind)
    : PermissionTargetKind.parse kind.asStr = .ok kind := by
  cases kind <;> decide +kernel

end AuditEvent

-----------------------------------------------------------------------------------------
-- Books
-----------------------------------------------------------------------------------------

/-- The access to a space as a reader of its events knows it: the roles of its members, the names
and permissions of the roles of the space, by whom they were assigned, and what is allowed and
denied in its channels.
-/
structure SpaceAccess where
  members : Table Uuid String
  roles : Table Uuid (String × List String)
  assignments : Table (Uuid × Uuid) Uuid
  overrides : Table (Uuid × PermissionTargetKind × Uuid) (List String × List String)

namespace SpaceAccess

def empty : SpaceAccess := ⟨∅, ∅, ∅, ∅⟩

/-- The access to a new space. -/
def foundedBy (userId : Uuid) : SpaceAccess :=
  { empty with members := (∅ : Table Uuid String).insert userId "owner" }

def apply (access : SpaceAccess) : AccessChange → SpaceAccess
  | .joined userId role => { access with members := access.members.insert userId role }
  | .left userId => { access with members := access.members.erase userId }
  | .roleCreated roleId name permissions =>
      { access with roles := access.roles.insert roleId (name, permissions) }
  | .roleAssigned roleId userId assignedByUserId =>
      { access with
        assignments := access.assignments.insert (roleId, userId) assignedByUserId }
  | .overridden channelId targetKind targetId allow deny =>
      { access with
        overrides := access.overrides.insert (channelId, targetKind, targetId) (allow, deny) }

def read (access : SpaceAccess) (event : AuditEvent) : SpaceAccess :=
  match event.accessChange with
  | some change => access.apply change
  | none => access

def readAll (access : SpaceAccess) (events : List AuditEvent) : SpaceAccess :=
  events.foldl read access

@[simp] theorem readAll_nil (access : SpaceAccess) : access.readAll [] = access := rfl

theorem readAll_concat (access : SpaceAccess) (events : List AuditEvent) (event : AuditEvent)
    : access.readAll (events ++ [event]) = (access.readAll events).read event := by
  simp [readAll]

theorem read_of_some {access : SpaceAccess} {event : AuditEvent} {change : AccessChange}
    (told : event.accessChange = some change)
    : access.read event = access.apply change := by
  rw [read, told]

theorem read_of_none {access : SpaceAccess} {event : AuditEvent}
    (told : event.accessChange = none)
    : access.read event = access := by
  rw [read, told]

-----------------------------------------------------------------------------------------
-- Decisions
-----------------------------------------------------------------------------------------

/-- A role of the book, with its permissions, is assigned to a user. -/
def Assigned (access : SpaceAccess) (userId roleId : Uuid) (permissions : List String) : Prop :=
  (access.assignments.lookup (roleId, userId)).isSome
    ∧ ∃ name, access.roles.lookup roleId = some (name, permissions)

/-- The user's own override of a channel names a permission in its chosen list. -/
def MemberOverride (access : SpaceAccess) (userId channelId : Uuid) (permission : Permission)
    (names : List String × List String → List String) : Prop :=
  ∃ own, access.overrides.lookup (channelId, .member, userId) = some own
    ∧ permission.asStr ∈ names own

/-- The override of some role of the user names a permission in its chosen list. -/
def RoleOverride (access : SpaceAccess) (userId channelId : Uuid) (permission : Permission)
    (names : List String × List String → List String) : Prop :=
  ∃ roleId permissions, access.Assigned userId roleId permissions
    ∧ ∃ ofRole, access.overrides.lookup (channelId, .role, roleId) = some ofRole
      ∧ permission.asStr ∈ names ofRole

/-- What a user may do in a channel, by the book. -/
def May (access : SpaceAccess) (userId channelId : Uuid) (permission : Permission) : Prop :=
  ∃ role, access.members.lookup userId = some role
    ∧ Decides
      ((builtinPermissionsForRole role).Has permission
        ∨ ∃ roleId permissions, access.Assigned userId roleId permissions
          ∧ permission.asStr ∈ permissions)
      [(role = "owner" ∨ role = "admin", True),
        (access.MemberOverride userId channelId permission Prod.snd, False),
        (access.MemberOverride userId channelId permission Prod.fst, True),
        (access.RoleOverride userId channelId permission Prod.snd, False),
        (access.RoleOverride userId channelId permission Prod.fst, True)]

end SpaceAccess

/-- The name of a permission is read as the permission. -/
theorem parse_permission (permission : Permission)
    : (Permission.parse permission.asStr).toOption = some permission := by
  cases permission <;> decide +kernel

/-- A permission is named among those of a set if it is in the set. -/
theorem asStr_mem_permissionNames {permission : Permission} {bits : PermissionBits}
    : permission.asStr ∈ permissionNames bits ↔ bits.Has permission := by
  have injective : Function.Injective Permission.asStr := by
    intro first second same
    rw [← Option.some.injEq, ← parse_permission first, same, parse_permission]
  rw [permissionNames, List.mem_map_of_injective injective, List.mem_filter, decide_eq_true_iff,
    PermissionBits.has_iff]
  exact and_iff_right (by cases permission <;> decide)

end OpenCord.Audit

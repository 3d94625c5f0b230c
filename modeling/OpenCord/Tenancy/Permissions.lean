import OpenCord.Tenancy.Channels

/-! Roles, role assignments and channel overrides, and how they decide what a member of a
space may do.
-/

namespace OpenCord.Tenancy

open OpenCord.Library OpenCord.Platform

inductive PermissionError where
  | invalidInput (message : String)
  | forbidden
  | roleAlreadyExists
  | roleNotFound
  deriving DecidableEq

inductive Permission where
  | viewChannel
  | sendMessages
  | manageMessages
  | manageChannels
  | manageRoles
  | inviteMembers
  | manageSpace
  | connectVoice
  | speak
  | shareScreen
  | useVideo
  deriving DecidableEq

/-- A set of permissions, one bit each. -/
abbrev PermissionBits := BitVec 64

namespace Permission

/-- The permissions in the order of their bits. -/
def all : List Permission :=
  [.viewChannel, .sendMessages, .manageMessages, .manageChannels, .manageRoles,
    .inviteMembers, .manageSpace, .connectVoice, .speak, .shareScreen, .useVideo]

/-- The position of a permission's bit. -/
def position : Permission → Nat
  | viewChannel => 0
  | sendMessages => 1
  | manageMessages => 2
  | manageChannels => 3
  | manageRoles => 4
  | inviteMembers => 5
  | manageSpace => 6
  | connectVoice => 7
  | speak => 8
  | shareScreen => 9
  | useVideo => 10

def bit (permission : Permission) : PermissionBits := 1#64 <<< permission.position

def asStr : Permission → String
  | viewChannel => "VIEW_CHANNEL"
  | sendMessages => "SEND_MESSAGES"
  | manageMessages => "MANAGE_MESSAGES"
  | manageChannels => "MANAGE_CHANNELS"
  | manageRoles => "MANAGE_ROLES"
  | inviteMembers => "INVITE_MEMBERS"
  | manageSpace => "MANAGE_SPACE"
  | connectVoice => "CONNECT_VOICE"
  | speak => "SPEAK"
  | shareScreen => "SHARE_SCREEN"
  | useVideo => "USE_VIDEO"

/-- Reads a permission name in any case. -/
def parse (value : String) : Except PermissionError Permission :=
  let name := Text.toAsciiUppercase (Text.trim value)
  match all.find? fun permission => permission.asStr = name with
  | some permission => .ok permission
  | none => .error (.invalidInput "permission name is not supported")

end Permission

/-- The union of all permissions. -/
def allMinimalPermissions : PermissionBits :=
  Permission.all.foldl (fun bitset permission => bitset ||| permission.bit) 0

def permissionNames (bitset : PermissionBits) : List String :=
  (Permission.all.filter fun permission => bitset &&& permission.bit ≠ 0).map Permission.asStr

structure Role where
  id : Uuid
  organizationId : Uuid
  spaceId : Uuid
  name : String
  color : Option String
  position : Int
  permissionsBitset : PermissionBits
  deriving DecidableEq

structure RoleAssignment where
  spaceId : Uuid
  roleId : Uuid
  userId : Uuid
  assignedByUserId : Uuid
  deriving DecidableEq

inductive PermissionTargetKind where
  | role
  | member
  deriving DecidableEq

namespace PermissionTargetKind

def asStr : PermissionTargetKind → String
  | role => "role"
  | member => "member"

def parse (value : String) : Except PermissionError PermissionTargetKind :=
  let name := Text.toAsciiLowercase (Text.trim value)
  if name = "role" then .ok .role
  else if name = "member" then .ok .member
  else .error (.invalidInput "permission override target_kind must be role or member")

end PermissionTargetKind

structure ChannelPermissionOverride where
  channelId : Uuid
  targetKind : PermissionTargetKind
  targetId : Uuid
  allowBitset : PermissionBits
  denyBitset : PermissionBits
  deriving DecidableEq

structure AssignedRole where
  id : Uuid
  permissionsBitset : PermissionBits
  deriving DecidableEq

structure PermissionStore where
  rolesById : Table Uuid Role
  roleIdBySpaceName : Table (Uuid × String) Uuid
  assignmentsByRoleUser : Table (Uuid × Uuid) RoleAssignment
  overridesByTarget : Table (Uuid × PermissionTargetKind × Uuid) ChannelPermissionOverride

namespace PermissionStore

def empty : PermissionStore := ⟨∅, ∅, ∅, ∅⟩

def createRole (role : Role) : Eff PermissionStore PermissionError Unit := do
  let store ← get
  let key := (role.spaceId, Text.toAsciiLowercase role.name)
  if key ∈ store.roleIdBySpaceName then
    throw .roleAlreadyExists
  else
    set { store with
      roleIdBySpaceName := store.roleIdBySpaceName.insert key role.id
      rolesById := store.rolesById.insert role.id role }

def getRole (store : PermissionStore) (spaceId roleId : Uuid) : Option Role :=
  (store.rolesById.lookup roleId).filter fun role => role.spaceId = spaceId

def assignRole (assignment : RoleAssignment) : Eff PermissionStore PermissionError Unit := do
  let store ← get
  if assignment.roleId ∈ store.rolesById then
    set { store with
      assignmentsByRoleUser :=
        store.assignmentsByRoleUser.insert (assignment.roleId, assignment.userId) assignment }
  else
    throw .roleNotFound

def assignedRolesForUser (store : PermissionStore) (spaceId userId : Uuid)
    : List AssignedRole :=
  (store.assignmentsByRoleUser.values.filter fun assignment =>
    assignment.spaceId = spaceId ∧ assignment.userId = userId).filterMap fun assignment =>
      (store.rolesById.lookup assignment.roleId).map fun role =>
        ⟨role.id, role.permissionsBitset⟩

def upsertChannelOverride (permissionOverride : ChannelPermissionOverride)
    : Eff PermissionStore PermissionError Unit :=
  Eff.writes fun store =>
    { store with
      overridesByTarget :=
        store.overridesByTarget.insert
          (permissionOverride.channelId, permissionOverride.targetKind,
            permissionOverride.targetId)
          permissionOverride }

def channelOverridesForUser (store : PermissionStore) (channelId userId : Uuid)
    (roleIds : List Uuid) : List ChannelPermissionOverride :=
  (store.overridesByTarget.values.filter fun permissionOverride =>
    permissionOverride.channelId = channelId).filter fun permissionOverride =>
      permissionOverride.targetId = userId ∨ permissionOverride.targetId ∈ roleIds

end PermissionStore

def builtinPermissionsForRole (role : String) : PermissionBits :=
  if role = "owner" ∨ role = "admin" then allMinimalPermissions
  else if role = "member" then Permission.viewChannel.bit ||| Permission.sendMessages.bit
  else if role = "guest" then Permission.viewChannel.bit
  else 0

def isAdminRole (role : String) : Bool :=
  role = "owner" ∨ role = "admin"

/-- The bits that role and member overrides allow and deny. -/
structure OverrideBits where
  roleAllow : PermissionBits
  roleDeny : PermissionBits
  memberAllow : PermissionBits
  memberDeny : PermissionBits

/-- One override joins the bits of its target, if the target concerns the user. -/
def OverrideBits.collect (userId : Uuid) (roleIds : List Uuid) (bits : OverrideBits)
    (permissionOverride : ChannelPermissionOverride) : OverrideBits :=
  match permissionOverride.targetKind with
  | .role =>
      if permissionOverride.targetId ∈ roleIds then
        { bits with
          roleAllow := bits.roleAllow ||| permissionOverride.allowBitset
          roleDeny := bits.roleDeny ||| permissionOverride.denyBitset }
      else
        bits
  | .member =>
      if permissionOverride.targetId = userId then
        { bits with
          memberAllow := bits.memberAllow ||| permissionOverride.allowBitset
          memberDeny := bits.memberDeny ||| permissionOverride.denyBitset }
      else
        bits

def applyChannelOverrides (effective : PermissionBits) (userId : Uuid) (roleIds : List Uuid)
    (overrides : List ChannelPermissionOverride) : PermissionBits :=
  let bits := overrides.foldl (OverrideBits.collect userId roleIds) ⟨0, 0, 0, 0⟩
  let effective := effective &&& ~~~bits.roleDeny
  let effective := effective ||| (bits.roleAllow &&& ~~~bits.roleDeny)
  let effective := effective &&& ~~~bits.memberDeny
  effective ||| (bits.memberAllow &&& ~~~bits.memberDeny)

namespace PermissionService

def normalizeRoleName (name : String) : Except PermissionError String :=
  (boundedName 1 80 "role name must be between 1 and 80 characters" name).mapError
    .invalidInput

/-- A number sign and six hexadecimal digits. -/
def validHexColor (color : String) : Bool :=
  color.utf8ByteSize = 7 ∧ Text.startsWithChar color '#'
    ∧ (color.toList.drop 1).all fun character => (Hex.digitValue character).isSome

def normalizeColor (color : Option String) : Except PermissionError (Option String) :=
  match color with
  | none => .ok none
  | some color =>
      let color := Text.trim color
      if validHexColor color then
        .ok (some color)
      else
        .error (.invalidInput "role color must be a hex color like #5865f2")

def parsePermissionList (permissions : List String) : Except PermissionError PermissionBits :=
  permissions.foldlM (fun bitset permission => do
    let permission ← Permission.parse permission
    return bitset ||| permission.bit) 0

/-- Creates a role under a drawn identifier. -/
def createRole (roleId organizationId spaceId : Uuid) (name : String) (color : Option String)
    (position : Option Int) (permissions : List String)
    : Eff PermissionStore PermissionError Role := do
  let name ← normalizeRoleName name
  let color ← normalizeColor color
  let permissionsBitset ← parsePermissionList permissions
  let role : Role :=
    ⟨roleId, organizationId, spaceId, name, color, max (position.getD 0) 0, permissionsBitset⟩
  PermissionStore.createRole role
  return role

def assignRole (spaceId roleId userId assignedByUserId : Uuid)
    : Eff PermissionStore PermissionError RoleAssignment := do
  let store ← get
  if (store.getRole spaceId roleId).isNone then
    throw .roleNotFound
  else
    let assignment : RoleAssignment := ⟨spaceId, roleId, userId, assignedByUserId⟩
    PermissionStore.assignRole assignment
    return assignment

def setChannelOverride (channelId : Uuid) (targetKind : PermissionTargetKind) (targetId : Uuid)
    (allow deny : List String)
    : Eff PermissionStore PermissionError ChannelPermissionOverride := do
  let allowBitset ← parsePermissionList allow
  let denyBitset ← parsePermissionList deny
  let permissionOverride : ChannelPermissionOverride :=
    ⟨channelId, targetKind, targetId, allowBitset, denyBitset⟩
  PermissionStore.upsertChannelOverride permissionOverride
  return permissionOverride

def canInSpace (store : PermissionStore) (userId : Uuid) (space : SpaceMembership)
    (permission : Permission) : Bool :=
  if isAdminRole space.role then
    true
  else
    let effective := (store.assignedRolesForUser space.id userId).foldl
      (fun bitset role => bitset ||| role.permissionsBitset)
      (builtinPermissionsForRole space.role)
    effective &&& permission.bit ≠ 0

def canInChannel (store : PermissionStore) (userId : Uuid) (space : SpaceMembership)
    (channel : Channel) (permission : Permission) : Bool :=
  if isAdminRole space.role then
    true
  else
    let assignedRoles := store.assignedRolesForUser space.id userId
    let effective := assignedRoles.foldl (fun bitset role => bitset ||| role.permissionsBitset)
      (builtinPermissionsForRole space.role)
    let roleIds := assignedRoles.map AssignedRole.id
    let overrides := store.channelOverridesForUser channel.id userId roleIds
    applyChannelOverrides effective userId roleIds overrides &&& permission.bit ≠ 0

def requireSpace (store : PermissionStore) (userId : Uuid) (space : SpaceMembership)
    (permission : Permission) : Except PermissionError Unit :=
  if canInSpace store userId space permission then .ok () else .error .forbidden

def requireChannel (store : PermissionStore) (userId : Uuid) (space : SpaceMembership)
    (channel : Channel) (permission : Permission) : Except PermissionError Unit :=
  if canInChannel store userId space channel permission then .ok () else .error .forbidden

end PermissionService

end OpenCord.Tenancy

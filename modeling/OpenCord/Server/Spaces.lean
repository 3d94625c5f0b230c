import OpenCord.Server.State

/-! The controllers of spaces, of their roles and of their channels. -/

namespace OpenCord.Server

open OpenCord.Library OpenCord.Platform OpenCord.Auth OpenCord.Tenancy OpenCord.Realtime

variable (crypto : Crypto)

namespace SpaceController

/-- A space as the space events show it. -/
def guild (space : SpaceMembership) : Json :=
  .object [("id", .string space.id.toString), ("name", .string space.name),
    ("unavailable", .bool false)]

@[simp] theorem tokens_guild (space : SpaceMembership) : (guild space).tokens = [] := rfl

def create (spaceId : Uuid) (token : String) (organizationId : Uuid) (name : String)
    : Handler SpaceMembership := do
  let state ← get
  let user ← state.userForToken crypto token
  let _ ← state.organizationForUser user.id organizationId
  Handler.onSpaces (SpaceService.create spaceId user.id organizationId name)

def update (stamp : EventStamp) (token : String) (spaceId : Uuid) (patch : SpacePatch)
    : Handler SpaceMembership := do
  let state ← get
  let user ← state.userForToken crypto token
  let existing ← state.spaceForUser user.id spaceId
  state.requireSpace user.id existing .manageSpace
  let space ← Handler.onSpaces (SpaceService.update existing patch)
  Handler.publish (.space stamp "space.updated" space.organizationId space.id
    (.object [("guild", guild space)]))
  return space

def delete (stamp : EventStamp) (token : String) (spaceId : Uuid) : Handler Unit := do
  let state ← get
  let user ← state.userForToken crypto token
  let existing ← state.spaceForUser user.id spaceId
  state.requireSpace user.id existing .manageSpace
  let memberUserIds ← (state.spaces.activeMemberUserIds existing.id).mapError ApiError.space
  let space ← Handler.onSpaces (SpaceService.delete existing)
  Handler.publish (.space stamp "space.deleted" space.organizationId space.id
    (.object [("guild", guild space),
      ("member_user_ids", .array (memberUserIds.map fun userId => .string userId.toString))]))

end SpaceController

-----------------------------------------------------------------------------------------
-- Roles and overrides
-----------------------------------------------------------------------------------------

structure CreateRoleRequest where
  name : String
  color : Option String
  position : Option Int
  permissions : List String

structure SetChannelPermissionOverrideRequest where
  targetKind : String
  targetId : String
  allow : List String
  deny : List String

namespace PermissionController

def createRole (roleId : Uuid) (token : String) (spaceId : Uuid) (request : CreateRoleRequest)
    : Handler Role := do
  let state ← get
  let user ← state.userForToken crypto token
  let space ← state.spaceForUser user.id spaceId
  state.requireSpace user.id space .manageRoles
  Handler.onPermissions
    (PermissionService.createRole roleId space.organizationId space.id request.name
      request.color request.position request.permissions)

def assignRole (token : String) (spaceId roleId : Uuid) (userId : String)
    : Handler RoleAssignment := do
  let state ← get
  let user ← state.userForToken crypto token
  let space ← state.spaceForUser user.id spaceId
  state.requireSpace user.id space .manageRoles
  let userId ← parseUuid userId "valid user_id is required"
  let _ ← state.spaceForUser userId space.id
  Handler.onPermissions (PermissionService.assignRole space.id roleId userId user.id)

/-- The event that tells media sessions about a denied permission. -/
def mediaPermissionRevocation (stamp : EventStamp) (channel : Channel)
    (permissionOverride : ChannelPermissionOverride) : Option RealtimeEvent :=
  let denies (permission : Permission) : Bool :=
    permissionOverride.denyBitset &&& permission.bit ≠ 0
  let revokedView := denies .viewChannel
  let revokedConnect := denies .connectVoice
  let revokedSpeak := denies .speak
  let revokedScreen := denies .shareScreen
  if revokedView || revokedConnect || revokedSpeak || revokedScreen then
    let mustDisconnect := revokedView || revokedConnect
    some (.channel stamp "media.permission_revoked" channel.organizationId channel.spaceId
      channel.id
      (.object [("channel_id", .string channel.id.toString),
        ("target_kind", .string permissionOverride.targetKind.asStr),
        ("target_id", .string permissionOverride.targetId.toString),
        ("action", .string (if mustDisconnect then "disconnect" else "restrict_publish")),
        ("revoked", .object [("view_channel", .bool revokedView),
          ("connect_voice", .bool revokedConnect), ("speak", .bool revokedSpeak),
          ("share_screen", .bool revokedScreen)]),
        ("grants", .object [("can_publish_audio", .bool (!revokedSpeak)),
          ("can_publish_screen", .bool (!revokedScreen)),
          ("can_subscribe", .bool (!revokedView))])]))
  else
    none

def setChannelOverride (stamp : EventStamp) (token : String) (channelId : Uuid)
    (request : SetChannelPermissionOverrideRequest)
    : Handler ChannelPermissionOverride := do
  let state ← get
  let user ← state.userForToken crypto token
  let (channel, _) ← state.enterChannel user.id channelId .manageChannels
  let targetKind ← (PermissionTargetKind.parse request.targetKind).mapError ApiError.permission
  let targetId ← parseUuid request.targetId "valid target_id is required"
  let permissionOverride ← Handler.onPermissions
    (PermissionService.setChannelOverride channel.id targetKind targetId request.allow
      request.deny)
  match mediaPermissionRevocation stamp channel permissionOverride with
  | some event => do
      Handler.publish event
      return permissionOverride
  | none => return permissionOverride

end PermissionController

-----------------------------------------------------------------------------------------
-- Channels
-----------------------------------------------------------------------------------------

structure CreateChannelRequest where
  kind : Option String
  name : String
  topic : Option String
  isPrivate : Option Bool

namespace ChannelController

/-- A channel as responses and channel events show it. -/
def response (channel : Channel) : Json :=
  .object [("id", .string channel.id.toString),
    ("organization_id", .string channel.organizationId.toString),
    ("space_id", .string channel.spaceId.toString), ("kind", .string channel.kind),
    ("name", .string channel.name), ("slug", .string channel.slug),
    ("position", .integer channel.position),
    ("topic", match channel.topic with
      | some topic => .string topic
      | none => .null),
    ("is_private", .bool channel.isPrivate)]

/-- The event about a channel itself. -/
def event (stamp : EventStamp) (eventType : String) (channel : Channel) : RealtimeEvent :=
  .channel stamp eventType channel.organizationId channel.spaceId channel.id
    (.object [("channel", response channel)])

/-- Channel events show no tokens. -/
theorem tokens_event (stamp : EventStamp) (eventType : String) (channel : Channel)
    : (event stamp eventType channel).data.tokens = [] := by
  cases channel with
  | mk _ _ _ _ _ _ _ topic _ => cases topic <;> rfl

def create (stamp : EventStamp) (channelId : Uuid) (token : String) (spaceId : Uuid)
    (request : CreateChannelRequest) : Handler Channel := do
  let state ← get
  let user ← state.userForToken crypto token
  let space ← state.spaceForUser user.id spaceId
  state.requireSpace user.id space .manageChannels
  let channel ← Handler.onChannels
    (ChannelService.create channelId space.organizationId space.id request.kind request.name
      request.topic (request.isPrivate.getD false))
  Handler.publish (event stamp "channel.created" channel)
  return channel

def update (stamp : EventStamp) (token : String) (channelId : Uuid) (patch : ChannelPatch)
    : Handler Channel := do
  let state ← get
  let user ← state.userForToken crypto token
  let (existing, _) ← state.enterChannel user.id channelId .manageChannels
  let channel ← Handler.onChannels (ChannelService.update existing patch)
  Handler.publish (event stamp "channel.updated" channel)
  return channel

def delete (stamp : EventStamp) (token : String) (channelId : Uuid) : Handler Unit := do
  let state ← get
  let user ← state.userForToken crypto token
  let (existing, _) ← state.enterChannel user.id channelId .manageChannels
  let channel ← Handler.onChannels (ChannelService.delete existing)
  Handler.publish (event stamp "channel.deleted" channel)

end ChannelController

end OpenCord.Server

import OpenCord.Bots.Commands
import OpenCord.Messages.Message
import OpenCord.Realtime.Events
import OpenCord.Tenancy.Permissions
import OpenCord.Tenancy.Scim

/-! The stores of the server as the controllers share them, with the events published so
far. A controller works on one store at a time.
-/

namespace OpenCord.Server

open OpenCord.Library OpenCord.Platform OpenCord.Auth OpenCord.Tenancy OpenCord.Bots
  OpenCord.Messages OpenCord.Realtime

/-- The failures of the services, as the controllers pass them on. -/
inductive ApiError where
  | auth (error : AuthError)
  | organization (error : OrganizationError)
  | space (error : SpaceError)
  | channel (error : ChannelError)
  | permission (error : PermissionError)
  | scim (error : ScimError)
  | bot (error : BotError)
  | command (error : CommandError)
  | message (error : MessageError)
  deriving DecidableEq

/-- The stores, and the events published to the hub so far. -/
structure AppState where
  auth : AuthStore
  organizations : OrganizationStore
  scim : ScimStore
  spaces : SpaceStore
  channels : ChannelStore
  permissions : PermissionStore
  bots : BotStore
  commands : CommandStore
  messages : MessageStore
  published : List RealtimeEvent

def AppState.empty : AppState :=
  ⟨.empty, .empty, .empty, .empty, .empty, .empty, .empty, .empty, .empty, []⟩

/-- A computation of a controller. -/
abbrev Handler (α : Type) := Eff AppState ApiError α

namespace Handler

variable {α : Type}

def onAuth (action : Eff AuthStore AuthError α) : Handler α :=
  action.zoom AppState.auth (fun state auth => { state with auth := auth }) .auth

def onOrganizations (action : Eff OrganizationStore OrganizationError α) : Handler α :=
  action.zoom AppState.organizations
    (fun state organizations => { state with organizations := organizations }) .organization

def onSpaces (action : Eff SpaceStore SpaceError α) : Handler α :=
  action.zoom AppState.spaces (fun state spaces => { state with spaces := spaces }) .space

def onChannels (action : Eff ChannelStore ChannelError α) : Handler α :=
  action.zoom AppState.channels (fun state channels => { state with channels := channels })
    .channel

def onPermissions (action : Eff PermissionStore PermissionError α) : Handler α :=
  action.zoom AppState.permissions
    (fun state permissions => { state with permissions := permissions }) .permission

def onScim (action : Eff ScimStore ScimError α) : Handler α :=
  action.zoom AppState.scim (fun state scim => { state with scim := scim }) .scim

/-- What SCIM does to organizations fails with its own errors. -/
def onScimOrganizations (action : Eff OrganizationStore OrganizationError α) : Handler α :=
  action.zoom AppState.organizations
    (fun state organizations => { state with organizations := organizations })
    fun error => .scim (.ofOrganization error)

def onBots (action : Eff BotStore BotError α) : Handler α :=
  action.zoom AppState.bots (fun state bots => { state with bots := bots }) .bot

def onCommands (action : Eff CommandStore CommandError α) : Handler α :=
  action.zoom AppState.commands (fun state commands => { state with commands := commands })
    .command

def onMessages (action : Eff MessageStore MessageError α) : Handler α :=
  action.zoom AppState.messages (fun state messages => { state with messages := messages })
    .message

/-- Publishing cannot fail: an event without subscribers is dropped. -/
def publish (event : RealtimeEvent) : Handler Unit :=
  Eff.writes fun state => { state with published := state.published ++ [event] }

end Handler

namespace AppState

def userForToken (crypto : Crypto) (state : AppState) (token : String)
    : Except ApiError AuthUser :=
  (AuthService.userForToken crypto state.auth token).mapError .auth

def organizationForUser (state : AppState) (userId organizationId : Uuid)
    : Except ApiError OrganizationMembership :=
  (OrganizationService.getForUser state.organizations userId organizationId).mapError
    .organization

def requireAdmin (state : AppState) (userId organizationId : Uuid)
    : Except ApiError OrganizationMembership :=
  (OrganizationService.requireAdmin state.organizations userId organizationId).mapError
    .organization

def spaceForUser (state : AppState) (userId spaceId : Uuid)
    : Except ApiError SpaceMembership :=
  (SpaceService.getForUser state.spaces userId spaceId).mapError .space

def botForToken (crypto : Crypto) (state : AppState) (token : String)
    : Except ApiError AuthenticatedBot :=
  (BotService.authenticateToken crypto state.bots token).mapError .bot

def channel (state : AppState) (channelId : Uuid) : Except ApiError Channel :=
  (ChannelService.get state.channels channelId).mapError .channel

def requireSpace (state : AppState) (userId : Uuid) (space : SpaceMembership)
    (permission : Permission) : Except ApiError Unit :=
  (PermissionService.requireSpace state.permissions userId space permission).mapError
    .permission

def requireChannel (state : AppState) (userId : Uuid) (space : SpaceMembership)
    (channel : Channel) (permission : Permission) : Except ApiError Unit :=
  (PermissionService.requireChannel state.permissions userId space channel permission).mapError
    .permission

/-- The way into a channel that every channel endpoint takes: the channel exists, the user
is a member of its space and has the permission in it.
-/
def enterChannel (state : AppState) (userId channelId : Uuid) (permission : Permission)
    : Except ApiError (Channel × SpaceMembership) := do
  let channel ← state.channel channelId
  let space ← state.spaceForUser userId channel.spaceId
  state.requireChannel userId space channel permission
  return (channel, space)

end AppState

/-- Reads an identifier from a request. -/
def parseUuid (value message : String) : Except ApiError Uuid :=
  match Uuid.parseStr value with
  | some id => .ok id
  | none => .error (.permission (.invalidInput message))

end OpenCord.Server

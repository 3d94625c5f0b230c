import Mathlib.Logic.Relation
import OpenCord.Server.Requests

/-! What requests write. Every request is a chain of single writes to the stores of
memberships, spaces and channels and to the published events, each with what the controller
has checked by then; invariants of the server are proved once for each write.
-/

namespace OpenCord.Server

open Relation
open OpenCord.Library OpenCord.Platform OpenCord.Auth OpenCord.Tenancy OpenCord.Bots
  OpenCord.Realtime

/-- Spaces and channels are stored under their own identifiers. -/
structure AppState.Keyed (state : AppState) : Prop where
  spaces : ∀ spaceId space, state.spaces.spacesById.lookup spaceId = some space →
    space.id = spaceId
  channels : ∀ channelId channel, state.channels.channelsById.lookup channelId = some channel →
    channel.id = channelId

/-- An event is about a space, or about a channel and published under its place. -/
inductive AppState.Concerns (state : AppState) : RealtimeEvent → Prop where
  | space (stamp : EventStamp) (eventType : String) (organizationId spaceId : Uuid)
      (data : Json)
      : Concerns state (.space stamp eventType organizationId spaceId data)
  | channel (stamp : EventStamp) (eventType : String)
      (organizationId spaceId channelId : Uuid) (data : Json)
      (located : state.Locates organizationId spaceId channelId)
      : Concerns state (.channel stamp eventType organizationId spaceId channelId data)

/-- Only the event of an interaction shows a token, and one that no earlier event shows. -/
structure AppState.TokensNew (state : AppState) (event : RealtimeEvent) : Prop where
  ofInteraction : event.eventType ≠ "interaction.created" → event.data.tokens = []
  new : ∀ token ∈ event.data.tokens, state.NewToken token

/-- An event without tokens shows none. -/
theorem AppState.TokensNew.of_plain {state : AppState} {event : RealtimeEvent}
    (plain : event.data.tokens = [])
    : state.TokensNew event := by
  refine ⟨fun _ => plain, ?_⟩
  rw [plain]
  exact nofun

/-- A membership row of an organization and the status it gets. -/
structure MemberWrite where
  organizationId : Uuid
  userId : Uuid
  status : MemberStatus
  deriving DecidableEq

/-- One write. The membership rows of organizations that may be written are given by `may`,
which also sees the spaces at that time.
-/
inductive Write (may : SpaceStore → MemberWrite → Prop) (before : AppState)
    : AppState → Prop where
  | elsewhere (after : AppState)
      (members : after.organizations.membersByOrgUser
        = before.organizations.membersByOrgUser)
      (spaces : after.spaces = before.spaces) (channels : after.channels = before.channels)
      (published : after.published = before.published)
      : Write may before after
  | organizationCreated (organization : StoredOrganization)
      (ownerMember : StoredOrganizationMember)
      (own : ownerMember.organizationId = organization.id)
      (active : ownerMember.status = .active)
      (new : before.NewOrganization organization.id)
      : Write may before
          { before with
            organizations := before.organizations.withOrganization organization ownerMember }
  | memberWritten (organizationId userId : Uuid) (member : StoredOrganizationMember)
      (allowed : may before.spaces ⟨organizationId, userId, member.status⟩)
      : Write may before
          { before with
            organizations := before.organizations.withMember organizationId userId member }
  | spaceCreated (space : StoredSpace) (ownerMember : StoredSpaceMember)
      (own : ownerMember.spaceId = space.id) (new : before.NewSpace space.id)
      (active : before.organizations.ActiveMember space.organizationId ownerMember.userId)
      : Write may before { before with spaces := before.spaces.withSpace space ownerMember }
  | spaceJoined (spaceId userId : Uuid) (member : StoredSpaceMember) (space : StoredSpace)
      (stored : before.spaces.spacesById.lookup spaceId = some space)
      (active : before.organizations.ActiveMember space.organizationId userId)
      : Write may before
          { before with spaces := before.spaces.withMember spaceId userId member }
  | spaceLeft (spaceId userId : Uuid) (member : StoredSpaceMember)
      (inactive : member.status = .inactive)
      : Write may before
          { before with spaces := before.spaces.withMember spaceId userId member }
  | spaceUpdated (spaces : SpaceStore) (space previous : StoredSpace)
      (stored : before.spaces.spacesById.lookup space.id = some previous)
      (sameOrganization : space.organizationId = previous.organizationId)
      (members : spaces.membersBySpaceUser = before.spaces.membersBySpaceUser)
      (byId : spaces.spacesById = before.spaces.spacesById.insert space.id space)
      : Write may before { before with spaces := spaces }
  | spaceArchived (spaceId : Uuid)
      : Write may before
          { before with
            spaces :=
              { before.spaces with spacesById := before.spaces.spacesById.erase spaceId } }
  | channelCreated (channel : Channel) (space : StoredSpace)
      (new : before.NewChannel channel.id)
      (stored : before.spaces.spacesById.lookup channel.spaceId = some space)
      (sameOrganization : channel.organizationId = space.organizationId)
      : Write may before { before with channels := before.channels.withChannel channel }
  | channelUpdated (channels : ChannelStore) (channel previous : Channel)
      (stored : before.channels.channelsById.lookup channel.id = some previous)
      (same : previous.SamePlace channel)
      (byId : channels.channelsById = before.channels.channelsById.insert channel.id channel)
      : Write may before { before with channels := channels }
  | channelArchived (channelId : Uuid)
      : Write may before
          { before with
            channels :=
              { before.channels with
                channelsById := before.channels.channelsById.erase channelId } }
  | published (event : RealtimeEvent) (concerns : before.Concerns event)
      (tokens : before.TokensNew event)
      : Write may before { before with published := before.published ++ [event] }

/-- The account a checked assertion leads to: the one of the stored identity, else the one
with the email, else a new one.
-/
def signedInUser (store : AuthStore) (generated : GeneratedIds)
    (checked : AuthService.NormalizedAssertion) : Uuid :=
  match store.findOidcIdentity checked.issuer checked.subject with
  | some identity =>
      match store.findUserById identity.userId with
      | some user => user.id
      | none => identity.userId
  | none =>
      match store.findUserByEmail checked.email with
      | some user => user.id
      | none => generated.userId

/-- The status that a SCIM request asks for. -/
def statusFor (active : Bool) : MemberStatus := if active then .active else .inactive

namespace AppRequest

/-- The membership row that a request is about when it signs a user in with the provider of
an organization, or invites a user or a bot into a space.
-/
def admission (crypto : Crypto) (state : AppState) : AppRequest → Option MemberWrite
  | .oidcCallback iteration generated assertion => do
      let checked ← (AuthService.normalizeAssertion assertion).toOption
      let provider ← (AuthService.providerForAssertion crypto iteration checked).toOption
      return ⟨provider.organizationId, signedInUser state.auth generated checked, .active⟩
  | .addSpaceMember _ _ _ spaceId request => do
      let space ← state.spaces.spacesById.lookup spaceId
      let userId ← Uuid.parseStr request.userId
      return ⟨space.organizationId, userId, .active⟩
  | .inviteBotToSpace _ _ _ organizationId applicationId _ _ => do
      let application ← state.bots.applications.lookup applicationId
      return ⟨organizationId, application.botUserId, .active⟩
  | _ => none

/-- The membership row that a SCIM request sets, and the status it asks for. -/
def scimWrite (crypto : Crypto) (state : AppState) : AppRequest → Option MemberWrite
  | .scimCreateUser newUserId _ token request => do
      let checked ← (ScimService.checkProvision crypto state token request).toOption
      return ⟨checked.organizationId,
        (ScimService.provisionedUser crypto state newUserId checked).id,
        statusFor request.active⟩
  | .scimPatchUser token externalId operations => do
      let active ← (ScimController.activePatchValue operations).toOption
      let config ← (Tenancy.ScimService.configForToken crypto state.scim token).toOption
      let key ← (Tenancy.ScimService.normalizeExternalId externalId).toOption
      let record ← state.scim.userByExternalId config.organizationId key
      return ⟨config.organizationId, record.userId, statusFor active⟩
  | _ => none

end AppRequest

end OpenCord.Server

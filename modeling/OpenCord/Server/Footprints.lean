import OpenCord.Library.Frames
import OpenCord.Server.Requests

/-! What each request leaves alone. A request is composed of writes to single stores, and stays
within every preorder that tolerates writes to the stores of its footprint.
-/

namespace OpenCord.Realtime

/-- The events that tell of messages. -/
def messageEventTypes : List String := ["message.created", "message.updated", "message.deleted"]

/-- An event tells of a message. -/
def RealtimeEvent.IsMessage (event : RealtimeEvent) : Prop :=
  event.eventType ∈ messageEventTypes

instance (event : RealtimeEvent) : Decidable event.IsMessage :=
  inferInstanceAs (Decidable (_ ∈ messageEventTypes))

end OpenCord.Realtime

namespace OpenCord.Bots

open OpenCord.Library

/-- Interactions lie under their own identifiers. -/
def CommandStore.Keyed (store : CommandStore) : Prop :=
  Table.Keyed (fun interaction => interaction.id) store.interactions

end OpenCord.Bots

namespace OpenCord.Server

open OpenCord.Library OpenCord.Platform OpenCord.Auth OpenCord.Tenancy OpenCord.Bots
  OpenCord.Messages OpenCord.Realtime

/-- The parts of the state. -/
inductive StatePart where
  | auth
  | organizations
  | scim
  | spaces
  | channels
  | permissions
  | bots
  | commands
  | messages
  | published
  deriving DecidableEq

/-- A relation between states is not hurt by a write to one part. Interactions stay under their
identifiers, and events of messages come from other requests.
-/
def Tolerates (relation : AppState → AppState → Prop) : StatePart → Prop
  | .auth => ∀ state auth, relation state { state with auth := auth }
  | .organizations =>
      ∀ state organizations, relation state { state with organizations := organizations }
  | .scim => ∀ state scim, relation state { state with scim := scim }
  | .spaces => ∀ state spaces, relation state { state with spaces := spaces }
  | .channels => ∀ state channels, relation state { state with channels := channels }
  | .permissions => ∀ state permissions, relation state { state with permissions := permissions }
  | .bots => ∀ state bots, relation state { state with bots := bots }
  | .commands => ∀ state commands, (state.commands.Keyed → commands.Keyed) →
      relation state { state with commands := commands }
  | .messages => ∀ state messages, relation state { state with messages := messages }
  | .published => ∀ state event, ¬ event.IsMessage →
      relation state { state with published := state.published ++ [event] }

variable {relation : AppState → AppState → Prop}

-----------------------------------------------------------------------------------------
-- Single stores
-----------------------------------------------------------------------------------------

namespace Handler

variable {α : Type}

theorem within_onAuth (tolerates : Tolerates relation .auth)
    (action : Eff AuthStore AuthError α)
    : (onAuth action).Within relation :=
  .zoom fun _ => tolerates _ _

theorem within_onOrganizations (tolerates : Tolerates relation .organizations)
    (action : Eff OrganizationStore OrganizationError α)
    : (onOrganizations action).Within relation :=
  .zoom fun _ => tolerates _ _

theorem within_onScimOrganizations (tolerates : Tolerates relation .organizations)
    (action : Eff OrganizationStore OrganizationError α)
    : (onScimOrganizations action).Within relation :=
  .zoom fun _ => tolerates _ _

theorem within_onSpaces (tolerates : Tolerates relation .spaces)
    (action : Eff SpaceStore SpaceError α)
    : (onSpaces action).Within relation :=
  .zoom fun _ => tolerates _ _

theorem within_onChannels (tolerates : Tolerates relation .channels)
    (action : Eff ChannelStore ChannelError α)
    : (onChannels action).Within relation :=
  .zoom fun _ => tolerates _ _

theorem within_onPermissions (tolerates : Tolerates relation .permissions)
    (action : Eff PermissionStore PermissionError α)
    : (onPermissions action).Within relation :=
  .zoom fun _ => tolerates _ _

theorem within_onScim (tolerates : Tolerates relation .scim)
    (action : Eff ScimStore ScimError α)
    : (onScim action).Within relation :=
  .zoom fun _ => tolerates _ _

theorem within_onBots (tolerates : Tolerates relation .bots)
    (action : Eff BotStore BotError α)
    : (onBots action).Within relation :=
  .zoom fun _ => tolerates _ _

/-- Commands may be written as long as interactions stay under their identifiers. -/
theorem within_onCommands (tolerates : Tolerates relation .commands)
    {action : Eff CommandStore CommandError α}
    (keyed : ∀ store : CommandStore, store.Keyed → (action.after store).Keyed)
    : (onCommands action).Within relation :=
  .zoom fun _ => tolerates _ _ (keyed _)

theorem within_publish (tolerates : Tolerates relation .published) {event : RealtimeEvent}
    (eventType : String) (typed : event.eventType = eventType)
    (other : eventType ∉ messageEventTypes)
    : (publish event).Within relation :=
  .writes fun _ => tolerates _ _ fun tells => other (typed ▸ tells)

end Handler

-----------------------------------------------------------------------------------------
-- Interactions
-----------------------------------------------------------------------------------------

namespace CommandStoreKeyed

variable {store : CommandStore}

theorem createCommand (keyed : store.Keyed) (commandId : Uuid) (now : String)
    (input : CreateApplicationCommandInput)
    : ((CommandService.createCommand commandId now input).after store).Keyed := by
  refine Eff.after_check_bind keyed fun name _ => ?_
  refine Eff.after_check_bind keyed fun description _ => ?_
  refine Eff.after_check_bind keyed fun kind _ => ?_
  exact Eff.after_check_bind keyed fun options _ => keyed

theorem createInteraction (keyed : store.Keyed) (crypto : Crypto) (drawn : DrawnInteraction)
    (input : CreateCommandInteractionInput)
    : ((CommandService.createInteraction crypto drawn input).after store).Keyed := by
  rw [CommandService.createInteraction, Eff.after_get_bind]
  refine Eff.after_check_bind keyed fun command _ => ?_
  split
  · exact keyed
  · split
    · exact keyed
    · exact Eff.after_check_bind keyed fun options _ => Table.Keyed.insert keyed _

theorem createComponentInteraction (keyed : store.Keyed) (crypto : Crypto)
    (drawn : DrawnInteraction) (input : CreateComponentInteractionInput)
    : ((CommandService.createComponentInteraction crypto drawn input).after store).Keyed := by
  refine Eff.after_check_bind keyed fun customId _ => ?_
  exact Eff.after_check_bind keyed fun componentType _ => Table.Keyed.insert keyed _

theorem markInteractionDeferred (keyed : store.Keyed) (interactionId : Uuid)
    (respondedAt : String)
    : ((CommandStore.markInteractionDeferred interactionId respondedAt).after store).Keyed := by
  rw [CommandStore.markInteractionDeferred, Eff.after_get_bind]
  split
  · exact keyed
  · next interaction found =>
      obtain rfl := keyed interactionId interaction found
      split
      · exact keyed
      · exact Table.Keyed.insert keyed (interaction.deferred respondedAt)

theorem markInteractionResponded (keyed : store.Keyed) (interactionId : Uuid)
    (responseMessageId : Option Uuid) (respondedAt : String)
    : ((CommandStore.markInteractionResponded interactionId responseMessageId
        respondedAt).after store).Keyed := by
  rw [CommandStore.markInteractionResponded, Eff.after_get_bind]
  split
  · exact keyed
  · next interaction found =>
      obtain rfl := keyed interactionId interaction found
      split
      · exact keyed
      · exact Table.Keyed.insert keyed (interaction.responded responseMessageId respondedAt)

theorem recordInteractionFollowupMessage (keyed : store.Keyed) (interactionId messageId : Uuid)
    : ((CommandStore.recordInteractionFollowupMessage interactionId messageId).after
        store).Keyed := by
  rw [CommandStore.recordInteractionFollowupMessage, Eff.after_get_bind]
  split <;> exact keyed

end CommandStoreKeyed

-----------------------------------------------------------------------------------------
-- Controllers
-----------------------------------------------------------------------------------------

variable {crypto : Crypto} [IsPreorder AppState relation]

theorem within_oidcCallback (auth : Tolerates relation .auth)
    (organizations : Tolerates relation .organizations) (iteration : List StoredOidcProvider)
    (generated : GeneratedIds) (assertion : OidcProviderAssertion)
    : (AuthController.oidcCallback crypto iteration generated assertion).Within relation := by
  refine .bind (Handler.within_onAuth auth _) fun result => ?_
  exact .bind (.zoom fun _ => organizations _ _) fun _ => .pure _

theorem within_configureOidcProvider (auth : Tolerates relation .auth) (token : String)
    (input : ConfigureOidcProviderInput)
    : (OrganizationController.configureOidcProvider crypto token input).Within relation := by
  refine .get_bind fun state => .check_bind fun user _ => ?_
  exact .check_bind fun membership _ => Handler.within_onAuth auth _

theorem within_createOrganization (organizations : Tolerates relation .organizations)
    (organizationId : Uuid) (token name : String)
    : (OrganizationController.create crypto organizationId token name).Within relation :=
  .get_bind fun _ => .check_bind fun _ _ => Handler.within_onOrganizations organizations _

theorem within_provisionTenant (organizations : Tolerates relation .organizations)
    (organizationId : Uuid) (token name plan deploymentMode primaryRegion : String)
    : (OrganizationController.provisionTenant crypto organizationId token name plan
        deploymentMode primaryRegion).Within relation :=
  .get_bind fun _ => .check_bind fun _ _ => Handler.within_onOrganizations organizations _

theorem within_rotateScimToken (scim : Tolerates relation .scim) (token : String)
    (organizationId : Uuid) (scimToken : String)
    : (ScimController.rotateToken crypto token organizationId scimToken).Within relation := by
  refine .get_bind fun state => .check_bind fun user _ => ?_
  exact .check_bind fun membership _ => Handler.within_onScim scim _

theorem within_scimCreateUser (auth : Tolerates relation .auth)
    (organizations : Tolerates relation .organizations) (scim : Tolerates relation .scim)
    (userId scimUserId : Uuid) (token : String) (request : ProvisionScimUserInput)
    : (ScimController.createUser crypto userId scimUserId token request).Within relation := by
  refine .get_bind fun state => .check_bind fun checked _ => .bind ?_ fun user => ?_
  · refine .get_bind fun state => ?_
    split
    · exact .pure _
    · exact .bind (.zoom fun _ => auth _ _) fun _ => .pure _
  · exact .bind (Handler.within_onScimOrganizations organizations _) fun _ =>
      Handler.within_onScim scim _

theorem within_scimPatchUser (organizations : Tolerates relation .organizations)
    (scim : Tolerates relation .scim) (token externalId : String)
    (operations : List ScimPatchOperation)
    : (ScimController.patchUser crypto token externalId operations).Within relation := by
  refine .check_bind fun active _ => .get_bind fun state => .check_bind fun config _ => ?_
  refine .check_bind fun externalId _ => .bind (Handler.within_onScim scim _) fun user => ?_
  exact .bind (Handler.within_onScimOrganizations organizations _) fun _ => .pure _

theorem within_createSpace (spaces : Tolerates relation .spaces) (spaceId : Uuid)
    (token : String) (organizationId : Uuid) (name : String)
    : (SpaceController.create crypto spaceId token organizationId name).Within relation := by
  refine .get_bind fun state => .check_bind fun user _ => ?_
  exact .check_bind fun membership _ => Handler.within_onSpaces spaces _

theorem within_updateSpace (spaces : Tolerates relation .spaces)
    (published : Tolerates relation .published) (stamp : EventStamp) (token : String)
    (spaceId : Uuid) (patch : SpacePatch)
    : (SpaceController.update crypto stamp token spaceId patch).Within relation := by
  refine .get_bind fun state => .check_bind fun user _ => .check_bind fun existing _ => ?_
  refine .check_bind fun _ _ => .bind (Handler.within_onSpaces spaces _) fun space => ?_
  exact .bind (Handler.within_publish published "space.updated" rfl (by decide)) fun _ => .pure _

theorem within_deleteSpace (spaces : Tolerates relation .spaces)
    (published : Tolerates relation .published) (stamp : EventStamp) (token : String)
    (spaceId : Uuid)
    : (SpaceController.delete crypto stamp token spaceId).Within relation := by
  refine .get_bind fun state => .check_bind fun user _ => .check_bind fun existing _ => ?_
  refine .check_bind fun _ _ => .check_bind fun memberUserIds _ => ?_
  refine .bind (Handler.within_onSpaces spaces _) fun space => ?_
  exact Handler.within_publish published "space.deleted" rfl (by decide)

theorem within_addSpaceMember (organizations : Tolerates relation .organizations)
    (spaces : Tolerates relation .spaces) (published : Tolerates relation .published)
    (stamp : EventStamp) (joinedAt token : String) (spaceId : Uuid)
    (request : AddSpaceMemberRequest)
    : (PermissionController.addSpaceMember crypto stamp joinedAt token spaceId
        request).Within relation := by
  refine .get_bind fun state => .check_bind fun user _ => .check_bind fun space _ => ?_
  refine .check_bind fun _ _ => .check_bind fun userId _ => ?_
  refine .bind (Handler.within_onOrganizations organizations _) fun _ => ?_
  refine .bind (Handler.within_onSpaces spaces _) fun member => ?_
  exact .bind (Handler.within_publish published "space.member.added" rfl (by decide))
    fun _ => .pure _

theorem within_removeSpaceMember (spaces : Tolerates relation .spaces)
    (published : Tolerates relation .published) (stamp : EventStamp) (token : String)
    (spaceId userId : Uuid)
    : (PermissionController.removeSpaceMember crypto stamp token spaceId
        userId).Within relation := by
  refine .get_bind fun state => .check_bind fun user _ => .check_bind fun space _ => ?_
  refine .check_bind fun _ _ => .bind (Handler.within_onSpaces spaces _) fun removed => ?_
  exact Handler.within_publish published "space.member.removed" rfl (by decide)

theorem within_createRole (permissions : Tolerates relation .permissions) (roleId : Uuid)
    (token : String) (spaceId : Uuid) (request : CreateRoleRequest)
    : (PermissionController.createRole crypto roleId token spaceId request).Within relation := by
  refine .get_bind fun state => .check_bind fun user _ => .check_bind fun space _ => ?_
  exact .check_bind fun _ _ => Handler.within_onPermissions permissions _

theorem within_assignRole (permissions : Tolerates relation .permissions) (token : String)
    (spaceId roleId : Uuid) (userId : String)
    : (PermissionController.assignRole crypto token spaceId roleId userId).Within relation := by
  refine .get_bind fun state => .check_bind fun user _ => .check_bind fun space _ => ?_
  refine .check_bind fun _ _ => .check_bind fun userId _ => .check_bind fun member _ => ?_
  exact Handler.within_onPermissions permissions _

theorem within_setChannelOverride (permissions : Tolerates relation .permissions)
    (published : Tolerates relation .published) (stamp : EventStamp) (token : String)
    (channelId : Uuid) (request : SetChannelPermissionOverrideRequest)
    : (PermissionController.setChannelOverride crypto stamp token channelId
        request).Within relation := by
  refine .get_bind fun state => .check_bind fun user _ => .check_bind fun ⟨channel, _⟩ _ => ?_
  refine .check_bind fun targetKind _ => .check_bind fun targetId _ => ?_
  refine .bind (Handler.within_onPermissions permissions _) fun permissionOverride => ?_
  split
  · next event revoked =>
      rw [PermissionController.mediaPermissionRevocation] at revoked
      split at revoked
      · obtain rfl := Option.some.inj revoked
        refine .bind ?_ fun _ => .pure _
        exact Handler.within_publish published "media.permission_revoked" rfl (by decide)
      · cases revoked
  · exact .pure _

theorem within_createChannel (channels : Tolerates relation .channels)
    (published : Tolerates relation .published) (stamp : EventStamp) (channelId : Uuid)
    (token : String) (spaceId : Uuid) (request : CreateChannelRequest)
    : (ChannelController.create crypto stamp channelId token spaceId request).Within relation := by
  refine .get_bind fun state => .check_bind fun user _ => .check_bind fun space _ => ?_
  refine .check_bind fun _ _ => .bind (Handler.within_onChannels channels _) fun channel => ?_
  exact .bind (Handler.within_publish published "channel.created" rfl (by decide)) fun _ => .pure _

theorem within_updateChannel (channels : Tolerates relation .channels)
    (published : Tolerates relation .published) (stamp : EventStamp) (token : String)
    (channelId : Uuid) (patch : ChannelPatch)
    : (ChannelController.update crypto stamp token channelId patch).Within relation := by
  refine .get_bind fun state => .check_bind fun user _ => .check_bind fun ⟨existing, _⟩ _ => ?_
  refine .bind (Handler.within_onChannels channels _) fun channel => ?_
  exact .bind (Handler.within_publish published "channel.updated" rfl (by decide)) fun _ => .pure _

theorem within_deleteChannel (channels : Tolerates relation .channels)
    (published : Tolerates relation .published) (stamp : EventStamp) (token : String)
    (channelId : Uuid)
    : (ChannelController.delete crypto stamp token channelId).Within relation := by
  refine .get_bind fun state => .check_bind fun user _ => .check_bind fun ⟨existing, _⟩ _ => ?_
  refine .bind (Handler.within_onChannels channels _) fun channel => ?_
  exact Handler.within_publish published "channel.deleted" rfl (by decide)

theorem within_createBotApplication (auth : Tolerates relation .auth)
    (bots : Tolerates relation .bots) (applicationId botUserId tokenId : Uuid)
    (botToken token : String) (organizationId : Uuid) (name : String)
    (description : Option String)
    : (BotController.createApplication crypto applicationId botUserId tokenId botToken token
        organizationId name description).Within relation := by
  refine .get_bind fun state => .check_bind fun user _ => .check_bind fun membership _ => ?_
  refine .check_bind fun name _ => .check_bind fun description _ => ?_
  refine .bind (.zoom fun _ => auth _ _) fun _ => ?_
  exact .bind (Handler.within_onBots bots _) fun _ => .pure _

theorem within_inviteBotToSpace (organizations : Tolerates relation .organizations)
    (spaces : Tolerates relation .spaces) (published : Tolerates relation .published)
    (stamp : EventStamp) (joinedAt token : String)
    (organizationId applicationId spaceId : Uuid) (role : Option String)
    : (BotController.inviteToSpace crypto stamp joinedAt token organizationId applicationId
        spaceId role).Within relation := by
  refine .get_bind fun state => .check_bind fun user _ => .check_bind fun membership _ => ?_
  refine .check_bind fun application _ => .check_bind fun space _ => ?_
  split
  · exact .throw _
  · refine .bind (Handler.within_onOrganizations organizations _) fun _ => ?_
    refine .bind (Handler.within_onSpaces spaces _) fun member => ?_
    exact .bind (Handler.within_publish published "space.bot.invited" rfl (by decide))
      fun _ => .pure _

theorem within_createSpaceCommand (commands : Tolerates relation .commands) (commandId : Uuid)
    (now botToken : String) (applicationId spaceId : Uuid)
    (request : CreateCompatApplicationCommandRequest)
    : (CommandController.createCompatSpaceCommand crypto commandId now botToken applicationId
        spaceId request).Within relation := by
  refine .get_bind fun state => .check_bind fun bot _ => ?_
  split
  · exact .throw _
  · refine .check_bind fun space _ => ?_
    split
    · exact .throw _
    · exact Handler.within_onCommands commands fun _ keyed =>
        CommandStoreKeyed.createCommand keyed commandId now _

theorem within_createGlobalCommand (commands : Tolerates relation .commands) (commandId : Uuid)
    (now botToken : String) (applicationId : Uuid)
    (request : CreateCompatApplicationCommandRequest)
    : (CommandController.createCompatGlobalCommand crypto commandId now botToken applicationId
        request).Within relation := by
  refine .get_bind fun state => .check_bind fun bot _ => ?_
  split
  · exact .throw _
  · exact Handler.within_onCommands commands fun _ keyed =>
      CommandStoreKeyed.createCommand keyed commandId now _

theorem within_createChannelInteraction (commands : Tolerates relation .commands)
    (published : Tolerates relation .published) (stamp : EventStamp) (drawn : DrawnInteraction)
    (token : String) (channelId : Uuid) (request : CreateCommandInteractionRequest)
    : (CommandController.createChannelInteraction crypto stamp drawn token channelId
        request).Within relation := by
  refine .get_bind fun state => .check_bind fun user _ => .check_bind fun ⟨channel, _⟩ _ => ?_
  refine .check_bind fun command _ => .bind (Handler.within_onCommands commands fun _ keyed =>
    CommandStoreKeyed.createInteraction keyed crypto drawn _) fun created => ?_
  exact .bind (Handler.within_publish published "interaction.created" rfl (by decide))
    fun _ => .pure _

theorem within_createComponentInteraction (commands : Tolerates relation .commands)
    (published : Tolerates relation .published) (stamp : EventStamp) (drawn : DrawnInteraction)
    (token : String) (channelId : Uuid) (request : CreateComponentInteractionRequest)
    : (CommandController.createComponentInteraction crypto stamp drawn token channelId
        request).Within relation := by
  refine .get_bind fun state => .check_bind fun user _ => .check_bind fun ⟨channel, _⟩ _ => ?_
  refine .check_bind fun message _ => ?_
  split
  · exact .throw _
  · refine .check_bind fun componentType _ => .check_bind fun application _ => ?_
    refine .bind (Handler.within_onCommands commands fun _ keyed =>
      CommandStoreKeyed.createComponentInteraction keyed crypto drawn _) fun created => ?_
    exact .bind (Handler.within_publish published "interaction.created" rfl (by decide))
      fun _ => .pure _

theorem within_publishTyping (published : Tolerates relation .published) (stamp : EventStamp)
    (userId : Uuid) (channelId : Option String) (activity : TypingActivity)
    : (RealtimeController.publishTyping stamp userId channelId activity).Within relation := by
  refine .get_bind fun state => ?_
  split
  · exact .pure _
  · split
    · exact .pure _
    · exact Handler.within_publish published activity.eventType rfl (by cases activity <;> decide)

-----------------------------------------------------------------------------------------
-- Requests
-----------------------------------------------------------------------------------------

/-- The parts of the state that a request may write. -/
def AppRequest.footprint : AppRequest → List StatePart
  | .register .. | .login .. | .logout .. | .createUser .. => [.auth]
  | .configureOidcProvider .. => [.auth]
  | .oidcCallback .. => [.auth, .organizations]
  | .createOrganization .. | .provisionTenant .. | .updatePlan .. => [.organizations]
  | .rotateScimToken .. => [.scim]
  | .scimCreateUser .. => [.auth, .organizations, .scim]
  | .scimPatchUser .. => [.organizations, .scim]
  | .createSpace .. => [.spaces]
  | .updateSpace .. | .deleteSpace .. | .removeSpaceMember .. => [.spaces, .published]
  | .addSpaceMember .. | .inviteBotToSpace .. => [.organizations, .spaces, .published]
  | .createRole .. | .assignRole .. => [.permissions]
  | .setChannelOverride .. => [.permissions, .published]
  | .createChannel .. | .updateChannel .. | .deleteChannel .. => [.channels, .published]
  | .createBotApplication .. => [.auth, .bots]
  | .createSpaceCommand .. | .createGlobalCommand .. => [.commands]
  | .createChannelInteraction .. | .createComponentInteraction .. => [.commands, .published]
  | .typing .. | .channelActivity .. => [.published]
  | .storeMessage .. => [.messages]

/-- A request that is not one of the requests for messages, which have endpoints of their own. -/
def AppRequest.BesidesMessages : AppRequest → Prop
  | .storeMessage _ => False
  | .channelActivity _ eventType _ _ _ _ => eventType ∉ messageEventTypes
  | _ => True

instance (request : AppRequest) : Decidable request.BesidesMessages := by
  induction request using AppRequest.casesOn with
  | storeMessage => exact instDecidableFalse
  | channelActivity => exact inferInstanceAs (Decidable (_ ∉ messageEventTypes))
  | _ => exact instDecidableTrue

/-- By cases of the requests. -/
theorem AppRequest.perform_within {request : AppRequest} (besides : request.BesidesMessages)
    (tolerates : ∀ part ∈ request.footprint, Tolerates relation part) (state : AppState)
    : relation state (request.perform crypto state) := by
  cases request with
  | register | login | logout | createUser =>
      exact Handler.within_onAuth (tolerates .auth (by simp [footprint])) _ state
  | configureOidcProvider token input =>
      exact within_configureOidcProvider (tolerates .auth (by simp [footprint])) token input
        state
  | oidcCallback iteration generated assertion =>
      exact within_oidcCallback (tolerates .auth (by simp [footprint]))
        (tolerates .organizations (by simp [footprint])) iteration generated assertion state
  | createOrganization organizationId token name =>
      exact within_createOrganization (tolerates .organizations (by simp [footprint]))
        organizationId token name state
  | provisionTenant organizationId token name plan deploymentMode primaryRegion =>
      exact within_provisionTenant (tolerates .organizations (by simp [footprint]))
        organizationId token name plan deploymentMode primaryRegion state
  | updatePlan =>
      exact Handler.within_onOrganizations (tolerates .organizations (by simp [footprint])) _ state
  | rotateScimToken token organizationId scimToken =>
      exact within_rotateScimToken (tolerates .scim (by simp [footprint])) token organizationId
        scimToken state
  | scimCreateUser userId scimUserId token request =>
      exact within_scimCreateUser (tolerates .auth (by simp [footprint]))
        (tolerates .organizations (by simp [footprint])) (tolerates .scim (by simp [footprint]))
        userId scimUserId token request state
  | scimPatchUser token externalId operations =>
      exact within_scimPatchUser (tolerates .organizations (by simp [footprint]))
        (tolerates .scim (by simp [footprint])) token externalId operations state
  | createSpace spaceId token organizationId name =>
      exact within_createSpace (tolerates .spaces (by simp [footprint])) spaceId token
        organizationId name state
  | updateSpace stamp token spaceId patch =>
      exact within_updateSpace (tolerates .spaces (by simp [footprint]))
        (tolerates .published (by simp [footprint])) stamp token spaceId patch state
  | deleteSpace stamp token spaceId =>
      exact within_deleteSpace (tolerates .spaces (by simp [footprint]))
        (tolerates .published (by simp [footprint])) stamp token spaceId state
  | addSpaceMember stamp joinedAt token spaceId request =>
      exact within_addSpaceMember (tolerates .organizations (by simp [footprint]))
        (tolerates .spaces (by simp [footprint])) (tolerates .published (by simp [footprint]))
        stamp joinedAt token spaceId request state
  | removeSpaceMember stamp token spaceId userId =>
      exact within_removeSpaceMember (tolerates .spaces (by simp [footprint]))
        (tolerates .published (by simp [footprint])) stamp token spaceId userId state
  | createRole roleId token spaceId request =>
      exact within_createRole (tolerates .permissions (by simp [footprint])) roleId token spaceId
        request state
  | assignRole token spaceId roleId userId =>
      exact within_assignRole (tolerates .permissions (by simp [footprint])) token spaceId roleId
        userId state
  | setChannelOverride stamp token channelId request =>
      exact within_setChannelOverride (tolerates .permissions (by simp [footprint]))
        (tolerates .published (by simp [footprint])) stamp token channelId request state
  | createChannel stamp channelId token spaceId request =>
      exact within_createChannel (tolerates .channels (by simp [footprint]))
        (tolerates .published (by simp [footprint])) stamp channelId token spaceId request state
  | updateChannel stamp token channelId patch =>
      exact within_updateChannel (tolerates .channels (by simp [footprint]))
        (tolerates .published (by simp [footprint])) stamp token channelId patch state
  | deleteChannel stamp token channelId =>
      exact within_deleteChannel (tolerates .channels (by simp [footprint]))
        (tolerates .published (by simp [footprint])) stamp token channelId state
  | createBotApplication applicationId botUserId tokenId botToken token organizationId name
    description =>
      exact within_createBotApplication (tolerates .auth (by simp [footprint]))
        (tolerates .bots (by simp [footprint])) applicationId botUserId tokenId botToken token
        organizationId name description state
  | inviteBotToSpace stamp joinedAt token organizationId applicationId spaceId role =>
      exact within_inviteBotToSpace (tolerates .organizations (by simp [footprint]))
        (tolerates .spaces (by simp [footprint])) (tolerates .published (by simp [footprint]))
        stamp joinedAt token organizationId applicationId spaceId role state
  | createSpaceCommand commandId now botToken applicationId spaceId request =>
      exact within_createSpaceCommand (tolerates .commands (by simp [footprint])) commandId now
        botToken applicationId spaceId request state
  | createGlobalCommand commandId now botToken applicationId request =>
      exact within_createGlobalCommand (tolerates .commands (by simp [footprint])) commandId now
        botToken applicationId request state
  | createChannelInteraction stamp drawn token channelId request =>
      exact within_createChannelInteraction (tolerates .commands (by simp [footprint]))
        (tolerates .published (by simp [footprint])) stamp drawn token channelId request state
  | createComponentInteraction stamp drawn token channelId request =>
      exact within_createComponentInteraction (tolerates .commands (by simp [footprint]))
        (tolerates .published (by simp [footprint])) stamp drawn token channelId request state
  | typing stamp userId channelId activity =>
      exact within_publishTyping (tolerates .published (by simp [footprint])) stamp userId
        channelId activity state
  | storeMessage => exact besides.elim
  | channelActivity stamp eventType =>
      exact Handler.within_publish (tolerates .published (by simp [footprint])) eventType rfl
        besides state

-----------------------------------------------------------------------------------------
-- Parts outside of the footprint
-----------------------------------------------------------------------------------------

/-- A part of the state stays as it is. -/
def AppState.SamePart (before after : AppState) : StatePart → Prop
  | .auth => after.auth = before.auth
  | .organizations => after.organizations = before.organizations
  | .scim => after.scim = before.scim
  | .spaces => after.spaces = before.spaces
  | .channels => after.channels = before.channels
  | .permissions => after.permissions = before.permissions
  | .bots => after.bots = before.bots
  | .commands => after.commands = before.commands
  | .messages => after.messages = before.messages
  | .published => after.published = before.published

namespace AppState

variable {part other : StatePart}

instance : Std.Refl fun before after => AppState.SamePart before after part where
  refl _ := by cases part <;> rfl

instance : IsTrans AppState fun before after => before.SamePart after part where
  trans _ _ _ first second := by cases part <;> exact Eq.trans second first

instance : IsPreorder AppState fun before after => before.SamePart after part where

/-- A part is not hurt by writes to the other parts. -/
theorem tolerates_samePart (differs : part ≠ other)
    : Tolerates (fun before after => before.SamePart after part) other := by
  cases other <;> simp only [Tolerates] <;> intros <;> cases part
    <;> first | exact absurd rfl differs | rfl

end AppState

/-- A request leaves the parts outside of its footprint. -/
theorem AppRequest.perform_samePart {request : AppRequest} {part : StatePart}
    (outside : part ∉ request.footprint) (state : AppState)
    : state.SamePart (request.perform crypto state) part := by
  have tolerates : ∀ other ∈ request.footprint,
      Tolerates (fun before after => before.SamePart after part) other :=
    fun other written => AppState.tolerates_samePart fun same => outside (same ▸ written)
  cases request with
  | storeMessage message =>
      cases part <;> first | rfl | exact absurd (by simp [footprint]) outside
  | channelActivity stamp eventType organizationId spaceId channelId data =>
      cases part <;> first | rfl | exact absurd (by simp [footprint]) outside
  | _ =>
      refine perform_within ?_ tolerates state
      trivial

end OpenCord.Server

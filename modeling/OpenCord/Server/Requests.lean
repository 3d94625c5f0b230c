import OpenCord.Auth.Runs
import OpenCord.Server.Interactions
import OpenCord.Server.Memberships
import OpenCord.Server.Spaces
import OpenCord.Server.UserSockets

/-! Runs of the server under any requests. A request is one step; what it draws at random
and reads from the clock is part of it.
-/

namespace OpenCord.Server

open OpenCord.Library OpenCord.Platform OpenCord.Auth OpenCord.Tenancy OpenCord.Bots
  OpenCord.Messages OpenCord.Realtime

/-- The requests that write the modelled stores or publish an event. `createUser` stands
for the users that webhooks get; `storeMessage` and `channelActivity` for the endpoints of
messages, webhooks, interaction responses and voice: beyond messages, what they write is
elsewhere, and what they publish is an event of one channel.
-/
inductive AppRequest where
  | register (generated : GeneratedIds) (email displayName password : String)
  | login (generated : GeneratedIds) (email password : String)
  | logout (token : String)
  | createUser (user : StoredUser)
  | configureOidcProvider (token : String) (input : ConfigureOidcProviderInput)
  | oidcCallback (iteration : List StoredOidcProvider) (generated : GeneratedIds)
      (assertion : OidcProviderAssertion)
  | createOrganization (organizationId : Uuid) (token name : String)
  | provisionTenant (organizationId : Uuid)
      (token name plan deploymentMode primaryRegion : String)
  | updatePlan (organizationId : Uuid) (plan : String)
  | rotateScimToken (token : String) (organizationId : Uuid) (scimToken : String)
  | scimCreateUser (userId scimUserId : Uuid) (token : String)
      (request : ProvisionScimUserInput)
  | scimPatchUser (token externalId : String) (operations : List ScimPatchOperation)
  | createSpace (spaceId : Uuid) (token : String) (organizationId : Uuid) (name : String)
  | updateSpace (stamp : EventStamp) (token : String) (spaceId : Uuid) (patch : SpacePatch)
  | deleteSpace (stamp : EventStamp) (token : String) (spaceId : Uuid)
  | addSpaceMember (stamp : EventStamp) (joinedAt token : String) (spaceId : Uuid)
      (request : AddSpaceMemberRequest)
  | removeSpaceMember (stamp : EventStamp) (token : String) (spaceId userId : Uuid)
  | createRole (roleId : Uuid) (token : String) (spaceId : Uuid)
      (request : CreateRoleRequest)
  | assignRole (token : String) (spaceId roleId : Uuid) (userId : String)
  | setChannelOverride (stamp : EventStamp) (token : String) (channelId : Uuid)
      (request : SetChannelPermissionOverrideRequest)
  | createChannel (stamp : EventStamp) (channelId : Uuid) (token : String) (spaceId : Uuid)
      (request : CreateChannelRequest)
  | updateChannel (stamp : EventStamp) (token : String) (channelId : Uuid)
      (patch : ChannelPatch)
  | deleteChannel (stamp : EventStamp) (token : String) (channelId : Uuid)
  | createBotApplication (applicationId botUserId tokenId : Uuid) (botToken token : String)
      (organizationId : Uuid) (name : String) (description : Option String)
  | inviteBotToSpace (stamp : EventStamp) (joinedAt token : String)
      (organizationId applicationId spaceId : Uuid) (role : Option String)
  | createSpaceCommand (commandId : Uuid) (now botToken : String)
      (applicationId spaceId : Uuid) (request : CreateCompatApplicationCommandRequest)
  | createGlobalCommand (commandId : Uuid) (now botToken : String) (applicationId : Uuid)
      (request : CreateCompatApplicationCommandRequest)
  | createChannelInteraction (stamp : EventStamp) (drawn : DrawnInteraction) (token : String)
      (channelId : Uuid) (request : CreateCommandInteractionRequest)
  | createComponentInteraction (stamp : EventStamp) (drawn : DrawnInteraction)
      (token : String) (channelId : Uuid) (request : CreateComponentInteractionRequest)
  | typing (stamp : EventStamp) (userId : Uuid) (channelId : Option String)
      (activity : TypingActivity)
  | storeMessage (message : Message)
  | channelActivity (stamp : EventStamp) (eventType : String)
      (organizationId spaceId channelId : Uuid) (data : PlainJson)

namespace AppState

/-- No event published so far is about the channel. -/
def Unpublished (state : AppState) (channelId : Uuid) : Prop :=
  ∀ event ∈ state.published, event.scope.channelId ≠ some channelId.toString

instance (state : AppState) (channelId : Uuid) : Decidable (state.Unpublished channelId) :=
  inferInstanceAs (Decidable (∀ event ∈ state.published, _))

/-- An identifier under which no organization is stored and has members. -/
def NewOrganization (state : AppState) (organizationId : Uuid) : Prop :=
  organizationId ∉ state.organizations.organizationsById
    ∧ ∀ row ∈ state.organizations.membersByOrgUser.keys, row.1 ≠ organizationId

instance (state : AppState) (organizationId : Uuid)
    : Decidable (state.NewOrganization organizationId) :=
  inferInstanceAs (Decidable (_ ∧ _))

/-- An identifier under which no space is stored, has members or has channels. -/
def NewSpace (state : AppState) (spaceId : Uuid) : Prop :=
  spaceId ∉ state.spaces.spacesById
    ∧ (∀ row ∈ state.spaces.membersBySpaceUser.keys, row.1 ≠ spaceId)
    ∧ ∀ channel ∈ state.channels.channelsById.values, channel.spaceId ≠ spaceId

instance (state : AppState) (spaceId : Uuid) : Decidable (state.NewSpace spaceId) :=
  inferInstanceAs (Decidable (_ ∧ _ ∧ _))

/-- An identifier under which no channel is stored or has been published about. -/
def NewChannel (state : AppState) (channelId : Uuid) : Prop :=
  channelId ∉ state.channels.channelsById ∧ state.Unpublished channelId

instance (state : AppState) (channelId : Uuid) : Decidable (state.NewChannel channelId) :=
  inferInstanceAs (Decidable (_ ∧ _))

/-- The place of a channel, unless it has been archived. -/
def Locates (state : AppState) (organizationId spaceId channelId : Uuid) : Prop :=
  ∀ channel ∈ state.channels.channelsById.lookup channelId,
    channel.organizationId = organizationId ∧ channel.spaceId = spaceId

instance (state : AppState) (organizationId spaceId channelId : Uuid)
    : Decidable (state.Locates organizationId spaceId channelId) :=
  inferInstanceAs (Decidable (∀ channel ∈ state.channels.channelsById.lookup channelId, _))

/-- A token that no published event shows. -/
def NewToken (state : AppState) (token : String) : Prop :=
  ∀ event ∈ state.published, token ∉ event.data.tokens

instance (state : AppState) (token : String) : Decidable (state.NewToken token) :=
  inferInstanceAs (Decidable (∀ event ∈ state.published, _))

end AppState

namespace AppRequest

/-- Drawn identifiers and tokens are new, a provider walk lists the stored providers, and
activity in a channel is published under the channel's place and as what it is.
-/
def Admissible (state : AppState) : AppRequest → Prop
  | .register generated _ _ _ => generated.userId ∉ state.auth.usersById
  | .createUser user => user.id ∉ state.auth.usersById
  | .oidcCallback iteration generated _ =>
      state.auth.IteratedBy iteration ∧ generated.userId ∉ state.auth.usersById
  | .createOrganization organizationId _ _ => state.NewOrganization organizationId
  | .provisionTenant organizationId _ _ _ _ _ => state.NewOrganization organizationId
  | .scimCreateUser userId _ _ _ => userId ∉ state.auth.usersById
  | .createSpace spaceId _ _ _ => state.NewSpace spaceId
  | .createChannel _ channelId _ _ _ => state.NewChannel channelId
  | .createBotApplication applicationId botUserId _ _ _ _ _ _ =>
      applicationId ∉ state.bots.applications ∧ botUserId ∉ state.auth.usersById
  | .createChannelInteraction _ drawn _ _ _ => state.NewToken drawn.token
  | .createComponentInteraction _ drawn _ _ _ => state.NewToken drawn.token
  | .channelActivity _ eventType organizationId spaceId channelId _ =>
      eventType ≠ "interaction.created" ∧ state.Locates organizationId spaceId channelId
  | _ => True

instance (state : AppState) (request : AppRequest) : Decidable (request.Admissible state) := by
  cases request <;> unfold Admissible <;> infer_instance

/-- The state after a request, whether or not the request succeeds. -/
def perform (crypto : Crypto) (state : AppState) : AppRequest → AppState
  | .register generated email displayName password =>
      (Handler.onAuth (AuthService.register crypto generated email displayName password)).after
        state
  | .login generated email password =>
      (Handler.onAuth (AuthService.login crypto generated email password)).after state
  | .logout token => (Handler.onAuth (AuthService.logout crypto token)).after state
  | .createUser user => (Handler.onAuth (AuthStore.createUser user)).after state
  | .configureOidcProvider token input =>
      (OrganizationController.configureOidcProvider crypto token input).after state
  | .oidcCallback iteration generated assertion =>
      (AuthController.oidcCallback crypto iteration generated assertion).after state
  | .createOrganization organizationId token name =>
      (OrganizationController.create crypto organizationId token name).after state
  | .provisionTenant organizationId token name plan deploymentMode primaryRegion =>
      (OrganizationController.provisionTenant crypto organizationId token name plan
        deploymentMode primaryRegion).after state
  | .updatePlan organizationId plan =>
      (Handler.onOrganizations (OrganizationStore.updatePlan organizationId plan)).after state
  | .rotateScimToken token organizationId scimToken =>
      (ScimController.rotateToken crypto token organizationId scimToken).after state
  | .scimCreateUser userId scimUserId token request =>
      (ScimController.createUser crypto userId scimUserId token request).after state
  | .scimPatchUser token externalId operations =>
      (ScimController.patchUser crypto token externalId operations).after state
  | .createSpace spaceId token organizationId name =>
      (SpaceController.create crypto spaceId token organizationId name).after state
  | .updateSpace stamp token spaceId patch =>
      (SpaceController.update crypto stamp token spaceId patch).after state
  | .deleteSpace stamp token spaceId =>
      (SpaceController.delete crypto stamp token spaceId).after state
  | .addSpaceMember stamp joinedAt token spaceId request =>
      (PermissionController.addSpaceMember crypto stamp joinedAt token spaceId request).after
        state
  | .removeSpaceMember stamp token spaceId userId =>
      (PermissionController.removeSpaceMember crypto stamp token spaceId userId).after state
  | .createRole roleId token spaceId request =>
      (PermissionController.createRole crypto roleId token spaceId request).after state
  | .assignRole token spaceId roleId userId =>
      (PermissionController.assignRole crypto token spaceId roleId userId).after state
  | .setChannelOverride stamp token channelId request =>
      (PermissionController.setChannelOverride crypto stamp token channelId request).after state
  | .createChannel stamp channelId token spaceId request =>
      (ChannelController.create crypto stamp channelId token spaceId request).after state
  | .updateChannel stamp token channelId patch =>
      (ChannelController.update crypto stamp token channelId patch).after state
  | .deleteChannel stamp token channelId =>
      (ChannelController.delete crypto stamp token channelId).after state
  | .createBotApplication applicationId botUserId tokenId botToken token organizationId name
      description =>
      (BotController.createApplication crypto applicationId botUserId tokenId botToken token
        organizationId name description).after state
  | .inviteBotToSpace stamp joinedAt token organizationId applicationId spaceId role =>
      (BotController.inviteToSpace crypto stamp joinedAt token organizationId applicationId
        spaceId role).after state
  | .createSpaceCommand commandId now botToken applicationId spaceId request =>
      (CommandController.createCompatSpaceCommand crypto commandId now botToken applicationId
        spaceId request).after state
  | .createGlobalCommand commandId now botToken applicationId request =>
      (CommandController.createCompatGlobalCommand crypto commandId now botToken applicationId
        request).after state
  | .createChannelInteraction stamp drawn token channelId request =>
      (CommandController.createChannelInteraction crypto stamp drawn token channelId
        request).after state
  | .createComponentInteraction stamp drawn token channelId request =>
      (CommandController.createComponentInteraction crypto stamp drawn token channelId
        request).after state
  | .typing stamp userId channelId activity =>
      (RealtimeController.publishTyping stamp userId channelId activity).after state
  | .storeMessage message => { state with messages := state.messages.withMessage message }
  | .channelActivity stamp eventType organizationId spaceId channelId data =>
      (Handler.publish
        (.channel stamp eventType organizationId spaceId channelId data.value)).after state

end AppRequest

/-- One request on the server. -/
def AppState.step (crypto : Crypto) (state : AppState) (request : AppRequest)
    : Option AppState :=
  if request.Admissible state then some (request.perform crypto state) else none

-----------------------------------------------------------------------------------------
-- An organization with one provisioned member
-----------------------------------------------------------------------------------------

namespace Acme

def id : Uuid := .ofNat 10
def alice : Uuid := .ofNat 1
def bob : Uuid := .ofNat 2
def mallory : Uuid := .ofNat 3
def main : Uuid := .ofNat 20
def general : Uuid := .ofNat 30

/-- A token of 64 equal hex digits after what its kind starts with. -/
def token (kind : String) (digit : Char) : String :=
  kind ++ String.ofList (List.replicate 64 digit)

def aliceToken : String := token "" 'a'
def scimToken : String := token "opc-scim-" 'b'
def bobToken : String := token "" 'c'
def malloryToken : String := token "" 'd'

/-- The real digests and tags of the texts below, and the real hash of the one
password, for the one salt.
-/
def crypto : Crypto where
  sha256 text :=
    if text = aliceToken then
      "ffe054fe7ae0cb6dc65c3af9b61d5209f439851db43d0ba5997337df154668eb"
    else if text = scimToken then
      "7828f28b84300ae8980481fff70e22193b4a98840c4ae9e91c903b123fcbabf1"
    else if text = bobToken then
      "52b6419d27bd7f547cee3b92f8c17a908b8a49601ecbec161e5030de1dfe9e0a"
    else if text = malloryToken then
      "d91323a5298f3b9f814db29efaa271f24fbdccedfdd062491b8abc8e07b7fb69"
    else if text = "00000000-0000-0000-0000-00000000000a\nbob-1" then
      "5fe2d49c3bbaf939da1cf8a9894aa7d93aa7f4afa7cb964ddf9d0ea379b72880"
    else
      ""
  hmacSha256 secret text :=
    if secret = "acme-oidc-secret"
        ∧ text = "https://idp.acme.test\nbob\nbob@acme.test\ntrue" then
      "c3efe3dc1d92d07cd717ddfb1b4b3aa9a82b95f3bfaf489a139f6b977d63c804"
    else
      ""
  hashPassword _ _ :=
    "$argon2id$v=19$m=19456,t=2,p=1$c2FsdHNhbHRzYWx0c2FsdA$4M+WwRwKBnzRyLmFWJp6WNynrA1ncUz9mkqdaYW8GOU"
  verifyPassword password _ := password = "password-123"

def stamp (number : Nat) : EventStamp := ⟨.ofNat number, "2026-01-01T00:00:00.000Z"⟩

/-- Alice founds Acme with a space and a channel, its SCIM client provisions Bob, and Alice
adds Bob to the space.
-/
def requests : List AppRequest :=
  [.register ⟨alice, .ofNat 101, .ofNat 102, aliceToken, "c2FsdHNhbHRzYWx0c2FsdA"⟩
      "alice@acme.test" "Alice" "password-123",
    .createOrganization id aliceToken "Acme",
    .rotateScimToken aliceToken id scimToken,
    .scimCreateUser bob (.ofNat 103) scimToken ⟨"bob-1", "bob@acme.test", none, true⟩,
    .createSpace main aliceToken id "Main",
    .createChannel (stamp 201) general aliceToken main ⟨none, "general", none, none⟩,
    .addSpaceMember (stamp 202) "2026-01-01T00:00:00.000Z" aliceToken main
      ⟨bob.toString, none⟩]

/-- Acme's SCIM client asks for a status of Bob. -/
def setBobActive (active : Bool) : AppRequest :=
  .scimPatchUser scimToken "bob-1" [⟨"replace", some "active", .bool active⟩]

def provider : ConfigureOidcProviderInput :=
  ⟨id, "https://idp.acme.test", "https://idp.acme.test/auth", "https://idp.acme.test/token",
    "https://idp.acme.test/jwks", "opencord", "acme-oidc-secret", ["acme.test"], false, "member"⟩

def storedProvider : StoredOidcProvider :=
  ⟨id, "https://idp.acme.test", "https://idp.acme.test/auth", "https://idp.acme.test/token",
    "https://idp.acme.test/jwks", "opencord", "acme-oidc-secret", ["acme.test"], false, "member"⟩

/-- Bob signs in with Acme's provider. -/
def bobSignsIn : AppRequest :=
  .oidcCallback [storedProvider] ⟨.ofNat 104, .ofNat 105, .ofNat 106, bobToken, ""⟩
    ⟨"https://idp.acme.test", "bob", "bob@acme.test", "Bob", true,
      "c3efe3dc1d92d07cd717ddfb1b4b3aa9a82b95f3bfaf489a139f6b977d63c804"⟩

def bot : Uuid := .ofNat 5
def botApplication : Uuid := .ofNat 40
def botToken : String := token "ocb_" 'e'
def interaction : Uuid := .ofNat 70
def interactionToken : String := token "oci_" 'f'

/-- The digests above, with those of the tokens of the bot and of the interaction. -/
def botCrypto : Crypto :=
  { crypto with
    sha256 := fun text =>
      if text = botToken then
        "27b2425b613ebb0e7c85b7e878978e5188edbb063e50dda1fdb8f40cc3c1edbc"
      else if text = interactionToken then
        "9ae913793ed7a5a103f700acf536b79e85f8370de7dff53d135827e1ce512be7"
      else
        crypto.sha256 text }

/-- Alice creates a bot and brings it into the space, the bot registers a command, and Alice
uses the command in the channel.
-/
def botRequests : List AppRequest :=
  [.createBotApplication botApplication bot (.ofNat 104) botToken aliceToken id "Echo" none,
    .inviteBotToSpace (stamp 203) "2026-01-01T00:00:00.000Z" aliceToken id botApplication main
      none,
    .createSpaceCommand (.ofNat 71) "2026-01-01T00:00:00.000Z" botToken botApplication main
      ⟨"echo", "Says it again", none, none⟩,
    .createChannelInteraction (stamp 204)
      ⟨interaction, interactionToken, "2026-01-01T00:00:00.000Z"⟩ aliceToken general
      ⟨.ofNat 71, none⟩]

end Acme

end OpenCord.Server

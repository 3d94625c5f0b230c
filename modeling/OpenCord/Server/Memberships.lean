import OpenCord.Server.State

/-! The controllers that sign users in, create organizations, provision users over SCIM and
invite members and bots into spaces.
-/

namespace OpenCord.Server

open OpenCord.Library OpenCord.Platform OpenCord.Auth OpenCord.Tenancy OpenCord.Bots
  OpenCord.Realtime

variable (crypto : Crypto)

namespace AuthController

/-- Signs in with OIDC, then joins the provider's organization. -/
def oidcCallback (iteration : List StoredOidcProvider) (generated : GeneratedIds)
    (assertion : OidcProviderAssertion) : Handler AuthResult := do
  let result ← Handler.onAuth (AuthService.oidcLogin crypto iteration generated assertion)
  Eff.zoom AppState.organizations
    (fun state organizations => { state with organizations := organizations })
    (fun _ => ApiError.auth .storeUnavailable)
    (OrganizationService.addMemberIfMissing result.organizationId result.auth.user.id
      result.autoJoinRole)
  return result.auth

end AuthController

namespace OrganizationController

def create (organizationId : Uuid) (token name : String) : Handler OrganizationMembership := do
  let state ← get
  let user ← state.userForToken crypto token
  Handler.onOrganizations (OrganizationService.create organizationId user.id name)

def provisionTenant (organizationId : Uuid)
    (token name plan deploymentMode primaryRegion : String)
    : Handler OrganizationMembership := do
  let state ← get
  let user ← state.userForToken crypto token
  Handler.onOrganizations
    (OrganizationService.provisionTenant organizationId user.id name plan deploymentMode
      primaryRegion)

def configureOidcProvider (token : String) (input : ConfigureOidcProviderInput)
    : Handler StoredOidcProvider := do
  let state ← get
  let user ← state.userForToken crypto token
  let _ ← state.requireAdmin user.id input.organizationId
  Handler.onAuth (AuthService.configureOidcProvider input)

end OrganizationController

-----------------------------------------------------------------------------------------
-- SCIM
-----------------------------------------------------------------------------------------

namespace ScimService

def rotateToken (organizationId : Uuid) (token : String) : Handler Unit :=
  Handler.onScim (ScimStore.rotateToken
    ⟨organizationId, Tenancy.ScimService.hashScimToken crypto token⟩)

/-- A provisioning request after its checks. -/
structure CheckedProvision where
  organizationId : Uuid
  externalId : String
  userName : String
  displayName : String

def checkProvision (state : AppState) (token : String) (input : ProvisionScimUserInput)
    : Except ScimError CheckedProvision := do
  let config ← Tenancy.ScimService.configForToken crypto state.scim token
  let externalId ← Tenancy.ScimService.normalizeExternalId input.externalId
  let userName ← Tenancy.ScimService.normalizeEmail input.userName
  let displayName ← Tenancy.ScimService.normalizeDisplayName input.displayName userName
  return ⟨config.organizationId, externalId, userName, displayName⟩

/-- The account a provisioned user gets: the one with the email, else a new one. -/
def provisionedUser (state : AppState) (userId : Uuid) (checked : CheckedProvision)
    : StoredUser :=
  match state.auth.findUserByEmail checked.userName with
  | some existing => existing
  | none => ⟨userId, checked.userName, checked.displayName,
      Tenancy.ScimService.scimPasswordMarker crypto checked.organizationId checked.externalId⟩

/-- Stores the account of a provisioned user, unless it exists. -/
def createProvisionedUser (userId : Uuid) (checked : CheckedProvision) : Handler StoredUser := do
  let state ← get
  let user := provisionedUser crypto state userId checked
  match state.auth.findUserByEmail checked.userName with
  | some _ => return user
  | none =>
      Eff.zoom AppState.auth (fun state auth => { state with auth := auth })
        (fun error => ApiError.scim (.ofAuth error)) (AuthStore.createUser user)
      return user

/-- Makes the membership of a provisioned user active, then inactive if asked to. -/
def provisionMembership (organizationId userId : Uuid) (active : Bool)
    : Eff OrganizationStore OrganizationError Unit := do
  OrganizationStore.addMemberIfMissing ⟨organizationId, userId, "member", .active⟩
  if active then
    return ()
  else
    OrganizationStore.setMemberStatus organizationId userId .inactive

def provisionUser (userId scimUserId : Uuid) (token : String) (input : ProvisionScimUserInput)
    : Handler StoredScimUser := do
  let state ← get
  let checked ← (checkProvision crypto state token input).mapError ApiError.scim
  let user ← createProvisionedUser crypto userId checked
  Handler.onScimOrganizations
    (provisionMembership checked.organizationId user.id input.active)
  Handler.onScim (ScimStore.upsertUser
    ⟨scimUserId, checked.organizationId, user.id, checked.externalId, checked.userName,
      checked.displayName, input.active⟩)

def setUserActive (token externalId : String) (active : Bool) : Handler StoredScimUser := do
  let state ← get
  let config ← (Tenancy.ScimService.configForToken crypto state.scim token).mapError
    ApiError.scim
  let externalId ← (Tenancy.ScimService.normalizeExternalId externalId).mapError ApiError.scim
  let user ← Handler.onScim (ScimStore.setUserActive config.organizationId externalId active)
  Handler.onScimOrganizations
    (OrganizationStore.setMemberStatus config.organizationId user.userId
      (if active then .active else .inactive))
  return user

end ScimService

structure ScimPatchOperation where
  op : String
  path : Option String
  value : Json

namespace ScimController

def rotateToken (token : String) (organizationId : Uuid) (scimToken : String)
    : Handler Unit := do
  let state ← get
  let user ← state.userForToken crypto token
  let _ ← state.requireAdmin user.id organizationId
  ScimService.rotateToken crypto organizationId scimToken

def createUser (userId scimUserId : Uuid) (token : String) (request : ProvisionScimUserInput)
    : Handler StoredScimUser :=
  ScimService.provisionUser crypto userId scimUserId token request

/-- The value of the first operation that replaces `active`. -/
def activePatchValue (operations : List ScimPatchOperation) : Except ScimError Bool :=
  let replacement := operations.find? fun operation =>
    Text.toAsciiLowercase operation.op = "replace"
      ∧ operation.path.any fun path => Text.toAsciiLowercase path = "active"
  match replacement with
  | some ⟨_, _, .bool active⟩ => .ok active
  | _ => .error (.invalidInput "SCIM patch must replace active with a boolean")

def patchUser (token externalId : String) (operations : List ScimPatchOperation)
    : Handler StoredScimUser := do
  let active ← (activePatchValue operations).mapError ApiError.scim
  ScimService.setUserActive crypto token externalId active

end ScimController

-----------------------------------------------------------------------------------------
-- Space members
-----------------------------------------------------------------------------------------

structure AddSpaceMemberRequest where
  userId : String
  role : Option String

namespace PermissionController

/-- A user as the member events show it. -/
def memberUser (userId : Uuid) (user : Option StoredUser) : Json :=
  .object [("id", .string userId.toString),
    ("username", .string ((user.map StoredUser.displayName).getD "OpenCord User")),
    ("bot", .bool false)]

@[simp] theorem tokens_memberUser (userId : Uuid) (user : Option StoredUser)
    : (memberUser userId user).tokens = [] :=
  rfl

def addSpaceMember (stamp : EventStamp) (joinedAt token : String) (spaceId : Uuid)
    (request : AddSpaceMemberRequest) : Handler SpaceMembership := do
  let state ← get
  let user ← state.userForToken crypto token
  let space ← state.spaceForUser user.id spaceId
  state.requireSpace user.id space .inviteMembers
  let userId ← parseUuid request.userId "valid user_id is required"
  let addedUser := state.auth.findUserById userId
  Handler.onOrganizations
    (OrganizationService.addMemberIfMissing space.organizationId userId "member")
  let member ← Handler.onSpaces
    (SpaceService.addMember space.id userId (request.role.getD "member"))
  Handler.publish (.space stamp "space.member.added" space.organizationId space.id
    (.object [("member", .object [("guild_id", .string space.id.toString),
      ("user", memberUser userId addedUser), ("roles", .array []),
      ("joined_at", .string joinedAt), ("deaf", .bool false), ("mute", .bool false),
      ("pending", .bool false)])]))
  return member

def removeSpaceMember (stamp : EventStamp) (token : String) (spaceId userId : Uuid)
    : Handler Unit := do
  let state ← get
  let user ← state.userForToken crypto token
  let space ← state.spaceForUser user.id spaceId
  state.requireSpace user.id space .manageSpace
  let removedUser := state.auth.findUserById userId
  let _ ← Handler.onSpaces (SpaceService.removeMember space.id userId)
  Handler.publish (.space stamp "space.member.removed" space.organizationId space.id
    (.object [("member", .object [("guild_id", .string space.id.toString),
      ("user", memberUser userId removedUser)])]))

end PermissionController

namespace BotController

def createApplication (applicationId botUserId tokenId : Uuid) (botToken token : String)
    (organizationId : Uuid) (name : String) (description : Option String)
    : Handler BotApplication := do
  let state ← get
  let user ← state.userForToken crypto token
  let _ ← state.requireAdmin user.id organizationId
  let name ← (BotService.normalizeName name).mapError ApiError.bot
  let description ← (BotService.normalizeDescription description).mapError ApiError.bot
  Eff.zoom AppState.auth (fun state auth => { state with auth := auth })
    (fun error => ApiError.bot (.ofAuth error))
    (AuthStore.createUser
      ⟨botUserId, BotService.botUserEmail botUserId, name,
        BotService.botUserPasswordMarker applicationId⟩)
  let application : BotApplication :=
    ⟨applicationId, organizationId, botUserId, user.id, name, description, "active"⟩
  Handler.onBots (BotStore.createApplication application
    (BotService.newBotToken crypto tokenId applicationId user.id botToken))
  return application

def inviteToSpace (stamp : EventStamp) (joinedAt token : String)
    (organizationId applicationId spaceId : Uuid) (role : Option String)
    : Handler SpaceMembership := do
  let state ← get
  let user ← state.userForToken crypto token
  let _ ← state.requireAdmin user.id organizationId
  let application ←
    (BotService.applicationForOrganization state.bots applicationId organizationId).mapError
      ApiError.bot
  let space ← state.spaceForUser user.id spaceId
  if space.organizationId ≠ organizationId then
    throw (.bot .notFound)
  else
    Handler.onOrganizations
      (OrganizationService.addMemberIfMissing organizationId application.botUserId "member")
    let member ← Handler.onSpaces
      (SpaceService.addMember space.id application.botUserId (role.getD "member"))
    Handler.publish (.space stamp "space.bot.invited" organizationId spaceId
      (.object [
        ("guild", .object [("id", .string space.id.toString), ("name", .string space.name),
          ("unavailable", .bool false)]),
        ("member", .object [("guild_id", .string space.id.toString),
          ("user", .object [("id", .string application.botUserId.toString),
            ("username", .string application.name), ("bot", .bool true)]),
          ("roles", .array []), ("joined_at", .string joinedAt), ("deaf", .bool false),
          ("mute", .bool false), ("pending", .bool false)])]))
    return member

end BotController

end OpenCord.Server

import OpenCord.Auth.Service
import OpenCord.Bots.Application

/-! Bot applications and their tokens: the in-memory store and the checks of the service. -/

namespace OpenCord.Bots

open OpenCord.Library OpenCord.Platform OpenCord.Auth

inductive BotError where
  | invalidInput (message : String)
  | unauthorized
  | notFound
  | storeUnavailable
  deriving DecidableEq

def BotError.ofAuth : AuthError → BotError
  | .invalidInput message => .invalidInput message
  | _ => .storeUnavailable

structure StoredBotToken where
  id : Uuid
  applicationId : Uuid
  tokenHash : String
  tokenLastFour : String
  createdByUserId : Uuid
  active : Bool
  deriving DecidableEq

structure BotStore where
  applications : Table Uuid BotApplication
  tokens : Table Uuid StoredBotToken

namespace BotStore

def empty : BotStore := ⟨∅, ∅⟩

def createApplication (application : BotApplication) (token : StoredBotToken)
    : Eff BotStore BotError Unit :=
  Eff.writes fun store =>
    { store with
      applications := store.applications.insert application.id application
      tokens := store.tokens.insert token.id token }

/-- The first application with a bot user, in the order of the application map. -/
def getApplicationByBotUserId (store : BotStore) (botUserId : Uuid) : Option BotApplication :=
  store.applications.values.find? fun application => application.botUserId = botUserId

/-- The bot that an active token stands for, while its application is active. -/
def findBotByTokenHash (store : BotStore) (tokenHash : String) : Option AuthenticatedBot := do
  let token ← store.tokens.values.find? fun token =>
    token.tokenHash = tokenHash ∧ token.active = true
  let application ← store.applications.lookup token.applicationId
  if application.status = "active" then
    return ⟨application.id, application.organizationId, application.botUserId,
      application.name⟩
  else
    none

end BotStore

namespace BotService

def normalizeName (name : String) : Except BotError String :=
  let name := Text.trim name
  if name = "" ∨ 80 < name.utf8ByteSize then
    .error (.invalidInput "bot application name must be 1 to 80 characters")
  else
    .ok name

def normalizeDescription (description : Option String) : Except BotError (Option String) :=
  match description with
  | none => .ok none
  | some description =>
      let description := Text.trim description
      if description = "" then .ok none
      else if 500 < description.utf8ByteSize then
        .error (.invalidInput "bot application description must be at most 500 characters")
      else
        .ok (some description)

def botUserEmail (botUserId : Uuid) : String :=
  "bot-" ++ botUserId.simple ++ "@bots.opencord.local"

def botUserPasswordMarker (applicationId : Uuid) : String :=
  "bot-user:" ++ applicationId.toString

/-- The stored form of a drawn bot token. -/
def newBotToken (crypto : Crypto) (tokenId applicationId createdByUserId : Uuid)
    (token : String) : StoredBotToken :=
  ⟨tokenId, applicationId, crypto.sha256 token, Text.lastFour token, createdByUserId, true⟩

/-- An active application of an organization. -/
def ownedBy (organizationId : Uuid) (application : Option BotApplication)
    : Except BotError BotApplication :=
  match application with
  | none => .error .notFound
  | some application =>
      if application.organizationId = organizationId ∧ application.status = "active" then
        .ok application
      else
        .error .notFound

def applicationForOrganization (store : BotStore) (applicationId organizationId : Uuid)
    : Except BotError BotApplication :=
  ownedBy organizationId (store.applications.lookup applicationId)

def applicationForBotUser (store : BotStore) (botUserId organizationId : Uuid)
    : Except BotError BotApplication :=
  ownedBy organizationId (store.getApplicationByBotUserId botUserId)

def authenticateToken (crypto : Crypto) (store : BotStore) (token : String)
    : Except BotError AuthenticatedBot :=
  if Text.startsWith token "ocb_" then
    match store.findBotByTokenHash (crypto.sha256 token) with
    | some bot => .ok bot
    | none => .error .unauthorized
  else
    .error .unauthorized

end BotService

end OpenCord.Bots

import OpenCord.Meetings.Service
import OpenCord.Platform.Json

/-! Tokens for the rooms of the media server: what is granted, and how it is signed. -/

namespace OpenCord.Media

open OpenCord.Library OpenCord.Platform OpenCord.Meetings

structure MediaControlConfig where
  provider : String
  livekitUrl : String
  livekitApiKey : String
  livekitApiSecret : String
  tokenTtlSeconds : Int
  region : String

inductive MediaRoomType where
  | voiceChannel
  | meetingRoom
  deriving DecidableEq

namespace MediaRoomType

def parse (value : String) : Except MediaError MediaRoomType :=
  let name := Text.toAsciiLowercase (Text.trim value)
  if name = "voice_channel" then .ok .voiceChannel
  else if name = "meeting_room" then .ok .meetingRoom
  else .error (.invalidInput "media room_type must be voice_channel or meeting_room")

def asStr : MediaRoomType → String
  | voiceChannel => "voice_channel"
  | meetingRoom => "meeting_room"

def roomPrefix : MediaRoomType → String
  | voiceChannel => "voice"
  | meetingRoom => "meeting"

end MediaRoomType

structure MediaTokenGrants where
  canPublishAudio : Bool
  canPublishVideo : Bool
  canPublishScreen : Bool
  canSubscribe : Bool
  deriving DecidableEq

namespace MediaTokenGrants

def validate (grants : MediaTokenGrants) : Except MediaError Unit :=
  if grants.canPublishAudio || grants.canPublishVideo || grants.canPublishScreen
      || grants.canSubscribe then
    .ok ()
  else
    .error (.invalidInput "media token must allow subscribing or at least one publish source")

def canPublish (grants : MediaTokenGrants) : Bool :=
  grants.canPublishAudio || grants.canPublishVideo || grants.canPublishScreen

def publishSources (grants : MediaTokenGrants) : List String :=
  (if grants.canPublishAudio then ["microphone"] else [])
    ++ (if grants.canPublishVideo then ["camera"] else [])
    ++ (if grants.canPublishScreen then ["screen_share", "screen_share_audio"] else [])

end MediaTokenGrants

structure IssueMediaRoomToken where
  roomType : MediaRoomType
  organizationId : Uuid
  spaceId : Option Uuid
  channelId : Option Uuid
  meetingId : Option Uuid
  participantUserId : Uuid
  grants : MediaTokenGrants

/-- An issued token; it expires at a second of the clock. -/
structure MediaRoomToken where
  provider : String
  serverUrl : String
  region : String
  roomType : MediaRoomType
  roomName : String
  organizationId : Uuid
  spaceId : Option Uuid
  channelId : Option Uuid
  meetingId : Option Uuid
  participantIdentity : String
  participantToken : String
  expiresAt : Int
  grants : MediaTokenGrants

/-- The service with what it uses of libraries: the URL-safe encoding of a JSON value, the
encoded authentication code of a text under a secret, and the printing of a time.
-/
structure MediaControlService where
  config : MediaControlConfig
  encodeJson : Json → Option String
  hmacSha256 : String → String → Option String
  toRfc3339 : Int → String

/-- What a room is named after: its channel or its meeting. -/
def roomSubject (request : IssueMediaRoomToken) : Except MediaError Uuid :=
  match request.roomType with
  | .voiceChannel =>
      match request.channelId with
      | some channelId => .ok channelId
      | none => .error (.invalidInput "voice_channel media token requires channel_id")
  | .meetingRoom =>
      match request.meetingId with
      | some meetingId => .ok meetingId
      | none => .error (.invalidInput "meeting_room media token requires meeting_id")

def roomNameOf (roomType : MediaRoomType) (subjectId : Uuid) : String :=
  "opencord_" ++ roomType.roomPrefix ++ "_" ++ subjectId.simple

def roomName (request : IssueMediaRoomToken) : Except MediaError String := do
  let subjectId ← roomSubject request
  return roomNameOf request.roomType subjectId

/-- What the token lets its holder do in the room. -/
def videoGrant (roomName : String) (grants : MediaTokenGrants) : Json :=
  let video := Json.object [("room", .string roomName), ("roomJoin", .bool true),
    ("canPublish", .bool grants.canPublish), ("canPublishData", .bool true),
    ("canSubscribe", .bool grants.canSubscribe)]
  if grants.canPublish then
    video.insert "canPublishSources" (.array (grants.publishSources.map .string))
  else
    video

/-- An object with an identifier under a key, where there is one. -/
def withIdentifier (key : String) (id : Option Uuid) (attributes : Json) : Json :=
  match id with
  | some id => attributes.insert key (.string id.toString)
  | none => attributes

/-- Where the room is. -/
def tokenAttributes (request : IssueMediaRoomToken) : Json :=
  let attributes := Json.object [
    ("opencord.organization_id", .string request.organizationId.toString),
    ("opencord.room_type", .string request.roomType.asStr)]
  withIdentifier "opencord.meeting_id" request.meetingId
    (withIdentifier "opencord.channel_id" request.channelId
      (withIdentifier "opencord.space_id" request.spaceId attributes))

/-- What is signed for a participant of a room. -/
def livekitPayload (config : MediaControlConfig) (roomName participantIdentity : String)
    (request : IssueMediaRoomToken) (issuedAt expiresAt : Int) : Json :=
  .object [("iss", .string config.livekitApiKey), ("sub", .string participantIdentity),
    ("nbf", .integer issuedAt), ("exp", .integer expiresAt),
    ("video", videoGrant roomName request.grants), ("metadata", .string ""),
    ("attributes", tokenAttributes request)]

namespace MediaControlService

def encode (service : MediaControlService) (value : Json) : Except MediaError String :=
  match service.encodeJson value with
  | some text => .ok text
  | none => .error .signingFailed

def signJwt (service : MediaControlService) (header payload : Json) (secret : String)
    : Except MediaError String := do
  let header ← service.encode header
  let payload ← service.encode payload
  let signingInput := header ++ "." ++ payload
  match service.hmacSha256 secret signingInput with
  | some signature => return signingInput ++ "." ++ signature
  | none => throw .signingFailed

def signLivekitToken (service : MediaControlService) (payload : Json)
    : Except MediaError String :=
  service.signJwt (.object [("alg", .string "HS256"), ("typ", .string "JWT")]) payload
    service.config.livekitApiSecret

/-- A token for a request, issued at a second of the clock. -/
def issueRoomToken (service : MediaControlService) (issuedAt : Int)
    (request : IssueMediaRoomToken) : Except MediaError MediaRoomToken := do
  request.grants.validate
  let expiresAt := issuedAt + service.config.tokenTtlSeconds
  let roomName ← roomName request
  let participantIdentity := request.participantUserId.toString
  let participantToken ← service.signLivekitToken
    (livekitPayload service.config roomName participantIdentity request issuedAt expiresAt)
  return ⟨service.config.provider, service.config.livekitUrl, service.config.region,
    request.roomType, roomName, request.organizationId, request.spaceId, request.channelId,
    request.meetingId, participantIdentity, participantToken, expiresAt, request.grants⟩

end MediaControlService

-----------------------------------------------------------------------------------------
-- What a token says
-----------------------------------------------------------------------------------------

/-- Whether a signed payload lets its holder publish. -/
def signedCanPublish (payload : Json) : Option Bool :=
  ((payload.get "video").bind fun video => video.get "canPublish").bind Json.asBool

/-- The sources that a signed payload lets its holder publish, where it lists sources. -/
def signedSources (payload : Json) : Option (List Json) :=
  ((payload.get "video").bind fun video => video.get "canPublishSources").bind Json.asArray

/-- An attribute of a signed payload. -/
def signedAttribute (payload : Json) (key : String) : Option String :=
  ((payload.get "attributes").bind fun attributes => attributes.get key).bind Json.asStr

/-- A channel and a meeting never share a room, as the tenth characters of the names show. -/
theorem roomNameOf_ne (channelId meetingId : Uuid)
    : roomNameOf .voiceChannel channelId ≠ roomNameOf .meetingRoom meetingId := by
  intro same
  have characters := congrArg (fun text => text.toList[9]?) same
  simp only [roomNameOf, MediaRoomType.roomPrefix, String.append_assoc, String.toList_append]
    at characters
  rw [List.getElem?_append_right (by decide), List.getElem?_append_left (by decide),
    List.getElem?_append_right (by decide), List.getElem?_append_left (by decide)] at characters
  exact absurd characters (by decide)

/-- Two channels, or two meetings, never share a room. -/
theorem roomNameOf_injective (roomType : MediaRoomType)
    : Function.Injective (roomNameOf roomType) := by
  intro subjectId otherId same
  exact Uuid.simple_injective ((String.append_right_inj _).mp same)

/-- Something can be published exactly if there is a source to publish. -/
theorem MediaTokenGrants.canPublish_iff (grants : MediaTokenGrants)
    : grants.canPublish = true ↔ grants.publishSources ≠ [] := by
  rcases grants with ⟨_ | _, _ | _, _ | _, _⟩ <;> simp [canPublish, publishSources]

section Payload

variable (config : MediaControlConfig) (roomName participantIdentity : String)
  (request : IssueMediaRoomToken) (issuedAt expiresAt : Int)

theorem get_sub
    : (livekitPayload config roomName participantIdentity request issuedAt expiresAt).get "sub"
        = some (.string participantIdentity) := by
  simp [livekitPayload]

theorem signedCanPublish_livekitPayload
    : signedCanPublish
          (livekitPayload config roomName participantIdentity request issuedAt expiresAt)
        = some request.grants.canPublish := by
  have video : (videoGrant roomName request.grants).get "canPublish"
      = some (.bool request.grants.canPublish) := by
    simp only [videoGrant]
    split <;> simp
  simp [signedCanPublish, livekitPayload, video, Json.asBool]

/-- Sources are listed exactly if something can be published. -/
theorem signedSources_livekitPayload
    : signedSources
          (livekitPayload config roomName participantIdentity request issuedAt expiresAt)
        = if request.grants.canPublish then
            some (request.grants.publishSources.map .string)
          else
            none := by
  have video : (videoGrant roomName request.grants).get "canPublishSources"
      = if request.grants.canPublish then
          some (.array (request.grants.publishSources.map .string))
        else
          none := by
    simp only [videoGrant]
    split <;> simp
  simp only [signedSources, livekitPayload, Json.get_cons, String.reduceEq, if_false, if_true,
    Option.bind_some, video]
  split <;> rfl

/-- Publishing is signed exactly with a source to publish. -/
theorem signedCanPublish_iff
    : signedCanPublish
          (livekitPayload config roomName participantIdentity request issuedAt expiresAt)
        = some true
      ↔ ∃ sources,
          signedSources
            (livekitPayload config roomName participantIdentity request issuedAt expiresAt)
            = some sources
          ∧ sources ≠ [] := by
  rw [signedCanPublish_livekitPayload, signedSources_livekitPayload, Option.some_inj]
  constructor
  · intro publishes
    rw [if_pos publishes]
    exact ⟨_, rfl, fun none =>
      request.grants.canPublish_iff.mp publishes (List.map_eq_nil_iff.mp none)⟩
  · rintro ⟨sources, listed, -⟩
    split at listed
    · next publishes => exact publishes
    · cases listed

@[simp] theorem isObject_withIdentifier (key : String) (id : Option Uuid) (attributes : Json)
    : (withIdentifier key id attributes).isObject = attributes.isObject := by
  cases id with
  | none => rfl
  | some id => exact Json.isObject_insert attributes key _

/-- An identifier is found under its key, the other attributes stay. -/
@[simp] theorem get_withIdentifier {attributes : Json} (isObject : attributes.isObject = true)
    (name : String) (id : Option Uuid) (key : String)
    : (withIdentifier name id attributes).get key
        = if name = key ∧ id.isSome then id.map fun id => .string id.toString
          else attributes.get key := by
  cases id with
  | none => simp [withIdentifier]
  | some id => simp [withIdentifier, isObject]

theorem signedAttribute_organizationId
    : signedAttribute
          (livekitPayload config roomName participantIdentity request issuedAt expiresAt)
          "opencord.organization_id"
        = some request.organizationId.toString := by
  simp [signedAttribute, livekitPayload, tokenAttributes, Json.asStr]

theorem signedAttribute_spaceId
    : signedAttribute
          (livekitPayload config roomName participantIdentity request issuedAt expiresAt)
          "opencord.space_id"
        = request.spaceId.map Uuid.toString := by
  cases given : request.spaceId <;>
    simp [signedAttribute, livekitPayload, tokenAttributes, Json.asStr, given]

theorem signedAttribute_channelId
    : signedAttribute
          (livekitPayload config roomName participantIdentity request issuedAt expiresAt)
          "opencord.channel_id"
        = request.channelId.map Uuid.toString := by
  cases given : request.channelId <;>
    simp [signedAttribute, livekitPayload, tokenAttributes, Json.asStr, given]

end Payload

namespace MediaControlService

/-- An issued token is named after its room and carries the signed payload of its request. -/
theorem issueRoomToken_eq_ok {service : MediaControlService} {issuedAt : Int}
    {request : IssueMediaRoomToken} {token : MediaRoomToken}
    (issued : service.issueRoomToken issuedAt request = .ok token)
    : roomName request = .ok token.roomName
        ∧ service.signLivekitToken
            (livekitPayload service.config token.roomName request.participantUserId.toString
              request issuedAt (issuedAt + service.config.tokenTtlSeconds))
          = .ok token.participantToken := by
  obtain ⟨_, _, issued⟩ := Eff.check_bind_eq_ok.mp issued
  obtain ⟨roomName, named, issued⟩ := Eff.check_bind_eq_ok.mp issued
  obtain ⟨participantToken, signed, issued⟩ := Eff.check_bind_eq_ok.mp issued
  cases issued
  exact ⟨named, signed⟩

end MediaControlService

end OpenCord.Media

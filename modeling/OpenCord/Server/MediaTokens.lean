import OpenCord.Media.Control
import OpenCord.Meetings.Requests
import OpenCord.Server.Invariants

/-! The three endpoints that issue media tokens: joining a voice channel, asking for a token of
a channel, and asking for a token of a meeting. Whatever they are asked for, a token for the
room of a channel stays within what its holder may do in that channel.
-/

namespace OpenCord.Server

open OpenCord.Library OpenCord.Platform OpenCord.Auth OpenCord.Tenancy OpenCord.Realtime
  OpenCord.Media OpenCord.Meetings

inductive MediaApiError where
  | api (error : ApiError)
  | media (error : MediaError)

structure JoinVoiceChannelRequest where
  selfMute : Option Bool
  selfDeaf : Option Bool

structure CreateMediaRoomTokenRequest where
  roomType : String
  organizationId : String
  spaceId : Option String
  channelId : Option String
  canPublishAudio : Option Bool
  canPublishVideo : Option Bool
  canPublishScreen : Option Bool
  canSubscribe : Option Bool

structure CreateMeetingMediaTokenRequest where
  canPublishAudio : Option Bool
  canPublishVideo : Option Bool
  canPublishScreen : Option Bool
  canSubscribe : Option Bool

def CreateMediaRoomTokenRequest.grants (request : CreateMediaRoomTokenRequest)
    : MediaTokenGrants :=
  ⟨request.canPublishAudio.getD false, request.canPublishVideo.getD false,
    request.canPublishScreen.getD false, request.canSubscribe.getD true⟩

def CreateMeetingMediaTokenRequest.grants (request : CreateMeetingMediaTokenRequest)
    : MediaTokenGrants :=
  ⟨request.canPublishAudio.getD false, request.canPublishVideo.getD false,
    request.canPublishScreen.getD false, request.canSubscribe.getD true⟩

structure VoiceParticipant where
  channelId : Uuid
  userId : Uuid
  selfMute : Bool
  selfDeaf : Bool

/-- A check of a permission that only what is granted takes. -/
def AppState.requireGranted (state : AppState) (userId : Uuid) (space : SpaceMembership)
    (channel : Channel) (granted : Bool) (permission : Permission) : Except ApiError Unit :=
  if granted then state.requireChannel userId space channel permission else .ok ()

/-- The checks before a token for a channel, one for each source that is to be published. -/
def AppState.requireMedia (state : AppState) (userId : Uuid) (space : SpaceMembership)
    (channel : Channel) (grants : MediaTokenGrants) : Except ApiError Unit := do
  state.requireChannel userId space channel .viewChannel
  state.requireChannel userId space channel .connectVoice
  state.requireGranted userId space channel grants.canPublishAudio .speak
  state.requireGranted userId space channel grants.canPublishVideo .useVideo
  state.requireGranted userId space channel grants.canPublishScreen .shareScreen

namespace VoiceController

/-- The event of a participant; the token itself is left out of it. -/
def participantJoined (service : MediaControlService) (participant : VoiceParticipant)
    (media : MediaRoomToken) : Json :=
  .object [
    ("participant", .object [("channel_id", .string participant.channelId.toString),
      ("user_id", .string participant.userId.toString),
      ("self_mute", .bool participant.selfMute), ("self_deaf", .bool participant.selfDeaf)]),
    ("media", .object [("provider", .string media.provider),
      ("server_url", .string media.serverUrl), ("region", .string media.region),
      ("room_type", .string media.roomType.asStr), ("room_name", .string media.roomName),
      ("organization_id", .string media.organizationId.toString),
      ("space_id", .string ((media.spaceId.map Uuid.toString).getD "")),
      ("channel_id", .string ((media.channelId.map Uuid.toString).getD "")),
      ("participant_identity", .string media.participantIdentity), ("participant_token", .null),
      ("expires_at", .string (service.toRfc3339 media.expiresAt)),
      ("grants", .object [("can_publish_audio", .bool media.grants.canPublishAudio),
        ("can_publish_video", .bool media.grants.canPublishVideo),
        ("can_publish_screen", .bool media.grants.canPublishScreen),
        ("can_subscribe", .bool media.grants.canSubscribe)])])]

/-- The channel and the token of a participant, who speaks and shares the screen as permitted
and does not publish video.
-/
def admission (crypto : Crypto) (service : MediaControlService) (issuedAt : Int) (state : AppState)
    (token : String) (channelId : Uuid) (request : JoinVoiceChannelRequest)
    : Except MediaApiError (Channel × VoiceParticipant × MediaRoomToken) := do
  let user ← (state.userForToken crypto token).mapError .api
  let channel ← (state.channel channelId).mapError .api
  if channel.kind ≠ "voice" then
    throw (.media (.invalidInput "channel must be a voice channel"))
  else
    let space ← (state.spaceForUser user.id channel.spaceId).mapError .api
    (state.requireChannel user.id space channel .viewChannel).mapError .api
    (state.requireChannel user.id space channel .connectVoice).mapError .api
    let canSpeak := PermissionService.canInChannel state.permissions user.id space channel .speak
    let canShareScreen :=
      PermissionService.canInChannel state.permissions user.id space channel .shareScreen
    let selfMute := request.selfMute.getD false
    let media ← (service.issueRoomToken issuedAt ⟨.voiceChannel, channel.organizationId,
      some channel.spaceId, some channel.id, none, user.id,
      ⟨canSpeak && !selfMute, false, canShareScreen, true⟩⟩).mapError .media
    return (channel, ⟨channel.id, user.id, selfMute, request.selfDeaf.getD false⟩, media)

def join (crypto : Crypto) (service : MediaControlService) (stamp : EventStamp) (issuedAt : Int)
    (token : String) (channelId : Uuid) (request : JoinVoiceChannelRequest)
    : Eff AppState MediaApiError (VoiceParticipant × MediaRoomToken) := do
  let state ← get
  let (channel, participant, media) ←
    admission crypto service issuedAt state token channelId request
  Eff.writes fun state => { state with published := state.published ++ [
    .channel stamp "voice.participant_joined" channel.organizationId channel.spaceId channel.id
      (participantJoined service participant media)] }
  return (participant, media)

end VoiceController

namespace MediaController

def parseUuid (value message : String) : Except MediaError Uuid :=
  match Uuid.parseStr value with
  | some id => .ok id
  | none => .error (.invalidInput message)

def parseRequiredUuid (value : Option String) (message : String) : Except MediaError Uuid :=
  match value with
  | some value => parseUuid value message
  | none => .error (.invalidInput message)

/-- A token for a channel that the request names together with its space and organization. -/
def createRoomToken (crypto : Crypto) (service : MediaControlService) (issuedAt : Int)
    (state : AppState) (token : String) (request : CreateMediaRoomTokenRequest)
    : Except MediaApiError MediaRoomToken := do
  let user ← (state.userForToken crypto token).mapError .api
  let roomType ← (MediaRoomType.parse request.roomType).mapError .media
  if roomType ≠ .voiceChannel then
    throw (.media
      (.invalidInput "meeting_room media tokens must use the meeting media endpoint"))
  else
    let organizationId ←
      (parseUuid request.organizationId "valid organization_id is required").mapError .media
    let spaceId ←
      (parseRequiredUuid request.spaceId "valid space_id is required").mapError .media
    let channelId ←
      (parseRequiredUuid request.channelId "valid channel_id is required").mapError .media
    request.grants.validate.mapError .media
    let channel ← (state.channel channelId).mapError .api
    if channel.organizationId ≠ organizationId ∨ channel.spaceId ≠ spaceId then
      throw (.media (.invalidInput
        "media token channel must belong to the requested organization and space"))
    else
      let space ← (state.spaceForUser user.id spaceId).mapError .api
      if space.organizationId ≠ organizationId then
        throw (.media (.invalidInput
          "media token space must belong to the requested organization"))
      else
        (state.requireMedia user.id space channel request.grants).mapError .api
        (service.issueRoomToken issuedAt ⟨roomType, organizationId, some spaceId,
          some channelId, none, user.id, request.grants⟩).mapError .media

end MediaController

namespace MeetingController

/-- Whether a user may read a meeting: as a member of its space who sees its channel. -/
def canReadMeeting (state : AppState) (userId : Uuid) (meeting : Meeting) : Bool :=
  match meeting.spaceId with
  | none => true
  | some spaceId =>
      match state.spaceForUser userId spaceId with
      | .error _ => false
      | .ok space =>
          match meeting.channelId with
          | none => true
          | some channelId =>
              match state.channel channelId with
              | .error _ => false
              | .ok channel =>
                  PermissionService.canInChannel state.permissions userId space channel
                    .viewChannel

/-- Other failures of the services are not told apart. -/
def requireReadMeeting (state : AppState) (userId : Uuid) (meeting : Meeting)
    : Except MeetingApiError Unit := do
  let _ ← (state.organizationForUser userId meeting.organizationId).mapError fun _ => .denied
  if canReadMeeting state userId meeting then
    return ()
  else
    throw (.meeting .notFound)

def enforceMeetingMediaPermissions (state : AppState) (userId : Uuid) (meeting : Meeting)
    (grants : MediaTokenGrants) : Except MeetingApiError Unit :=
  match meeting.spaceId with
  | none =>
      if meeting.channelId.isSome then
        .error (.media (.invalidInput "meeting channel requires space_id for media"))
      else
        .ok ()
  | some spaceId => do
      let space ← (state.spaceForUser userId spaceId).mapError fun _ => .denied
      if space.organizationId ≠ meeting.organizationId then
        throw (.media
          (.invalidInput "meeting media space must belong to the meeting organization"))
      else
        match meeting.channelId with
        | none => return ()
        | some channelId =>
            let channel ← (state.channel channelId).mapError fun _ => .denied
            if channel.organizationId ≠ meeting.organizationId ∨ channel.spaceId ≠ spaceId then
              throw (.media (.invalidInput
                "meeting media channel must belong to the meeting organization and space"))
            else
              (state.requireMedia userId space channel grants).mapError fun _ => .denied

/-- A token for the room of a stored meeting. -/
def createMeetingMediaToken (crypto : Crypto) (service : MediaControlService) (issuedAt : Int)
    (state : AppState) (meetings : MeetingStore) (token : String) (meetingId : Uuid)
    (request : CreateMeetingMediaTokenRequest) : Except MeetingApiError MediaRoomToken := do
  let user ← (state.userForToken crypto token).mapError fun _ => .denied
  Meetings.MeetingController.createMediaToken
    (fun bundle => requireReadMeeting state user.id bundle.meeting)
    (fun bundle => do
      request.grants.validate.mapError .media
      enforceMeetingMediaPermissions state user.id bundle.meeting request.grants)
    (fun bundle => service.issueRoomToken issuedAt ⟨.meetingRoom, bundle.meeting.organizationId,
      bundle.meeting.spaceId, bundle.meeting.channelId, some bundle.meeting.id, user.id,
      request.grants⟩)
    meetings meetingId

end MeetingController

-----------------------------------------------------------------------------------------
-- Tokens and the channels they are for
-----------------------------------------------------------------------------------------

/-- The permission that publishing a source takes. -/
def sourcePermission (source : Json) : Option Permission :=
  if source.asStr = some "microphone" then some .speak
  else if source.asStr = some "camera" then some .useVideo
  else if source.asStr = some "screen_share" ∨ source.asStr = some "screen_share_audio" then
    some .shareScreen
  else none

/-- A token that one of the endpoints has issued on the stores. -/
inductive IssuesToken (crypto : Crypto) (service : MediaControlService) (app : AppState)
    (meetings : MeetingStore) : MediaRoomToken → Prop
  | join (stamp : EventStamp) (issuedAt : Int) (token : String) (channelId : Uuid)
      (request : JoinVoiceChannelRequest) {participant : VoiceParticipant}
      {media : MediaRoomToken} {next : AppState}
      (joined : (VoiceController.join crypto service stamp issuedAt token channelId
        request).exec app = (.ok (participant, media), next))
      : IssuesToken crypto service app meetings media
  | createRoomToken (issuedAt : Int) (token : String) (request : CreateMediaRoomTokenRequest)
      {media : MediaRoomToken}
      (created : MediaController.createRoomToken crypto service issuedAt app token request
        = .ok media)
      : IssuesToken crypto service app meetings media
  | createMeetingMediaToken (issuedAt : Int) (token : String) (meetingId : Uuid)
      (request : CreateMeetingMediaTokenRequest) {media : MediaRoomToken}
      (created : MeetingController.createMeetingMediaToken crypto service issuedAt app meetings
        token meetingId request = .ok media)
      : IssuesToken crypto service app meetings media

/-- The room of a voice channel, or of a stored meeting that is attached to a channel. -/
inductive RoomOf (meetings : MeetingStore) (channelId : Uuid) : String → Prop
  | voice : RoomOf meetings channelId (roomNameOf .voiceChannel channelId)
  | meeting {meetingId : Uuid} {meeting : Meeting}
      (stored : meetings.meetingsById.lookup meetingId = some meeting)
      (attached : meeting.channelId = some channelId)
      : RoomOf meetings channelId (roomNameOf .meetingRoom meetingId)

/-- A signed payload lets its holder do no more in the room of a channel than the holder may do
in that channel, and names that channel, its space and its organization.
-/
structure WithinChannel (app : AppState) (payload : Json) (userId : Uuid)
    (space : SpaceMembership) (channel : Channel) : Prop where
  stored : app.channels.channelsById.lookup channel.id = some channel
  holder : payload.get "sub" = some (.string userId.toString)
  active : app.spaces.ActiveMember channel.spaceId userId
  membership : app.spaces.getForUser userId channel.spaceId = some space
  views : PermissionService.canInChannel app.permissions userId space channel .viewChannel
  connects : PermissionService.canInChannel app.permissions userId space channel .connectVoice
  covered : ∀ sources, signedSources payload = some sources → ∀ source ∈ sources,
    ∃ permission, sourcePermission source = some permission
      ∧ PermissionService.canInChannel app.permissions userId space channel permission
  channelId : signedAttribute payload "opencord.channel_id" = some channel.id.toString
  spaceId : signedAttribute payload "opencord.space_id" = some channel.spaceId.toString
  organizationId
    : signedAttribute payload "opencord.organization_id" = some channel.organizationId.toString

/-- What a member may do in a channel covers what is granted. -/
structure Covers (app : AppState) (userId : Uuid) (space : SpaceMembership) (channel : Channel)
    (grants : MediaTokenGrants) : Prop where
  views : PermissionService.canInChannel app.permissions userId space channel .viewChannel
  connects : PermissionService.canInChannel app.permissions userId space channel .connectVoice
  audio : grants.canPublishAudio
    → PermissionService.canInChannel app.permissions userId space channel .speak
  video : grants.canPublishVideo
    → PermissionService.canInChannel app.permissions userId space channel .useVideo
  screen : grants.canPublishScreen
    → PermissionService.canInChannel app.permissions userId space channel .shareScreen

variable {crypto : Crypto} {service : MediaControlService} {app : AppState}
  {meetings : MeetingStore}

theorem AppState.requireChannel_eq_ok {userId : Uuid} {space : SpaceMembership}
    {channel : Channel} {permission : Permission}
    : app.requireChannel userId space channel permission = .ok ()
      ↔ PermissionService.canInChannel app.permissions userId space channel permission := by
  rw [AppState.requireChannel, Eff.mapError_eq_ok, PermissionService.requireChannel]
  split
  · next permitted => exact iff_of_true rfl permitted
  · next forbidden => exact iff_of_false (by simp) forbidden

theorem AppState.requireGranted_eq_ok {userId : Uuid} {space : SpaceMembership}
    {channel : Channel} {granted : Bool} {permission : Permission}
    : app.requireGranted userId space channel granted permission = .ok ()
      ↔ (granted → PermissionService.canInChannel app.permissions userId space channel
          permission) := by
  rw [AppState.requireGranted]
  split
  · next given =>
      rw [AppState.requireChannel_eq_ok]
      exact ⟨fun permitted _ => permitted, fun permitted => permitted given⟩
  · next spared => exact iff_of_true rfl fun given => absurd given spared

/-- The checks before a token pass exactly if what is granted is covered. -/
theorem AppState.requireMedia_eq_ok {userId : Uuid} {space : SpaceMembership}
    {channel : Channel} {grants : MediaTokenGrants}
    : app.requireMedia userId space channel grants = .ok ()
      ↔ Covers app userId space channel grants := by
  constructor
  · intro passed
    obtain ⟨_, views, passed⟩ := Eff.check_bind_eq_ok.mp passed
    obtain ⟨_, connects, passed⟩ := Eff.check_bind_eq_ok.mp passed
    obtain ⟨_, audio, passed⟩ := Eff.check_bind_eq_ok.mp passed
    obtain ⟨_, video, screen⟩ := Eff.check_bind_eq_ok.mp passed
    exact ⟨AppState.requireChannel_eq_ok.mp views, AppState.requireChannel_eq_ok.mp connects,
      AppState.requireGranted_eq_ok.mp audio, AppState.requireGranted_eq_ok.mp video,
      AppState.requireGranted_eq_ok.mp screen⟩
  · intro covers
    rw [AppState.requireMedia, AppState.requireChannel_eq_ok.mpr covers.views,
      AppState.requireChannel_eq_ok.mpr covers.connects,
      AppState.requireGranted_eq_ok.mpr covers.audio,
      AppState.requireGranted_eq_ok.mpr covers.video]
    exact AppState.requireGranted_eq_ok.mpr covers.screen

/-- Each source that grants list is covered where the grants are. -/
theorem Covers.source {userId : Uuid} {space : SpaceMembership} {channel : Channel}
    {grants : MediaTokenGrants} (covers : Covers app userId space channel grants)
    {source : String} (listed : source ∈ grants.publishSources)
    : ∃ permission, sourcePermission (.string source) = some permission
        ∧ PermissionService.canInChannel app.permissions userId space channel permission := by
  rw [MediaTokenGrants.publishSources, List.mem_append, List.mem_append] at listed
  rcases listed with (audio | video) | screen
  · split at audio
    · next granted =>
        rw [List.mem_singleton.mp audio]
        exact ⟨.speak, by decide, covers.audio granted⟩
    · cases audio
  · split at video
    · next granted =>
        rw [List.mem_singleton.mp video]
        exact ⟨.useVideo, by decide, covers.video granted⟩
    · cases video
  · split at screen
    · next granted =>
        rcases List.mem_pair.mp screen with rfl | rfl
        · exact ⟨.shareScreen, by decide, covers.screen granted⟩
        · exact ⟨.shareScreen, by decide, covers.screen granted⟩
    · cases screen

/-- A token of a member of a space for a channel of that space stays within the channel, where
the grants are covered.
-/
theorem Covers.within {userId : Uuid} {space : SpaceMembership} {channel : Channel}
    {request : IssueMediaRoomToken}
    (covers : Covers app userId space channel request.grants)
    (stored : app.channels.channelsById.lookup channel.id = some channel)
    (membership : app.spaces.getForUser userId channel.spaceId = some space)
    (channelId : request.channelId = some channel.id)
    (spaceId : request.spaceId = some channel.spaceId)
    (organizationId : request.organizationId = channel.organizationId)
    (config : MediaControlConfig) (roomName : String) (issuedAt expiresAt : Int)
    : WithinChannel app (livekitPayload config roomName userId.toString request issuedAt
        expiresAt) userId space channel := by
  obtain ⟨member, _, row, active, _⟩ := SpaceStore.getForUser_eq_some.mp membership
  refine ⟨stored, get_sub .., ⟨member, row, active⟩, membership, covers.views, covers.connects, ?_,
    ?_, ?_, ?_⟩
  · intro sources signed source listed
    rw [signedSources_livekitPayload] at signed
    split at signed
    · cases signed
      obtain ⟨name, published, rfl⟩ := List.mem_map.mp listed
      exact covers.source published
    · cases signed
  · rw [signedAttribute_channelId, channelId, Option.map_some]
  · rw [signedAttribute_spaceId, spaceId, Option.map_some]
  · rw [signedAttribute_organizationId, organizationId]

/-- The room of a voice channel is the room of that channel only. -/
theorem RoomOf.of_voice {channelId subjectId : Uuid} {name : String}
    (room : RoomOf meetings channelId name) (named : name = roomNameOf .voiceChannel subjectId)
    : channelId = subjectId := by
  cases room with
  | voice => exact roomNameOf_injective _ named
  | meeting => exact absurd named.symm (roomNameOf_ne _ _)

/-- The room of a meeting is the room of the channel the meeting is attached to. -/
theorem RoomOf.of_meeting {channelId meetingId : Uuid} {name : String}
    (room : RoomOf meetings channelId name) (named : name = roomNameOf .meetingRoom meetingId)
    : ∃ meeting, meetings.meetingsById.lookup meetingId = some meeting
        ∧ meeting.channelId = some channelId := by
  cases room with
  | voice => exact absurd named (roomNameOf_ne _ _)
  | meeting stored attached =>
      obtain rfl := roomNameOf_injective _ named
      exact ⟨_, stored, attached⟩

/-- A token carries a signed payload that lists a source exactly if it lets its holder publish;
for the room of a channel the payload stays within the channel.
-/
def TokenWithin (service : MediaControlService) (app : AppState) (meetings : MeetingStore)
    (token : MediaRoomToken) : Prop :=
  ∃ payload, service.signLivekitToken payload = .ok token.participantToken
    ∧ (signedCanPublish payload = some true
      ↔ ∃ sources, signedSources payload = some sources ∧ sources ≠ [])
    ∧ ∀ channelId, RoomOf meetings channelId token.roomName →
      ∃ userId space channel, channel.id = channelId
        ∧ WithinChannel app payload userId space channel

/-- What is issued for a user is within the channel of its room, if the user is a member of the
space of that channel and the grants are covered.
-/
theorem tokenWithin_of_issued {issuedAt : Int} {request : IssueMediaRoomToken}
    {token : MediaRoomToken}
    (issued : service.issueRoomToken issuedAt request = .ok token)
    (covered : ∀ channelId, RoomOf meetings channelId token.roomName →
      ∃ space channel, channel.id = channelId
        ∧ Covers app request.participantUserId space channel request.grants
        ∧ app.channels.channelsById.lookup channel.id = some channel
        ∧ app.spaces.getForUser request.participantUserId channel.spaceId = some space
        ∧ request.channelId = some channel.id ∧ request.spaceId = some channel.spaceId
        ∧ request.organizationId = channel.organizationId)
    : TokenWithin service app meetings token := by
  obtain ⟨_, signed⟩ := MediaControlService.issueRoomToken_eq_ok issued
  refine ⟨_, signed, signedCanPublish_iff .., fun channelId room => ?_⟩
  obtain ⟨space, channel, same, covers, stored, membership, hasChannel, hasSpace,
    hasOrganization⟩ := covered channelId room
  exact ⟨_, space, channel, same, covers.within stored membership hasChannel hasSpace
    hasOrganization ..⟩

theorem AppState.spaceForUser_eq_ok_iff {userId spaceId : Uuid} {space : SpaceMembership}
    : app.spaceForUser userId spaceId = .ok space
      ↔ app.spaces.getForUser userId spaceId = some space := by
  rw [AppState.spaceForUser, Eff.mapError_eq_ok, SpaceService.getForUser_eq_ok]

/-- Who joins a voice channel gets a token within it. -/
theorem VoiceController.join_within (keyed : app.Keyed) {stamp : EventStamp} {issuedAt : Int}
    {token : String} {channelId : Uuid} {request : JoinVoiceChannelRequest}
    {participant : VoiceParticipant} {media : MediaRoomToken} {next : AppState}
    (joined : (join crypto service stamp issuedAt token channelId request).exec app
      = (.ok (participant, media), next))
    : TokenWithin service app meetings media := by
  rw [join, Eff.exec_get_bind] at joined
  obtain ⟨⟨channel, _, _⟩, admitted, joined⟩ := Eff.exec_check_bind_eq_ok.mp joined
  cases joined
  obtain ⟨user, _, admitted⟩ := Eff.check_bind_eq_ok.mp admitted
  obtain ⟨stored, found, admitted⟩ := Eff.check_bind_eq_ok.mp admitted
  split at admitted
  · cases admitted
  obtain ⟨space, entered, admitted⟩ := Eff.check_bind_eq_ok.mp admitted
  obtain ⟨_, views, admitted⟩ := Eff.check_bind_eq_ok.mp admitted
  obtain ⟨_, connects, admitted⟩ := Eff.check_bind_eq_ok.mp admitted
  obtain ⟨_, issued, admitted⟩ := Eff.check_bind_eq_ok.mp admitted
  cases admitted
  have found := channel_eq_ok.mp (Eff.mapError_eq_ok.mp found)
  obtain rfl : channel.id = channelId := keyed.channels channelId channel found
  have issued := Eff.mapError_eq_ok.mp issued
  have named := (MediaControlService.issueRoomToken_eq_ok issued).1
  refine tokenWithin_of_issued issued fun other room => ?_
  obtain rfl := room.of_voice (Except.ok.inj named).symm
  refine ⟨space, channel, rfl, ⟨?_, ?_, ?_, nofun, ?_⟩, found, ?_, rfl, rfl, rfl⟩
  · exact AppState.requireChannel_eq_ok.mp (Eff.mapError_eq_ok.mp views)
  · exact AppState.requireChannel_eq_ok.mp (Eff.mapError_eq_ok.mp connects)
  · exact fun audio => (Bool.and_eq_true_iff.mp audio).1
  · exact fun screen => screen
  · exact AppState.spaceForUser_eq_ok_iff.mp (Eff.mapError_eq_ok.mp entered)

/-- Who asks for a token of a channel gets one within it. -/
theorem MediaController.createRoomToken_within (keyed : app.Keyed) {issuedAt : Int}
    {token : String} {request : CreateMediaRoomTokenRequest} {media : MediaRoomToken}
    (created : createRoomToken crypto service issuedAt app token request = .ok media)
    : TokenWithin service app meetings media := by
  obtain ⟨user, _, created⟩ := Eff.check_bind_eq_ok.mp created
  obtain ⟨roomType, _, created⟩ := Eff.check_bind_eq_ok.mp created
  split at created
  · cases created
  next ofChannel =>
    obtain rfl := not_not.mp ofChannel
    obtain ⟨organizationId, _, created⟩ := Eff.check_bind_eq_ok.mp created
    obtain ⟨spaceId, _, created⟩ := Eff.check_bind_eq_ok.mp created
    obtain ⟨channelId, _, created⟩ := Eff.check_bind_eq_ok.mp created
    obtain ⟨_, _, created⟩ := Eff.check_bind_eq_ok.mp created
    obtain ⟨channel, found, created⟩ := Eff.check_bind_eq_ok.mp created
    split at created
    · cases created
    next placed =>
      obtain ⟨sameOrganization, sameSpace⟩ := not_or.mp placed
      obtain rfl := not_not.mp sameOrganization
      obtain rfl := not_not.mp sameSpace
      obtain ⟨space, entered, created⟩ := Eff.check_bind_eq_ok.mp created
      split at created
      · cases created
      obtain ⟨_, required, issued⟩ := Eff.check_bind_eq_ok.mp created
      have found := channel_eq_ok.mp (Eff.mapError_eq_ok.mp found)
      obtain rfl : channel.id = channelId := keyed.channels channelId channel found
      have issued := Eff.mapError_eq_ok.mp issued
      have named := (MediaControlService.issueRoomToken_eq_ok issued).1
      refine tokenWithin_of_issued issued fun other room => ?_
      obtain rfl := room.of_voice (Except.ok.inj named).symm
      exact ⟨space, channel, rfl, AppState.requireMedia_eq_ok.mp (Eff.mapError_eq_ok.mp required),
        found, AppState.spaceForUser_eq_ok_iff.mp (Eff.mapError_eq_ok.mp entered), rfl, rfl, rfl⟩

/-- A meeting that is attached to a channel has a token only for members of the space of that
channel whom its permissions cover.
-/
theorem MeetingController.covers_of_enforce (keyed : app.Keyed) {userId channelId : Uuid}
    {meeting : Meeting} {grants : MediaTokenGrants}
    (enforced : enforceMeetingMediaPermissions app userId meeting grants = .ok ())
    (attached : meeting.channelId = some channelId)
    : ∃ space channel, channel.id = channelId ∧ Covers app userId space channel grants
        ∧ app.channels.channelsById.lookup channel.id = some channel
        ∧ app.spaces.getForUser userId channel.spaceId = some space
        ∧ meeting.spaceId = some channel.spaceId
        ∧ meeting.organizationId = channel.organizationId := by
  rw [enforceMeetingMediaPermissions] at enforced
  split at enforced
  · rw [attached] at enforced
    cases enforced
  · next spaceId inSpace =>
      obtain ⟨space, entered, enforced⟩ := Eff.check_bind_eq_ok.mp enforced
      split at enforced
      · cases enforced
      simp only [attached] at enforced
      obtain ⟨channel, found, required⟩ := Eff.check_bind_eq_ok.mp enforced
      split at required
      · cases required
      next placed =>
        obtain ⟨sameOrganization, sameSpace⟩ := not_or.mp placed
        obtain rfl := not_not.mp sameSpace
        have found := channel_eq_ok.mp (Eff.mapError_eq_ok.mp found)
        obtain rfl : channel.id = channelId := keyed.channels channelId channel found
        exact ⟨space, channel, rfl, AppState.requireMedia_eq_ok.mp (Eff.mapError_eq_ok.mp required),
          found, AppState.spaceForUser_eq_ok_iff.mp (Eff.mapError_eq_ok.mp entered), inSpace,
          (not_not.mp sameOrganization).symm⟩

/-- Who asks for a token of a meeting gets one within the channel of the meeting. -/
theorem MeetingController.createMeetingMediaToken_within (keyed : app.Keyed)
    (meetingsKeyed : meetings.Keyed) {issuedAt : Int} {token : String} {meetingId : Uuid}
    {request : CreateMeetingMediaTokenRequest} {media : MediaRoomToken}
    (created : createMeetingMediaToken crypto service issuedAt app meetings token meetingId request
      = .ok media)
    : TokenWithin service app meetings media := by
  obtain ⟨user, _, created⟩ := Eff.check_bind_eq_ok.mp created
  obtain ⟨bundle, found, created⟩ := Eff.check_bind_eq_ok.mp created
  obtain ⟨_, _, created⟩ := Eff.check_bind_eq_ok.mp created
  split at created
  · cases created
  obtain ⟨_, enforced, issued⟩ := Eff.check_bind_eq_ok.mp created
  obtain ⟨_, _, enforced⟩ := Eff.check_bind_eq_ok.mp enforced
  have found := MeetingService.get_eq_ok.mp (Eff.mapError_eq_ok.mp found)
  obtain ⟨meeting, stored, rfl⟩ := Option.map_eq_some_iff.mp found
  obtain rfl : meeting.id = meetingId := meetingsKeyed meetingId meeting stored
  have issued := Eff.mapError_eq_ok.mp issued
  have named := (MediaControlService.issueRoomToken_eq_ok issued).1
  refine tokenWithin_of_issued issued fun channelId room => ?_
  obtain ⟨other, again, attached⟩ := room.of_meeting (Except.ok.inj named).symm
  obtain rfl := Option.some.inj (stored.symm.trans again)
  obtain ⟨space, channel, same, covers, known, membership, inSpace, organization⟩ :=
    covers_of_enforce keyed enforced attached
  exact ⟨space, channel, same, covers, known, membership, same ▸ attached, inSpace, organization⟩

/-- In every reachable state of the stores and the meetings, every token that any of the three
endpoints issues stays within what its holder may do in the channel of its room.
-/
theorem tokenWithin_of_issuesToken {Instant : Type} {chrono : Chrono Instant}
    {requests : MeetingRequests} {token : MediaRoomToken} (reached : app.Reached crypto)
    (meetingsReached : Reachable (MeetingRequests.step chrono) .start requests)
    (issued : IssuesToken crypto service app requests.shared.store token)
    : TokenWithin service app requests.shared.store token := by
  have keyed := reached.keyed
  cases issued with
  | join _ _ _ _ _ joined => exact VoiceController.join_within keyed joined
  | createRoomToken _ _ _ created => exact MediaController.createRoomToken_within keyed created
  | createMeetingMediaToken _ _ _ _ created =>
      exact MeetingController.createMeetingMediaToken_within keyed
        (MeetingRequests.keyed_of_reachable meetingsReached) created

namespace Acme

def lounge : Uuid := .ofNat 31

/-- Alice opens a voice channel in the space. -/
def loungeOpened : AppRequest :=
  .createChannel (stamp 203) lounge aliceToken main ⟨some "voice", "lounge", none, none⟩

/-- A service with the development key; what it signs is told apart by the secret only. -/
def media : MediaControlService where
  config := ⟨"livekit", "ws://localhost:7880", "devkey", "secret", 600, "local"⟩
  encodeJson _ := some "e30"
  hmacSha256 secret _ := some secret
  toRfc3339 _ := "2026-01-01T00:10:00+00:00"

/-- Alice asks to speak and to share her screen. -/
def presenting : CreateMediaRoomTokenRequest :=
  ⟨"voice_channel", id.toString, some main.toString, some lounge.toString, some true, none,
    some true, none⟩

end Acme

theorem presenting_tokenWithin
    : ∃ app token, app.Reached Acme.crypto
        ∧ MediaController.createRoomToken Acme.crypto Acme.media 0 app Acme.aliceToken
            Acme.presenting = .ok token
        ∧ TokenWithin Acme.media app MeetingRequests.start.shared.store token := by
  have facts : (run (AppState.step Acme.crypto) .empty
      (Acme.requests ++ [Acme.loungeOpened])).any fun app =>
        (MediaController.createRoomToken Acme.crypto Acme.media 0 app Acme.aliceToken
          Acme.presenting).toOption.isSome := by
    decide +kernel
  obtain ⟨app, reached, issued⟩ := (Option.any_eq_true _ _).mp facts
  obtain ⟨token, issued⟩ := Option.isSome_iff_exists.mp issued
  have issued := Eff.toOption_eq_some.mp issued
  have start : Reachable (MeetingRequests.step Offsite.clock) .start MeetingRequests.start :=
    .refl _ _
  exact ⟨app, token, ⟨_, reached⟩, issued,
    tokenWithin_of_issuesToken ⟨_, reached⟩ start (.createRoomToken 0 _ _ issued)⟩

end OpenCord.Server

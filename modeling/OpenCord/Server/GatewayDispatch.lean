import OpenCord.Gateway.Payloads
import OpenCord.Server.Invariants

/-! Which events a gateway connection dispatches to its bot: a table of event types with the
intents they need, and one access check for all of them.
-/

namespace OpenCord.Server

open OpenCord.Library OpenCord.Platform OpenCord.Auth OpenCord.Tenancy OpenCord.Bots
  OpenCord.Realtime OpenCord.Gateway

namespace CompatGatewayController

def intentGuilds : Nat := 1 <<< 0
def intentGuildMembers : Nat := 1 <<< 1
def intentGuildPresences : Nat := 1 <<< 8
def intentGuildMessages : Nat := 1 <<< 9
def intentMessageContent : Nat := 1 <<< 15

def supportedGatewayIntents : Nat := intentGuilds ||| intentGuildMembers ||| intentGuildMessages
def disallowedGatewayIntents : Nat := intentGuildPresences ||| intentMessageContent
def knownGatewayIntents : Nat := supportedGatewayIntents ||| disallowedGatewayIntents

/-- The intents that a connection may identify with: known ones, and none that is disallowed. -/
def validIntents (intents : Nat) : Bool :=
  intents &&& knownGatewayIntents = intents ∧ intents &&& disallowedGatewayIntents = 0

def hasIntent (intents required : Nat) : Bool :=
  intents &&& required = required

/-- The first payload of a new session. -/
def ready (state : AppState) (bot : AuthenticatedBot) (sessionId : String) (intents : Nat)
    : Json :=
  .object [("v", .integer 10), ("session_id", .string sessionId),
    ("resume_gateway_url", .string "/api/compat/discord/gateway"),
    ("user", .object [("id", .string bot.botUserId.toString), ("username", .string bot.name),
      ("bot", .bool true)]),
    ("guilds", .array ((state.spaces.listForUser bot.botUserId bot.organizationId).map
      SpaceController.guild)),
    ("application", .object [("id", .string bot.applicationId.toString)]),
    ("intents", .integer intents)]

def eventMemberUserIdsInclude (event : RealtimeEvent) (userId : Uuid) : Bool :=
  ((event.data.get "member_user_ids").bind Json.asArray).any fun memberUserIds =>
    memberUserIds.any fun memberUserId => memberUserId.asStr = some userId.toString

/-- The identifier in a text field. -/
def uuidAt (value : Json) (key : String) : Option Uuid :=
  ((value.get key).bind Json.asStr).bind Uuid.parseStr

/-- A channel as an event about it shows it. -/
def channelModelFromEvent (event : RealtimeEvent) : Option Channel := do
  let channel ← event.data.get "channel"
  let id ← uuidAt channel "id"
  let organizationId ← uuidAt channel "organization_id"
  let spaceId ← uuidAt channel "space_id"
  let kind ← (channel.get "kind").bind Json.asStr
  let name ← (channel.get "name").bind Json.asStr
  let slug ← (channel.get "slug").bind Json.asStr
  return ⟨id, organizationId, spaceId, kind, name, slug,
    ((channel.get "position").bind Json.asI32).getD 0, (channel.get "topic").bind Json.asStr,
    ((channel.get "is_private").bind Json.asBool).getD false⟩

/-- The channel that an event with a channel in its scope is about: the stored one, or for a
deleted channel the one that the event shows.
-/
def channelOfEvent (state : AppState) (event : RealtimeEvent) (channelId : Uuid)
    : Option Channel :=
  match state.channel channelId with
  | .ok channel => some channel
  | .error _ =>
      if event.eventType = "channel.deleted" then
        (channelModelFromEvent event).filter fun channel => channel.id = channelId
      else
        none

def canBotReceiveSpaceEvent (state : AppState) (bot : AuthenticatedBot) (event : RealtimeEvent)
    (spaceId : Uuid) : Bool :=
  if event.eventType = "space.deleted" then
    match Uuid.parseStr event.organizationId with
    | none => false
    | some organizationId =>
        organizationId = bot.organizationId ∧ eventMemberUserIdsInclude event bot.botUserId
  else
    match state.spaceForUser bot.botUserId spaceId with
    | .error _ => false
    | .ok space => space.organizationId = bot.organizationId

def canBotReceiveChannelEvent (state : AppState) (bot : AuthenticatedBot)
    (event : RealtimeEvent) (channelId : Uuid) : Bool :=
  match channelOfEvent state event channelId with
  | none => false
  | some channel =>
      if channel.organizationId ≠ bot.organizationId then
        false
      else
        match state.spaceForUser bot.botUserId channel.spaceId with
        | .error _ => false
        | .ok space =>
            PermissionService.canInChannel state.permissions bot.botUserId space channel
              .viewChannel

/-- The access check of all events. An event without a scope goes to every bot. -/
def canBotReceiveEvent (state : AppState) (bot : AuthenticatedBot) (event : RealtimeEvent)
    : Bool :=
  match event.scope.channelId with
  | none =>
      match event.scope.spaceId with
      | none => true
      | some spaceId =>
          (Uuid.parseStr spaceId).any fun spaceId => canBotReceiveSpaceEvent state bot event spaceId
  | some channelId =>
      (Uuid.parseStr channelId).any fun channelId =>
        canBotReceiveChannelEvent state bot event channelId

/-- How the events of a type are dispatched. -/
structure GatewayDispatch where
  eventType : String
  intent : Option Nat
  name : String
  payload : AuthenticatedBot → RealtimeEvent → Option Json

def GatewayDispatch.allowedBy (dispatch : GatewayDispatch) (intents : Nat) : Bool :=
  dispatch.intent.all fun required => hasIntent intents required

def dispatches : List GatewayDispatch :=
  [⟨"message.created", some intentGuildMessages, "MESSAGE_CREATE", compatMessageFromEvent⟩,
    ⟨"message.updated", some intentGuildMessages, "MESSAGE_UPDATE", compatMessageFromEvent⟩,
    ⟨"message.deleted", some intentGuildMessages, "MESSAGE_DELETE",
      fun _ => compatMessageDeleteFromEvent⟩,
    ⟨"channel.created", some intentGuilds, "CHANNEL_CREATE", fun _ => compatChannelFromEvent⟩,
    ⟨"channel.updated", some intentGuilds, "CHANNEL_UPDATE", fun _ => compatChannelFromEvent⟩,
    ⟨"channel.deleted", some intentGuilds, "CHANNEL_DELETE", fun _ => compatChannelFromEvent⟩,
    ⟨"space.updated", some intentGuilds, "GUILD_UPDATE", fun _ => compatGuildFromEvent⟩,
    ⟨"space.deleted", some intentGuilds, "GUILD_DELETE", fun _ => compatGuildFromEvent⟩,
    ⟨"space.bot.invited", some intentGuilds, "GUILD_CREATE", fun _ => compatGuildFromEvent⟩,
    ⟨"space.member.added", some intentGuildMembers, "GUILD_MEMBER_ADD",
      fun _ => compatGuildMemberFromEvent⟩,
    ⟨"space.member.removed", some intentGuildMembers, "GUILD_MEMBER_REMOVE",
      fun _ => compatGuildMemberFromEvent⟩,
    ⟨"interaction.created", none, "INTERACTION_CREATE",
      fun bot event => compatInteractionFromEvent event bot⟩]

/-- The dispatch of an event on a connection of a bot with its intents, if there is one. -/
def dispatchFor (state : AppState) (bot : AuthenticatedBot) (intents : Nat)
    (event : RealtimeEvent) : Option (String × Json) := do
  let dispatch ← dispatches.find? fun dispatch =>
    dispatch.eventType = event.eventType ∧ dispatch.allowedBy intents
      ∧ canBotReceiveEvent state bot event
  let payload ← dispatch.payload bot event
  return (dispatch.name, payload)

/-- What leads to a dispatch: its table entry, the checks and the payload. -/
theorem dispatchFor_some {state : AppState} {bot : AuthenticatedBot} {intents : Nat}
    {event : RealtimeEvent} {name : String} {payload : Json}
    (dispatched : dispatchFor state bot intents event = some (name, payload))
    : ∃ dispatch ∈ dispatches, dispatch.eventType = event.eventType
        ∧ dispatch.allowedBy intents = true ∧ canBotReceiveEvent state bot event = true
        ∧ dispatch.payload bot event = some payload := by
  obtain ⟨dispatch, found, dispatched⟩ := Option.bind_eq_some_iff.mp dispatched
  obtain ⟨made, payloadMade, same⟩ := Option.bind_eq_some_iff.mp dispatched
  cases same
  have checked := List.find?_some found
  obtain ⟨eventType, allowed, receives⟩ := of_decide_eq_true checked
  exact ⟨dispatch, List.mem_of_find?_eq_some found, eventType, allowed, receives, payloadMade⟩

/-- The gateway dispatches events of a type under an intent that a connection has identified with,
and makes a payload of the event.
-/
def Dispatches (bot : AuthenticatedBot) (intents : Nat) (event : RealtimeEvent) : Prop :=
  ∃ dispatch ∈ dispatches, dispatch.eventType = event.eventType
    ∧ dispatch.allowedBy intents = true ∧ (dispatch.payload bot event).isSome

/-- A type of events has one dispatch. -/
theorem nodup_dispatches : (dispatches.map GatewayDispatch.eventType).Nodup := by
  decide

/-- What is dispatched is what the bot may receive and the gateway dispatches. -/
theorem isSome_dispatchFor_iff {state : AppState} {bot : AuthenticatedBot} {intents : Nat}
    {event : RealtimeEvent}
    : (dispatchFor state bot intents event).isSome
      ↔ canBotReceiveEvent state bot event = true ∧ Dispatches bot intents event := by
  constructor
  · intro dispatched
    obtain ⟨⟨_, payload⟩, answered⟩ := Option.isSome_iff_exists.mp dispatched
    obtain ⟨dispatch, listed, sameType, allowed, receives, made⟩ := dispatchFor_some answered
    exact ⟨receives, dispatch, listed, sameType, allowed,
      Option.isSome_iff_exists.mpr ⟨payload, made⟩⟩
  · rintro ⟨receives, dispatch, listed, sameType, allowed, made⟩
    obtain ⟨payload, made⟩ := Option.isSome_iff_exists.mp made
    have found : (dispatches.find? fun dispatch =>
        dispatch.eventType = event.eventType ∧ dispatch.allowedBy intents
          ∧ canBotReceiveEvent state bot event) = some dispatch := by
      cases first : dispatches.find? fun dispatch =>
          dispatch.eventType = event.eventType ∧ dispatch.allowedBy intents
            ∧ canBotReceiveEvent state bot event with
      | none =>
          have refused := List.find?_eq_none.mp first dispatch listed
          exact absurd (decide_eq_true ⟨sameType, allowed, receives⟩) refused
      | some other =>
          have checked := List.find?_some first
          obtain ⟨otherType, _⟩ := of_decide_eq_true checked
          rw [List.inj_on_of_nodup_map nodup_dispatches (List.mem_of_find?_eq_some first) listed
            (otherType.trans sameType.symm)]
    rw [dispatchFor, found, Option.bind_eq_bind, Option.bind_some, made]
    rfl

/-- The channel that the event of a deleted channel shows is the one in its scope. -/
def DescribesScope (event : RealtimeEvent) : Prop :=
  event.eventType = "channel.deleted" →
    ∀ channel, channelModelFromEvent event = some channel →
      event.scope = ⟨some channel.spaceId.toString, some channel.id.toString⟩
        ∧ event.organizationId = channel.organizationId.toString

/-- A written identifier is read back. -/
theorem uuidAt_of_get {value : Json} {key : String} {id : Uuid}
    (found : value.get key = some (.string id.toString))
    : uuidAt value key = some id := by
  rw [uuidAt, found, Option.bind_some, Json.asStr, Option.bind_some, Uuid.parseStr_toString]

/-- The events of the channel controller do. -/
theorem describesScope_event (stamp : EventStamp) (eventType : String) (channel : Channel)
    : DescribesScope (ChannelController.event stamp eventType channel) := by
  intro _ shown model
  rw [channelModelFromEvent] at model
  obtain ⟨value, found, model⟩ := Option.bind_eq_some_iff.mp model
  obtain rfl : ChannelController.response channel = value := by
    simpa only [ChannelController.event, RealtimeEvent.channel, Json.get, List.find?_cons_of_pos,
      beq_self_eq_true, Option.map_some, Option.some.injEq] using found
  obtain ⟨id, idRead, model⟩ := Option.bind_eq_some_iff.mp model
  obtain ⟨organizationId, organizationRead, model⟩ := Option.bind_eq_some_iff.mp model
  obtain ⟨spaceId, spaceRead, model⟩ := Option.bind_eq_some_iff.mp model
  obtain ⟨kind, _, model⟩ := Option.bind_eq_some_iff.mp model
  obtain ⟨name, _, model⟩ := Option.bind_eq_some_iff.mp model
  obtain ⟨slug, _, model⟩ := Option.bind_eq_some_iff.mp model
  cases model
  have ids : uuidAt (ChannelController.response channel) "id" = some channel.id
      ∧ uuidAt (ChannelController.response channel) "organization_id"
        = some channel.organizationId
      ∧ uuidAt (ChannelController.response channel) "space_id" = some channel.spaceId := by
    refine ⟨uuidAt_of_get ?_, uuidAt_of_get ?_, uuidAt_of_get ?_⟩ <;>
      simp [ChannelController.response, Json.get]
  rw [ids.1] at idRead
  rw [ids.2.1] at organizationRead
  rw [ids.2.2] at spaceRead
  cases idRead
  cases organizationRead
  cases spaceRead
  exact ⟨rfl, rfl⟩

end CompatGatewayController

open CompatGatewayController

/-- A bot may see an event about a space of its organization of which it is a member, an event
about a channel of such a space that it may view, and the end of a space that it was in.
-/
inductive AppState.BotMaySee (state : AppState) (bot : AuthenticatedBot)
    (event : RealtimeEvent) : Prop where
  | space (spaceId : Uuid) (space : SpaceMembership)
      (scope : event.scope = ⟨some spaceId.toString, none⟩)
      (member : state.spaceForUser bot.botUserId spaceId = .ok space)
      (active : state.spaces.ActiveMember spaceId bot.botUserId)
      (own : space.organizationId = bot.organizationId)
  | deletedSpace (spaceId : Uuid) (scope : event.scope = ⟨some spaceId.toString, none⟩)
      (isDeleted : event.eventType = "space.deleted")
      (own : event.organizationId = bot.organizationId.toString)
      (listed : eventMemberUserIdsInclude event bot.botUserId = true)
  | channel (channel : Channel) (space : SpaceMembership)
      (scope : event.scope = ⟨some channel.spaceId.toString, some channel.id.toString⟩)
      (published : event.organizationId = channel.organizationId.toString)
      (known : state.channel channel.id = .ok channel
        ∨ event.eventType = "channel.deleted" ∧ channelModelFromEvent event = some channel)
      (own : channel.organizationId = bot.organizationId)
      (member : state.spaceForUser bot.botUserId channel.spaceId = .ok space)
      (active : state.spaces.ActiveMember channel.spaceId bot.botUserId)
      (views : PermissionService.canInChannel state.permissions bot.botUserId space channel
        .viewChannel = true)

namespace CompatGatewayController

/-- The channel of a published event lies where the event says. -/
theorem channelOfEvent_some {state : AppState} {stamp : EventStamp} {eventType : String}
    {organizationId spaceId channelId : Uuid} {data : Json} {channel : Channel}
    (keyed : state.Keyed) (located : state.Locates organizationId spaceId channelId)
    (describes : DescribesScope
      (.channel stamp eventType organizationId spaceId channelId data))
    (found : channelOfEvent state
      (.channel stamp eventType organizationId spaceId channelId data) channelId = some channel)
    : (channel.id = channelId ∧ channel.spaceId = spaceId
        ∧ channel.organizationId = organizationId)
      ∧ (state.channel channel.id = .ok channel
        ∨ eventType = "channel.deleted"
          ∧ channelModelFromEvent
              (.channel stamp eventType organizationId spaceId channelId data) = some channel) := by
  rw [channelOfEvent] at found
  split at found
  · next other answers =>
      cases found
      have stored : state.channels.channelsById.lookup channelId = some channel := by
        rw [AppState.channel, Eff.mapError_eq_ok, ChannelService.get] at answers
        split at answers
        · next known =>
            cases answers
            exact known
        · cases answers
      have key := keyed.channels channelId channel stored
      obtain ⟨sameOrganization, sameSpace⟩ := located channel stored
      exact ⟨⟨key, sameSpace, sameOrganization⟩, .inl (key.symm ▸ answers)⟩
  · split at found
    · next isDeleted =>
        obtain ⟨shown, _⟩ := Option.filter_eq_some_iff.mp found
        obtain ⟨scope, organization⟩ := describes isDeleted channel shown
        have ids := (RealtimeScope.mk.injEq ..).mp scope
        refine ⟨⟨?_, ?_, ?_⟩, .inr ⟨isDeleted, shown⟩⟩
        · exact (Uuid.toString_injective (Option.some.inj ids.2)).symm
        · exact (Uuid.toString_injective (Option.some.inj ids.1)).symm
        · exact (Uuid.toString_injective organization).symm
    · cases found

theorem canBotReceiveEvent_space {state : AppState} {bot : AuthenticatedBot}
    {event : RealtimeEvent} {spaceId : Uuid} (scope : event.scope = ⟨some spaceId.toString, none⟩)
    : canBotReceiveEvent state bot event = canBotReceiveSpaceEvent state bot event spaceId := by
  rw [canBotReceiveEvent, scope]
  simp only [Uuid.parseStr_toString, Option.any_some]

theorem canBotReceiveEvent_channel {state : AppState} {bot : AuthenticatedBot}
    {event : RealtimeEvent} {channelId : Uuid}
    (scope : event.scope.channelId = some channelId.toString)
    : canBotReceiveEvent state bot event = canBotReceiveChannelEvent state bot event channelId := by
  rw [canBotReceiveEvent, scope]
  simp only [Uuid.parseStr_toString, Option.any_some]

/-- A published event that passes the check is one that the bot may see. -/
theorem botMaySee_of_canBotReceiveEvent {state : AppState} {bot : AuthenticatedBot}
    {event : RealtimeEvent} (keyed : state.Keyed) (concerns : state.Concerns event)
    (describes : DescribesScope event) (receives : canBotReceiveEvent state bot event = true)
    : state.BotMaySee bot event := by
  cases concerns with
  | space stamp eventType organizationId spaceId data =>
      rw [canBotReceiveEvent_space rfl, canBotReceiveSpaceEvent] at receives
      split at receives
      · next isDeleted =>
          split at receives
          · cases receives
          · next parsed read =>
              obtain ⟨own, listed⟩ := of_decide_eq_true receives
              have read : Uuid.parseStr organizationId.toString = some parsed := read
              rw [Uuid.parseStr_toString] at read
              cases read
              exact .deletedSpace spaceId rfl isDeleted (congrArg Uuid.toString own) listed
      · split at receives
        · cases receives
        · next space member =>
            exact .space spaceId space rfl member (activeMember_of_spaceForUser member)
              (of_decide_eq_true receives)
  | channel stamp eventType organizationId spaceId channelId data located =>
      rw [canBotReceiveEvent_channel rfl, canBotReceiveChannelEvent] at receives
      split at receives
      · cases receives
      · next channel found =>
          obtain ⟨⟨rfl, rfl, rfl⟩, known⟩ := channelOfEvent_some keyed located describes found
          split at receives
          · cases receives
          · next own =>
              split at receives
              · cases receives
              · next space member =>
                  exact .channel channel space rfl rfl known (not_not.mp own) member
                    (activeMember_of_spaceForUser member) receives

end CompatGatewayController

end OpenCord.Server

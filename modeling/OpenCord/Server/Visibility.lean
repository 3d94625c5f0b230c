import OpenCord.Server.AccessWrites
import OpenCord.Server.EventIsolation
import OpenCord.Server.FailedMessages
import OpenCord.Server.GatewayDispatch
import OpenCord.Server.MessageChanges

/-! Listings of spaces and channels. A channel is listed for exactly those who can list its
messages and who are sent its events, whether they are users or bots.
-/

namespace OpenCord.Tenancy

open OpenCord.Library OpenCord.Platform

namespace ChannelStore

/-- The order of listed channels: by position, then by name. -/
def Before (left right : Channel) : Prop :=
  left.position < right.position ∨ left.position = right.position ∧ left.name ≤ right.name

instance : DecidableRel Before :=
  fun _ _ => inferInstanceAs (Decidable (_ ∨ _))

instance : Std.Total Before where
  total left right := by
    rcases lt_trichotomy left.position right.position with less | same | more
    · exact .inl (.inl less)
    · exact (String.le_total left.name right.name).imp (fun below => .inr ⟨same, below⟩)
        fun above => .inr ⟨same.symm, above⟩
    · exact .inr (.inl more)

instance : IsTrans Channel Before where
  trans first middle last := by
    rintro (less | ⟨same, below⟩) (more | ⟨equal, under⟩)
    · exact .inl (less.trans more)
    · exact .inl (equal ▸ less)
    · exact .inl (same ▸ more)
    · exact .inr ⟨same.trans equal, String.le_trans below under⟩

def listForSpace (store : ChannelStore) (spaceId : Uuid) : List Channel :=
  (store.channelsById.values.filter fun channel => channel.spaceId = spaceId).insertionSort Before

end ChannelStore

/-- Membership rows are stored under their space and their user. -/
def SpaceStore.RowsKeyed (store : SpaceStore) : Prop :=
  Table.Keyed (fun row => (row.spaceId, row.userId)) store.membersBySpaceUser

end OpenCord.Tenancy

namespace OpenCord.Server

open OpenCord.Library OpenCord.Platform OpenCord.Auth OpenCord.Tenancy OpenCord.Bots
  OpenCord.Messages OpenCord.Realtime OpenCord.RateLimits OpenCord.Gateway

section

variable (crypto : Crypto)

def SpaceController.list (state : AppState) (token : String) (organizationId : Uuid)
    : Except ApiError (List SpaceMembership) := do
  let user ← state.userForToken crypto token
  let _ ← state.organizationForUser user.id organizationId
  return state.spaces.listForUser user.id organizationId

def ChannelController.list (state : AppState) (token : String) (spaceId : Uuid)
    : Except ApiError (List Channel) := do
  let user ← state.userForToken crypto token
  let space ← state.spaceForUser user.id spaceId
  return (state.channels.listForSpace spaceId).filter fun channel =>
    PermissionService.canInChannel state.permissions user.id space channel .viewChannel

namespace CompatController

def visibleSpaceForBot (state : AppState) (bot : AuthenticatedBot) (spaceId : Uuid)
    : Except ApiError SpaceMembership := do
  let space ← state.spaceForUser bot.botUserId spaceId
  if space.organizationId ≠ bot.organizationId then
    throw (.space .notFound)
  else
    return space

/-- A bot whose request passes the rate limit, and a space that it sees. -/
def visibleSpace (state : AppState) (rateLimit : RateLimitDecision)
    (authorization : Option String) (spaceId : Uuid)
    : Except MessageApiError (AuthenticatedBot × SpaceMembership) := do
  let token ← botToken authorization
  let bot ← (state.botForToken crypto token).mapError .service
  checkRateLimit rateLimit
  let space ← (visibleSpaceForBot state bot spaceId).mapError .service
  return (bot, space)

def getGuild (state : AppState) (rateLimit : RateLimitDecision)
    (authorization : Option String) (spaceId : Uuid)
    : Except MessageApiError (RateLimitDecision × Json) := do
  let (_, space) ← visibleSpace crypto state rateLimit authorization spaceId
  return (rateLimit, SpaceController.guild space)

structure CompatChannelResponse where
  id : String
  guildId : String
  name : String
  kind : Int
  position : Int
  topic : Option String
  nsfw : Bool
  deriving DecidableEq

def compatChannelResponse (channel : Channel) : CompatChannelResponse :=
  ⟨channel.id.toString, channel.spaceId.toString, channel.name, compatChannelKind channel.kind,
    channel.position, channel.topic, false⟩

def listGuildChannels (state : AppState) (rateLimit : RateLimitDecision)
    (authorization : Option String) (spaceId : Uuid)
    : Except MessageApiError (RateLimitDecision × List CompatChannelResponse) := do
  let (bot, space) ← visibleSpace crypto state rateLimit authorization spaceId
  let visible := (state.channels.listForSpace space.id).filter fun channel =>
    channel.organizationId = bot.organizationId
      ∧ PermissionService.canInChannel state.permissions bot.botUserId space channel .viewChannel
  return (rateLimit, visible.map compatChannelResponse)

end CompatController

end

variable {crypto : Crypto}

-----------------------------------------------------------------------------------------
-- Membership rows
-----------------------------------------------------------------------------------------

/-- A row that is written says its key, by cases of the writes. -/
theorem AccessWrite.rowsKeyed {before after : AppState} {request : AppRequest}
    (write : AccessWrite crypto before request after) (rows : before.spaces.RowsKeyed)
    : after.spaces.RowsKeyed := by
  have joined (spaceId memberId : Uuid) (role : String) :
      ((before.spaces.joined ⟨spaceId, memberId, role, .active⟩).spaceId,
          (before.spaces.joined ⟨spaceId, memberId, role, .active⟩).userId)
        = (spaceId, memberId) := by
    rw [SpaceStore.joined]
    split
    · next existing stored => exact rows (spaceId, memberId) existing stored
    · rfl
  cases write with
  | elsewhere spaces => rwa [spaces]
  | spaceCreated founder space token name asked made new spaces =>
      rw [spaces]
      exact Table.Keyed.insert rows _
  | spaceWritten other space made may members => rwa [SpaceStore.RowsKeyed, members]
  | memberInvited other spaceId memberId role made may invited given spaces =>
      rw [spaces, SpaceStore.RowsKeyed, SpaceStore.withMember]
      exact Table.forall_insert (joined spaceId memberId role) rows
  | memberRemoved other spaceId memberId row made may stored spaces =>
      rw [spaces, SpaceStore.RowsKeyed, SpaceStore.withMember]
      exact Table.forall_insert (rows (spaceId, memberId) row stored) rows
  | channelCreated other channel made may new spaces => rwa [spaces]
  | channelWritten other channel made may stored spaces => rwa [spaces]
  | roleCreated other role token body asked made may named spaces => rwa [spaces]
  | roleAssigned other assignment role token member asked named made assigned may known ofSpace
      spaces => rwa [spaces]
  | overridden other channel permissionOverride stamp token body asked made may stored inChannel
      target named spaces => rwa [spaces]

theorem AppState.Reached.rowsKeyed {state : AppState} (reached : state.Reached crypto)
    : state.spaces.RowsKeyed := by
  have both : state.Keyed ∧ state.spaces.RowsKeyed := by
    refine @Reachable.invariant _ _ _ (fun state => state.Keyed ∧ state.spaces.RowsKeyed) _ _
      reached ⟨AppState.empty_keyed, Table.forall_empty⟩ ?_
    intro before request after held stepped
    refine ⟨(held.1.step stepped).1, ?_⟩
    rw [AppState.step] at stepped
    split at stepped
    · next admissible =>
        cases stepped
        have write : AccessWrite crypto before request (request.perform crypto before) :=
          request.perform_access held.1 admissible
        exact write.rowsKeyed held.2
    · cases stepped
  exact both.2

-----------------------------------------------------------------------------------------
-- Channels
-----------------------------------------------------------------------------------------

theorem ChannelStore.mem_listForSpace {state : AppState} (keyed : state.Keyed) {spaceId : Uuid}
    {channel : Channel}
    : channel ∈ state.channels.listForSpace spaceId
      ↔ state.channels.channelsById.lookup channel.id = some channel
        ∧ channel.spaceId = spaceId := by
  rw [Tenancy.ChannelStore.listForSpace, List.mem_insertionSort, List.mem_filter,
    Table.mem_values, decide_eq_true_eq]
  refine and_congr_left fun _ => ⟨?_, fun stored => ⟨_, stored⟩⟩
  rintro ⟨channelId, stored⟩
  obtain rfl := keyed.channels channelId channel stored
  exact stored

/-- The channels of a space, some left out, are in order and different. -/
theorem ordered_filter_listForSpace {state : AppState} (keyed : state.Keyed) (spaceId : Uuid)
    (keep : Channel → Bool)
    : (((state.channels.listForSpace spaceId).filter keep).map fun channel => channel.id).Nodup
        ∧ ((state.channels.listForSpace spaceId).filter keep).Pairwise
          Tenancy.ChannelStore.Before := by
  constructor
  · have distinct : (state.channels.channelsById.values.map fun channel => channel.id).Nodup :=
      Table.nodup_map_values keyed.channels
    have listed : ((state.channels.listForSpace spaceId).map fun channel => channel.id).Nodup :=
      ((List.perm_insertionSort _ _).map _).nodup_iff.mpr
        (distinct.sublist (List.filter_sublist.map _))
    exact listed.sublist (List.filter_sublist.map _)
  · exact (List.pairwise_insertionSort _ _).sublist List.filter_sublist

/-- A user may list the messages of a channel who may view it. -/
theorem isOk_list_iff {state : MessagingState} {authorization : Option String} {token : String}
    {user : AuthUser} (presented : bearerToken authorization = .ok token)
    (known : state.app.userForToken crypto token = .ok user) (publicUrl : String)
    (channelId : Uuid)
    : (MessageController.list crypto publicUrl state authorization channelId).isOk
      ↔ (state.app.enterChannel user.id channelId .viewChannel).isOk := by
  simp only [MessageController.list, presented, bind, Except.bind, known, Except.mapError]
  cases state.app.enterChannel user.id channelId .viewChannel <;> exact Iff.rfl

/-- What a listing of channels says about a user. -/
structure ListsChannels (crypto : Crypto) (publicUrl : String) (state : MessagingState)
    (authorization : Option String) (userId spaceId : Uuid) (channels : List Channel)
    : Prop where
  distinct : (channels.map fun channel => channel.id).Nodup
  ordered : channels.Pairwise Tenancy.ChannelStore.Before
  stored : ∀ channel ∈ channels,
    state.app.channels.channelsById.lookup channel.id = some channel ∧ channel.spaceId = spaceId
  readable : ∀ channel, state.app.channels.channelsById.lookup channel.id = some channel →
    channel.spaceId = spaceId →
      (channel ∈ channels
        ↔ (MessageController.list crypto publicUrl state authorization channel.id).isOk)
  told : ∀ channel, state.app.channels.channelsById.lookup channel.id = some channel →
    channel.spaceId = spaceId → ∀ event : RealtimeEvent,
      event.scope.channelId = some channel.id.toString →
        (channel ∈ channels ↔ RealtimeController.canReceiveEvent state.app userId event = true)

/-- The channels listed for a user are those of the space that the user may view, each of them
once; they are the channels whose messages the user can list, and whose events reach the user.
-/
theorem listed_channels_visible {state : MessagingState} (reached : state.app.Reached crypto)
    {authorization : Option String} {token : String} {spaceId : Uuid} {channels : List Channel}
    (presented : bearerToken authorization = .ok token)
    (listed : ChannelController.list crypto state.app token spaceId = .ok channels)
    (publicUrl : String)
    : ∃ user, state.app.userForToken crypto token = .ok user
        ∧ ListsChannels crypto publicUrl state authorization user.id spaceId channels := by
  have keyed := reached.keyed
  obtain ⟨user, known, listed⟩ := Eff.check_bind_eq_ok.mp listed
  obtain ⟨space, found, listed⟩ := Eff.check_bind_eq_ok.mp listed
  cases listed
  have enters (channel : Channel)
      (stored : state.app.channels.channelsById.lookup channel.id = some channel)
      (own : channel.spaceId = spaceId) :
      channel ∈ (state.app.channels.listForSpace spaceId).filter (fun channel =>
          PermissionService.canInChannel state.app.permissions user.id space channel .viewChannel)
        ↔ (state.app.enterChannel user.id channel.id .viewChannel).isOk := by
    rw [isOk_enterChannel_iff stored (own.symm ▸ found), List.mem_filter,
      ChannelStore.mem_listForSpace keyed]
    exact and_iff_right ⟨stored, own⟩
  obtain ⟨distinct, ordered⟩ := ordered_filter_listForSpace keyed spaceId fun channel =>
    PermissionService.canInChannel state.app.permissions user.id space channel .viewChannel
  refine ⟨user, known, distinct, ordered, fun channel mem => ?_, fun channel stored own => ?_,
    fun channel stored own event about => ?_⟩
  · exact (ChannelStore.mem_listForSpace keyed).mp (List.mem_filter.mp mem).1
  · rw [enters channel stored own, isOk_list_iff presented known]
  · rw [enters channel stored own, canReceiveEvent_eq_enterChannel about]

/-- Alice lists the channels of Acme's space. -/
theorem general_listed
    : ∃ state channels, AppState.Reached Acme.crypto (MessagingState.app state)
        ∧ ChannelController.list Acme.crypto state.app Acme.aliceToken Acme.main = .ok channels
        ∧ (∃ channel ∈ channels, channel.id = Acme.general)
        ∧ ∃ user, state.app.userForToken Acme.crypto Acme.aliceToken = .ok user
          ∧ ListsChannels Acme.crypto "https://opencord.test" state
            (some ("Bearer " ++ Acme.aliceToken)) user.id Acme.main channels := by
  have facts : (run (AppState.step Acme.crypto) .empty Acme.requests).any fun state =>
      (ChannelController.list Acme.crypto state Acme.aliceToken Acme.main).toOption.any
        fun channels => channels.any fun channel => channel.id = Acme.general := by
    decide +kernel
  have presented : (bearerToken (some ("Bearer " ++ Acme.aliceToken))).toOption
      = some Acme.aliceToken := by
    decide +kernel
  obtain ⟨state, ran, facts⟩ := (Option.any_eq_true _ _).mp facts
  obtain ⟨channels, listed, facts⟩ := (Option.any_eq_true _ _).mp facts
  obtain ⟨channel, mem, same⟩ := List.any_eq_true.mp facts
  have reached : AppState.Reached Acme.crypto state := ⟨_, ran⟩
  have listed := Eff.toOption_eq_some.mp listed
  exact ⟨⟨state, .empty⟩, channels, reached, listed, ⟨channel, mem, of_decide_eq_true same⟩,
    @listed_channels_visible Acme.crypto ⟨state, .empty⟩ reached _ _ _ _
      (Eff.toOption_eq_some.mp presented) listed _⟩

-----------------------------------------------------------------------------------------
-- Channels of bots
-----------------------------------------------------------------------------------------

/-- A bot that passes the rate limit, and a space of its organization that it is a member of. -/
theorem visibleSpace_eq_ok {state : AppState} {rateLimit : RateLimitDecision}
    {authorization : Option String} {token : String} {bot other : AuthenticatedBot}
    {spaceId : Uuid} {space : SpaceMembership} (presented : botToken authorization = .ok token)
    (known : state.botForToken crypto token = .ok bot) (allowed : rateLimit.allowed = true)
    : CompatController.visibleSpace crypto state rateLimit authorization spaceId
          = .ok (other, space)
      ↔ other = bot ∧ state.spaceForUser bot.botUserId spaceId = .ok space
        ∧ space.organizationId = bot.organizationId := by
  simp only [CompatController.visibleSpace, presented, bind, Except.bind, known, Except.mapError,
    checkRateLimit, allowed, if_true, CompatController.visibleSpaceForBot]
  cases found : state.spaceForUser bot.botUserId spaceId with
  | error error => simp
  | ok seen =>
      by_cases own : seen.organizationId = bot.organizationId
      · simp only [own, ne_eq, not_true, if_false, pure, Except.pure, Except.ok.injEq,
          Prod.mk.injEq]
        constructor
        · rintro ⟨rfl, rfl⟩
          exact ⟨rfl, rfl, own⟩
        · rintro ⟨rfl, rfl, _⟩
          exact ⟨rfl, rfl⟩
      · simp only [own, ne_eq, not_false_eq_true, if_true, throw, throwThe, MonadExceptOf.throw]
        refine iff_of_false nofun ?_
        rintro ⟨-, same, other⟩
        cases same
        exact own other

/-- A bot may list the messages of a channel of its organization that it may view. -/
theorem isOk_listMessages_iff {state : MessagingState} {rateLimit : RateLimitDecision}
    {authorization : Option String} {token : String} {bot : AuthenticatedBot}
    {channel : Channel} {space : SpaceMembership} {channelId : Uuid}
    (presented : botToken authorization = .ok token)
    (known : state.app.botForToken crypto token = .ok bot) (allowed : rateLimit.allowed = true)
    (stored : state.app.channels.channelsById.lookup channelId = some channel)
    (found : state.app.spaceForUser bot.botUserId channel.spaceId = .ok space)
    (publicUrl : String)
    : (CompatController.listMessages crypto publicUrl state rateLimit authorization
          channelId).isOk
      ↔ channel.organizationId = bot.organizationId
        ∧ PermissionService.canInChannel state.app.permissions bot.botUserId space channel
            .viewChannel = true := by
  simp only [CompatController.listMessages, CompatController.visibleChannel, presented, bind,
    Except.bind, known, Except.mapError, checkRateLimit, allowed, if_true,
    CompatController.visibleChannelForBot, channel_eq_ok.mpr stored, found]
  by_cases own : channel.organizationId = bot.organizationId
  · simp only [own, ne_eq, not_true, if_false, pure, Except.pure, AppState.requireChannel,
      PermissionService.requireChannel]
    cases PermissionService.canInChannel state.app.permissions bot.botUserId space channel
      .viewChannel
    · simp [Except.mapError, Except.isOk, Except.toBool]
    · simp [Except.mapError, Except.isOk, Except.toBool]
  · simp [own, throw, throwThe, MonadExceptOf.throw, Except.isOk, Except.toBool]

/-- Events about a stored channel reach the bots of its organization that may view it. -/
theorem canBotReceiveEvent_iff {state : AppState} {bot : AuthenticatedBot} {channel : Channel}
    {space : SpaceMembership} {channelId : Uuid} {event : RealtimeEvent}
    (about : event.scope.channelId = some channelId.toString)
    (stored : state.channels.channelsById.lookup channelId = some channel)
    (found : state.spaceForUser bot.botUserId channel.spaceId = .ok space)
    : CompatGatewayController.canBotReceiveEvent state bot event = true
      ↔ channel.organizationId = bot.organizationId
        ∧ PermissionService.canInChannel state.permissions bot.botUserId space channel
            .viewChannel = true := by
  simp only [CompatGatewayController.canBotReceiveEvent, about, Uuid.parseStr_toString,
    Option.any_some, CompatGatewayController.canBotReceiveChannelEvent,
    CompatGatewayController.channelOfEvent, channel_eq_ok.mpr stored, found]
  by_cases own : channel.organizationId = bot.organizationId
  · simp [own]
  · simp [own]

/-- What a listing of channels says about a bot. -/
structure BotListsChannels (crypto : Crypto) (publicUrl : String) (state : MessagingState)
    (rateLimit : RateLimitDecision) (authorization : Option String) (bot : AuthenticatedBot)
    (spaceId : Uuid) (responses : List CompatController.CompatChannelResponse) : Prop where
  distinct : (responses.map fun response => response.id).Nodup
  shown : ∀ response ∈ responses, ∃ channel,
    state.app.channels.channelsById.lookup channel.id = some channel ∧ channel.spaceId = spaceId
      ∧ response = CompatController.compatChannelResponse channel
  readable : ∀ channel, state.app.channels.channelsById.lookup channel.id = some channel →
    channel.spaceId = spaceId →
      (CompatController.compatChannelResponse channel ∈ responses
        ↔ (CompatController.listMessages crypto publicUrl state rateLimit authorization
            channel.id).isOk)
  dispatched : ∀ channel, state.app.channels.channelsById.lookup channel.id = some channel →
    channel.spaceId = spaceId → ∀ event : RealtimeEvent,
      event.scope.channelId = some channel.id.toString → ∀ intents,
        ((CompatGatewayController.dispatchFor state.app bot intents event).isSome
          ↔ CompatController.compatChannelResponse channel ∈ responses
            ∧ CompatGatewayController.Dispatches bot intents event)

/-- The channels listed for a bot are, as for users, those whose messages the bot can list. They are
the ones whose events are dispatched to the bot, as long as the gateway dispatches events of the
type under the intents of the connection.
-/
theorem bot_listed_channels_visible {state : MessagingState}
    (reached : state.app.Reached crypto) {rateLimit limited : RateLimitDecision}
    {authorization : Option String} {spaceId : Uuid}
    {responses : List CompatController.CompatChannelResponse}
    (listed : CompatController.listGuildChannels crypto state.app rateLimit authorization spaceId
      = .ok (limited, responses))
    (publicUrl : String)
    : ∃ token bot, botToken authorization = .ok token
        ∧ state.app.botForToken crypto token = .ok bot
        ∧ BotListsChannels crypto publicUrl state rateLimit authorization bot spaceId
            responses := by
  have keyed := reached.keyed
  obtain ⟨⟨bot, space⟩, visible, listed⟩ := Eff.check_bind_eq_ok.mp listed
  cases listed
  obtain ⟨token, presented, rest⟩ := Eff.check_bind_eq_ok.mp visible
  obtain ⟨known, admitted, rest⟩ := Eff.check_bind_eq_ok.mp rest
  obtain ⟨_, passed, rest⟩ := Eff.check_bind_eq_ok.mp rest
  have allowed : rateLimit.allowed = true := by
    rw [checkRateLimit] at passed
    split at passed
    · assumption
    · cases passed
  have admitted := Eff.mapError_eq_ok.mp admitted
  obtain ⟨rfl, found, _⟩ := (visibleSpace_eq_ok presented admitted allowed).mp visible
  obtain ⟨_, rfl, _⟩ := keyed.storedSpace found
  let keep (channel : Channel) : Bool := channel.organizationId = bot.organizationId
    ∧ PermissionService.canInChannel state.app.permissions bot.botUserId space channel
      .viewChannel
  have mem (channel : Channel)
      (stored : state.app.channels.channelsById.lookup channel.id = some channel)
      (own : channel.spaceId = space.id) :
      CompatController.compatChannelResponse channel
          ∈ ((state.app.channels.listForSpace space.id).filter keep).map
            CompatController.compatChannelResponse
        ↔ keep channel = true := by
    rw [List.mem_map]
    constructor
    · rintro ⟨other, kept, same⟩
      obtain ⟨listed, keeps⟩ := List.mem_filter.mp kept
      obtain ⟨otherStored, _⟩ := (ChannelStore.mem_listForSpace keyed).mp listed
      simp only [CompatController.compatChannelResponse,
        CompatController.CompatChannelResponse.mk.injEq] at same
      have sameId : other.id = channel.id := Uuid.toString_injective same.1
      rw [sameId, stored, Option.some.injEq] at otherStored
      exact otherStored ▸ keeps
    · intro keeps
      refine ⟨channel, List.mem_filter.mpr ⟨?_, keeps⟩, rfl⟩
      exact (ChannelStore.mem_listForSpace keyed).mpr ⟨stored, own⟩
  obtain ⟨distinct, _⟩ := ordered_filter_listForSpace keyed space.id keep
  refine ⟨token, bot, presented, admitted, ?_, fun response answered => ?_,
    fun channel stored own => ?_, fun channel stored own event about intents => ?_⟩
  · have texts := distinct.map Uuid.toString_injective
    rw [List.map_map] at texts ⊢
    exact texts
  · obtain ⟨channel, kept, rfl⟩ := List.mem_map.mp answered
    obtain ⟨stored, own⟩ := (ChannelStore.mem_listForSpace keyed).mp (List.mem_filter.mp kept).1
    exact ⟨channel, stored, own, rfl⟩
  · rw [mem channel stored own, isOk_listMessages_iff presented admitted allowed stored
      (own.symm ▸ found), decide_eq_true_iff]
  · rw [mem channel stored own, CompatGatewayController.isSome_dispatchFor_iff,
      canBotReceiveEvent_iff about stored (own.symm ▸ found), decide_eq_true_iff]

/-- Acme's bot lists the channels of the space that it was brought into. -/
theorem general_listed_for_bot
    : ∃ state responses, AppState.Reached Acme.botCrypto (MessagingState.app state)
        ∧ CompatController.listGuildChannels Acme.botCrypto state.app Acme.withinLimit
            (some ("Bot " ++ Acme.botToken)) Acme.main
          = .ok (Acme.withinLimit, responses)
        ∧ (∃ response ∈ responses, response.id = Acme.general.toString)
        ∧ ∃ token bot, botToken (some ("Bot " ++ Acme.botToken)) = .ok token
          ∧ state.app.botForToken Acme.botCrypto token = .ok bot
          ∧ BotListsChannels Acme.botCrypto "https://opencord.test" state Acme.withinLimit
            (some ("Bot " ++ Acme.botToken)) bot Acme.main responses := by
  have facts : (run (AppState.step Acme.botCrypto) .empty
      (Acme.requests ++ Acme.botRequests)).any fun state =>
        (CompatController.listGuildChannels Acme.botCrypto state Acme.withinLimit
          (some ("Bot " ++ Acme.botToken)) Acme.main).toOption.any fun answer =>
            answer.1 = Acme.withinLimit
              ∧ answer.2.any fun response => response.id = Acme.general.toString := by
    decide +kernel
  obtain ⟨state, ran, facts⟩ := (Option.any_eq_true _ _).mp facts
  obtain ⟨⟨limited, responses⟩, listed, facts⟩ := (Option.any_eq_true _ _).mp facts
  obtain ⟨rfl, facts⟩ := of_decide_eq_true facts
  obtain ⟨response, mem, same⟩ := List.any_eq_true.mp facts
  have reached : AppState.Reached Acme.botCrypto state := ⟨_, ran⟩
  have listed := Eff.toOption_eq_some.mp listed
  exact ⟨⟨state, .empty⟩, responses, reached, listed, ⟨response, mem, of_decide_eq_true same⟩,
    @bot_listed_channels_visible Acme.botCrypto ⟨state, .empty⟩ reached _ _ _ _ _ listed _⟩

-----------------------------------------------------------------------------------------
-- Spaces
-----------------------------------------------------------------------------------------

/-- A row is listed as the space that its member sees. -/
theorem spaceOf_row {state : AppState} (keyed : state.Keyed) (rows : state.spaces.RowsKeyed)
    {userId organizationId : Uuid} {row : StoredSpaceMember} {space : SpaceMembership}
    (stored : row ∈ state.spaces.membersBySpaceUser.values)
    (seen : (if row.userId = userId ∧ row.status = .active then
        ((state.spaces.spacesById.lookup row.spaceId).filter fun space =>
          space.organizationId = organizationId).map fun space => .of space row.role
      else none) = some space)
    : row.userId = userId ∧ row.spaceId = space.id
        ∧ state.spaceForUser userId space.id = .ok space
        ∧ space.organizationId = organizationId := by
  obtain ⟨key, found⟩ := Table.mem_values.mp stored
  obtain rfl := rows key row found
  split at seen
  · next active =>
      obtain ⟨storedSpace, selected, rfl⟩ := Option.map_eq_some_iff.mp seen
      obtain ⟨known, own⟩ := Option.filter_eq_some_iff.mp selected
      have same : storedSpace.id = row.spaceId := keyed.spaces _ storedSpace known
      obtain ⟨rfl, active⟩ := active
      refine ⟨rfl, same.symm, ?_, of_decide_eq_true own⟩
      exact spaceForUser_eq_ok.mpr
        ⟨row, storedSpace, by rw [SpaceMembership.of, same, SpaceStore.member?, found], active,
          by rw [SpaceMembership.of, same, known], rfl⟩
  · cases seen

/-- The spaces listed for a user are those of the organization that the user can open. -/
theorem mem_listForUser {state : AppState} (keyed : state.Keyed) (rows : state.spaces.RowsKeyed)
    {userId organizationId : Uuid} {space : SpaceMembership}
    : space ∈ state.spaces.listForUser userId organizationId
      ↔ state.spaceForUser userId space.id = .ok space
        ∧ space.organizationId = organizationId := by
  rw [SpaceStore.listForUser, List.mem_insertionSort, List.mem_filterMap]
  constructor
  · rintro ⟨row, stored, seen⟩
    obtain ⟨_, _, found, own⟩ := spaceOf_row keyed rows stored seen
    exact ⟨found, own⟩
  · rintro ⟨found, own⟩
    obtain ⟨row, storedSpace, member, active, known, same⟩ := spaceForUser_eq_ok.mp found
    obtain ⟨sameSpace, sameUser⟩ := Prod.mk.inj (rows _ row member)
    refine ⟨row, Table.mem_values.mpr ⟨_, member⟩, ?_⟩
    rw [if_pos ⟨sameUser, active⟩, sameSpace, known]
    have inOrganization : storedSpace.organizationId = organizationId := by
      rw [← own, same, SpaceMembership.of]
    simp [Option.filter, inOrganization, same]

/-- No space is listed twice. -/
theorem nodup_listForUser {state : AppState} (keyed : state.Keyed)
    (rows : state.spaces.RowsKeyed) (userId organizationId : Uuid)
    : ((state.spaces.listForUser userId organizationId).map fun space => space.id).Nodup := by
  refine ((List.perm_insertionSort _ _).map _).nodup_iff.mpr ?_
  rw [List.Nodup, List.pairwise_map, List.pairwise_filterMap]
  have distinct := List.pairwise_map.mp (Table.nodup_map_values rows)
  refine distinct.imp_of_mem ?_
  intro first second there also differs one seen other alsoSeen same
  obtain ⟨user, space, _⟩ := spaceOf_row keyed rows there seen
  obtain ⟨otherUser, otherSpace, _⟩ := spaceOf_row keyed rows also alsoSeen
  exact differs (by rw [user, otherUser, space, otherSpace, same])

/-- A listing of spaces is exact. -/
structure ListsSpaces (state : AppState) (userId organizationId : Uuid)
    (spaces : List SpaceMembership) : Prop where
  distinct : (spaces.map fun space => space.id).Nodup
  exactly : ∀ space, space ∈ spaces
    ↔ state.spaceForUser userId space.id = .ok space ∧ space.organizationId = organizationId

/-- A user is listed the spaces of an organization that the user can open, each of them once; and
a bot is told when it identifies of the guilds that it can then ask for, as they are answered.
-/
theorem listed_spaces_open {state : AppState} (reached : state.Reached crypto)
    : (∀ token organizationId spaces,
        SpaceController.list crypto state token organizationId = .ok spaces →
          ∃ user, state.userForToken crypto token = .ok user
            ∧ ListsSpaces state user.id organizationId spaces)
      ∧ ∀ authorization token bot rateLimit, botToken authorization = .ok token →
          state.botForToken crypto token = .ok bot → rateLimit.allowed = true →
          ∀ sessionId intents, ∃ guilds,
            (CompatGatewayController.ready state bot sessionId intents).get "guilds"
              = some (.array guilds)
            ∧ ∀ guild, guild ∈ guilds ↔ ∃ spaceId,
                CompatController.getGuild crypto state rateLimit authorization spaceId
                  = .ok (rateLimit, guild) := by
  have rows := reached.rowsKeyed
  have keyed := reached.keyed
  constructor
  · intro token organizationId spaces listed
    obtain ⟨user, known, listed⟩ := Eff.check_bind_eq_ok.mp listed
    obtain ⟨_, _, listed⟩ := Eff.check_bind_eq_ok.mp listed
    cases listed
    exact ⟨user, known, nodup_listForUser keyed rows _ _, fun _ => mem_listForUser keyed rows⟩
  · intro authorization token bot rateLimit presented known allowed sessionId intents
    refine ⟨_, rfl, fun guild => ?_⟩
    rw [List.mem_map]
    constructor
    · rintro ⟨space, listed, rfl⟩
      obtain ⟨found, own⟩ := (mem_listForUser keyed rows).mp listed
      refine ⟨space.id, Eff.check_bind_eq_ok.mpr ⟨(bot, space), ?_, rfl⟩⟩
      exact (visibleSpace_eq_ok presented known allowed).mpr ⟨rfl, found, own⟩
    · rintro ⟨spaceId, answered⟩
      obtain ⟨⟨other, space⟩, visible, answered⟩ := Eff.check_bind_eq_ok.mp answered
      cases answered
      obtain ⟨rfl, found, own⟩ := (visibleSpace_eq_ok presented known allowed).mp visible
      obtain ⟨_, rfl, _⟩ := keyed.storedSpace found
      exact ⟨space, (mem_listForUser keyed rows).mpr ⟨found, own⟩, rfl⟩

/-- Alice lists the spaces of Acme, and Acme's bot is told of its guilds. -/
theorem main_listed
    : ∃ state spaces user bot, AppState.Reached Acme.botCrypto state
        ∧ SpaceController.list Acme.botCrypto state Acme.aliceToken Acme.id = .ok spaces
        ∧ (∃ space ∈ spaces, space.id = Acme.main)
        ∧ ListsSpaces state (AuthUser.id user) Acme.id spaces
        ∧ ∃ guilds, (CompatGatewayController.ready state bot "session" 0).get "guilds"
            = some (.array guilds)
          ∧ ∀ guild, guild ∈ guilds ↔ ∃ spaceId,
              CompatController.getGuild Acme.botCrypto state Acme.withinLimit
                (some ("Bot " ++ Acme.botToken)) spaceId
                = .ok (Acme.withinLimit, guild) := by
  have facts : (run (AppState.step Acme.botCrypto) .empty
      (Acme.requests ++ Acme.botRequests)).any fun state =>
        (state.botForToken Acme.botCrypto Acme.botToken).toOption.isSome
          ∧ (SpaceController.list Acme.botCrypto state Acme.aliceToken Acme.id).toOption.any
            fun spaces => spaces.any fun space => space.id = Acme.main := by
    decide +kernel
  have presented : (botToken (some ("Bot " ++ Acme.botToken))).toOption
      = some Acme.botToken := by
    decide +kernel
  obtain ⟨state, ran, facts⟩ := (Option.any_eq_true _ _).mp facts
  obtain ⟨found, facts⟩ := of_decide_eq_true facts
  obtain ⟨bot, known⟩ := Option.isSome_iff_exists.mp found
  obtain ⟨spaces, listed, facts⟩ := (Option.any_eq_true _ _).mp facts
  obtain ⟨space, mem, same⟩ := List.any_eq_true.mp facts
  have listed := Eff.toOption_eq_some.mp listed
  obtain ⟨user, _, exactly⟩ :=
    (@listed_spaces_open Acme.botCrypto state ⟨_, ran⟩).1 _ _ _ listed
  exact ⟨state, spaces, user, bot, ⟨_, ran⟩, listed, ⟨space, mem, of_decide_eq_true same⟩,
    exactly, (@listed_spaces_open Acme.botCrypto state ⟨_, ran⟩).2 _ _ _ _
      (Eff.toOption_eq_some.mp presented) (Eff.toOption_eq_some.mp known) rfl _ _⟩

end OpenCord.Server

import OpenCord.Server.GatewayConnections
import OpenCord.Server.UserConnections

/-! Open connections get the events that are meant for them, as long as they read the hub before
it is more than its capacity ahead of them. One that falls further behind skips events and
stays open.
-/

namespace OpenCord.Server

open OpenCord.Library OpenCord.Platform OpenCord.Auth OpenCord.Tenancy OpenCord.Bots
  OpenCord.Realtime OpenCord.Gateway

/-- A connection of a user and one of a bot lose no event along a run, exactly if they read the
hub in time whenever they read it.
-/
theorem losesNothing_iff_keepsUp (crypto : Crypto)
    : (∀ (app : AppState) (userId : Uuid) (moves : List UserSocketMove) (last : UserSocket),
        app.Reached crypto →
        run (UserSocket.step crypto) (.subscribed app userId) moves = some last →
          (Always (UserSocket.step crypto) UserSocket.LosesNothing (.subscribed app userId) moves
            ↔ Allowed (UserSocket.step crypto) UserSocket.KeepsUp (.subscribed app userId)
                moves))
      ∧ ∀ (before : List WorldMove) (world : World) (index : Nat)
          (moves : List GatewaySocketMove) (last : GatewaySocket),
        run (World.step crypto) .empty before = some world →
        (∀ move ∈ before, move.connection? ≠ some index) →
        run (GatewaySocket.step crypto) (.subscribed world index) moves = some last →
          (Always (GatewaySocket.step crypto) GatewaySocket.LosesNothing
              (.subscribed world index) moves
            ↔ Allowed (GatewaySocket.step crypto) GatewaySocket.KeepsUp
                (.subscribed world index) moves) := by
  refine ⟨fun app userId moves last reached ran => ?_,
    fun before world index moves last opened elsewhere ran => ?_⟩
  · exact UserSocket.always_losesNothing_iff reached.keyed userId ran
  · have unused := (World.unused_empty index).run elsewhere opened
    exact GatewaySocket.always_losesNothing_iff unused ran

-----------------------------------------------------------------------------------------
-- Bursts
-----------------------------------------------------------------------------------------

/-- Events are published, and nothing else changes. -/
def AppState.withPublished (state : AppState) (events : List RealtimeEvent) : AppState :=
  { state with published := events }

variable {crypto : Crypto}

/-- A report of typing in a channel that the user may write in. -/
theorem AppState.step_typing {state : AppState} {userId channelId : Uuid} {channel : Channel}
    {space : SpaceMembership}
    (entered : state.enterChannel userId channelId .sendMessages = .ok (channel, space))
    (stamp : EventStamp) (activity : TypingActivity)
    : state.step crypto (.typing stamp userId (some channelId.toString) activity)
        = some (state.withPublished (state.published
            ++ [.channel stamp activity.eventType channel.organizationId channel.spaceId channel.id
              (.object [("user_id", .string userId.toString)])])) := by
  have admissible : (AppRequest.typing stamp userId (some channelId.toString)
    activity).Admissible state := trivial
  rw [AppState.step, if_pos admissible, AppRequest.perform, RealtimeController.publishTyping,
    Eff.after_get_bind, Option.bind_some, Uuid.parseStr_toString]
  simp only [entered]
  rfl

/-- What is published about a channel where it is. -/
theorem AppState.step_channelActivity {state : AppState} {organizationId spaceId channelId : Uuid}
    {eventType : String} (plain : eventType ≠ "interaction.created")
    (located : state.Locates organizationId spaceId channelId) (stamp : EventStamp)
    (data : PlainJson)
    : state.step crypto (.channelActivity stamp eventType organizationId spaceId channelId data)
        = some (state.withPublished (state.published
            ++ [.channel stamp eventType organizationId spaceId channelId data.value])) := by
  rw [AppState.step, if_pos ⟨plain, located⟩]
  rfl

/-- The connection after some publishing. -/
def UserSocket.withPublished (socket : UserSocket) (events : List RealtimeEvent) : UserSocket :=
  { socket with app := socket.app.withPublished events }

def GatewaySocket.withPublished (socket : GatewaySocket) (events : List RealtimeEvent)
    : GatewaySocket :=
  { socket with world := { socket.world with app := socket.world.app.withPublished events } }

/-- A request that only publishes an event. -/
theorem UserSocket.step_publishing {socket : UserSocket} {log : List RealtimeEvent}
    {request : AppRequest} {event : RealtimeEvent}
    (stepped : (socket.app.withPublished log).step crypto request
      = some (socket.app.withPublished (log ++ [event])))
    : (socket.withPublished log).step crypto (.request request)
        = some (socket.withPublished (log ++ [event])) := by
  show Option.map _ ((socket.app.withPublished log).step crypto request) = _
  rw [stepped]
  rfl

theorem GatewaySocket.step_publishing {socket : GatewaySocket} {log : List RealtimeEvent}
    {request : AppRequest} {event : RealtimeEvent}
    (unanswered : ∀ state, World.answer crypto state request = none)
    (stepped : (socket.world.app.withPublished log).step crypto request
      = some (socket.world.app.withPublished (log ++ [event])))
    : (socket.withPublished log).step crypto (.world (.request request))
        = some (socket.withPublished (log ++ [event])) := by
  show Option.map _ (Option.map _ ((socket.world.app.withPublished log).step crypto request)) = _
  rw [stepped, Option.map_some, Option.map_some, unanswered, Option.toList_none, List.append_nil]
  rfl

/-- A burst of more events than the hub retains. -/
theorem behind_of_burst {receiver : Receiver} {published burst : List RealtimeEvent}
    (caughtUp : receiver.next = published.length) (many : RealtimeHub.capacity < burst.length)
    : receiver.Behind RealtimeHub.capacity (published ++ burst) := by
  rw [Receiver.Behind, caughtUp, List.length_append]
  omega

/-- The first event of a burst is one of its events. -/
theorem mem_of_getElem?_append_length {published events : List RealtimeEvent}
    {event : RealtimeEvent}
    (found : event ∈ (published ++ events)[published.length]?)
    : event ∈ events := by
  rw [List.getElem?_append_right (Nat.le_refl _), Nat.sub_self] at found
  exact List.mem_of_getElem? found

theorem UserSocket.step_receive_of_behind {socket : UserSocket} (waits : socket.phase = .waiting)
    (behind : socket.receiver.Behind RealtimeHub.capacity socket.app.published)
    : socket.step crypto .receive = some { socket with
        receiver := { socket.receiver with
          next := socket.app.published.length - RealtimeHub.capacity } } := by
  simp only [UserSocket.step, waits, UserSocket.receive, Receiver.recv, if_pos behind,
    Option.map_some]

theorem GatewaySocket.step_receive_of_behind {socket : GatewaySocket}
    (waits : socket.peer.phase = .idle)
    (behind : socket.receiver.Behind RealtimeHub.capacity socket.world.app.published)
    : socket.step crypto .receive = some { socket with
        receiver := { socket.receiver with
          next := socket.world.app.published.length - RealtimeHub.capacity } } := by
  simp only [GatewaySocket.step, waits, GatewaySocket.receive, Receiver.recv, if_pos behind,
    Option.map_some]

/-- An open connection has read past an event that passes the filter whenever it is asked, and
has not sent it.
-/
structure UserSocket.Skips (crypto : Crypto) (start : UserSocket) (moves : List UserSocketMove)
    (last : UserSocket) (position : Nat) : Prop where
  isOpen : last.isClosed = false
  published : position < last.app.published.length
  passes : Always (UserSocket.step crypto)
    (fun socket => ∀ event ∈ socket.app.published[position]?,
      RealtimeController.canReceiveEvent socket.app socket.userId event) start moves
  since : last.receiver.since ≤ position
  passed : position < last.receiver.next
  unsent : position ∉ last.handled.handedOn.map Prod.fst
  kept : position ∉ last.turnedAway

/-- An open connection has read past an event that leads to a dispatch whenever it is asked, and
has dispatched nothing for it.
-/
structure GatewaySocket.Skips (crypto : Crypto) (start : GatewaySocket)
    (moves : List GatewaySocketMove) (last : GatewaySocket) (position : Nat) : Prop where
  isOpen : last.peer.phase.isClosed = false
  published : position < last.world.app.published.length
  passes : Always (GatewaySocket.step crypto)
    (fun socket => ∀ event ∈ socket.world.app.published[position]?,
      socket.peer.connection.identifiedBot.any fun bot =>
        (CompatGatewayController.dispatchFor socket.world.app bot
          socket.peer.connection.activeIntents event).isSome) start moves
  since : last.receiver.since ≤ position
  passed : position < last.receiver.next
  unsent : position ∉ last.handled.handedOn.map Prod.fst
  kept : position ∉ last.turnedAway

theorem UserSocket.Skips.not_losesNothing {start last : UserSocket} {moves : List UserSocketMove}
    {position : Nat} (skips : UserSocket.Skips crypto start moves last position)
    : ¬ last.LosesNothing := by
  intro whole
  exact skips.unsent ((whole skips.isOpen).complete position skips.since skips.passed skips.kept)

theorem GatewaySocket.Skips.not_losesNothing {start last : GatewaySocket}
    {moves : List GatewaySocketMove} {position : Nat}
    (skips : GatewaySocket.Skips crypto start moves last position)
    : ¬ last.LosesNothing := by
  intro whole
  obtain ⟨whole, _⟩ := whole skips.isOpen
  exact skips.unsent (whole.complete position skips.since skips.passed skips.kept)

/-- In a burst of more events than the hub retains, a connection that reads too late skips the
first one.
-/
theorem UserSocket.skips_of_burst {socket : UserSocket} {ι : Type} {items : List ι}
    {request : ι → AppRequest} {event : ι → RealtimeEvent} (waits : socket.phase = .waiting)
    (invariant : socket.Invariant)
    (caughtUp : socket.receiver.next = socket.app.published.length)
    (publishes : ∀ item ∈ items, ∀ log,
      (socket.app.withPublished log).step crypto (request item)
        = some (socket.app.withPublished (log ++ [event item])))
    (passes : ∀ item ∈ items,
      RealtimeController.canReceiveEvent socket.app socket.userId (event item))
    (many : RealtimeHub.capacity < items.length)
    : ∃ last, run (UserSocket.step crypto) socket
          (items.map (fun item => .request (request item)) ++ [.receive]) = some last
        ∧ UserSocket.Skips crypto socket
            (items.map (fun item => .request (request item)) ++ [.receive]) last
            socket.app.published.length := by
  let burst : List RealtimeEvent := items.map event
  have appends : ∀ item ∈ items, ∀ log,
      (socket.withPublished log).step crypto (.request (request item))
        = some (socket.withPublished (log ++ [event item])) :=
    fun item listed log => UserSocket.step_publishing (publishes item listed log)
  have ran := run_map_of_appends appends socket.app.published
  have behind : socket.receiver.Behind RealtimeHub.capacity (socket.app.published ++ burst) :=
    behind_of_burst caughtUp (many.trans_eq (List.length_map _).symm)
  have received := @UserSocket.step_receive_of_behind crypto
    (socket.withPublished (socket.app.published ++ burst)) waits behind
  have heard : ∀ events ⊆ burst,
      ∀ event ∈ (socket.app.published ++ events)[socket.app.published.length]?,
        RealtimeController.canReceiveEvent socket.app socket.userId event := by
    intro events among event found
    obtain ⟨item, listed, rfl⟩ := List.mem_map.mp (among (mem_of_getElem?_append_length found))
    exact passes item listed
  have isOpen : socket.isClosed = false := by rw [UserSocket.isClosed, waits]
  obtain ⟨since, _, handedOn, turnedAway⟩ := invariant.within isOpen
  rw [caughtUp] at since handedOn turnedAway
  have skipped : socket.app.published.length
      < (socket.app.published ++ burst).length - RealtimeHub.capacity := caughtUp ▸ behind
  refine ⟨_, run_concat ran received, isOpen, skipped.trans_le (Nat.sub_le ..), ?_, since, skipped,
    fun listed => Nat.lt_irrefl _ (handedOn _ listed),
    fun listed => Nat.lt_irrefl _ (turnedAway _ listed)⟩
  refine always_append (always_map_of_appends appends heard) fun middle reached => ?_
  obtain rfl := Option.some.inj (ran.symm.trans reached)
  have now := heard burst (List.Subset.refl _)
  refine ⟨now, fun next stepped => ?_⟩
  obtain rfl := Option.some.inj (received.symm.trans stepped)
  exact now

theorem GatewaySocket.skips_of_burst {socket : GatewaySocket} {ι : Type} {items : List ι}
    {request : ι → AppRequest} {event : ι → RealtimeEvent} (waits : socket.peer.phase = .idle)
    (invariant : socket.Invariant)
    (caughtUp : socket.receiver.next = socket.world.app.published.length)
    (unanswered : ∀ item ∈ items, ∀ state, World.answer crypto state (request item) = none)
    (publishes : ∀ item ∈ items, ∀ log,
      (socket.world.app.withPublished log).step crypto (request item)
        = some (socket.world.app.withPublished (log ++ [event item])))
    (passes : ∀ item ∈ items, socket.peer.connection.identifiedBot.any fun bot =>
      (CompatGatewayController.dispatchFor socket.world.app bot
        socket.peer.connection.activeIntents (event item)).isSome)
    (many : RealtimeHub.capacity < items.length)
    : ∃ last, run (GatewaySocket.step crypto) socket
          (items.map (fun item => .world (.request (request item))) ++ [.receive]) = some last
        ∧ GatewaySocket.Skips crypto socket
            (items.map (fun item => .world (.request (request item))) ++ [.receive]) last
            socket.world.app.published.length := by
  let burst : List RealtimeEvent := items.map event
  have appends : ∀ item ∈ items, ∀ log,
      (socket.withPublished log).step crypto (.world (.request (request item)))
        = some (socket.withPublished (log ++ [event item])) :=
    fun item listed log =>
      GatewaySocket.step_publishing (unanswered item listed) (publishes item listed log)
  have ran := run_map_of_appends appends socket.world.app.published
  have behind : socket.receiver.Behind RealtimeHub.capacity
      (socket.world.app.published ++ burst) :=
    behind_of_burst caughtUp (many.trans_eq (List.length_map _).symm)
  have received := @GatewaySocket.step_receive_of_behind crypto
    (socket.withPublished (socket.world.app.published ++ burst)) waits behind
  have heard : ∀ events ⊆ burst,
      ∀ event ∈ (socket.world.app.published ++ events)[socket.world.app.published.length]?,
        socket.peer.connection.identifiedBot.any fun bot =>
          (CompatGatewayController.dispatchFor socket.world.app bot
            socket.peer.connection.activeIntents event).isSome := by
    intro events among event found
    obtain ⟨item, listed, rfl⟩ := List.mem_map.mp (among (mem_of_getElem?_append_length found))
    exact passes item listed
  have isOpen : socket.peer.phase.isClosed = false := waits ▸ rfl
  obtain ⟨since, _, handedOn, turnedAway⟩ := invariant.within isOpen
  rw [caughtUp] at since handedOn turnedAway
  have skipped : socket.world.app.published.length
      < (socket.world.app.published ++ burst).length - RealtimeHub.capacity := caughtUp ▸ behind
  refine ⟨_, run_concat ran received, isOpen, skipped.trans_le (Nat.sub_le ..), ?_, since, skipped,
    fun listed => Nat.lt_irrefl _ (handedOn _ listed),
    fun listed => Nat.lt_irrefl _ (turnedAway _ listed)⟩
  refine always_append (always_map_of_appends appends heard) fun middle reached => ?_
  obtain rfl := Option.some.inj (ran.symm.trans reached)
  have now := heard burst (List.Subset.refl _)
  refine ⟨now, fun next stepped => ?_⟩
  obtain rfl := Option.some.inj (received.symm.trans stepped)
  exact now

/-- What a change of a channel leads to on a connection that may see the channel. -/
theorem CompatGatewayController.dispatchFor_channelUpdated {state : AppState}
    {bot : AuthenticatedBot} {intents : Nat} {event : RealtimeEvent}
    (isUpdate : event.eventType = "channel.updated") (allowed : hasIntent intents intentGuilds)
    (receives : canBotReceiveEvent state bot event)
    : dispatchFor state bot intents event
        = (compatChannelFromEvent event).map fun payload => ("CHANNEL_UPDATE", payload) := by
  have found : dispatches.find? (fun dispatch => dispatch.eventType = event.eventType
        ∧ dispatch.allowedBy intents ∧ canBotReceiveEvent state bot event)
      = some ⟨"channel.updated", some intentGuilds, "CHANNEL_UPDATE",
          fun _ => compatChannelFromEvent⟩ := by
    simp [dispatches, isUpdate, receives, GatewayDispatch.allowedBy, allowed]
  rw [dispatchFor, found]
  show ((compatChannelFromEvent event).bind fun payload => some ("CHANNEL_UPDATE", payload)) = _
  cases compatChannelFromEvent event <;> rfl

section

variable {state : AppState} (first later : EventStamp) (eventType : String)
  (organizationId spaceId channelId : Uuid) (data : Json)

/-- Whether an event passes a filter does not hang on its identifier and its time. -/
theorem RealtimeController.canReceiveEvent_stamp (userId : Uuid)
    : canReceiveEvent state userId
          (.channel later eventType organizationId spaceId channelId data)
        = canReceiveEvent state userId
            (.channel first eventType organizationId spaceId channelId data) := by
  simp only [canReceiveEvent, RealtimeEvent.channel]

theorem CompatGatewayController.canBotReceiveEvent_stamp (bot : AuthenticatedBot)
    : canBotReceiveEvent state bot
          (.channel later eventType organizationId spaceId channelId data)
        = canBotReceiveEvent state bot
            (.channel first eventType organizationId spaceId channelId data) := by
  simp only [canBotReceiveEvent, canBotReceiveChannelEvent, channelOfEvent, channelModelFromEvent,
    RealtimeEvent.channel]
  rfl

theorem compatChannelFromEvent_stamp
    : compatChannelFromEvent (.channel later eventType organizationId spaceId channelId data)
        = compatChannelFromEvent
            (.channel first eventType organizationId spaceId channelId data) := by
  simp only [compatChannelFromEvent, RealtimeEvent.channel]

end

namespace Acme

theorem burst_many : RealtimeHub.capacity < (List.range 1025).length := by
  rw [List.length_range, RealtimeHub.capacity]
  exact Nat.lt_succ_self 1024

/-- Alice types in the channel. -/
def aliceTypes (number : Nat) : AppRequest :=
  .typing (stamp number) alice (some general.toString) .started

/-- Bob's connection reads the hub after a burst of reports that Alice types. -/
def typingBurst : List UserSocketMove :=
  (List.range 1025).map (fun number => .request (aliceTypes number)) ++ [.receive]

/-- Bob's open connection skips the first report. -/
theorem typingBurst_skips
    : ∃ app last, AppState.Reached Acme.crypto app
        ∧ run (UserSocket.step Acme.crypto) (.subscribed app bob) typingBurst = some last
        ∧ UserSocket.Skips Acme.crypto (.subscribed app bob) typingBurst last
            app.published.length := by
  have facts : (run (AppState.step Acme.crypto) .empty requests).any fun app =>
      (app.enterChannel alice general .sendMessages).toOption.any fun entered =>
        RealtimeController.canReceiveEvent app bob (.channel (stamp 0) "typing.started"
          entered.1.organizationId entered.1.spaceId entered.1.id
          (.object [("user_id", .string alice.toString)])) := by
    decide +kernel
  obtain ⟨app, ran, facts⟩ := (Option.any_eq_true _ _).mp facts
  obtain ⟨⟨channel, space⟩, entered, receives⟩ := (Option.any_eq_true _ _).mp facts
  rw [Eff.toOption_eq_some] at entered
  have reached : AppState.Reached Acme.crypto app := ⟨_, ran⟩
  have skipped := @UserSocket.skips_of_burst Acme.crypto (.subscribed app bob) Nat (List.range 1025)
    aliceTypes
    (fun number => .channel (stamp number) "typing.started" channel.organizationId
      channel.spaceId channel.id (.object [("user_id", .string alice.toString)]))
    rfl (UserSocket.invariant_subscribed reached.keyed bob) rfl ?_ ?_ burst_many
  · obtain ⟨last, ran, skips⟩ := skipped
    exact ⟨app, last, reached, ran, skips⟩
  · exact fun number _ log =>
      @AppState.step_typing _ (app.withPublished log) _ _ _ _ entered (stamp number) .started
  · intro number _
    rwa [RealtimeController.canReceiveEvent_stamp (stamp 0)]

/-- The channel as its events show it. -/
def channelData : PlainJson :=
  .object [("channel", ⟨ChannelController.response
    ⟨general, id, main, "text", "general", "general", 0, none, false⟩, rfl⟩)]

/-- The channel is saved as it is. -/
def channelSaved (number : Nat) : AppRequest :=
  .channelActivity (stamp number) "channel.updated" id main general channelData

/-- The bot of Acme is in the space. -/
def botInvited : List WorldMove :=
  (requests ++ botRequests.take 2).map .request

/-- The bot identifies. -/
def botIdentifies : List GatewaySocketMove :=
  [.world (.identify 0 botToken "gw_1" 513), .world (.gateway 0 (.sendReady true))]

/-- The connection of the bot reads the hub after a burst of changes. -/
def changeBurst : List GatewaySocketMove :=
  (List.range 1025).map (fun number => .world (.request (channelSaved number))) ++ [.receive]

/-- The open connection of the bot skips the first change. -/
theorem changeBurst_skips
    : ∃ world identified last,
        run (World.step botCrypto) .empty botInvited = some world
          ∧ run (GatewaySocket.step botCrypto) (.subscribed world 0) botIdentifies
            = some identified
          ∧ run (GatewaySocket.step botCrypto) identified changeBurst = some last
          ∧ GatewaySocket.Skips botCrypto identified changeBurst last
              world.app.published.length := by
  have facts : (run (World.step botCrypto) .empty botInvited).any fun world =>
      (run (GatewaySocket.step botCrypto) (.subscribed world 0) botIdentifies).any
        fun identified =>
          identified.peer.phase.isIdle
            ∧ identified.receiver.next = world.app.published.length
            ∧ identified.world.app.published.length = world.app.published.length
            ∧ identified.world.app.Locates id main general
            ∧ identified.peer.connection.activeIntents = 513
            ∧ identified.peer.connection.identifiedBot.any fun bot =>
                CompatGatewayController.canBotReceiveEvent identified.world.app bot
                  (.channel (stamp 0) "channel.updated" id main general channelData.value) := by
    decide +kernel
  obtain ⟨world, opened, facts⟩ := (Option.any_eq_true _ _).mp facts
  obtain ⟨identified, ran, facts⟩ := (Option.any_eq_true _ _).mp facts
  obtain ⟨waits, caughtUp, same, located, intents, facts⟩ := of_decide_eq_true facts
  obtain ⟨bot, isBot, receives⟩ := (Option.any_eq_true _ _).mp facts
  have unused : world.Unused 0 := (World.unused_empty 0).run (by decide +kernel) opened
  have invariant : identified.Invariant :=
    run_preserves (fun _ _ _ invariant stepped => invariant.step stepped)
      (GatewaySocket.invariant_subscribed unused) ran
  rw [← same] at caughtUp
  have skipped := @GatewaySocket.skips_of_burst botCrypto identified Nat (List.range 1025)
    channelSaved
    (fun number => .channel (stamp number) "channel.updated" id main general channelData.value)
    (Phase.isIdle_iff.mp waits) invariant caughtUp (fun _ _ _ => rfl) ?_ ?_ burst_many
  · obtain ⟨last, burst, skips⟩ := skipped
    exact ⟨world, identified, last, opened, ran, burst, same ▸ skips⟩
  · exact fun number _ log => @AppState.step_channelActivity _
      (identified.world.app.withPublished log) _ _ _ _ (by decide) located (stamp number) _
  · intro number _
    rw [isBot, Option.any_some, intents, CompatGatewayController.dispatchFor_channelUpdated rfl
      (by decide +kernel) (by rwa [CompatGatewayController.canBotReceiveEvent_stamp (stamp 0)]),
      Option.isSome_map, compatChannelFromEvent_stamp (stamp 0)]
    decide +kernel

end Acme

theorem bursts_skip
    : (∃ app last, AppState.Reached Acme.crypto app
        ∧ run (UserSocket.step Acme.crypto) (.subscribed app Acme.bob) Acme.typingBurst = some last
        ∧ UserSocket.Skips Acme.crypto (.subscribed app Acme.bob) Acme.typingBurst last
            app.published.length
        ∧ ¬ last.LosesNothing)
      ∧ ∃ world identified last,
          run (World.step Acme.botCrypto) .empty Acme.botInvited = some world
            ∧ (∀ move ∈ Acme.botInvited, move.connection? ≠ some 0)
            ∧ run (GatewaySocket.step Acme.botCrypto) (.subscribed world 0) Acme.botIdentifies
              = some identified
            ∧ run (GatewaySocket.step Acme.botCrypto) identified Acme.changeBurst = some last
            ∧ GatewaySocket.Skips Acme.botCrypto identified Acme.changeBurst last
                world.app.published.length
            ∧ ¬ last.LosesNothing := by
  obtain ⟨app, last, reached, ran, skips⟩ := Acme.typingBurst_skips
  obtain ⟨world, identified, later, opened, identifies, burst, skipsToo⟩ := Acme.changeBurst_skips
  refine ⟨⟨app, last, reached, ran, skips, skips.not_losesNothing⟩, world, identified, later,
    opened, ?_, identifies, burst, skipsToo, skipsToo.not_losesNothing⟩
  decide +kernel

namespace Acme

/-- Bob's connection sends one report. -/
def reportSent : List UserSocketMove :=
  [.request (aliceTypes 0), .receive, .send true]

/-- The connection of the bot dispatches one change. -/
def changeSent : List GatewaySocketMove :=
  botIdentifies ++ [.world (.request (channelSaved 0)), .receive,
    .world (.gateway 0 .append), .world (.gateway 0 (.sendLive true))]

end Acme

theorem reportSent_losesNothing_iff
    : (∃ app last, AppState.Reached Acme.crypto app
        ∧ run (UserSocket.step Acme.crypto) (.subscribed app Acme.bob) Acme.reportSent = some last
        ∧ last.sent.length = 1
        ∧ (Always (UserSocket.step Acme.crypto) UserSocket.LosesNothing
              (.subscribed app Acme.bob) Acme.reportSent
            ↔ Allowed (UserSocket.step Acme.crypto) UserSocket.KeepsUp
                (.subscribed app Acme.bob) Acme.reportSent))
      ∧ ∃ world last,
          run (GatewaySocket.step Acme.botCrypto) (.subscribed world 0) Acme.changeSent
              = some last
            ∧ (last.world.gateway.dispatched 0).length = 1
            ∧ (Always (GatewaySocket.step Acme.botCrypto) GatewaySocket.LosesNothing
                  (.subscribed world 0) Acme.changeSent
                ↔ Allowed (GatewaySocket.step Acme.botCrypto) GatewaySocket.KeepsUp
                    (.subscribed world 0) Acme.changeSent) := by
  refine ⟨?_, ?_⟩
  · have facts : (run (AppState.step Acme.crypto) .empty Acme.requests).any fun app =>
        (run (UserSocket.step Acme.crypto) (.subscribed app Acme.bob) Acme.reportSent).any
          fun last => last.sent.length = 1 := by
      decide +kernel
    obtain ⟨app, reached, facts⟩ := (Option.any_eq_true _ _).mp facts
    obtain ⟨last, ran, sent⟩ := (Option.any_eq_true _ _).mp facts
    exact ⟨app, last, ⟨_, reached⟩, ran, of_decide_eq_true sent,
      (losesNothing_iff_keepsUp Acme.crypto).1 app Acme.bob _ last ⟨_, reached⟩ ran⟩
  · have facts : (run (World.step Acme.botCrypto) .empty Acme.botInvited).any fun world =>
        (run (GatewaySocket.step Acme.botCrypto) (.subscribed world 0) Acme.changeSent).any
          fun last => (last.world.gateway.dispatched 0).length = 1 := by
      decide +kernel
    obtain ⟨world, opened, facts⟩ := (Option.any_eq_true _ _).mp facts
    obtain ⟨last, ran, sent⟩ := (Option.any_eq_true _ _).mp facts
    exact ⟨world, last, ran, of_decide_eq_true sent,
      (losesNothing_iff_keepsUp Acme.botCrypto).2 Acme.botInvited world 0 _ last opened
        (by decide +kernel) ran⟩

end OpenCord.Server

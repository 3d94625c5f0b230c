import OpenCord.Server.World

/-! What gateway connections get: an event goes out live to the bot of its connection only, with
the intent of its class, and only if the bot may see it; what a resume replays was dispatched so
for a session of the same bot.
-/

namespace OpenCord.Server

open OpenCord.Library OpenCord.Platform OpenCord.Auth OpenCord.Tenancy OpenCord.Bots
  OpenCord.Realtime OpenCord.Gateway
open CompatGatewayController

/-- The classes of events that intents are for. -/
inductive EventClass where
  | messages
  | guilds
  | members
  deriving DecidableEq

def EventClass.intent : EventClass → Nat
  | .messages => intentGuildMessages
  | .guilds => intentGuilds
  | .members => intentGuildMembers

def EventClass.of? (eventType : String) : Option EventClass :=
  if eventType ∈ ["message.created", "message.updated", "message.deleted"] then
    some .messages
  else if eventType ∈ ["channel.created", "channel.updated", "channel.deleted", "space.updated",
      "space.deleted", "space.bot.invited"] then
    some .guilds
  else if eventType ∈ ["space.member.added", "space.member.removed"] then
    some .members
  else
    none

/-- The application that the interaction of an event is for. -/
def interactionApplication (event : RealtimeEvent) : Option String := do
  let interaction ← event.data.get "interaction"
  let applicationId ← interaction.textAt "application_id"
  applicationId.asStr

/-- The intents of a bot's connection allow an event: the intent of its class is among them, or
it is an interaction with the application of the bot.
-/
inductive Allows (bot : AuthenticatedBot) (intents : Nat) (event : RealtimeEvent) : Prop where
  | intended (eventClass : EventClass) (of : EventClass.of? event.eventType = some eventClass)
      (identified : hasIntent intents eventClass.intent = true)
  | interaction (isInteraction : event.eventType = "interaction.created")
      (own : interactionApplication event = some bot.applicationId.toString)

/-- Every dispatch needs the intent of the class of its events. -/
theorem dispatches_intent
    : ∀ dispatch ∈ dispatches,
        dispatch.intent = (EventClass.of? dispatch.eventType).map EventClass.intent := by
  decide

/-- Only interactions are dispatched without an intent. -/
theorem dispatches_interaction {dispatch : GatewayDispatch} (listed : dispatch ∈ dispatches)
    (free : EventClass.of? dispatch.eventType = none)
    : dispatch.eventType = "interaction.created"
        ∧ dispatch.payload = fun bot event => compatInteractionFromEvent event bot := by
  simp only [dispatches, List.mem_cons, List.not_mem_nil, or_false] at listed
  rcases listed with rfl | rfl | rfl | rfl | rfl | rfl | rfl | rfl | rfl | rfl | rfl | rfl
  all_goals first | exact ⟨rfl, rfl⟩ | exact absurd free (by decide)

/-- A dispatched event is one that the intents allow. -/
theorem allows_of_dispatchFor {state : AppState} {bot : AuthenticatedBot} {intents : Nat}
    {event : RealtimeEvent} {name : String} {payload : Json}
    (dispatched : dispatchFor state bot intents event = some (name, payload))
    : Allows bot intents event := by
  obtain ⟨dispatch, listed, eventType, allowed, _, made⟩ := dispatchFor_some dispatched
  have needs := dispatches_intent dispatch listed
  cases isClass : EventClass.of? dispatch.eventType with
  | some eventClass =>
      rw [GatewayDispatch.allowedBy, needs, isClass] at allowed
      exact .intended eventClass (eventType ▸ isClass) allowed
  | none =>
      obtain ⟨isInteraction, payloadOf⟩ := dispatches_interaction listed isClass
      rw [payloadOf] at made
      obtain ⟨_, interaction, applicationId, found, copied, own⟩ :=
        compatInteractionFromEvent_some made
      refine .interaction (eventType.symm.trans isInteraction) ?_
      rw [interactionApplication, found, Option.bind_eq_bind, Option.bind_some, copied]
      exact own

/-- A check that an event has passed, for a bot that may see it: the event was published, the
intents allow it, and the dispatch is made of it.
-/
structure DispatchCheck.Passed (crypto : Crypto) (check : DispatchCheck) : Prop where
  genuine : check.Genuine crypto
  allows : Allows check.frame.bot check.intents check.event
  maySee : check.state.BotMaySee check.frame.bot check.event

/-- Live frames went to the identified bot after a passed check with the connection's intents, and
replayed frames repeat what was recorded after a passed check for a session of the same bot.
-/
structure World.FramesIsolated (crypto : Crypto) (world : World) : Prop where
  live : ∀ frame ∈ world.gateway.sent, frame.origin = .live →
    (world.gateway.peers frame.peer).connection.identifiedBot = some frame.bot
      ∧ ∃ check ∈ world.checks, check.frame = frame
          ∧ check.intents = (world.gateway.peers frame.peer).connection.activeIntents
          ∧ check.Passed crypto
  replayed : ∀ frame ∈ world.gateway.sent, frame.origin = .replayed →
    ∃ check ∈ world.checks, check.frame.event = frame.event
      ∧ SameIdentity check.frame.bot frame.bot ∧ check.Passed crypto

variable {crypto : Crypto} {world : World}

/-- A check has passed, if the published events describe their scopes. -/
theorem World.Invariant.passed (invariant : world.Invariant crypto)
    (describes : ∀ event ∈ world.app.published, DescribesScope event) {check : DispatchCheck}
    (listed : check ∈ world.checks)
    : check.Passed crypto := by
  have genuine := invariant.genuine check listed
  obtain ⟨dispatch, _, _, _, receives, _⟩ := dispatchFor_some genuine.dispatched
  have published := List.mem_of_getElem? genuine.published
  have events := genuine.reached.invariant nofun fun _ _ _ write events => write.events events
  refine ⟨genuine, allows_of_dispatchFor genuine.dispatched, ?_⟩
  exact botMaySee_of_canBotReceiveEvent events.1 (events.2 check.event published)
    (describes check.event ((invariant.earlier check listed).subset published)) receives

/-- In every run whose events describe their scopes, frames go only to bots that may see their
events.
-/
theorem framesIsolated {moves : List WorldMove}
    (ran : run (World.step crypto) .empty moves = some world)
    (describes : ∀ event ∈ world.app.published, DescribesScope event)
    : world.FramesIsolated crypto := by
  have invariant : world.Invariant crypto := World.Reached.invariant ⟨moves, ran⟩
  refine ⟨fun frame sent isLive => ?_, fun frame sent isReplayed => ?_⟩
  · obtain ⟨⟨check, listed, same⟩, identifies⟩ := invariant.isolated.live frame sent isLive
    refine ⟨identifies.bot, check, listed, same, ?_, invariant.passed describes listed⟩
    obtain ⟨sessionId, active, belongs⟩ :=
      (invariant.isolated.peers frame.peer).owns frame.bot identifies.bot
    cases active.symm.trans identifies.session
    exact (SessionStore.BelongsTo.same (same ▸ invariant.owned check listed) belongs).2
  · obtain ⟨recorded, intents, belongs⟩ := invariant.isolated.replayed frame sent isReplayed
    obtain ⟨_, ⟨check, listed, rfl⟩, isEvent, _⟩ :=
      invariant.isolated.appended frame.event recorded
    refine ⟨check, listed, isEvent, ?_, invariant.passed describes listed⟩
    have sameSession : check.frame.sessionId = frame.sessionId :=
      congrArg CompatGatewayReplayEvent.sessionId isEvent
    exact (SessionStore.BelongsTo.same (invariant.owned check listed)
      (sameSession ▸ belongs)).1

namespace Acme

/-- Alice uses the bot's command while the bot is connected; the bot comes back to its session
on another connection.
-/
def interactionReplayed : List WorldMove :=
  identified ++ [.request interactionRequest, .receive 0 3, .gateway 0 .append,
    .gateway 0 (.sendLive true), .gateway 0 .advance, .gateway 0 .disconnect,
    .resume 1 botToken "gw_1" 1, .gateway 1 .list, .gateway 1 (.replay true),
    .gateway 1 .takeOver, .gateway 1 (.sendResumed true)]

end Acme

theorem interactionReplayed_framesIsolated
    : ∃ world, run (World.step Acme.botCrypto) .empty Acme.interactionReplayed = some world
        ∧ (∃ frame ∈ world.gateway.sent, frame.origin = .live)
        ∧ (∃ frame ∈ world.gateway.sent, frame.origin = .replayed)
        ∧ world.FramesIsolated Acme.botCrypto := by
  have facts : (run (World.step Acme.botCrypto) .empty Acme.interactionReplayed).any fun world =>
      (∃ frame ∈ world.gateway.sent, frame.origin = .live)
        ∧ (∃ frame ∈ world.gateway.sent, frame.origin = .replayed)
        ∧ ∀ event ∈ world.app.published, event.eventType ≠ "channel.deleted" := by
    decide +kernel
  obtain ⟨world, ran, facts⟩ := (Option.any_eq_true _ _).mp facts
  obtain ⟨live, replayed, keptChannels⟩ := of_decide_eq_true facts
  have describes : ∀ event ∈ world.app.published, DescribesScope event :=
    fun event published isDeleted => absurd isDeleted (keptChannels event published)
  exact ⟨world, ran, live, replayed, framesIsolated ran describes⟩

end OpenCord.Server

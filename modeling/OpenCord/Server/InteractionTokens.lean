import OpenCord.Server.GatewayIsolation

/-! Where the tokens of interactions go: to the user who has created the interaction and to the
gateway connections of its application, and with the events of interactions to the WebSocket
connections of all who may view the channel.
-/

namespace OpenCord.Gateway

open OpenCord.Platform OpenCord.Bots

/-- The payloads of `READY` and `RESUMED` show no token. -/
structure GatewayState.PlainGreetings (gateway : GatewayState) : Prop where
  readying : ∀ index bot sessionId payload,
    (gateway.peers index).phase = .readying bot sessionId payload → payload.tokens = []
  sent : ∀ frame ∈ gateway.sent, frame.origin = .ready ∨ frame.origin = .resumed →
    frame.payload.tokens = []

/-- Only a connection that identifies is about to send `READY`. -/
theorem Moves.readying {gateway next : GatewayState} {index : Nat} {action : Action}
    (moves : Moves gateway index action next) {bot : AuthenticatedBot} {sessionId : String}
    {payload : Json} (phase : (next.peers index).phase = .readying bot sessionId payload)
    : ∃ intents, action = .identify bot sessionId intents payload := by
  cases moves with
  | identified own ownSession intents ready idle =>
      rw [GatewayState.peers_withPeer_self] at phase
      cases phase
      exact ⟨intents, rfl⟩
  | sent _ frame after sends =>
      rw [GatewayState.peers_withPeer_self] at phase
      obtain rfl : after = _ := phase
      generalize (gateway.peers index).phase = before at sends
      cases sends
  | _ =>
      rw [GatewayState.peers_withPeer_self] at phase
      cases phase

/-- Greetings stay plain, if a connection identifies with a plain one. -/
theorem Moves.plainGreetings {gateway next : GatewayState} {index : Nat} {action : Action}
    (moves : Moves gateway index action next) (plain : gateway.PlainGreetings)
    (ready : ∀ bot sessionId intents payload, action = .identify bot sessionId intents payload →
      payload.tokens = [])
    : next.PlainGreetings := by
  refine ⟨fun other bot sessionId payload phase => ?_, fun frame sent greets => ?_⟩
  · by_cases same : other = index
    · rw [same] at phase
      obtain ⟨intents, identifies⟩ := moves.readying phase
      exact ready bot sessionId intents payload identifies
    · rw [moves.peers_of_ne same] at phase
      exact plain.readying other bot sessionId payload phase
  · rcases moves.sent_cases with unchanged | ⟨new, after, sends, added, _⟩
    · exact plain.sent frame (unchanged ▸ sent) greets
    · rw [added] at sent
      rcases List.mem_append.mp sent with earlier | last
      · exact plain.sent frame earlier greets
      · rw [List.mem_singleton.mp last] at greets ⊢
        have readying := plain.readying index
        generalize (gateway.peers index).phase = before at sends readying
        cases sends with
        | ready bot sessionId payload => exact readying bot sessionId payload rfl
        | resumed => rfl
        | replayed => rcases greets with isReady | isResumed <;> contradiction
        | live => rcases greets with isReady | isResumed <;> contradiction

end OpenCord.Gateway

namespace OpenCord.Server

open OpenCord.Library OpenCord.Platform OpenCord.Auth OpenCord.Tenancy OpenCord.Bots
  OpenCord.Realtime OpenCord.Gateway
open CompatGatewayController

/-- The user who has created the interaction of an event. -/
def interactionUser (event : RealtimeEvent) : Option String := do
  let interaction ← event.data.get "interaction"
  let userId ← interaction.textAt "invoking_user_id"
  userId.asStr

-----------------------------------------------------------------------------------------
-- Tokens of published events
-----------------------------------------------------------------------------------------

/-- Only events of interactions show tokens, each a token of its own. -/
structure AppState.TokensUnique (state : AppState) : Prop where
  ofInteraction : ∀ event ∈ state.published, event.data.tokens ≠ [] →
    event.eventType = "interaction.created"
  unique : ∀ event ∈ state.published, ∀ other ∈ state.published, ∀ token ∈ event.data.tokens,
    token ∈ other.data.tokens → event = other

theorem Write.tokensUnique {may : SpaceStore → MemberWrite → Prop} {before after : AppState}
    (write : Write may before after) (unique : before.TokensUnique)
    : after.TokensUnique := by
  cases write with
  | elsewhere _ _ _ _ published =>
      exact ⟨published ▸ unique.ofInteraction, published ▸ unique.unique⟩
  | published new concerns tokens =>
      have apart : ∀ event ∈ before.published, ∀ token ∈ new.data.tokens,
          token ∉ event.data.tokens :=
        fun event listed token shown => tokens.new token shown event listed
      refine ⟨List.forall_mem_append.mpr ⟨unique.ofInteraction,
        List.forall_mem_singleton.mpr fun shows => ?_⟩, fun event listed other listedToo => ?_⟩
      · by_contra differs
        exact shows (tokens.ofInteraction differs)
      · intro token shown shownToo
        rcases List.mem_append.mp listed with earlier | last
        · rcases List.mem_append.mp listedToo with earlierToo | lastToo
          · exact unique.unique event earlier other earlierToo token shown shownToo
          · rw [List.mem_singleton.mp lastToo] at shownToo
            exact absurd shown (apart event earlier token shownToo)
        · rw [List.mem_singleton.mp last] at shown ⊢
          rcases List.mem_append.mp listedToo with earlierToo | lastToo
          · exact absurd shownToo (apart other earlierToo token shown)
          · exact (List.mem_singleton.mp lastToo).symm
  | _ => exact ⟨unique.ofInteraction, unique.unique⟩

theorem AppState.TokensUnique.empty : AppState.empty.TokensUnique :=
  ⟨nofun, nofun⟩

-----------------------------------------------------------------------------------------
-- Tokens of dispatches
-----------------------------------------------------------------------------------------

/-- The payload of every dispatch copies from the event. -/
theorem dispatches_tokens {dispatch : GatewayDispatch} (listed : dispatch ∈ dispatches)
    {bot : AuthenticatedBot} {event : RealtimeEvent} {payload : Json}
    (made : dispatch.payload bot event = some payload)
    : payload.tokens ⊆ event.data.tokens := by
  simp only [dispatches, List.mem_cons, List.not_mem_nil, or_false] at listed
  rcases listed with rfl | rfl | rfl | rfl | rfl | rfl | rfl | rfl | rfl | rfl | rfl | rfl
  · exact tokens_compatMessageFromEvent made
  · exact tokens_compatMessageFromEvent made
  · exact tokens_compatMessageDeleteFromEvent made
  · exact tokens_compatChannelFromEvent made
  · exact tokens_compatChannelFromEvent made
  · exact tokens_compatChannelFromEvent made
  · exact Json.tokens_get made
  · exact Json.tokens_get made
  · exact Json.tokens_get made
  · exact Json.tokens_get made
  · exact Json.tokens_get made
  · exact (compatInteractionFromEvent_some made).1

@[simp] theorem tokens_ready (state : AppState) (bot : AuthenticatedBot) (sessionId : String)
    (intents : Nat)
    : (ready state bot sessionId intents).tokens = [] := by
  simp [ready, List.flatMap_map]

-----------------------------------------------------------------------------------------
-- Tokens of responses
-----------------------------------------------------------------------------------------

/-- The event of an interaction names the user who has created it. -/
theorem interactionUser_interactionCreated (stamp : EventStamp) (channel : Channel)
    (created : CommandInteractionCreated) (about : String × PlainJson)
    : interactionUser (CommandController.interactionCreated stamp channel created about)
      = some created.interaction.invokingUserId.toString := by
  rw [interactionUser, CommandController.interactionCreated]
  -- the optional fields before the user are there or not
  cases command : created.interaction.commandId <;>
    cases message : created.interaction.messageId <;>
    simp [RealtimeEvent.channel, CommandController.commandInteractionResponse, Json.get,
      Json.textAt, Json.asText, Json.asStr, Json.optionalField, command, message]

variable {crypto : Crypto} {state last : AppState}

/-- The event of the interaction is published, and names the user of the session token. -/
structure PublishesInteraction (crypto : Crypto) (state last : AppState) (token : String)
    (created : CommandInteractionCreated) (user : AuthUser) (event : RealtimeEvent) : Prop where
  authenticated : state.userForToken crypto token = .ok user
  published : last.published = state.published ++ [event]
  shows : event.data.tokens = [created.token]
  invoked : interactionUser event = some user.id.toString

/-- An interaction that is created by the user of a session token is published. -/
theorem interaction_ok {stamp : EventStamp} {channel : Channel} {token : String}
    {user : AuthUser} (authenticated : state.userForToken crypto token = .ok user)
    {action : Eff CommandStore CommandError CommandInteractionCreated}
    (invokes : ∀ store created next, action.exec store = (.ok created, next) →
      created.interaction.invokingUserId = user.id)
    {about : String × PlainJson} {created : CommandInteractionCreated}
    (done : (do
        let created ← Handler.onCommands action
        Handler.publish (CommandController.interactionCreated stamp channel created about)
        return created : Handler CommandInteractionCreated).exec state = (.ok created, last))
    : ∃ event, PublishesInteraction crypto state last token created user event := by
  obtain ⟨made, middle, ran, published⟩ := Eff.exec_bind_eq_ok.mp done
  obtain ⟨store, acted, rfl⟩ := Eff.exec_zoom_eq_ok.mp ran
  cases published
  refine ⟨_, authenticated, rfl, CommandController.tokens_interactionCreated .., ?_⟩
  rw [interactionUser_interactionCreated, invokes _ _ _ acted]

theorem createChannelInteraction_ok {stamp : EventStamp} {drawn : DrawnInteraction}
    {token : String} {channelId : Uuid} {request : CreateCommandInteractionRequest}
    {created : CommandInteractionCreated}
    (done : (CommandController.createChannelInteraction crypto stamp drawn token channelId
      request).exec state = (.ok created, last))
    : ∃ user event, PublishesInteraction crypto state last token created user event := by
  rw [CommandController.createChannelInteraction, Eff.exec_get_bind] at done
  obtain ⟨user, authenticated, done⟩ := Eff.exec_check_bind_eq_ok.mp done
  obtain ⟨entry, _, done⟩ := Eff.exec_check_bind_eq_ok.mp done
  obtain ⟨command, _, done⟩ := Eff.exec_check_bind_eq_ok.mp done
  refine ⟨user, interaction_ok authenticated (fun _ _ _ acted => ?_) done⟩
  exact (CommandService.createInteraction_ok acted).2

theorem createComponentInteraction_ok {stamp : EventStamp} {drawn : DrawnInteraction}
    {token : String} {channelId : Uuid} {request : CreateComponentInteractionRequest}
    {created : CommandInteractionCreated}
    (done : (CommandController.createComponentInteraction crypto stamp drawn token channelId
      request).exec state = (.ok created, last))
    : ∃ user event, PublishesInteraction crypto state last token created user event := by
  rw [CommandController.createComponentInteraction, Eff.exec_get_bind] at done
  obtain ⟨user, authenticated, done⟩ := Eff.exec_check_bind_eq_ok.mp done
  obtain ⟨entry, _, done⟩ := Eff.exec_check_bind_eq_ok.mp done
  obtain ⟨message, _, done⟩ := Eff.exec_check_bind_eq_ok.mp done
  split at done
  · cases done
  · obtain ⟨componentType, _, done⟩ := Eff.exec_check_bind_eq_ok.mp done
    obtain ⟨application, _, done⟩ := Eff.exec_check_bind_eq_ok.mp done
    refine ⟨user, interaction_ok authenticated (fun _ _ _ acted => ?_) done⟩
    exact (CommandService.createComponentInteraction_ok acted).2

/-- The answer to the user of a session token, whose interaction has been created. -/
theorem PublishesInteraction.answers {token : String} {created : CommandInteractionCreated}
    {user : AuthUser} {event : RealtimeEvent}
    (publishes : PublishesInteraction crypto state last token created user event)
    {answer : InteractionAnswer}
    (answers : (state.userForToken crypto token).toOption.map (fun user => (⟨user.id,
      CommandController.commandInteractionCreatedResponse created⟩ : InteractionAnswer))
        = some answer)
    : event.data.tokens = answer.body.tokens
        ∧ interactionUser event = some answer.userId.toString := by
  rw [publishes.authenticated] at answers
  cases answers
  refine ⟨?_, publishes.invoked⟩
  rw [publishes.shows]
  simp [CommandController.commandInteractionCreatedResponse]

/-- The answer to a new interaction shows the token of an event that is published with it. -/
theorem answer_some {request : AppRequest} {answer : InteractionAnswer}
    (answers : World.answer crypto state request = some answer)
    : ∃ event, (request.perform crypto state).published = state.published ++ [event]
        ∧ event.data.tokens = answer.body.tokens
        ∧ interactionUser event = some answer.userId.toString := by
  rw [World.answer.eq_def] at answers
  cases request with
  | createChannelInteraction stamp drawn token channelId request =>
      simp only at answers
      split at answers
      · next created last done =>
          obtain ⟨user, event, publishes⟩ := createChannelInteraction_ok done
          refine ⟨event, ?_, publishes.answers answers⟩
          rw [AppRequest.perform, Eff.after, done]
          exact publishes.published
      · cases answers
  | createComponentInteraction stamp drawn token channelId request =>
      simp only at answers
      split at answers
      · next created last done =>
          obtain ⟨user, event, publishes⟩ := createComponentInteraction_ok done
          refine ⟨event, ?_, publishes.answers answers⟩
          rw [AppRequest.perform, Eff.after, done]
          exact publishes.published
      · cases answers
  | _ => cases answers

-----------------------------------------------------------------------------------------
-- Confined tokens
-----------------------------------------------------------------------------------------

/-- What was answered shows the token of an interaction to the user who has created it only, and
what was dispatched to the bot of its application only. What was forwarded shows it to the given
audience of the event only.
-/
structure World.TokensConfined (audience : RealtimeEvent → Uuid → Prop) (world : World)
    : Prop where
  answered : ∀ event ∈ world.app.published, ∀ token ∈ event.data.tokens,
    ∀ answer ∈ world.answered, token ∈ answer.body.tokens →
      interactionUser event = some answer.userId.toString
  dispatched : ∀ event ∈ world.app.published, ∀ token ∈ event.data.tokens,
    ∀ frame ∈ world.gateway.sent, token ∈ frame.payload.tokens →
      interactionApplication event = some frame.bot.applicationId.toString
  forwarded : ∀ event ∈ world.app.published, ∀ token ∈ event.data.tokens,
    ∀ forwarded ∈ world.forwarded, token ∈ forwarded.event.data.tokens →
      audience event forwarded.userId

/-- A token that went out is the one of a published interaction. -/
structure World.TokensKnown (crypto : Crypto) (world : World) : Prop where
  invariant : world.Invariant crypto
  unique : world.app.TokensUnique
  greetings : world.gateway.PlainGreetings
  answered : ∀ answer ∈ world.answered, ∃ event ∈ world.app.published,
    event.data.tokens = answer.body.tokens ∧ interactionUser event = some answer.userId.toString
  forwarded : ∀ forwarded ∈ world.forwarded, forwarded.event ∈ world.app.published

namespace World

variable {world next : World}

theorem TokensKnown.empty : TokensKnown crypto .empty :=
  ⟨.empty, .empty, ⟨nofun, nofun⟩, nofun, nofun⟩

/-- A check leads to a dispatch with the tokens of its event, for the application of the
interaction.
-/
theorem Invariant.check_tokens (invariant : world.Invariant crypto)
    (unique : world.app.TokensUnique) {check : DispatchCheck} (listed : check ∈ world.checks)
    {token : String} (shown : token ∈ check.frame.payload.tokens)
    : check.event ∈ world.app.published ∧ token ∈ check.event.data.tokens
        ∧ interactionApplication check.event = some check.frame.bot.applicationId.toString := by
  have genuine := invariant.genuine check listed
  have published : check.event ∈ world.app.published :=
    (invariant.earlier check listed).subset (List.mem_of_getElem? genuine.published)
  obtain ⟨dispatch, inTable, _, _, _, made⟩ := dispatchFor_some genuine.dispatched
  have inEvent := dispatches_tokens inTable made shown
  refine ⟨published, inEvent, ?_⟩
  have isInteraction := unique.ofInteraction _ published (List.ne_nil_of_mem inEvent)
  cases allows_of_dispatchFor genuine.dispatched with
  | intended eventClass of =>
      rw [isInteraction] at of
      cases of
  | interaction _ own => exact own

/-- A frame with a token is the dispatch of the interaction to the bot of its application. -/
theorem TokensKnown.frame_tokens (known : world.TokensKnown crypto) {frame : SentDispatch}
    (sent : frame ∈ world.gateway.sent) {token : String} (shown : token ∈ frame.payload.tokens)
    : ∃ event ∈ world.app.published, token ∈ event.data.tokens
        ∧ interactionApplication event = some frame.bot.applicationId.toString := by
  have isolated := known.invariant.isolated
  have greets : frame.origin = .ready ∨ frame.origin = .resumed → False := by
    intro greets
    rw [known.greetings.sent frame sent greets] at shown
    cases shown
  cases origin : frame.origin with
  | ready => exact absurd (.inl origin) greets
  | resumed => exact absurd (.inr origin) greets
  | live =>
      obtain ⟨⟨check, listed, rfl⟩, _⟩ := isolated.live frame sent origin
      exact ⟨check.event, known.invariant.check_tokens known.unique listed shown⟩
  | replayed =>
      obtain ⟨recorded, intents, belongs⟩ := isolated.replayed frame sent origin
      obtain ⟨_, ⟨check, listed, rfl⟩, isEvent, _⟩ := isolated.appended frame.event recorded
      have samePayload : check.frame.payload = frame.payload :=
        congrArg CompatGatewayReplayEvent.payload isEvent
      have sameSession : check.frame.sessionId = frame.sessionId :=
        congrArg CompatGatewayReplayEvent.sessionId isEvent
      have identity := (SessionStore.BelongsTo.same (known.invariant.owned check listed)
        (sameSession ▸ belongs)).1
      obtain ⟨published, inEvent, own⟩ :=
        known.invariant.check_tokens known.unique listed (samePayload ▸ shown)
      exact ⟨check.event, published, inEvent, identity.applicationId ▸ own⟩

/-- Tokens can only be shown to others by forwarding. -/
theorem TokensKnown.confined_iff (known : world.TokensKnown crypto)
    (audience : RealtimeEvent → Uuid → Prop)
    : world.TokensConfined audience
      ↔ ∀ forwarded ∈ world.forwarded, forwarded.event.data.tokens ≠ [] →
          audience forwarded.event forwarded.userId := by
  have same := known.unique.unique
  refine ⟨fun confined forwarded listed shows => ?_, fun within => ⟨?_, ?_, ?_⟩⟩
  · obtain ⟨token, shown⟩ := List.exists_mem_of_ne_nil _ shows
    exact confined.forwarded _ (known.forwarded forwarded listed) token shown forwarded listed
      shown
  · intro event published token shown answer listed answered
    obtain ⟨other, otherPublished, tokens, user⟩ := known.answered answer listed
    rw [same event published other otherPublished token shown (tokens ▸ answered)]
    exact user
  · intro event published token shown frame sent inFrame
    obtain ⟨other, otherPublished, otherShown, own⟩ := known.frame_tokens sent inFrame
    rw [same event published other otherPublished token shown otherShown]
    exact own
  · intro event published token shown forwarded listed inForwarded
    have isEvent := same event published forwarded.event (known.forwarded forwarded listed) token
      shown inForwarded
    rw [isEvent]
    exact within forwarded listed (List.ne_nil_of_mem inForwarded)

/-- Every step shows tokens of published interactions only. -/
theorem TokensKnown.step (known : world.TokensKnown crypto) {move : WorldMove}
    (moves : WorldMoves crypto world move next)
    : next.TokensKnown crypto := by
  have invariant := known.invariant.step moves
  cases moves with
  | requested request app stepped =>
      have keyed := known.invariant.reached.keyed
      have grows := keyed.step_publishes stepped
      have unique : app.TokensUnique :=
        (AppState.step_preserves (fun _ _ _ (write : Write AnyMember _ _) => write.tokensUnique)
          keyed known.unique (fun _ _ => trivial) (fun _ _ => trivial) stepped).2
      refine ⟨invariant, unique, known.greetings, List.forall_mem_append.mpr ⟨?_, ?_⟩, ?_⟩
      · intro answer listed
        obtain ⟨event, published, shows⟩ := known.answered answer listed
        exact ⟨event, grows.subset published, shows⟩
      · intro answer answered
        obtain ⟨event, published, shows⟩ := answer_some (Option.mem_toList.mp answered)
        have performed : request.perform crypto world.app = app := by
          rw [AppState.step, Option.ite_none_right_eq_some] at stepped
          exact Option.some.inj stepped.2
        refine ⟨event, ?_, shows⟩
        rw [← performed, published]
        exact List.mem_append_right _ List.mem_cons_self
      · exact fun forwarded listed => grows.subset (known.forwarded forwarded listed)
  | connected => exact { known with invariant := invariant }
  | forwarded socket position userId event connected published receives =>
      refine { known with
        invariant := invariant
        forwarded := List.forall_mem_append.mpr ⟨known.forwarded, ?_⟩ }
      exact List.forall_mem_singleton.mpr (List.mem_of_getElem? published)
  | onGateway move index action gateway taken moves takesNoEvent ready =>
      refine { known with
        invariant := invariant
        greetings := moves.plainGreetings known.greetings
          fun bot sessionId intents payload same => ?_ }
      rw [ready bot sessionId intents payload same, tokens_ready]
  | received index position event bot sessionId name payload gateway waits published identified
      active dispatched moves =>
      refine { known with
        invariant := invariant
        greetings := moves.plainGreetings known.greetings fun _ _ _ _ same => ?_ }
      cases same

/-- A WebSocket connection takes an event with a token only if its user is in the audience. -/
def ForwardsWithin (audience : RealtimeEvent → Uuid → Prop) (world : World) : WorldMove → Prop
  | .forward socket position =>
      ∀ userId ∈ world.sockets socket, ∀ event ∈ world.app.published[position]?,
        event.data.tokens ≠ [] → audience event userId
  | _ => True

instance (audience : RealtimeEvent → Uuid → Prop)
    [∀ event userId, Decidable (audience event userId)] (world : World) (move : WorldMove)
    : Decidable (ForwardsWithin audience world move) := by
  cases move <;> unfold ForwardsWithin <;> infer_instance

/-- A step keeps tokens confined exactly if it forwards within the audience. -/
theorem TokensKnown.confined_step (known : world.TokensKnown crypto)
    {audience : RealtimeEvent → Uuid → Prop} (confined : world.TokensConfined audience)
    {move : WorldMove} (moves : WorldMoves crypto world move next)
    : next.TokensConfined audience ↔ ForwardsWithin audience world move := by
  have before := (known.confined_iff audience).mp confined
  rw [(known.step moves).confined_iff audience]
  cases moves with
  | forwarded socket position userId event connected published receives =>
      rw [List.forall_mem_append, List.forall_mem_singleton]
      simp only [ForwardsWithin, connected, published, Option.mem_some_iff, forall_eq']
      exact and_iff_right before
  | onGateway move index action gateway taken =>
      refine iff_of_true before ?_
      cases move with
      | forward => cases taken
      | _ => trivial
  | _ => exact iff_of_true before trivial

end World

open World in
/-- Along every run, the tokens of interactions stay with their users, their applications and the
given audience exactly if no WebSocket connection of another user takes an event with a token.
-/
theorem tokensConfined_iff_forwardsWithin (audience : RealtimeEvent → Uuid → Prop)
    {moves : List WorldMove} {last : World}
    (ran : run (World.step crypto) .empty moves = some last)
    : Always (World.step crypto) (TokensConfined audience) .empty moves
      ↔ Allowed (World.step crypto) (ForwardsWithin audience) .empty moves := by
  refine @always_iff_allowed _ _ (World.step crypto) (ForwardsWithin audience)
    (TokensKnown crypto) (TokensConfined audience) ?_ ?_ _ _ _ .empty ⟨nofun, nofun, nofun⟩ ran
  · intro world move next known confined stepped within
    exact known.step (step_moves stepped)
  · intro world move next known confined stepped
    exact known.confined_step confined (step_moves stepped)

/-- The user who has created the interaction of an event, as its audience. -/
def InvokedBy (event : RealtimeEvent) (userId : Uuid) : Prop :=
  interactionUser event = some userId.toString

instance (event : RealtimeEvent) (userId : Uuid) : Decidable (InvokedBy event userId) :=
  inferInstanceAs (Decidable (_ = _))

namespace Acme

/-- Alice is connected when she uses the bot's command, and takes the event, as the bot does. -/
def aliceConnected : List WorldMove :=
  identified ++ [.connect 0 aliceToken, .request interactionRequest, .forward 0 3, .receive 0 3,
    .gateway 0 .append, .gateway 0 (.sendLive true)]

/-- Bob, a member of the space, is connected when Alice uses the bot's command, and takes the
event.
-/
def bobConnected : List WorldMove :=
  (requests ++ [.configureOidcProvider aliceToken provider, bobSignsIn]).map .request
    ++ [.connect 0 bobToken] ++ botRequests.map .request ++ [.forward 0 3]

end Acme

theorem aliceConnected_confined
    : ∃ last, run (World.step Acme.botCrypto) .empty Acme.aliceConnected = some last
        ∧ last.answered ≠ [] ∧ last.forwarded ≠ []
        ∧ Always (World.step Acme.botCrypto) (World.TokensConfined InvokedBy) .empty
            Acme.aliceConnected := by
  have allowed : Allowed (World.step Acme.botCrypto) (World.ForwardsWithin InvokedBy) .empty
      Acme.aliceConnected := by
    decide +kernel
  have facts : (run (World.step Acme.botCrypto) .empty Acme.aliceConnected).any fun last =>
      last.answered.length = 1 ∧ last.forwarded.length = 1 := by
    decide +kernel
  obtain ⟨last, ran, facts⟩ := (Option.any_eq_true _ _).mp facts
  obtain ⟨answered, forwarded⟩ := of_decide_eq_true facts
  refine ⟨last, ran, List.ne_nil_of_length_eq_add_one answered,
    List.ne_nil_of_length_eq_add_one forwarded, ?_⟩
  exact (tokensConfined_iff_forwardsWithin InvokedBy ran).mpr allowed

/-- Bob gets the token of Alice's interaction. -/
theorem bobConnected_notConfined
    : ∃ last, run (World.step Acme.botCrypto) .empty Acme.bobConnected = some last
        ∧ (∃ answer ∈ last.answered, answer.userId = Acme.alice
            ∧ Acme.interactionToken ∈ answer.body.tokens)
        ∧ (∃ forwarded ∈ last.forwarded, forwarded.userId = Acme.bob
            ∧ Acme.interactionToken ∈ forwarded.event.data.tokens)
        ∧ ¬ last.TokensConfined InvokedBy := by
  have facts : (run (World.step Acme.botCrypto) .empty Acme.bobConnected).any fun last =>
      (∃ answer ∈ last.answered, answer.userId = Acme.alice
          ∧ Acme.interactionToken ∈ answer.body.tokens)
        ∧ (∃ forwarded ∈ last.forwarded, forwarded.userId = Acme.bob
          ∧ Acme.interactionToken ∈ forwarded.event.data.tokens)
        ∧ last.app.published.any fun event => Acme.interactionToken ∈ event.data.tokens
          ∧ ¬ InvokedBy event Acme.bob := by
    decide +kernel
  obtain ⟨last, ran, facts⟩ := (Option.any_eq_true _ _).mp facts
  obtain ⟨answered, ⟨forwarded, listed, isBob, shown⟩, facts⟩ := of_decide_eq_true facts
  obtain ⟨event, published, facts⟩ := List.any_eq_true.mp facts
  obtain ⟨inEvent, notInvoked⟩ := of_decide_eq_true facts
  refine ⟨last, ran, answered, ⟨forwarded, listed, isBob, shown⟩, fun confined => ?_⟩
  exact notInvoked (isBob ▸ confined.forwarded event published _ inEvent forwarded listed shown)

end OpenCord.Server

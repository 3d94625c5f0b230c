import OpenCord.Gateway.Isolation
import OpenCord.Server.GatewayDispatch

/-! The server with its connections: the requests of users, the gateway connections of bots and
the WebSocket connections of users, which share the stores and the hub.
-/

namespace OpenCord.Server

open OpenCord.Library OpenCord.Platform OpenCord.Auth OpenCord.Tenancy OpenCord.Bots
  OpenCord.Realtime OpenCord.Gateway

/-- An event that a gateway connection has checked, with the stores at that time, and the
dispatch that it led to.
-/
structure DispatchCheck where
  position : Nat
  event : RealtimeEvent
  state : AppState
  intents : Nat
  frame : SentDispatch

/-- An event that went out on the WebSocket connection of a user. -/
structure ForwardedEvent where
  userId : Uuid
  event : RealtimeEvent

/-- The response to a user who has created an interaction. -/
structure InteractionAnswer where
  userId : Uuid
  body : Json

/-- The stores with the hub, the gateway, how far each gateway connection has read the hub, the
users of WebSocket connections, and what was checked, forwarded and answered so far.
-/
structure World where
  app : AppState
  gateway : GatewayState
  cursors : Nat → Nat
  sockets : Nat → Option Uuid
  checks : List DispatchCheck
  forwarded : List ForwardedEvent
  answered : List InteractionAnswer

def World.empty : World := ⟨.empty, .empty, fun _ => 0, fun _ => none, [], [], []⟩

/-- What happens next. An identify or a resume that is refused before it reaches the sessions
closes its connection, which is the gateway's `disconnect`.
-/
inductive WorldMove where
  | request (request : AppRequest)
  | connect (socket : Nat) (token : String)
  | forward (socket position : Nat)
  | identify (index : Nat) (token sessionId : String) (intents : Nat)
  | resume (index : Nat) (token sessionId : String) (clientSequence : Int)
  /-- A connection takes a later event from the hub; it may have missed some before. -/
  | receive (index position : Nat)
  | gateway (index : Nat) (action : Action)

/-- The steps that a connection takes on its own. -/
def WorldMove.ownStep : Action → Bool
  | .identify _ _ _ _ => false
  | .resume _ _ _ => false
  | .receive _ _ => false
  | _ => true

/-- The gateway connection that takes a step. -/
def WorldMove.connection? : WorldMove → Option Nat
  | .identify index _ _ _ => some index
  | .resume index _ _ _ => some index
  | .receive index _ => some index
  | .gateway index _ => some index
  | _ => none

namespace World

variable (crypto : Crypto)

/-- The response that a request is answered with, if it creates an interaction. -/
def answer (state : AppState) : AppRequest → Option InteractionAnswer
  | .createChannelInteraction stamp drawn token channelId request =>
      match (CommandController.createChannelInteraction crypto stamp drawn token channelId
          request).exec state with
      | (.ok created, _) =>
          (state.userForToken crypto token).toOption.map fun user =>
            ⟨user.id, CommandController.commandInteractionCreatedResponse created⟩
      | (.error _, _) => none
  | .createComponentInteraction stamp drawn token channelId request =>
      match (CommandController.createComponentInteraction crypto stamp drawn token channelId
          request).exec state with
      | (.ok created, _) =>
          (state.userForToken crypto token).toOption.map fun user =>
            ⟨user.id, CommandController.commandInteractionCreatedResponse created⟩
      | (.error _, _) => none
  | _ => none

def onGateway (world : World) (index : Nat) (action : Action) : Option World :=
  (world.gateway.step (index, action)).map fun gateway => { world with gateway := gateway }

/-- A connection checks an event for its bot and starts to dispatch it. -/
def receive (world : World) (index position : Nat) : Option World :=
  let connection := (world.gateway.peers index).connection
  if position < world.cursors index then
    none
  else
    match world.app.published[position]?, connection.identifiedBot, connection.activeSessionId with
    | some event, some bot, some sessionId =>
        match CompatGatewayController.dispatchFor world.app bot connection.activeIntents event with
        | some (name, payload) =>
            (world.gateway.step (index, .receive name payload)).map fun gateway =>
              { world with
                gateway := gateway
                cursors := Function.update world.cursors index (position + 1)
                checks := world.checks ++ [⟨position, event, world.app, connection.activeIntents,
                  liveFrame index bot sessionId name (connection.sequence + 1) payload⟩] }
        | none => none
    | _, _, _ => none

def step (world : World) : WorldMove → Option World
  | .request request =>
      (world.app.step crypto request).map fun app =>
        { world with
          app := app
          answered := world.answered ++ (answer crypto world.app request).toList }
  | .connect socket token =>
      match world.app.userForToken crypto token with
      | .ok user =>
          some { world with sockets := Function.update world.sockets socket (some user.id) }
      | .error _ => none
  | .forward socket position =>
      match world.sockets socket, world.app.published[position]? with
      | some userId, some event =>
          if RealtimeController.canReceiveEvent world.app userId event then
            some { world with forwarded := world.forwarded ++ [⟨userId, event⟩] }
          else
            none
      | _, _ => none
  | .identify index token sessionId intents =>
      match world.app.botForToken crypto token with
      | .ok bot =>
          if CompatGatewayController.validIntents intents then
            world.onGateway index (.identify bot sessionId intents
              (CompatGatewayController.ready world.app bot sessionId intents))
          else
            none
      | .error _ => none
  | .resume index token sessionId clientSequence =>
      match world.app.botForToken crypto token with
      | .ok bot => world.onGateway index (.resume bot sessionId clientSequence)
      | .error _ => none
  | .receive index position => world.receive index position
  | .gateway index action =>
      if WorldMove.ownStep action then world.onGateway index action else none

end World

/-- What a step can do. A gateway step other than taking an event leaves all the rest. -/
inductive WorldMoves (crypto : Crypto) (world : World) : WorldMove → World → Prop where
  | requested (request : AppRequest) (app : AppState)
      (stepped : world.app.step crypto request = some app)
      : WorldMoves crypto world (.request request)
          { world with
            app := app
            answered := world.answered ++ (World.answer crypto world.app request).toList }
  | connected (socket : Nat) (token : String) (user : AuthUser)
      (authenticated : world.app.userForToken crypto token = .ok user)
      : WorldMoves crypto world (.connect socket token)
          { world with sockets := Function.update world.sockets socket (some user.id) }
  | forwarded (socket position : Nat) (userId : Uuid) (event : RealtimeEvent)
      (connected : world.sockets socket = some userId)
      (published : world.app.published[position]? = some event)
      (receives : RealtimeController.canReceiveEvent world.app userId event = true)
      : WorldMoves crypto world (.forward socket position)
          { world with forwarded := world.forwarded ++ [⟨userId, event⟩] }
  | onGateway (move : WorldMove) (index : Nat) (action : Action) (gateway : GatewayState)
      (taken : move.connection? = some index)
      (moves : Moves world.gateway index action gateway)
      (takesNoEvent : ∀ name payload, action ≠ .receive name payload)
      (ready : ∀ bot sessionId intents payload,
        action = .identify bot sessionId intents payload →
          payload = CompatGatewayController.ready world.app bot sessionId intents)
      : WorldMoves crypto world move { world with gateway := gateway }
  | received (index position : Nat) (event : RealtimeEvent) (bot : AuthenticatedBot)
      (sessionId name : String) (payload : Json) (gateway : GatewayState)
      (waits : (world.gateway.peers index).phase = .idle)
      (published : world.app.published[position]? = some event)
      (identified : (world.gateway.peers index).connection.identifiedBot = some bot)
      (active : (world.gateway.peers index).connection.activeSessionId = some sessionId)
      (dispatched : CompatGatewayController.dispatchFor world.app bot
        (world.gateway.peers index).connection.activeIntents event = some (name, payload))
      (moves : Moves world.gateway index (.receive name payload) gateway)
      : WorldMoves crypto world (.receive index position)
          { world with
            gateway := gateway
            cursors := Function.update world.cursors index (position + 1)
            checks := world.checks ++ [⟨position, event, world.app,
              (world.gateway.peers index).connection.activeIntents,
              liveFrame index bot sessionId name
                ((world.gateway.peers index).connection.sequence + 1) payload⟩] }

/-- Connections that take no step stay where they are. -/
theorem WorldMoves.peers_of_ne {crypto : Crypto} {world next : World} {move : WorldMove}
    {index : Nat} (moves : WorldMoves crypto world move next)
    (elsewhere : move.connection? ≠ some index)
    : next.gateway.peers index = world.gateway.peers index := by
  cases moves with
  | onGateway _ other _ _ taken moves =>
      refine moves.peers_of_ne fun same => elsewhere ?_
      rw [taken, same]
  | received other _ _ _ _ _ _ _ _ _ _ _ _ moves =>
      exact moves.peers_of_ne fun same => elsewhere (congrArg some same.symm)
  | _ => rfl

namespace World

variable {crypto : Crypto} {world next : World}

/-- A step that only moves the gateway. -/
private theorem onGateway_moves {move : WorldMove} {index : Nat} {action : Action}
    (taken : move.connection? = some index)
    (takesNoEvent : ∀ name payload, action ≠ .receive name payload)
    (ready : ∀ bot sessionId intents payload,
      action = .identify bot sessionId intents payload →
        payload = CompatGatewayController.ready world.app bot sessionId intents)
    (stepped : world.onGateway index action = some next)
    : WorldMoves crypto world move next := by
  obtain ⟨gateway, moved, rfl⟩ := Option.map_eq_some_iff.mp stepped
  exact .onGateway move index action gateway taken (GatewayState.step_moves moved) takesNoEvent
    ready

/-- A connection that takes an event is identified, and dispatches the event. -/
theorem receive_eq_some {index position : Nat} (received : world.receive index position = some next)
    : ∃ event bot sessionId name payload gateway,
        world.app.published[position]? = some event
          ∧ (world.gateway.peers index).connection.identifiedBot = some bot
          ∧ (world.gateway.peers index).connection.activeSessionId = some sessionId
          ∧ CompatGatewayController.dispatchFor world.app bot
              (world.gateway.peers index).connection.activeIntents event = some (name, payload)
          ∧ world.gateway.step (index, .receive name payload) = some gateway
          ∧ next = { world with
              gateway := gateway
              cursors := Function.update world.cursors index (position + 1)
              checks := world.checks ++ [⟨position, event, world.app,
                (world.gateway.peers index).connection.activeIntents,
                liveFrame index bot sessionId name
                  ((world.gateway.peers index).connection.sequence + 1) payload⟩] } := by
  rw [World.receive, Option.ite_none_left_eq_some] at received
  obtain ⟨_, received⟩ := received
  split at received
  · next event bot sessionId published identified active =>
      split at received
      · next name payload dispatched =>
          obtain ⟨gateway, moved, rfl⟩ := Option.map_eq_some_iff.mp received
          exact ⟨event, bot, sessionId, name, payload, gateway, published, identified, active,
            dispatched, moved, rfl⟩
      · cases received
  · cases received

private theorem receive_moves {index position : Nat}
    (stepped : world.receive index position = some next)
    : WorldMoves crypto world (.receive index position) next := by
  obtain ⟨event, bot, sessionId, name, payload, gateway, published, identified, active,
    dispatched, moved, rfl⟩ := receive_eq_some stepped
  exact .received index position event bot sessionId name payload gateway
    (GatewayState.step_receive moved) published identified active dispatched
    (GatewayState.step_moves moved)

/-- Every step is one of the moves. -/
theorem step_moves {move : WorldMove} (stepped : world.step crypto move = some next)
    : WorldMoves crypto world move next := by
  rw [World.step.eq_def] at stepped
  cases move with
  | request request =>
      obtain ⟨app, performed, rfl⟩ := Option.map_eq_some_iff.mp stepped
      exact .requested request app performed
  | connect socket token =>
      simp only at stepped
      split at stepped
      · next user authenticated =>
          cases stepped
          exact .connected socket token user authenticated
      · cases stepped
  | forward socket position =>
      simp only at stepped
      split at stepped
      · next userId event connected published =>
          obtain ⟨receives, forwards⟩ := Option.ite_none_right_eq_some.mp stepped
          cases forwards
          exact .forwarded socket position userId event connected published receives
      · cases stepped
  | identify index token sessionId intents =>
      simp only at stepped
      split at stepped
      · next bot authenticated =>
          obtain ⟨_, moved⟩ := Option.ite_none_right_eq_some.mp stepped
          refine onGateway_moves rfl (fun _ _ same => ?_) (fun _ _ _ _ same => ?_) moved
          · cases same
          · cases same
            rfl
      · cases stepped
  | resume index token sessionId clientSequence =>
      simp only at stepped
      split at stepped
      · refine onGateway_moves rfl (fun _ _ same => ?_) (fun _ _ _ _ same => ?_) stepped
        · cases same
        · cases same
      · cases stepped
  | receive index position => exact receive_moves stepped
  | gateway index action =>
      obtain ⟨ownStep, moved⟩ := Option.ite_none_right_eq_some.mp stepped
      refine onGateway_moves rfl (fun name payload same => ?_) (fun _ _ _ _ same => ?_) moved
      · rw [same] at ownStep
        cases ownStep
      · rw [same] at ownStep
        cases ownStep

/-- A world that some steps lead to from the empty one. -/
abbrev Reached (crypto : Crypto) : World → Prop :=
  Reachable (World.step crypto) .empty

end World

/-- A dispatch that a checked event has led to. -/
def Noted (checks : List DispatchCheck) (frame : SentDispatch) : Prop :=
  ∃ check ∈ checks, check.frame = frame

theorem Noted.append {checks later : List DispatchCheck} {frame : SentDispatch}
    (noted : Noted checks frame)
    : Noted (checks ++ later) frame := by
  obtain ⟨check, listed, same⟩ := noted
  exact ⟨check, List.mem_append_left _ listed, same⟩

/-- An event was checked against stores of the run, and the dispatch is what it led to. -/
structure DispatchCheck.Genuine (crypto : Crypto) (check : DispatchCheck) : Prop where
  reached : check.state.Reached crypto
  published : check.state.published[check.position]? = some check.event
  dispatched : CompatGatewayController.dispatchFor check.state check.frame.bot check.intents
    check.event = some (check.frame.eventType, check.frame.payload)

/-- Checked events were published before, and the sessions that their dispatches are for stay
with the bots that they were checked for.
-/
structure World.Invariant (crypto : Crypto) (world : World) : Prop where
  reached : world.app.Reached crypto
  isolated : Isolated (Noted world.checks) world.gateway
  genuine : ∀ check ∈ world.checks, check.Genuine crypto
  earlier : ∀ check ∈ world.checks, check.state.published <+: world.app.published
  owned : ∀ check ∈ world.checks,
    world.gateway.store.BelongsTo check.frame.sessionId check.frame.bot check.intents

namespace World

variable {crypto : Crypto} {world next : World}

theorem Invariant.empty : Invariant crypto .empty where
  reached := .refl _ _
  isolated := .empty _
  genuine := nofun
  earlier := nofun
  owned := nofun

/-- Every step keeps the invariant. -/
theorem Invariant.step (invariant : world.Invariant crypto) {move : WorldMove}
    (moves : WorldMoves crypto world move next)
    : next.Invariant crypto := by
  cases moves with
  | requested request app stepped =>
      have grows := invariant.reached.keyed.step_publishes stepped
      exact {
        reached := invariant.reached.next stepped
        isolated := invariant.isolated
        genuine := invariant.genuine
        earlier := fun check listed => (invariant.earlier check listed).trans grows
        owned := invariant.owned }
  | connected => exact { invariant with }
  | forwarded => exact { invariant with }
  | onGateway _ index action gateway _ moves takesNoEvent =>
      refine {
        reached := invariant.reached
        isolated := invariant.isolated.step moves fun bot sessionId eventType payload _ phase => ?_
        genuine := invariant.genuine
        earlier := invariant.earlier
        owned := fun check listed => moves.keeps _ _ _ (invariant.owned check listed) }
      exact absurd (moves.appending phase).1 (takesNoEvent eventType payload)
  | received index position event bot sessionId name payload gateway waits published identified
      active dispatched moves =>
      refine {
        reached := invariant.reached
        isolated := (invariant.isolated.mono fun _ => Noted.append).step moves
          fun other otherSession eventType recorded _ phase => ?_
        genuine := ?_
        earlier := ?_
        owned := ?_ }
      · obtain ⟨same, identifies, counted⟩ := moves.appending phase
        cases same
        cases identified.symm.trans identifies.bot
        cases active.symm.trans identifies.session
        rw [counted]
        exact ⟨_, List.mem_append_right _ List.mem_cons_self, rfl⟩
      · refine List.forall_mem_append.mpr ⟨invariant.genuine, List.forall_mem_singleton.mpr ?_⟩
        exact ⟨invariant.reached, published, dispatched⟩
      · refine List.forall_mem_append.mpr ⟨invariant.earlier, List.forall_mem_singleton.mpr ?_⟩
        exact List.prefix_refl _
      · refine List.forall_mem_append.mpr
          ⟨fun check listed => moves.keeps _ _ _ (invariant.owned check listed),
            List.forall_mem_singleton.mpr (moves.keeps _ _ _ ?_)⟩
        obtain ⟨held, used, belongs⟩ := (invariant.isolated.peers index).owns bot identified
        cases active.symm.trans used
        exact belongs

theorem Reached.invariant (reached : world.Reached crypto)
    : world.Invariant crypto := by
  refine Reachable.invariant reached .empty ?_
  intro before move after invariant stepped
  exact invariant.step (step_moves stepped)

end World

namespace Acme

/-- The bot of Acme is in the space and has registered its command, and identifies on a
connection.
-/
def identified : List WorldMove :=
  (requests ++ botRequests.take 3).map .request
    ++ [.identify 0 botToken "gw_1" 513, .gateway 0 (.sendReady true)]

/-- Alice uses the command. -/
def interactionRequest : AppRequest :=
  .createChannelInteraction (stamp 204)
    ⟨interaction, interactionToken, "2026-01-01T00:00:00.000Z"⟩ aliceToken general
    ⟨.ofNat 71, none⟩

end Acme

end OpenCord.Server

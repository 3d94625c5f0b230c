import Mathlib.Logic.Function.Basic
import OpenCord.Gateway.Connection
import OpenCord.Library.Runs

/-! Any number of gateway connections over one session store. A step is the part of a
connection's code between two awaits, so the steps of different connections interleave
freely; a send may fail, and a connection may end at any point.
-/

namespace OpenCord.Gateway

open OpenCord.Library OpenCord.Platform OpenCord.Bots

/-- Where a connection stands in its code. -/
inductive Phase where
  /-- Waiting for a client message or a hub event. -/
  | idle
  /-- The session is created and `READY` is about to be sent. -/
  | readying (bot : AuthenticatedBot) (sessionId : String) (payload : Json)
  /-- The store has granted a resume; the replay page is not yet read. -/
  | listing (bot : AuthenticatedBot) (session : CompatGatewaySession) (clientSequence : Int)
  /-- The page is being sent; `remaining` is still to go. -/
  | replaying (bot : AuthenticatedBot) (session : CompatGatewaySession)
      (page remaining : List CompatGatewayReplayEvent)
  /-- The session is taken over and `RESUMED` is about to be sent. -/
  | answering (bot : AuthenticatedBot) (sessionId : String)
  /-- A hub event has its number and is about to be recorded. -/
  | appending (bot : AuthenticatedBot) (sessionId eventType : String) (payload : Json)
  /-- The event is recorded and about to be sent. -/
  | sending (bot : AuthenticatedBot) (sessionId eventType : String) (payload : Json)
  /-- The event is sent and the stored sequence is about to follow. -/
  | advancing (bot : AuthenticatedBot) (sessionId : String)
  | closed

def Phase.isClosed : Phase → Bool
  | .closed => true
  | _ => false

/-- A connection with its place in the code. -/
structure Peer where
  phase : Phase
  connection : Connection

def Peer.opened : Peer := ⟨.idle, Connection.opened⟩

/-- The session a connection is about to use or uses. -/
def Peer.sessionId? (peer : Peer) : Option String :=
  match peer.phase with
  | .closed => none
  | .listing _ session _ => some session.sessionId
  | .replaying _ session _ _ => some session.sessionId
  | .readying _ sessionId _ => some sessionId
  | .answering _ sessionId => some sessionId
  | .appending _ sessionId _ _ => some sessionId
  | .sending _ sessionId _ _ => some sessionId
  | .advancing _ sessionId => some sessionId
  | .idle => peer.connection.activeSessionId

/-- Why a dispatch frame was sent. -/
inductive Origin where
  | ready
  | resumed
  | live
  | replayed
  deriving DecidableEq

/-- A dispatch frame that went out. -/
structure SentDispatch where
  peer : Nat
  bot : AuthenticatedBot
  sessionId : String
  origin : Origin
  eventType : String
  sequence : Int
  payload : Json

/-- The store, the connections, and what was sent and recorded so far. -/
structure GatewayState where
  store : SessionStore
  peers : Nat → Peer
  sent : List SentDispatch
  appended : List CompatGatewayReplayEvent

def GatewayState.empty : GatewayState := ⟨SessionStore.empty, fun _ => Peer.opened, [], []⟩

/-- What a connection does next. The flags tell whether a send goes out. -/
inductive Action where
  | identify (bot : AuthenticatedBot) (sessionId : String) (intents : Nat) (ready : Json)
  /-- The store does not take the new session; its number is used up all the same. -/
  | identifyUnstored
  | sendReady (delivered : Bool)
  | resume (bot : AuthenticatedBot) (sessionId : String) (clientSequence : Int)
  | list
  | replay (delivered : Bool)
  | takeOver
  | sendResumed (delivered : Bool)
  | receive (eventType : String) (payload : Json)
  | append
  | sendLive (delivered : Bool)
  | advance
  | disconnect

namespace GatewayState

/-- The gateway with one connection changed. -/
def withPeer (gateway : GatewayState) (index : Nat) (phase : Phase) (connection : Connection)
    : GatewayState :=
  { gateway with peers := Function.update gateway.peers index ⟨phase, connection⟩ }

/-- The gateway after a send: the frame is out and the connection goes on, or it ends. -/
def afterSend (gateway : GatewayState) (index : Nat) (delivered : Bool) (frame : SentDispatch)
    (phase : Phase) : GatewayState :=
  if delivered then
    GatewayState.withPeer { gateway with sent := gateway.sent ++ [frame] } index phase
      (gateway.peers index).connection
  else
    gateway.withPeer index .closed (gateway.peers index).connection

/-- Creates a session under a new identifier and makes it the connection's own. -/
def identify (gateway : GatewayState) (index : Nat) (bot : AuthenticatedBot)
    (sessionId : String) (intents : Nat) (ready : Json) : Option GatewayState :=
  let connection := (gateway.peers index).connection
  if connection.identifiedBot.isSome ∨ sessionId ∈ gateway.store.sessions
      ∨ gateway.store.eventsOf sessionId ≠ [] then
    none
  else
    let sequence := connection.sequence + 1
    let session : CompatGatewaySession :=
      ⟨sessionId, bot.applicationId, bot.organizationId, bot.botUserId, sequence, intents⟩
    some (GatewayState.withPeer { gateway with store := gateway.store.createSession session }
      index (.readying bot sessionId ready)
      ⟨some bot, some sessionId, intents, sequence⟩)

/-- Asks the store for a session; a refusal closes the connection. -/
def resume (gateway : GatewayState) (index : Nat) (bot : AuthenticatedBot) (sessionId : String)
    (clientSequence : Int) : Option GatewayState :=
  let connection := (gateway.peers index).connection
  if connection.identifiedBot.isSome then
    none
  else
    match gateway.store.resumeSession sessionId bot clientSequence with
    | (.resumed session, store) =>
        some (GatewayState.withPeer { gateway with store := store } index
          (.listing bot session clientSequence) connection)
    | (_, store) =>
        some (GatewayState.withPeer { gateway with store := store } index .closed connection)

/-- One step of one connection, where its code allows it. -/
def step (gateway : GatewayState) (move : Nat × Action) : Option GatewayState :=
  let index := move.1
  let connection := (gateway.peers index).connection
  match (gateway.peers index).phase, move.2 with
  | .idle, .identify bot sessionId intents ready =>
      gateway.identify index bot sessionId intents ready
  | .idle, .identifyUnstored =>
      if connection.identifiedBot.isSome then
        none
      else
        some (gateway.withPeer index .idle
          { connection with sequence := connection.sequence + 1 })
  | .readying bot sessionId payload, .sendReady delivered =>
      some (gateway.afterSend index delivered
        ⟨index, bot, sessionId, .ready, "READY", connection.sequence, payload⟩ .idle)
  | .idle, .resume bot sessionId clientSequence =>
      gateway.resume index bot sessionId clientSequence
  | .listing bot session clientSequence, .list =>
      let page := gateway.store.listReplayEventsAfter session.sessionId clientSequence
        gatewayReplayLimit
      some (gateway.withPeer index (.replaying bot session page page) connection)
  | .replaying bot session page (event :: remaining), .replay delivered =>
      some (gateway.afterSend index delivered
        ⟨index, bot, session.sessionId, .replayed, event.eventType, event.sequence,
          event.payload⟩
        (.replaying bot session page remaining))
  | .replaying bot session page [], .takeOver =>
      let sequence := resumedSequence session page
      some (GatewayState.withPeer
        { gateway with store := gateway.store.updateSequence session.sessionId sequence }
        index (.answering bot session.sessionId)
        ⟨some bot, some session.sessionId, session.intents, sequence⟩)
  | .answering bot sessionId, .sendResumed delivered =>
      some (gateway.afterSend index delivered
        ⟨index, bot, sessionId, .resumed, "RESUMED", connection.sequence,
          .object [("session_id", .string sessionId)]⟩ .idle)
  | .idle, .receive eventType payload =>
      match connection.identifiedBot, connection.activeSessionId with
      | some bot, some sessionId =>
          some (gateway.withPeer index (.appending bot sessionId eventType payload)
            { connection with sequence := connection.sequence + 1 })
      | _, _ => none
  | .appending bot sessionId eventType payload, .append =>
      let event : CompatGatewayReplayEvent :=
        ⟨sessionId, connection.sequence, eventType, payload⟩
      some (GatewayState.withPeer
        { gateway with
          store := gateway.store.appendReplayEvent event
          appended := gateway.appended ++ [event] }
        index (.sending bot sessionId eventType payload) connection)
  | .sending bot sessionId eventType payload, .sendLive delivered =>
      some (gateway.afterSend index delivered
        ⟨index, bot, sessionId, .live, eventType, connection.sequence, payload⟩
        (.advancing bot sessionId))
  | .advancing _ sessionId, .advance =>
      some (GatewayState.withPeer
        { gateway with
          store := gateway.store.updateSequence sessionId connection.sequence }
        index .idle connection)
  | .closed, _ => none
  | _, .disconnect => some (gateway.withPeer index .closed connection)
  | _, _ => none

@[simp] theorem store_withPeer (gateway : GatewayState) (index : Nat) (phase : Phase)
    (connection : Connection)
    : (gateway.withPeer index phase connection).store = gateway.store :=
  rfl

@[simp] theorem peers_withPeer_self (gateway : GatewayState) (index : Nat) (phase : Phase)
    (connection : Connection)
    : (gateway.withPeer index phase connection).peers index = ⟨phase, connection⟩ :=
  Function.update_self ..

theorem peers_withPeer_of_ne {gateway : GatewayState} {index other : Nat}
    (differs : other ≠ index) (phase : Phase) (connection : Connection)
    : (gateway.withPeer index phase connection).peers other = gateway.peers other :=
  Function.update_of_ne differs ..

end GatewayState

-----------------------------------------------------------------------------------------
-- What a step can do
-----------------------------------------------------------------------------------------

/-- The frame a connection is about to send, and the phase after it went out. -/
inductive Sends : Phase → Connection → Nat → SentDispatch → Phase → Prop where
  | ready (bot : AuthenticatedBot) (sessionId : String) (payload : Json)
      (connection : Connection) (index : Nat)
      : Sends (.readying bot sessionId payload) connection index
          ⟨index, bot, sessionId, .ready, "READY", connection.sequence, payload⟩ .idle
  | resumed (bot : AuthenticatedBot) (sessionId : String) (connection : Connection)
      (index : Nat)
      : Sends (.answering bot sessionId) connection index
          ⟨index, bot, sessionId, .resumed, "RESUMED", connection.sequence,
            .object [("session_id", .string sessionId)]⟩ .idle
  | replayed (bot : AuthenticatedBot) (session : CompatGatewaySession)
      (page remaining : List CompatGatewayReplayEvent) (event : CompatGatewayReplayEvent)
      (connection : Connection) (index : Nat)
      : Sends (.replaying bot session page (event :: remaining)) connection index
          ⟨index, bot, session.sessionId, .replayed, event.eventType, event.sequence,
            event.payload⟩
          (.replaying bot session page remaining)
  | live (bot : AuthenticatedBot) (sessionId eventType : String) (payload : Json)
      (connection : Connection) (index : Nat)
      : Sends (.sending bot sessionId eventType payload) connection index
          ⟨index, bot, sessionId, .live, eventType, connection.sequence, payload⟩
          (.advancing bot sessionId)

open GatewayState in
/-- The steps of one connection, each with the place it starts from and its result. -/
inductive Moves (gateway : GatewayState) (index : Nat) : Action → GatewayState → Prop where
  | identified (bot : AuthenticatedBot) (sessionId : String) (intents : Nat) (ready : Json)
      (phase : (gateway.peers index).phase = .idle)
      (unidentified : (gateway.peers index).connection.identifiedBot = none)
      (newSession : sessionId ∉ gateway.store.sessions)
      (newEvents : gateway.store.eventsOf sessionId = [])
      : Moves gateway index (.identify bot sessionId intents ready)
          (withPeer
            { gateway with
              store := gateway.store.createSession ⟨sessionId, bot.applicationId,
                bot.organizationId, bot.botUserId,
                (gateway.peers index).connection.sequence + 1, intents⟩ }
            index (.readying bot sessionId ready)
            ⟨some bot, some sessionId, intents,
              (gateway.peers index).connection.sequence + 1⟩)
  | unstored (phase : (gateway.peers index).phase = .idle)
      (unidentified : (gateway.peers index).connection.identifiedBot = none)
      : Moves gateway index .identifyUnstored
          (gateway.withPeer index .idle
            { (gateway.peers index).connection with
              sequence := (gateway.peers index).connection.sequence + 1 })
  | granted (bot : AuthenticatedBot) (sessionId : String) (clientSequence : Int)
      (session : CompatGatewaySession) (store : SessionStore)
      (phase : (gateway.peers index).phase = .idle)
      (unidentified : (gateway.peers index).connection.identifiedBot = none)
      (resumed : gateway.store.resumeSession sessionId bot clientSequence
        = (.resumed session, store))
      : Moves gateway index (.resume bot sessionId clientSequence)
          (withPeer { gateway with store := store } index
            (.listing bot session clientSequence) (gateway.peers index).connection)
  | listed (bot : AuthenticatedBot) (session : CompatGatewaySession) (clientSequence : Int)
      (phase : (gateway.peers index).phase = .listing bot session clientSequence)
      : Moves gateway index .list
          (gateway.withPeer index
            (.replaying bot session
              (gateway.store.listReplayEventsAfter session.sessionId clientSequence
                gatewayReplayLimit)
              (gateway.store.listReplayEventsAfter session.sessionId clientSequence
                gatewayReplayLimit))
            (gateway.peers index).connection)
  | tookOver (bot : AuthenticatedBot) (session : CompatGatewaySession)
      (page : List CompatGatewayReplayEvent)
      (phase : (gateway.peers index).phase = .replaying bot session page [])
      : Moves gateway index .takeOver
          (withPeer
            { gateway with
              store := gateway.store.updateSequence session.sessionId
                (resumedSequence session page) }
            index (.answering bot session.sessionId)
            ⟨some bot, some session.sessionId, session.intents,
              resumedSequence session page⟩)
  | received (bot : AuthenticatedBot) (sessionId eventType : String) (payload : Json)
      (phase : (gateway.peers index).phase = .idle)
      (identified : (gateway.peers index).connection.identifiedBot = some bot)
      (active : (gateway.peers index).connection.activeSessionId = some sessionId)
      : Moves gateway index (.receive eventType payload)
          (gateway.withPeer index (.appending bot sessionId eventType payload)
            { (gateway.peers index).connection with
              sequence := (gateway.peers index).connection.sequence + 1 })
  | appended (bot : AuthenticatedBot) (sessionId eventType : String) (payload : Json)
      (phase : (gateway.peers index).phase = .appending bot sessionId eventType payload)
      : Moves gateway index .append
          (withPeer
            { gateway with
              store := gateway.store.appendReplayEvent
                ⟨sessionId, (gateway.peers index).connection.sequence, eventType, payload⟩
              appended := gateway.appended
                ++ [⟨sessionId, (gateway.peers index).connection.sequence, eventType,
                  payload⟩] }
            index (.sending bot sessionId eventType payload)
            (gateway.peers index).connection)
  | advanced (bot : AuthenticatedBot) (sessionId : String)
      (phase : (gateway.peers index).phase = .advancing bot sessionId)
      : Moves gateway index .advance
          (withPeer
            { gateway with
              store := gateway.store.updateSequence sessionId
                (gateway.peers index).connection.sequence }
            index .idle (gateway.peers index).connection)
  | sent (action : Action) (frame : SentDispatch) (next : Phase)
      (sends : Sends (gateway.peers index).phase (gateway.peers index).connection index
        frame next)
      : Moves gateway index action
          (withPeer { gateway with sent := gateway.sent ++ [frame] } index next
            (gateway.peers index).connection)
  | closed (action : Action)
      : Moves gateway index action
          (gateway.withPeer index .closed (gateway.peers index).connection)

/-- Other connections stay where they are. -/
theorem Moves.peers_of_ne {gateway next : GatewayState} {index : Nat} {action : Action}
    (moves : Moves gateway index action next) {other : Nat} (differs : other ≠ index)
    : next.peers other = gateway.peers other := by
  cases moves <;> exact GatewayState.peers_withPeer_of_ne differs _ _

/-- The number of a frame is the sending connection's. -/
theorem Sends.peer {phase next : Phase} {connection : Connection} {index : Nat}
    {frame : SentDispatch} (sends : Sends phase connection index frame next)
    : frame.peer = index := by
  cases sends <;> rfl

/-- Sessions stay under their identifiers. -/
theorem Moves.keyed {gateway next : GatewayState} {index : Nat} {action : Action}
    (moves : Moves gateway index action next) (keyed : gateway.store.SessionsKeyed)
    : next.store.SessionsKeyed := by
  cases moves with
  | identified => exact Table.forall_insert rfl keyed
  | granted bot asked clientSequence session store phase unidentified resumed =>
      exact keyed.of_lookup (SessionStore.resumeSession_resumed resumed).2.2.2.1
  | tookOver => exact keyed.updateSequence _ _
  | advanced => exact keyed.updateSequence _ _
  | _ => exact keyed

/-- A step sends nothing, or one frame that the connection was about to send. -/
theorem Moves.sent_cases {gateway next : GatewayState} {index : Nat} {action : Action}
    (moves : Moves gateway index action next)
    : next.sent = gateway.sent
      ∨ ∃ frame phase, Sends (gateway.peers index).phase (gateway.peers index).connection index
            frame phase
          ∧ next.sent = gateway.sent ++ [frame]
          ∧ next.peers index = ⟨phase, (gateway.peers index).connection⟩ := by
  cases moves with
  | sent _ frame phase sends =>
      exact .inr ⟨frame, phase, sends, rfl, GatewayState.peers_withPeer_self ..⟩
  | _ => exact .inl rfl

/-- Only a connection that waits takes an event. -/
theorem GatewayState.step_receive {gateway next : GatewayState} {index : Nat}
    {eventType : String} {payload : Json}
    (stepped : gateway.step (index, .receive eventType payload) = some next)
    : (gateway.peers index).phase = .idle := by
  rw [GatewayState.step] at stepped
  split at stepped
  all_goals first
    | next phase _ => exact phase
    | next _ act => cases act
    | next act _ => cases act
    | cases stepped

/-- A send either goes out or closes the connection. -/
private theorem afterSend_moves {gateway : GatewayState} {index : Nat} (action : Action)
    (delivered : Bool) {frame : SentDispatch} {next : Phase}
    (sends : Sends (gateway.peers index).phase (gateway.peers index).connection index frame
      next)
    : Moves gateway index action (gateway.afterSend index delivered frame next) := by
  rw [GatewayState.afterSend]
  split
  · exact .sent action frame next sends
  · exact .closed action

/-- Creating a session is the move `identified`. -/
private theorem identify_moves {gateway next : GatewayState} {index : Nat}
    {bot : AuthenticatedBot} {sessionId : String} {intents : Nat} {ready : Json}
    (phase : (gateway.peers index).phase = .idle)
    (stepped : gateway.identify index bot sessionId intents ready = some next)
    : Moves gateway index (.identify bot sessionId intents ready) next := by
  simp only [GatewayState.identify, Option.ite_none_left_eq_some, not_or, not_not,
    Bool.not_eq_true, Option.isSome_eq_false_iff, Option.isNone_iff_eq_none] at stepped
  obtain ⟨⟨unidentified, newSession, newEvents⟩, created⟩ := stepped
  cases created
  exact .identified bot sessionId intents ready phase unidentified newSession newEvents

/-- A refused resume leaves the stored sessions and events. -/
private theorem resumeSession_refused {store next : SessionStore} {sessionId : String}
    {bot : AuthenticatedBot} {clientSequence : Int} {result : CompatGatewayResumeResult}
    (answered : store.resumeSession sessionId bot clientSequence = (result, next))
    (refused : ∀ session, result ≠ .resumed session)
    : next = store := by
  rw [SessionStore.resumeSession] at answered
  split at answered
  · cases answered
    rfl
  · split at answered
    · split at answered
      · cases answered
        rfl
      · cases answered
        exact absurd rfl (refused _)
    · cases answered
      rfl

/-- Asking for a session is the move `granted`, or closes the connection. -/
private theorem resume_moves {gateway next : GatewayState} {index : Nat}
    {bot : AuthenticatedBot} {sessionId : String} {clientSequence : Int}
    (phase : (gateway.peers index).phase = .idle)
    (stepped : gateway.resume index bot sessionId clientSequence = some next)
    : Moves gateway index (.resume bot sessionId clientSequence) next := by
  simp only [GatewayState.resume, Option.ite_none_left_eq_some, Bool.not_eq_true,
    Option.isSome_eq_false_iff, Option.isNone_iff_eq_none] at stepped
  obtain ⟨unidentified, answered⟩ := stepped
  split at answered
  · next session store resumed =>
      cases answered
      exact .granted bot sessionId clientSequence session store phase unidentified resumed
  · next result store refusal answer =>
      cases answered
      rw [resumeSession_refused answer refusal]
      exact .closed _

/-- Every step is one of the moves, by the connection's place and the action. -/
theorem GatewayState.step_moves {gateway next : GatewayState} {index : Nat}
    {action : Action} (stepped : gateway.step (index, action) = some next)
    : Moves gateway index action next := by
  rw [GatewayState.step] at stepped
  split at stepped
  · next phase act =>
      obtain rfl : action = _ := act
      exact identify_moves phase stepped
  · next phase act =>
      obtain rfl : action = _ := act
      split at stepped
      · cases stepped
      · next unidentified =>
          cases stepped
          exact .unstored phase (by rwa [Bool.not_eq_true, Option.isSome_eq_false_iff,
            Option.isNone_iff_eq_none] at unidentified)
  · next phase _ =>
      cases stepped
      exact afterSend_moves action _ (phase ▸ .ready _ _ _ _ _)
  · next phase act =>
      obtain rfl : action = _ := act
      exact resume_moves phase stepped
  · next phase act =>
      obtain rfl : action = _ := act
      cases stepped
      exact .listed _ _ _ phase
  · next phase _ =>
      cases stepped
      exact afterSend_moves action _ (phase ▸ .replayed _ _ _ _ _ _ _)
  · next phase act =>
      obtain rfl : action = _ := act
      cases stepped
      exact .tookOver _ _ _ phase
  · next phase _ =>
      cases stepped
      exact afterSend_moves action _ (phase ▸ .resumed _ _ _ _)
  · next phase act =>
      obtain rfl : action = _ := act
      split at stepped
      · next identified active =>
          cases stepped
          exact .received _ _ _ _ phase identified active
      · cases stepped
  · next phase act =>
      obtain rfl : action = _ := act
      cases stepped
      exact .appended _ _ _ _ phase
  · next phase _ =>
      cases stepped
      exact afterSend_moves action _ (phase ▸ .live _ _ _ _ _ _)
  · next phase act =>
      obtain rfl : action = _ := act
      cases stepped
      exact .advanced _ _ phase
  · cases stepped
  · cases stepped
    exact .closed action
  · cases stepped

end OpenCord.Gateway

import OpenCord.Gateway.Sessions

/-! One gateway connection: its frames, its local variables, and how it answers a resume. -/

namespace OpenCord.Gateway

open OpenCord.Library OpenCord.Platform OpenCord.Bots

/-- What the server sends on a gateway connection. -/
inductive Frame where
  | hello (heartbeatInterval : Nat)
  | heartbeatAck
  | dispatch (eventType : String) (sequence : Int) (data : Json)
  | invalidSession
  | close (code : Nat) (reason : String)

/-- A socket may refuse any send; `accepts n` tells whether send number `n` goes out. -/
structure Socket where
  accepts : Nat → Bool
  attempts : Nat
  sent : List Frame

def Socket.send (socket : Socket) (frame : Frame) : Bool × Socket :=
  if socket.accepts socket.attempts then
    (true, { socket with attempts := socket.attempts + 1, sent := socket.sent ++ [frame] })
  else
    (false, { socket with attempts := socket.attempts + 1 })

/-- Sends frames in order and stops at the first refusal. -/
def Socket.sendAll (socket : Socket) : List Frame → Bool × Socket
  | [] => (true, socket)
  | frame :: frames =>
      match socket.send frame with
      | (true, next) => next.sendAll frames
      | (false, next) => (false, next)

/-- The local variables of a connection. -/
structure Connection where
  identifiedBot : Option AuthenticatedBot
  activeSessionId : Option String
  activeIntents : Nat
  sequence : Int

/-- A connection before it identifies or resumes. -/
def Connection.opened : Connection := ⟨none, none, 0, 0⟩

/-- What a call on a connection reads and writes. -/
structure GatewayCall where
  store : SessionStore
  socket : Socket
  connection : Connection

def GatewayCall.sendInvalidSession (call : GatewayCall) : GatewayCall :=
  { call with socket := (call.socket.send .invalidSession).2 }

def GatewayCall.sendInvalidSessionAndClose (call : GatewayCall) (code : Nat)
    (reason : String) : GatewayCall :=
  match call.socket.send .invalidSession with
  | (true, socket) => { call with socket := (socket.send (.close code reason)).2 }
  | (false, socket) => { call with socket := socket }

structure ResumePayload where
  token : String
  sessionId : String
  seq : Option Int

/-- An optional number: absent and null are none, and a number must fit 64 bits. -/
def decodeSeq : Option Json → Option (Option Int)
  | none => some none
  | some .null => some none
  | some value => (value.asI64).map some

/-- A resume payload is read from an object or from an array of its three fields. -/
def decodeResumePayload : Json → Option ResumePayload
  | .object fields => do
      let token ← ((Json.object fields).get "token").bind Json.asStr
      let sessionId ← ((Json.object fields).get "session_id").bind Json.asStr
      let seq ← decodeSeq ((Json.object fields).get "seq")
      return ⟨token, sessionId, seq⟩
  | .array [token, sessionId, seq] => do
      let token ← token.asStr
      let sessionId ← sessionId.asStr
      let seq ← decodeSeq (some seq)
      return ⟨token, sessionId, seq⟩
  | _ => none

/-- The dispatch frame of a recorded event. -/
def CompatGatewayReplayEvent.frame (event : CompatGatewayReplayEvent) : Frame :=
  .dispatch event.eventType event.sequence event.payload

/-- The frame that ends a successful resume. -/
def resumedFrame (sessionId : String) (sequence : Int) : Frame :=
  .dispatch "RESUMED" sequence (.object [("session_id", .string sessionId)])

def gatewayReplayLimit : Nat := 100

/-- The number of the `RESUMED` frame: one more than the stored sequence and than the last
replayed event.
-/
def resumedSequence (session : CompatGatewaySession)
    (replayEvents : List CompatGatewayReplayEvent) : Int :=
  max session.sequence ((replayEvents.getLast?.map (·.sequence)).getD session.sequence) + 1

/-- The rest of a resume once the store has answered with the session. -/
def GatewayCall.replaySession (call : GatewayCall) (bot : AuthenticatedBot)
    (session : CompatGatewaySession) (clientSequence : Int) : Bool × GatewayCall :=
  let replayEvents :=
    call.store.listReplayEventsAfter session.sessionId clientSequence gatewayReplayLimit
  match call.socket.sendAll (replayEvents.map (·.frame)) with
  | (false, socket) => (false, { call with socket := socket })
  | (true, socket) =>
      let sequence := resumedSequence session replayEvents
      let answered := socket.send (resumedFrame session.sessionId sequence)
      (answered.1,
        { store := call.store.updateSequence session.sessionId sequence
          socket := answered.2
          connection := ⟨some bot, some session.sessionId, session.intents, sequence⟩ })

/-- Answers a resume request; the result tells whether the connection stays open. -/
def GatewayCall.resumeBot (call : GatewayCall)
    (authenticateToken : String → Option AuthenticatedBot) (payload : Option Json)
    : Bool × GatewayCall :=
  if call.connection.identifiedBot.isSome then
    (false, call.sendInvalidSessionAndClose 4005 "already authenticated")
  else
    match payload.bind decodeResumePayload with
    | none => (true, call.sendInvalidSession)
    | some payload =>
        match authenticateToken payload.token with
        | none => (false, call.sendInvalidSession)
        | some bot =>
            let clientSequence := payload.seq.getD 0
            match call.store.resumeSession payload.sessionId bot clientSequence with
            | (.resumed session, store) =>
                GatewayCall.replaySession { call with store := store } bot session
                  clientSequence
            | (.invalidSequence, store) =>
                (false, GatewayCall.sendInvalidSessionAndClose { call with store := store }
                  4007 "invalid sequence")
            | (.notFound, store) =>
                (false, GatewayCall.sendInvalidSessionAndClose { call with store := store }
                  4009 "session timed out")

-----------------------------------------------------------------------------------------
-- Sending
-----------------------------------------------------------------------------------------

/-- An accepted send appends its frame. -/
theorem Socket.send_true {socket next : Socket} {frame : Frame}
    (accepted : socket.send frame = (true, next))
    : next.sent = socket.sent ++ [frame] := by
  rw [Socket.send] at accepted
  split at accepted
  · cases accepted
    rfl
  · cases accepted

/-- Frames that all go out are appended in order, by induction over them. -/
theorem Socket.sendAll_true {socket next : Socket} {frames : List Frame}
    (accepted : socket.sendAll frames = (true, next))
    : next.sent = socket.sent ++ frames := by
  induction frames generalizing socket with
  | nil =>
      cases accepted
      exact (List.append_nil _).symm
  | cons frame frames ih =>
      rw [Socket.sendAll] at accepted
      split at accepted
      · next middle first =>
          rw [ih accepted, Socket.send_true first, List.append_assoc, List.singleton_append]
      · cases accepted

/-- A socket that accepts everything sends all frames, by induction over them. -/
theorem Socket.sendAll_of_accepting {socket : Socket}
    (accepting : ∀ attempt, socket.accepts attempt = true) (frames : List Frame)
    : ∃ next, socket.sendAll frames = (true, next) ∧ next.accepts = socket.accepts := by
  induction frames generalizing socket with
  | nil => exact ⟨socket, rfl, rfl⟩
  | cons frame frames ih =>
      simp only [Socket.sendAll, Socket.send, accepting, if_true]
      exact ih accepting

/-- A replay after which the connection stays has sent the whole page and `RESUMED`. -/
theorem GatewayCall.replaySession_stays {call last : GatewayCall} {bot : AuthenticatedBot}
    {session : CompatGatewaySession} {clientSequence : Int}
    (stays : call.replaySession bot session clientSequence = (true, last))
    : last.socket.sent
        = call.socket.sent
          ++ (call.store.listReplayEventsAfter session.sessionId clientSequence
              gatewayReplayLimit).map (·.frame)
          ++ [resumedFrame session.sessionId
              (resumedSequence session (call.store.listReplayEventsAfter session.sessionId
                clientSequence gatewayReplayLimit))] := by
  rw [GatewayCall.replaySession] at stays
  split at stays
  · cases stays
  · next socket replayed =>
      cases answered : socket.send (resumedFrame session.sessionId
          (resumedSequence session (call.store.listReplayEventsAfter session.sessionId
            clientSequence gatewayReplayLimit))) with
      | mk sent final =>
          simp only [answered] at stays
          cases stays
          rw [Socket.send_true answered, Socket.sendAll_true replayed]

/-- On a socket that accepts everything the connection stays. -/
theorem GatewayCall.replaySession_of_accepting {call : GatewayCall}
    (accepting : ∀ attempt, call.socket.accepts attempt = true) (bot : AuthenticatedBot)
    (session : CompatGatewaySession) (clientSequence : Int)
    : ∃ last, call.replaySession bot session clientSequence = (true, last) := by
  obtain ⟨socket, replayed, accepts⟩ := Socket.sendAll_of_accepting accepting
    ((call.store.listReplayEventsAfter session.sessionId clientSequence
      gatewayReplayLimit).map (·.frame))
  simp only [GatewayCall.replaySession, replayed, Socket.send, accepts, accepting, if_true]
  exact ⟨_, rfl⟩

/-- A decoded resume request after which the connection stays was answered from the
stored session of an authenticated bot.
-/
theorem GatewayCall.resumeBot_stays {call last : GatewayCall}
    {authenticateToken : String → Option AuthenticatedBot} {request : Json}
    {payload : ResumePayload} (decoded : decodeResumePayload request = some payload)
    (stays : call.resumeBot authenticateToken (some request) = (true, last))
    : ∃ bot session store,
        authenticateToken payload.token = some bot
        ∧ call.store.resumeSession payload.sessionId bot (payload.seq.getD 0)
            = (.resumed session, store)
        ∧ GatewayCall.replaySession { call with store := store } bot session
            (payload.seq.getD 0) = (true, last) := by
  rw [GatewayCall.resumeBot] at stays
  split at stays
  · cases stays
  · simp only [Option.bind_some, decoded] at stays
    split at stays
    · cases stays
    · next bot authenticated =>
        split at stays
        · next session store resumed =>
            exact ⟨bot, session, store, authenticated, resumed, stays⟩
        · cases stays
        · cases stays

end OpenCord.Gateway

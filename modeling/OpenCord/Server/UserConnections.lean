import OpenCord.Library.Broadcast
import OpenCord.Server.Invariants

/-! One WebSocket connection of a user over a whole run of the server: the frames of its client,
the events that it reads from the hub, and the frames that it sends.
-/

namespace OpenCord.Server

open OpenCord.Library OpenCord.Platform OpenCord.Auth OpenCord.Tenancy OpenCord.Realtime

structure ClientMessage where
  messageType : String
  channelId : Option String

/-- What comes from the client. A text that does not parse carries no message. -/
inductive ClientFrame where
  | text (message : Option ClientMessage)
  | ping (payload : List UInt8)
  | pong
  | close
  | binary

/-- What goes out to the client. An event carries its position in the hub. -/
inductive SocketFrame where
  | event (position : Nat) (event : RealtimeEvent)
  | pong
  | pongTo (payload : List UInt8)
  | error (code : String)

def SocketFrame.event? : SocketFrame → Option (Nat × RealtimeEvent)
  | event position published => some (position, published)
  | _ => none

namespace RealtimeController

/-- The code of the error frame that answers a typing message. -/
def typingError (state : AppState) (userId : Uuid) (channelId : Option String) : Option String :=
  match channelId.bind Uuid.parseStr with
  | none => some "invalid_payload"
  | some channelId =>
      match state.enterChannel userId channelId .sendMessages with
      | .error _ => some "forbidden"
      | .ok _ => none

/-- What a client's frame asks for: an answer that the connection needs to deliver, one that it
tries to deliver, a report of typing, or the end of the connection.
-/
inductive ClientAction where
  | answer (frame : SocketFrame)
  | error (code : String)
  | typing (channelId : Option String) (activity : TypingActivity)
  | ignore
  | close

def handleClientAction (message : ClientMessage) : ClientAction :=
  if message.messageType = "ping" then
    .answer .pong
  else if message.messageType = "typing.start" then
    .typing message.channelId .started
  else if message.messageType = "typing.stop" then
    .typing message.channelId .stopped
  else
    .error "invalid_payload"

def handleClientMessage : ClientFrame → ClientAction
  | .text (some message) => handleClientAction message
  | .text none => .error "invalid_payload"
  | .ping payload => .answer (.pongTo payload)
  | .pong => .ignore
  | .close => .close
  | .binary => .error "invalid_payload"

/-- No client is answered with an event. -/
theorem event?_of_answer {frame : ClientFrame} {answer : SocketFrame}
    (asked : handleClientMessage frame = .answer answer)
    : answer.event? = none := by
  rw [handleClientMessage.eq_def] at asked
  split at asked
  · rw [handleClientAction] at asked
    split_ifs at asked
    cases asked
    rfl
  · cases asked
  · cases asked
    rfl
  all_goals cases asked

end RealtimeController

/-- Where a connection stands in its loop. -/
inductive SocketPhase where
  /-- Waiting for a frame of the client or an event of the hub. -/
  | waiting
  /-- The event has passed the filter and is being sent. -/
  | sending (position : Nat) (event : RealtimeEvent)
  | closed

/-- A connection of a user with the stores of the server: how far it has read the hub, what it
has sent, and at which positions the filter has turned an event away.
-/
structure UserSocket where
  app : AppState
  userId : Uuid
  receiver : Receiver
  phase : SocketPhase
  sent : List SocketFrame
  turnedAway : List Nat

/-- What happens next. Other code of the server publishes at any time. The flags tell whether a
send goes out.
-/
inductive UserSocketMove where
  | publish (event : RealtimeEvent)
  | request (request : AppRequest)
  | client (stamp : EventStamp) (frame : ClientFrame) (delivered : Bool)
  | receive
  | send (delivered : Bool)
  | disconnect

namespace UserSocket

/-- A connection right after it has subscribed to the hub. -/
def subscribed (app : AppState) (userId : Uuid) : UserSocket :=
  ⟨app, userId, .subscribe app.published, .waiting, [], []⟩

/-- An answer goes out, or fails. -/
def answer (socket : UserSocket) (frame : SocketFrame) (delivered : Bool) (failed : SocketPhase)
    : UserSocket :=
  if delivered then
    { socket with sent := socket.sent ++ [frame] }
  else
    { socket with phase := failed }

/-- Handles a frame of the client. A connection outlives an error frame that fails. -/
def handle (socket : UserSocket) (stamp : EventStamp) (frame : ClientFrame) (delivered : Bool)
    : UserSocket :=
  match RealtimeController.handleClientMessage frame with
  | .answer frame => socket.answer frame delivered .closed
  | .error code => socket.answer (.error code) delivered .waiting
  | .typing channelId activity =>
      match RealtimeController.typingError socket.app socket.userId channelId with
      | some code => socket.answer (.error code) delivered .waiting
      | none =>
          { socket with
            app := (RealtimeController.publishTyping stamp socket.userId channelId
              activity).after socket.app }
  | .ignore => socket
  | .close => { socket with phase := .closed }

/-- Reads the hub. What a receiver has missed is skipped, without a word to the client. -/
def receive (socket : UserSocket) : Option UserSocket :=
  (socket.receiver.recv RealtimeHub.capacity socket.app.published).map fun (received, receiver) =>
    match received with
    | .lagged _ => { socket with receiver := receiver }
    | .message position event =>
        if RealtimeController.canReceiveEvent socket.app socket.userId event then
          { socket with receiver := receiver, phase := .sending position event }
        else
          { socket with receiver := receiver, turnedAway := socket.turnedAway ++ [position] }

def step (crypto : Crypto) (socket : UserSocket) : UserSocketMove → Option UserSocket
  | .publish event =>
      some { socket with
        app := { socket.app with published := socket.app.published ++ [event] } }
  | .request request =>
      (socket.app.step crypto request).map fun app => { socket with app := app }
  | .client stamp frame delivered =>
      match socket.phase with
      | .waiting => some (socket.handle stamp frame delivered)
      | _ => none
  | .receive =>
      match socket.phase with
      | .waiting => socket.receive
      | _ => none
  | .send delivered =>
      match socket.phase with
      | .sending position event =>
          if delivered then
            some { socket with
              phase := .waiting
              sent := socket.sent ++ [.event position event] }
          else
            some { socket with phase := .closed }
      | _ => none
  | .disconnect =>
      match socket.phase with
      | .closed => none
      | _ => some { socket with phase := .closed }

/-- The event that is being sent. -/
def underway (socket : UserSocket) : List (Nat × RealtimeEvent) :=
  match socket.phase with
  | .sending position event => [(position, event)]
  | _ => []

/-- The events that were sent, with the one that is being sent, and those turned away. -/
def handled (socket : UserSocket) : Handled RealtimeEvent where
  handedOn := socket.sent.filterMap SocketFrame.event? ++ socket.underway
  turnedAway := socket.turnedAway

@[simp] theorem handled_withReceiver (socket : UserSocket) (receiver : Receiver)
    : UserSocket.handled { socket with receiver := receiver } = socket.handled :=
  rfl

def isClosed (socket : UserSocket) : Bool :=
  match socket.phase with
  | .closed => true
  | _ => false

@[simp] theorem isClosed_withReceiver (socket : UserSocket) (receiver : Receiver)
    : UserSocket.isClosed { socket with receiver := receiver } = socket.isClosed :=
  rfl

/-- As long as the connection is open it sends every event that passes the filter, in the order
in which the events were published.
-/
def LosesNothing (socket : UserSocket) : Prop :=
  socket.isClosed = false →
    Handled.LosesNothing socket.app.published socket.receiver socket.handled

/-- The connection does not read the hub when it is more than the capacity behind. -/
def KeepsUp (socket : UserSocket) (move : UserSocketMove) : Prop :=
  move = .receive → ¬ socket.receiver.Behind RealtimeHub.capacity socket.app.published

-----------------------------------------------------------------------------------------
-- What a step can do
-----------------------------------------------------------------------------------------

variable {crypto : Crypto} {socket next : UserSocket}

/-- A step that reads nothing from the hub: events are published, and an open connection has
handled what it had handled before.
-/
structure Carries (socket next : UserSocket) : Prop where
  keyed : next.app.Keyed
  grows : socket.app.published <+: next.app.published
  receiver : next.receiver = socket.receiver
  handled : next.isClosed = false → socket.isClosed = false ∧ next.handled = socket.handled

/-- A step that leaves the connection alone. -/
theorem carries_withApp {app : AppState} (keyed : app.Keyed)
    (grows : socket.app.published <+: app.published)
    : Carries socket { socket with app := app } :=
  ⟨keyed, grows, rfl, fun isOpen => ⟨isOpen, rfl⟩⟩

theorem carries_closed (keyed : socket.app.Keyed)
    : Carries socket { socket with phase := .closed } :=
  ⟨keyed, List.prefix_refl _, rfl, fun isOpen => nomatch isOpen⟩

/-- An answer is no event. -/
theorem carries_answer (keyed : socket.app.Keyed) (waits : socket.phase = .waiting)
    {frame : SocketFrame} (isAnswer : frame.event? = none) (delivered : Bool)
    {failed : SocketPhase} (goesOn : failed = .waiting ∨ failed = .closed)
    : Carries socket (socket.answer frame delivered failed) := by
  rw [answer]
  split
  · refine ⟨keyed, List.prefix_refl _, rfl, fun isOpen => ⟨isOpen, ?_⟩⟩
    simp only [UserSocket.handled, underway, List.filterMap_append, List.filterMap_cons,
      isAnswer, List.filterMap_nil, List.append_nil]
  · rcases goesOn with rfl | rfl
    · rw [← waits]
      exact carries_withApp keyed (List.prefix_refl _)
    · exact carries_closed keyed

/-- What a client asks for sends no event and turns none away. -/
theorem carries_handle (keyed : socket.app.Keyed) (waits : socket.phase = .waiting)
    (stamp : EventStamp) (frame : ClientFrame) (delivered : Bool)
    : Carries socket (socket.handle stamp frame delivered) := by
  rw [handle]
  split
  · next answered asked =>
      refine carries_answer keyed waits ?_ delivered (.inr rfl)
      exact RealtimeController.event?_of_answer asked
  · exact carries_answer keyed waits rfl delivered (.inl rfl)
  · next channelId activity _ =>
      split
      · exact carries_answer keyed waits rfl delivered (.inl rfl)
      · have writes : Writes AnyMember socket.app _ :=
          publishTyping_writes keyed stamp socket.userId channelId activity
        obtain ⟨keyed, grows⟩ := writes.publishes keyed
        exact carries_withApp keyed grows
  · exact carries_withApp keyed (List.prefix_refl _)
  · exact carries_closed keyed

/-- A step that reads the hub is one of the three: the connection skips what it has missed, it
starts to send its next event, or the filter turns that event away.
-/
theorem receive_cases (received : socket.receive = some next)
    : socket.receiver.Behind RealtimeHub.capacity socket.app.published
        ∧ next = { socket with
            receiver := { socket.receiver with
              next := socket.app.published.length - RealtimeHub.capacity } }
      ∨ ¬ socket.receiver.Behind RealtimeHub.capacity socket.app.published
        ∧ ∃ event, socket.app.published[socket.receiver.next]? = some event
          ∧ (RealtimeController.canReceiveEvent socket.app socket.userId event = true
              ∧ next = { socket with
                  receiver := { socket.receiver with next := socket.receiver.next + 1 }
                  phase := .sending socket.receiver.next event }
            ∨ RealtimeController.canReceiveEvent socket.app socket.userId event = false
              ∧ next = { socket with
                  receiver := { socket.receiver with next := socket.receiver.next + 1 }
                  turnedAway := socket.turnedAway ++ [socket.receiver.next] }) := by
  obtain ⟨⟨read, receiver⟩, recv, result⟩ := Option.map_eq_some_iff.mp received
  cases read with
  | lagged missed =>
      obtain ⟨behind, rfl⟩ := Receiver.recv_lagged recv
      exact .inl ⟨behind, result.symm⟩
  | message position event =>
      obtain ⟨keepsUp, rfl, published, rfl⟩ := Receiver.recv_message recv
      refine .inr ⟨keepsUp, event, published, ?_⟩
      simp only at result
      split at result
      · next passes => exact .inl ⟨passes, result.symm⟩
      · next rejects => exact .inr ⟨Bool.not_eq_true _ ▸ rejects, result.symm⟩

/-- Steps other than reading the hub. -/
theorem step_carries (keyed : socket.app.Keyed) {move : UserSocketMove}
    (stepped : socket.step crypto move = some next) (readsNothing : move ≠ .receive)
    : Carries socket next := by
  cases move with
  | publish event =>
      cases stepped
      exact carries_withApp ⟨keyed.spaces, keyed.channels⟩ (List.prefix_append ..)
  | request request =>
      obtain ⟨app, performed, rfl⟩ := Option.map_eq_some_iff.mp stepped
      obtain ⟨keyed, grows⟩ := keyed.step performed
      exact carries_withApp keyed grows
  | client stamp frame delivered =>
      rw [step] at stepped
      split at stepped
      · next waits =>
          cases stepped
          exact carries_handle keyed waits stamp frame delivered
      · cases stepped
  | receive => exact absurd rfl readsNothing
  | send delivered =>
      rw [step] at stepped
      split at stepped
      · next position event sends =>
          split at stepped
          · cases stepped
            refine ⟨keyed, List.prefix_refl _, rfl, fun _ => ⟨?_, ?_⟩⟩
            · rw [isClosed, sends]
            · simp only [UserSocket.handled, underway, sends, List.filterMap_append,
                List.filterMap_cons, SocketFrame.event?, List.filterMap_nil, List.append_nil]
          · cases stepped
            exact carries_closed keyed
      · cases stepped
  | disconnect =>
      rw [step] at stepped
      split at stepped
      · cases stepped
      · cases stepped
        exact carries_closed keyed

/-- The stores are under their identifiers, and an open connection stands where it has handled
earlier events only.
-/
structure Invariant (socket : UserSocket) : Prop where
  keyed : socket.app.Keyed
  within : socket.isClosed = false →
    Handled.Within socket.app.published socket.receiver socket.handled

theorem invariant_subscribed {app : AppState} (keyed : app.Keyed) (userId : Uuid)
    : (subscribed app userId).Invariant :=
  ⟨keyed, fun _ => Handled.within_subscribe app.published⟩

theorem losesNothing_subscribed (app : AppState) (userId : Uuid)
    : (subscribed app userId).LosesNothing :=
  fun _ => Handled.losesNothing_subscribe app.published

/-- Only a waiting connection reads the hub. -/
theorem step_receive (stepped : socket.step crypto .receive = some next)
    : socket.phase = .waiting ∧ socket.receive = some next := by
  rw [step] at stepped
  split at stepped
  · next waits => exact ⟨waits, stepped⟩
  · cases stepped

theorem handled_of_waiting (waits : socket.phase = .waiting)
    : socket.handled = ⟨socket.sent.filterMap SocketFrame.event?, socket.turnedAway⟩ := by
  rw [UserSocket.handled, underway, waits, List.append_nil]

/-- Every step keeps the invariant. -/
theorem Invariant.step (invariant : socket.Invariant) {move : UserSocketMove}
    (stepped : socket.step crypto move = some next)
    : next.Invariant := by
  by_cases reads : move = .receive
  · subst reads
    obtain ⟨waits, received⟩ := step_receive stepped
    have within := invariant.within (by rw [isClosed, waits])
    rcases receive_cases received with ⟨behind, rfl⟩ | ⟨_, event, published, read⟩
    · refine ⟨invariant.keyed, fun _ => ?_⟩
      rw [handled_withReceiver]
      exact within.skip behind
    · rcases read with ⟨_, rfl⟩ | ⟨_, rfl⟩
      · rw [handled_of_waiting waits] at within
        exact ⟨invariant.keyed, fun _ => within.handOn published⟩
      · exact ⟨invariant.keyed, fun _ => within.turnAway published⟩
  · obtain ⟨keyed, grows, receiver, handled⟩ := step_carries invariant.keyed stepped reads
    refine ⟨keyed, fun isOpen => ?_⟩
    obtain ⟨wasOpen, same⟩ := handled isOpen
    rw [receiver, same]
    exact (invariant.within wasOpen).grow grows

/-- A step loses an event exactly when it reads the hub too late. -/
theorem LosesNothing.step_iff (invariant : socket.Invariant) (whole : socket.LosesNothing)
    {move : UserSocketMove} (stepped : socket.step crypto move = some next)
    : next.LosesNothing ↔ socket.KeepsUp move := by
  by_cases reads : move = .receive
  · subst reads
    obtain ⟨waits, received⟩ := step_receive stepped
    have isOpen : socket.isClosed = false := by rw [isClosed, waits]
    have within := invariant.within isOpen
    have whole := whole isOpen
    rcases receive_cases received with ⟨behind, rfl⟩ | ⟨keepsUp, event, published, read⟩
    · refine iff_of_false (fun later => ?_) fun keepsUp => keepsUp rfl behind
      have later := later ((isClosed_withReceiver ..).trans isOpen)
      rw [handled_withReceiver] at later
      exact within.not_losesNothing behind later
    · refine iff_of_true (fun _ => ?_) fun _ => keepsUp
      rcases read with ⟨_, rfl⟩ | ⟨_, rfl⟩
      · rw [handled_of_waiting waits] at within whole
        exact whole.handOn within published
      · exact whole.turnAway
  · obtain ⟨_, grows, receiver, handled⟩ := step_carries invariant.keyed stepped reads
    refine iff_of_true (fun isOpen => ?_) fun same => absurd same reads
    obtain ⟨wasOpen, same⟩ := handled isOpen
    rw [receiver, same]
    exact (whole wasOpen).grow grows

/-- Along a run nothing is lost exactly when the connection always keeps up. -/
theorem always_losesNothing_iff {app : AppState} (keyed : app.Keyed) (userId : Uuid)
    {moves : List UserSocketMove} {last : UserSocket}
    (ran : run (step crypto) (subscribed app userId) moves = some last)
    : Always (step crypto) LosesNothing (subscribed app userId) moves
      ↔ Allowed (step crypto) KeepsUp (subscribed app userId) moves :=
  always_iff_allowed (fun _ _ _ invariant _ stepped _ => invariant.step stepped)
    (fun _ _ _ invariant whole stepped => whole.step_iff invariant stepped)
    (invariant_subscribed keyed userId) (losesNothing_subscribed app userId) ran

end UserSocket

end OpenCord.Server

import OpenCord.Library.Broadcast
import OpenCord.Server.World

/-! One gateway connection over a whole run of the server: the events that it reads from the hub
and the dispatches that it sends for them.
-/

namespace OpenCord.Gateway

open OpenCord.Platform OpenCord.Bots

/-- The connection waits for a frame of its client or an event of the hub. -/
def Phase.isIdle : Phase → Bool
  | .idle => true
  | _ => false

theorem Phase.isIdle_iff {phase : Phase} : phase.isIdle ↔ phase = .idle := by
  cases phase <;> simp [Phase.isIdle]

/-- The dispatch that a connection has numbered and not sent yet. -/
def Peer.underway (peer : Peer) (index : Nat) : List SentDispatch :=
  match peer.phase with
  | .appending bot sessionId eventType payload =>
      [liveFrame index bot sessionId eventType peer.connection.sequence payload]
  | .sending bot sessionId eventType payload =>
      [liveFrame index bot sessionId eventType peer.connection.sequence payload]
  | _ => []

namespace GatewayState

/-- The dispatches of hub events that went out on a connection. -/
def dispatched (gateway : GatewayState) (index : Nat) : List SentDispatch :=
  gateway.sent.filter fun frame => frame.peer = index ∧ frame.origin = .live

/-- The dispatches of a connection in the order of their events, with the one not sent yet. -/
def live (gateway : GatewayState) (index : Nat) : List SentDispatch :=
  gateway.dispatched index ++ (gateway.peers index).underway index

end GatewayState

section

variable {gateway next : GatewayState} {index : Nat} {action : Action}

/-- Frames of other connections do not count. -/
theorem Moves.live_of_ne (moves : Moves gateway index action next) {other : Nat}
    (differs : other ≠ index)
    : next.live other = gateway.live other := by
  have dispatched : next.dispatched other = gateway.dispatched other := by
    rcases moves.sent_cases with same | ⟨frame, _, sends, sent, _⟩
    · rw [GatewayState.dispatched, same, GatewayState.dispatched]
    · have elsewhere : ¬ (frame.peer = other ∧ frame.origin = .live) :=
        fun own => differs (own.1.symm.trans sends.peer)
      rw [GatewayState.dispatched, sent, List.filter_append,
        List.filter_cons_of_neg (by rwa [decide_eq_true_iff]), List.filter_nil, List.append_nil,
        GatewayState.dispatched]
  rw [GatewayState.live, GatewayState.live, dispatched, moves.peers_of_ne differs]

/-- What is sent was numbered before, and is the dispatch of an event only after it was recorded.
-/
theorem Sends.underway {phase after : Phase} {connection : Connection} {frame : SentDispatch}
    (sends : Sends phase connection index frame after)
    : [frame].filter (fun frame => frame.peer = index ∧ frame.origin = .live)
          ++ Peer.underway ⟨after, connection⟩ index
        = Peer.underway ⟨phase, connection⟩ index := by
  cases sends <;> simp [Peer.underway, liveFrame]

/-- Until it takes the next event or ends, a connection dispatches what it has numbered. -/
theorem Moves.live (moves : Moves gateway index action next)
    (takesNoEvent : ∀ name payload, action ≠ .receive name payload)
    (isOpen : (next.peers index).phase.isClosed = false)
    : next.live index = gateway.live index := by
  have unsent {phase : Phase} {connection : Connection} {other : GatewayState}
      (sent : other.sent = gateway.sent)
      (same : Peer.underway ⟨phase, connection⟩ index = (gateway.peers index).underway index)
      : (other.withPeer index phase connection).live index = gateway.live index := by
    rw [GatewayState.live, GatewayState.peers_withPeer_self, same]
    exact congrArg (fun sent => List.filter _ sent ++ _) sent
  cases moves with
  | identified bot sessionId intents ready phase =>
      refine unsent rfl ?_
      rw [Peer.underway, Peer.underway, phase]
  | unstored phase =>
      refine unsent rfl ?_
      rw [Peer.underway, Peer.underway, phase]
  | granted bot sessionId clientSequence session store phase =>
      refine unsent rfl ?_
      rw [Peer.underway, Peer.underway, phase]
  | listed bot session clientSequence phase =>
      refine unsent rfl ?_
      rw [Peer.underway, Peer.underway, phase]
  | tookOver bot session page phase =>
      refine unsent rfl ?_
      rw [Peer.underway, Peer.underway, phase]
  | received bot sessionId eventType payload => exact absurd rfl (takesNoEvent eventType payload)
  | appended bot sessionId eventType payload phase =>
      refine unsent rfl ?_
      rw [Peer.underway, Peer.underway, phase]
  | advanced bot sessionId phase =>
      refine unsent rfl ?_
      rw [Peer.underway, Peer.underway, phase]
  | sent _ frame phase sends =>
      rw [GatewayState.live, GatewayState.peers_withPeer_self, GatewayState.live, ← sends.underway,
        ← List.append_assoc]
      exact congrArg (· ++ _) (List.filter_append ..)
  | closed =>
      rw [GatewayState.peers_withPeer_self] at isOpen
      cases isOpen

/-- A connection that has ended stays so. -/
theorem Moves.isOpen (moves : Moves gateway index action next)
    (isOpen : (next.peers index).phase.isClosed = false)
    : (gateway.peers index).phase.isClosed = false := by
  cases moves with
  | sent _ frame phase sends =>
      generalize (gateway.peers index).phase = phase at sends
      cases sends <;> rfl
  | closed =>
      rw [GatewayState.peers_withPeer_self] at isOpen
      cases isOpen
  | _ => simp only [*, Phase.isClosed]

/-- A waiting connection numbers the dispatch of the event that it takes. -/
theorem GatewayState.step_receive_of_identified {bot : AuthenticatedBot}
    {sessionId eventType : String} {payload : Json}
    (waits : (gateway.peers index).phase = .idle)
    (identified : (gateway.peers index).connection.identifiedBot = some bot)
    (active : (gateway.peers index).connection.activeSessionId = some sessionId)
    : gateway.step (index, .receive eventType payload)
        = some (gateway.withPeer index (.appending bot sessionId eventType payload)
            { (gateway.peers index).connection with
              sequence := (gateway.peers index).connection.sequence + 1 }) := by
  simp only [GatewayState.step, waits, identified, active]

end

end OpenCord.Gateway

namespace OpenCord.Server

open OpenCord.Library OpenCord.Platform OpenCord.Auth OpenCord.Bots OpenCord.Realtime
  OpenCord.Gateway

/-- The connection takes an event from the hub. -/
def WorldMove.readsOn (index : Nat) : WorldMove → Bool
  | .receive other _ => other = index
  | _ => false

/-- A gateway connection with all the rest: how far it has read the hub, and at which positions
it has left an event without a dispatch.
-/
structure GatewaySocket where
  world : World
  index : Nat
  receiver : Receiver
  turnedAway : List Nat

/-- What happens next. Other code of the server publishes at any time. -/
inductive GatewaySocketMove where
  | publish (event : RealtimeEvent)
  | world (move : WorldMove)
  | receive

namespace GatewaySocket

/-- A connection right after it has subscribed to the hub. -/
def subscribed (world : World) (index : Nat) : GatewaySocket :=
  ⟨world, index, .subscribe world.app.published, []⟩

def peer (socket : GatewaySocket) : Peer := socket.world.gateway.peers socket.index

/-- Reads the hub. What a receiver has missed is skipped, without a word to the client. -/
def receive (socket : GatewaySocket) : Option GatewaySocket :=
  (socket.receiver.recv RealtimeHub.capacity socket.world.app.published).map
    fun (received, receiver) =>
      match received with
      | .lagged _ => { socket with receiver := receiver }
      | .message position _ =>
          match socket.world.receive socket.index position with
          | some world => { socket with world := world, receiver := receiver }
          | none =>
              { socket with receiver := receiver, turnedAway := socket.turnedAway ++ [position] }

def step (crypto : Crypto) (socket : GatewaySocket) : GatewaySocketMove → Option GatewaySocket
  | .publish event =>
      let app := { socket.world.app with published := socket.world.app.published ++ [event] }
      some { socket with world := { socket.world with app := app } }
  | .world move =>
      if move.readsOn socket.index then
        none
      else
        (socket.world.step crypto move).map fun world => { socket with world := world }
  | .receive =>
      match socket.peer.phase with
      | .idle => socket.receive
      | _ => none

/-- The events that the connection has dispatched, with the one whose dispatch is not sent yet.
-/
def checks (socket : GatewaySocket) : List DispatchCheck :=
  socket.world.checks.filter fun check => check.frame.peer = socket.index

/-- The events with a dispatch and the positions of those without one. -/
def handled (socket : GatewaySocket) : Handled RealtimeEvent where
  handedOn := socket.checks.map fun check => (check.position, check.event)
  turnedAway := socket.turnedAway

/-- As long as the connection is open it sends the dispatch of every event that passes the
filters, in the order in which the events were published.
-/
def LosesNothing (socket : GatewaySocket) : Prop :=
  socket.peer.phase.isClosed = false →
    Handled.LosesNothing socket.world.app.published socket.receiver socket.handled
      ∧ socket.world.gateway.live socket.index = socket.checks.map DispatchCheck.frame

/-- The connection does not read the hub when it is more than the capacity behind. -/
def KeepsUp (socket : GatewaySocket) (move : GatewaySocketMove) : Prop :=
  move = .receive → ¬ socket.receiver.Behind RealtimeHub.capacity socket.world.app.published

end GatewaySocket

-----------------------------------------------------------------------------------------
-- What a step can do
-----------------------------------------------------------------------------------------

variable {crypto : Crypto}

/-- A step in which a connection reads nothing from the hub. -/
structure World.Carries (index : Nat) (world next : World) : Prop where
  keyed : next.app.Keyed
  grows : world.app.published <+: next.app.published
  cursors : next.cursors index = world.cursors index
  checks : next.checks.filter (fun check => check.frame.peer = index)
    = world.checks.filter fun check => check.frame.peer = index
  live : (next.gateway.peers index).phase.isClosed = false →
    (world.gateway.peers index).phase.isClosed = false
      ∧ next.gateway.live index = world.gateway.live index

/-- The checks of other connections do not count. -/
theorem filter_checks_append {checks : List DispatchCheck} {check : DispatchCheck} {index : Nat}
    (elsewhere : check.frame.peer ≠ index)
    : (checks ++ [check]).filter (fun check => check.frame.peer = index)
        = checks.filter fun check => check.frame.peer = index := by
  rw [List.filter_append, List.filter_cons_of_neg (by rwa [decide_eq_true_iff]),
    List.filter_nil, List.append_nil]

/-- A step in which a connection takes an event and numbers its dispatch. -/
structure World.Takes (index position : Nat) (event : RealtimeEvent) (world next : World)
    : Prop where
  app : next.app = world.app
  cursors : next.cursors index = position + 1
  isOpen : (next.gateway.peers index).phase.isClosed = false
  checked : ∃ check, check.position = position ∧ check.event = event
    ∧ next.checks.filter (fun check => check.frame.peer = index)
      = world.checks.filter (fun check => check.frame.peer = index) ++ [check]
    ∧ next.gateway.live index = world.gateway.live index ++ [check.frame]

theorem World.takes {world next : World} {index position : Nat} {event : RealtimeEvent}
    (waits : (world.gateway.peers index).phase = .idle)
    (published : world.app.published[position]? = some event)
    (received : world.receive index position = some next)
    : world.Takes index position event next := by
  obtain ⟨found, bot, sessionId, name, payload, gateway, publishedToo, identified, active, _,
    stepped, rfl⟩ := World.receive_eq_some received
  obtain rfl : event = found := Option.some.inj (published.symm.trans publishedToo)
  rw [GatewayState.step_receive_of_identified waits identified active] at stepped
  cases stepped
  refine ⟨rfl, Function.update_self .., ?_, ⟨position, event, world.app,
    (world.gateway.peers index).connection.activeIntents, liveFrame index bot sessionId name
      ((world.gateway.peers index).connection.sequence + 1) payload⟩, rfl, rfl, ?_, ?_⟩
  · rw [GatewayState.peers_withPeer_self]
    rfl
  · refine (List.filter_append ..).trans (congrArg _ ?_)
    exact List.filter_cons_of_pos (decide_eq_true rfl)
  · rw [GatewayState.live, GatewayState.peers_withPeer_self, GatewayState.live, Peer.underway,
      Peer.underway, waits, List.append_nil]
    rfl

theorem WorldMoves.carries {world next : World} {move : WorldMove} {index : Nat}
    (moves : WorldMoves crypto world move next) (keyed : world.app.Keyed)
    (readsNothing : move.readsOn index = false)
    : world.Carries index next := by
  cases moves with
  | requested request app performed =>
      obtain ⟨keyed, grows⟩ := keyed.step performed
      exact ⟨keyed, grows, rfl, rfl, fun isOpen => ⟨isOpen, rfl⟩⟩
  | connected => exact ⟨keyed, List.prefix_refl _, rfl, rfl, fun isOpen => ⟨isOpen, rfl⟩⟩
  | forwarded => exact ⟨keyed, List.prefix_refl _, rfl, rfl, fun isOpen => ⟨isOpen, rfl⟩⟩
  | onGateway _ other action gateway _ moves takesNoEvent =>
      refine ⟨keyed, List.prefix_refl _, rfl, rfl, fun isOpen => ?_⟩
      by_cases own : index = other
      · subst own
        exact ⟨moves.isOpen isOpen, moves.live takesNoEvent isOpen⟩
      · rw [moves.peers_of_ne own] at isOpen
        exact ⟨isOpen, moves.live_of_ne own⟩
  | received other position event bot sessionId name payload gateway waits published identified
      active dispatched moves =>
      have differs : other ≠ index := of_decide_eq_false readsNothing
      refine ⟨keyed, List.prefix_refl _, Function.update_of_ne (Ne.symm differs) .., ?_,
        fun isOpen => ?_⟩
      · exact filter_checks_append differs
      · rw [moves.peers_of_ne (Ne.symm differs)] at isOpen
        exact ⟨isOpen, moves.live_of_ne (Ne.symm differs)⟩

/-- A connection that has not taken a step yet. -/
structure World.Unused (index : Nat) (world : World) : Prop where
  keyed : world.app.Keyed
  peer : world.gateway.peers index = .opened
  cursor : world.cursors index = 0
  checks : world.checks.filter (fun check => check.frame.peer = index) = []
  live : world.gateway.live index = []

theorem World.unused_empty (index : Nat) : World.empty.Unused index where
  keyed := AppState.empty_keyed
  peer := rfl
  cursor := rfl
  checks := rfl
  live := rfl

theorem World.Unused.step {world next : World} {move : WorldMove} {index : Nat}
    (unused : world.Unused index) (elsewhere : move.connection? ≠ some index)
    (moves : WorldMoves crypto world move next)
    : next.Unused index := by
  have readsNothing : move.readsOn index = false := by
    cases move with
    | receive other position => exact decide_eq_false fun same => elsewhere (congrArg some same)
    | _ => rfl
  have peer := (moves.peers_of_ne elsewhere).trans unused.peer
  obtain ⟨keyed, _, cursors, checks, live⟩ := moves.carries unused.keyed readsNothing
  have isOpen : (next.gateway.peers index).phase.isClosed = false := peer ▸ rfl
  exact ⟨keyed, peer, cursors.trans unused.cursor, checks.trans unused.checks,
    (live isOpen).2.trans unused.live⟩

/-- A run of the server leaves the connections that take no step of it unused, by induction over
the steps.
-/
theorem World.Unused.run {world last : World} {moves : List WorldMove} {index : Nat}
    (unused : world.Unused index) (elsewhere : ∀ move ∈ moves, move.connection? ≠ some index)
    (ran : Library.run (World.step crypto) world moves = some last)
    : last.Unused index := by
  induction moves generalizing world with
  | nil =>
      cases ran
      exact unused
  | cons move moves ih =>
      obtain ⟨next, stepped, rest⟩ := run_cons_eq_some.mp ran
      obtain ⟨first, later⟩ := List.forall_mem_cons.mp elsewhere
      exact ih (unused.step first (World.step_moves stepped)) later rest

namespace GatewaySocket

variable {socket next : GatewaySocket}

@[simp] theorem handled_withReceiver (socket : GatewaySocket) (receiver : Receiver)
    : GatewaySocket.handled { socket with receiver := receiver } = socket.handled :=
  rfl

@[simp] theorem peer_withReceiver (socket : GatewaySocket) (receiver : Receiver)
    : GatewaySocket.peer { socket with receiver := receiver } = socket.peer :=
  rfl

/-- Only a waiting connection reads the hub. -/
theorem step_receive (stepped : socket.step crypto .receive = some next)
    : socket.peer.phase = .idle ∧ socket.receive = some next := by
  rw [step] at stepped
  split at stepped
  · next waits => exact ⟨waits, stepped⟩
  · cases stepped

/-- Steps other than reading the hub. -/
theorem step_carries (keyed : socket.world.app.Keyed) {move : GatewaySocketMove}
    (stepped : socket.step crypto move = some next) (readsNothing : move ≠ .receive)
    : ∃ world, socket.world.Carries socket.index world ∧ next = { socket with world := world } := by
  cases move with
  | publish event =>
      cases stepped
      refine ⟨{ socket.world with
        app := { socket.world.app with published := socket.world.app.published ++ [event] } },
        ?_, rfl⟩
      exact ⟨⟨keyed.spaces, keyed.channels⟩, List.prefix_append .., rfl, rfl,
        fun isOpen => ⟨isOpen, rfl⟩⟩
  | world move =>
      obtain ⟨elsewhere, stepped⟩ := Option.ite_none_left_eq_some.mp stepped
      obtain ⟨world, moved, rfl⟩ := Option.map_eq_some_iff.mp stepped
      have moves := World.step_moves moved
      exact ⟨world, moves.carries keyed (Bool.not_eq_true _ ▸ elsewhere), rfl⟩
  | receive => exact absurd rfl readsNothing

/-- A step that reads the hub is one of the three: the connection skips what it has missed, it
dispatches its next event, or it leaves that event.
-/
theorem receive_cases (received : socket.receive = some next)
    : socket.receiver.Behind RealtimeHub.capacity socket.world.app.published
        ∧ next = { socket with
            receiver := { socket.receiver with
              next := socket.world.app.published.length - RealtimeHub.capacity } }
      ∨ ¬ socket.receiver.Behind RealtimeHub.capacity socket.world.app.published
        ∧ ∃ event, socket.world.app.published[socket.receiver.next]? = some event
          ∧ ((∃ world, socket.world.receive socket.index socket.receiver.next = some world
                ∧ next = { socket with
                    world := world
                    receiver := { socket.receiver with next := socket.receiver.next + 1 } })
            ∨ socket.world.receive socket.index socket.receiver.next = none
              ∧ next = { socket with
                  receiver := { socket.receiver with next := socket.receiver.next + 1 }
                  turnedAway := socket.turnedAway ++ [socket.receiver.next] }) := by
  obtain ⟨⟨read, receiver⟩, recv, result⟩ := Option.map_eq_some_iff.mp received
  cases read with
  | lagged missed =>
      obtain ⟨behind, rfl⟩ := Receiver.recv_lagged recv
      exact .inl ⟨behind, result.symm⟩
  | message position event =>
      obtain ⟨keepsUp, rfl, published, rfl⟩ := Receiver.recv_message recv
      refine .inr ⟨keepsUp, event, published, ?_⟩
      simp only at result
      split at result
      · next world takes => exact .inl ⟨world, takes, result.symm⟩
      · next leaves => exact .inr ⟨leaves, result.symm⟩

/-- The stores are under their identifiers, and an open connection stands where it has handled
earlier events only.
-/
structure Invariant (socket : GatewaySocket) : Prop where
  keyed : socket.world.app.Keyed
  cursor : socket.world.cursors socket.index ≤ socket.receiver.next
  within : socket.peer.phase.isClosed = false →
    Handled.Within socket.world.app.published socket.receiver socket.handled

/-- An event is left exactly if a filter rejects it: the connection is not identified, or the event
leads to no dispatch for its bot and its intents.
-/
theorem Invariant.receive_eq_none_iff (invariant : socket.Invariant)
    (waits : socket.peer.phase = .idle) {event : RealtimeEvent}
    (published : socket.world.app.published[socket.receiver.next]? = some event)
    : socket.world.receive socket.index socket.receiver.next = none
      ↔ ∀ bot sessionId, socket.peer.connection.identifiedBot = some bot →
          socket.peer.connection.activeSessionId = some sessionId →
          CompatGatewayController.dispatchFor socket.world.app bot
            socket.peer.connection.activeIntents event = none := by
  simp only [GatewaySocket.peer] at waits ⊢
  rw [World.receive, if_neg (Nat.not_lt.mpr invariant.cursor), published]
  cases identified : (socket.world.gateway.peers socket.index).connection.identifiedBot with
  | none => simp
  | some bot =>
      cases active : (socket.world.gateway.peers socket.index).connection.activeSessionId with
      | none => simp
      | some sessionId =>
          cases dispatched : CompatGatewayController.dispatchFor socket.world.app bot
              (socket.world.gateway.peers socket.index).connection.activeIntents event with
          | none => simp [dispatched]
          | some dispatch =>
              simp [dispatched,
                GatewayState.step_receive_of_identified waits identified active]

/-- A connection that takes an event hands it on. -/
theorem handled_of_takes {world : World} {position : Nat} {event : RealtimeEvent}
    (takes : socket.world.Takes socket.index position event world) (receiver : Receiver)
    : GatewaySocket.handled { socket with world := world, receiver := receiver }
        = socket.handled.handOn position event := by
  obtain ⟨check, rfl, rfl, checks, _⟩ := takes.checked
  rw [GatewaySocket.handled, GatewaySocket.checks, checks, List.map_append]
  rfl

theorem handled_of_carries {world : World} (carries : socket.world.Carries socket.index world)
    : GatewaySocket.handled { socket with world := world } = socket.handled := by
  rw [GatewaySocket.handled, GatewaySocket.checks, carries.checks]
  rfl

/-- Every step keeps the invariant. -/
theorem Invariant.step (invariant : socket.Invariant) {move : GatewaySocketMove}
    (stepped : socket.step crypto move = some next)
    : next.Invariant := by
  by_cases reads : move = .receive
  · subst reads
    obtain ⟨waits, received⟩ := step_receive stepped
    have within := invariant.within (waits ▸ rfl)
    rcases receive_cases received with ⟨behind, rfl⟩ | ⟨_, event, published, read⟩
    · refine ⟨invariant.keyed, invariant.cursor.trans (Nat.le_of_lt behind), fun _ => ?_⟩
      rw [handled_withReceiver]
      exact within.skip behind
    · rcases read with ⟨world, taken, rfl⟩ | ⟨_, rfl⟩
      · have takes := World.takes waits published taken
        refine ⟨takes.app ▸ invariant.keyed, takes.cursors.le, fun _ => ?_⟩
        rw [handled_of_takes takes]
        exact takes.app ▸ within.handOn published
      · refine ⟨invariant.keyed, invariant.cursor.trans (Nat.le_succ _), fun _ => ?_⟩
        exact within.turnAway published
  · obtain ⟨world, carries, rfl⟩ := step_carries invariant.keyed stepped reads
    refine ⟨carries.keyed, carries.cursors.le.trans invariant.cursor, fun isOpen => ?_⟩
    rw [handled_of_carries carries]
    exact (invariant.within (carries.live isOpen).1).grow carries.grows

/-- A step loses an event exactly when it reads the hub too late. -/
theorem LosesNothing.step_iff (invariant : socket.Invariant) (whole : socket.LosesNothing)
    {move : GatewaySocketMove} (stepped : socket.step crypto move = some next)
    : next.LosesNothing ↔ socket.KeepsUp move := by
  by_cases reads : move = .receive
  · subst reads
    obtain ⟨waits, received⟩ := step_receive stepped
    have isOpen : socket.peer.phase.isClosed = false := waits ▸ rfl
    have within := invariant.within isOpen
    obtain ⟨whole, sends⟩ := whole isOpen
    rcases receive_cases received with ⟨behind, rfl⟩ | ⟨keepsUp, event, published, read⟩
    · refine iff_of_false (fun later => ?_) fun keepsUp => keepsUp rfl behind
      obtain ⟨later, _⟩ := later ((congrArg (·.phase.isClosed) (peer_withReceiver ..)).trans isOpen)
      rw [handled_withReceiver] at later
      exact within.not_losesNothing behind later
    · refine iff_of_true (fun _ => ?_) fun _ => keepsUp
      rcases read with ⟨world, taken, rfl⟩ | ⟨_, rfl⟩
      · have takes := World.takes waits published taken
        refine ⟨?_, ?_⟩
        · rw [handled_of_takes takes]
          exact takes.app ▸ whole.handOn within published
        · obtain ⟨check, _, _, checks, live⟩ := takes.checked
          rw [live, sends, GatewaySocket.checks, GatewaySocket.checks, checks, List.map_append,
            List.map_singleton]
      · exact ⟨whole.turnAway, sends⟩
  · obtain ⟨world, carries, rfl⟩ := step_carries invariant.keyed stepped reads
    refine iff_of_true (fun isOpen => ?_) fun same => absurd same reads
    obtain ⟨wasOpen, live⟩ := carries.live isOpen
    obtain ⟨whole, sends⟩ := whole wasOpen
    refine ⟨?_, ?_⟩
    · rw [handled_of_carries carries]
      exact whole.grow carries.grows
    · rw [live, sends, GatewaySocket.checks, GatewaySocket.checks, carries.checks]

theorem handled_subscribed {world : World} {index : Nat} (unused : world.Unused index)
    : (subscribed world index).handled = .none :=
  congrArg (fun checks => Handled.mk (List.map _ checks) []) unused.checks

theorem invariant_subscribed {world : World} {index : Nat} (unused : world.Unused index)
    : (subscribed world index).Invariant := by
  refine ⟨unused.keyed, unused.cursor.le.trans (Nat.zero_le _), fun _ => ?_⟩
  rw [handled_subscribed unused]
  exact Handled.within_subscribe world.app.published

theorem losesNothing_subscribed {world : World} {index : Nat} (unused : world.Unused index)
    : (subscribed world index).LosesNothing := by
  refine fun _ => ⟨?_, ?_⟩
  · rw [handled_subscribed unused]
    exact Handled.losesNothing_subscribe world.app.published
  · exact unused.live.trans (congrArg (List.map _) unused.checks).symm

/-- Along a run nothing is lost exactly when the connection always keeps up. -/
theorem always_losesNothing_iff {world : World} {index : Nat} (unused : world.Unused index)
    {moves : List GatewaySocketMove} {last : GatewaySocket}
    (ran : run (step crypto) (subscribed world index) moves = some last)
    : Always (step crypto) LosesNothing (subscribed world index) moves
      ↔ Allowed (step crypto) KeepsUp (subscribed world index) moves :=
  always_iff_allowed (fun _ _ _ invariant _ stepped _ => invariant.step stepped)
    (fun _ _ _ invariant whole stepped => whole.step_iff invariant stepped)
    (invariant_subscribed unused) (losesNothing_subscribed unused) ran

end GatewaySocket

end OpenCord.Server

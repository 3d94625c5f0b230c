import OpenCord.Gateway.Machine

/-! The order of the dispatch frames on one connection. Its numbers come from its own counter,
from the events recorded for its session and from the stored session; whatever other
connections do to the session, each frame is numbered above the ones before.
-/

namespace OpenCord.Gateway

open OpenCord.Library OpenCord.Platform OpenCord.Bots

/-- Every frame that a connection will send is numbered above `bound`. -/
def Peer.SendsAbove (peer : Peer) (bound : Int) : Prop :=
  match peer.phase with
  | .closed => True
  | .idle => peer.connection.identifiedBot.isSome = true ∧ bound ≤ peer.connection.sequence
  | .readying _ _ _ =>
      peer.connection.identifiedBot.isSome = true ∧ bound < peer.connection.sequence
  | .listing _ session clientSequence =>
      bound ≤ clientSequence ∧ clientSequence ≤ session.sequence
  | .replaying _ session page remaining =>
      KeyedLog.Sorted CompatGatewayReplayEvent.sequence remaining
        ∧ (∀ event ∈ remaining,
            bound < event.sequence ∧ event.sequence < resumedSequence session page)
        ∧ bound < resumedSequence session page
  | .answering _ _ =>
      peer.connection.identifiedBot.isSome = true ∧ bound < peer.connection.sequence
  | .appending _ _ _ _ =>
      peer.connection.identifiedBot.isSome = true ∧ bound < peer.connection.sequence
  | .sending _ _ _ _ =>
      peer.connection.identifiedBot.isSome = true ∧ bound < peer.connection.sequence
  | .advancing _ _ =>
      peer.connection.identifiedBot.isSome = true ∧ bound ≤ peer.connection.sequence

/-- A connection that has neither identified nor asked for a session. -/
def Peer.Waiting (peer : Peer) : Prop :=
  peer.phase = .idle ∧ peer.connection.identifiedBot = none

/-- A waiting connection has sent nothing that it could be above of. -/
theorem Peer.SendsAbove.not_waiting {peer : Peer} {bound : Int} (above : peer.SendsAbove bound)
    : ¬ peer.Waiting := by
  intro waiting
  rw [Peer.SendsAbove, waiting.1] at above
  obtain ⟨identified, _⟩ := above
  rw [waiting.2] at identified
  cases identified

theorem Peer.SendsAbove.weaken {peer : Peer} {bound lower : Int} (above : peer.SendsAbove bound)
    (le : lower ≤ bound)
    : peer.SendsAbove lower := by
  obtain ⟨phase, connection⟩ := peer
  cases phase with
  | closed => trivial
  | idle => exact ⟨above.1, le_trans le above.2⟩
  | readying => exact ⟨above.1, lt_of_le_of_lt le above.2⟩
  | listing => exact ⟨le_trans le above.1, above.2⟩
  | replaying =>
      obtain ⟨sorted, between, below⟩ := above
      refine ⟨sorted, fun event mem => ?_, lt_of_le_of_lt le below⟩
      exact ⟨lt_of_le_of_lt le (between event mem).1, (between event mem).2⟩
  | answering => exact ⟨above.1, lt_of_le_of_lt le above.2⟩
  | appending => exact ⟨above.1, lt_of_le_of_lt le above.2⟩
  | sending => exact ⟨above.1, lt_of_le_of_lt le above.2⟩
  | advancing => exact ⟨above.1, le_trans le above.2⟩

/-- A frame that goes out is above the bound, and what follows is above the frame. -/
theorem Sends.above {phase next : Phase} {connection : Connection} {index : Nat}
    {frame : SentDispatch} (sends : Sends phase connection index frame next) {bound : Int}
    (above : Peer.SendsAbove ⟨phase, connection⟩ bound)
    : bound < frame.sequence ∧ Peer.SendsAbove ⟨next, connection⟩ frame.sequence := by
  cases sends with
  | ready => exact ⟨above.2, above.1, le_refl _⟩
  | resumed => exact ⟨above.2, above.1, le_refl _⟩
  | replayed bot session page remaining event =>
      obtain ⟨sorted, between, _⟩ := above
      obtain ⟨first, rest⟩ := List.pairwise_cons.mp sorted
      have own := between event List.mem_cons_self
      refine ⟨own.1, rest, fun later mem => ⟨first later mem, ?_⟩, own.2⟩
      exact (between later (List.mem_cons_of_mem _ mem)).2
  | live => exact ⟨above.2, above.1, le_refl _⟩

/-- The page of a resume lies between the client's number and the one of `RESUMED`. -/
theorem SessionStore.page_between {store : SessionStore} {session : CompatGatewaySession}
    {clientSequence : Int}
    (sorted : KeyedLog.Sorted CompatGatewayReplayEvent.sequence
      (store.eventsOf session.sessionId))
    : ∀ event ∈ store.listReplayEventsAfter session.sessionId clientSequence gatewayReplayLimit,
        clientSequence < event.sequence
          ∧ event.sequence < resumedSequence session
              (store.listReplayEventsAfter session.sessionId clientSequence
                gatewayReplayLimit) := by
  intro event listed
  refine ⟨(KeyedLog.mem_of_mem_pageAfter listed).2, ?_⟩
  obtain ⟨last, ends, bound⟩ :=
    (sorted.pageAfter clientSequence gatewayReplayLimit).key_le_getLast? listed
  rw [resumedSequence, SessionStore.listReplayEventsAfter, ends, Option.map_some,
    Option.getD_some]
  have above := le_max_right session.sequence last.sequence
  omega

theorem lt_resumedSequence_of_le {session : CompatGatewaySession} {bound : Int}
    (le : bound ≤ session.sequence) (page : List CompatGatewayReplayEvent)
    : bound < resumedSequence session page := by
  rw [resumedSequence]
  have atLeast := le_max_left session.sequence
    ((page.getLast?.map (·.sequence)).getD session.sequence)
  omega

/-- Recorded events stand in the order of their numbers, for every session. -/
def SessionStore.Ordered (store : SessionStore) : Prop :=
  ∀ sessionId, KeyedLog.Sorted CompatGatewayReplayEvent.sequence (store.eventsOf sessionId)

section

variable {gateway next : GatewayState} {index : Nat} {action : Action}

theorem Moves.ordered (moves : Moves gateway index action next)
    (ordered : gateway.store.Ordered)
    : next.store.Ordered := by
  intro sessionId
  cases moves with
  | granted bot _ clientSequence session store phase unidentified resumed =>
      obtain ⟨_, _, _, _, events⟩ := SessionStore.resumeSession_resumed resumed
      show KeyedLog.Sorted _ (store.eventsOf sessionId)
      rw [SessionStore.eventsOf, events]
      exact ordered sessionId
  | tookOver bot session page phase =>
      show KeyedLog.Sorted _ ((gateway.store.updateSequence _ _).eventsOf sessionId)
      rw [SessionStore.eventsOf_updateSequence]
      exact ordered sessionId
  | advanced bot session phase =>
      show KeyedLog.Sorted _ ((gateway.store.updateSequence _ _).eventsOf sessionId)
      rw [SessionStore.eventsOf_updateSequence]
      exact ordered sessionId
  | appended bot own eventType payload phase =>
      show KeyedLog.Sorted _ ((gateway.store.appendReplayEvent _).eventsOf sessionId)
      rw [SessionStore.eventsOf_appendReplayEvent]
      split
      · exact (ordered _).upsert _
      · exact ordered sessionId
  | _ => exact ordered sessionId

/-- A step of a connection keeps what it sends above the bound, by the moves. -/
theorem Moves.sendsAbove (moves : Moves gateway index action next)
    (ordered : gateway.store.Ordered) {bound : Int}
    (above : (gateway.peers index).SendsAbove bound)
    : (next.peers index).SendsAbove bound := by
  cases moves with
  | identified bot sessionId intents ready phase unidentified newSession newEvents =>
      exact absurd ⟨phase, unidentified⟩ above.not_waiting
  | unstored phase unidentified => exact absurd ⟨phase, unidentified⟩ above.not_waiting
  | granted bot sessionId clientSequence session store phase unidentified resumed =>
      exact absurd ⟨phase, unidentified⟩ above.not_waiting
  | listed bot session clientSequence phase =>
      rw [Peer.SendsAbove, phase] at above
      rw [GatewayState.peers_withPeer_self]
      have between := @SessionStore.page_between gateway.store session clientSequence (ordered _)
      refine ⟨(ordered _).pageAfter _ _, fun event listed => ⟨?_, (between event listed).2⟩, ?_⟩
      · exact lt_of_le_of_lt above.1 (between event listed).1
      · exact lt_resumedSequence_of_le (le_trans above.1 above.2) _
  | tookOver bot session page phase =>
      rw [Peer.SendsAbove, phase] at above
      rw [GatewayState.peers_withPeer_self]
      exact ⟨rfl, above.2.2⟩
  | received bot sessionId eventType payload phase identified active =>
      rw [Peer.SendsAbove, phase] at above
      rw [GatewayState.peers_withPeer_self]
      exact ⟨above.1, Int.lt_add_one_of_le above.2⟩
  | appended bot sessionId eventType payload phase =>
      rw [Peer.SendsAbove, phase] at above
      rw [GatewayState.peers_withPeer_self]
      exact above
  | advanced bot sessionId phase =>
      rw [Peer.SendsAbove, phase] at above
      rw [GatewayState.peers_withPeer_self]
      exact above
  | sent _ frame after sends =>
      obtain ⟨less, later⟩ := sends.above above
      rw [GatewayState.peers_withPeer_self]
      exact later.weaken (le_of_lt less)
  | closed =>
      rw [GatewayState.peers_withPeer_self]
      trivial

/-- A connection that no longer waits has a bound for what it sends. -/
theorem Moves.started (moves : Moves gateway index action next)
    (ordered : gateway.store.Ordered)
    (started : (gateway.peers index).Waiting ∨ ∃ bound, (gateway.peers index).SendsAbove bound)
    : (next.peers index).Waiting ∨ ∃ bound, (next.peers index).SendsAbove bound := by
  rcases started with waiting | ⟨bound, above⟩
  · obtain ⟨idle, unidentified⟩ := waiting
    cases moves with
    | identified bot sessionId intents ready phase _ newSession newEvents =>
        refine .inr ⟨(gateway.peers index).connection.sequence, ?_⟩
        rw [GatewayState.peers_withPeer_self]
        exact ⟨rfl, Int.lt_add_one_of_le (le_refl _)⟩
    | unstored phase _ =>
        left
        rw [GatewayState.peers_withPeer_self]
        exact ⟨rfl, unidentified⟩
    | granted bot sessionId clientSequence session store phase _ resumed =>
        refine .inr ⟨clientSequence, ?_⟩
        rw [GatewayState.peers_withPeer_self]
        exact ⟨le_refl _, (SessionStore.resumeSession_resumed resumed).2.2.1⟩
    | listed bot session clientSequence phase => cases idle.symm.trans phase
    | tookOver bot session page phase => cases idle.symm.trans phase
    | received bot sessionId eventType payload phase identified active =>
        cases unidentified.symm.trans identified
    | appended bot sessionId eventType payload phase => cases idle.symm.trans phase
    | advanced bot sessionId phase => cases idle.symm.trans phase
    | sent _ frame after sends =>
        rw [idle] at sends
        cases sends
    | closed =>
        refine .inr ⟨0, ?_⟩
        rw [GatewayState.peers_withPeer_self]
        trivial
  · exact .inr ⟨bound, moves.sendsAbove ordered above⟩

end

/-- The frames of each connection are numbered upwards, and so are all that will follow. -/
structure InOrder (gateway : GatewayState) : Prop where
  ordered : gateway.store.Ordered
  started : ∀ index, (gateway.peers index).Waiting
    ∨ ∃ bound, (gateway.peers index).SendsAbove bound
  follows : ∀ frame ∈ gateway.sent, (gateway.peers frame.peer).SendsAbove frame.sequence
  increasing : gateway.sent.Pairwise fun earlier later =>
    earlier.peer = later.peer → earlier.sequence < later.sequence

theorem InOrder.empty : InOrder .empty where
  ordered := fun _ => .nil
  started := fun _ => .inl ⟨rfl, rfl⟩
  follows := nofun
  increasing := .nil

/-- Every step keeps the order, whichever connection takes it. -/
theorem InOrder.step {gateway next : GatewayState} (inOrder : InOrder gateway)
    {move : Nat × Action} (stepped : gateway.step move = some next)
    : InOrder next := by
  obtain ⟨index, action⟩ := move
  have moves := GatewayState.step_moves stepped
  have stays : ∀ other bound, (gateway.peers other).SendsAbove bound →
      (next.peers other).SendsAbove bound := by
    intro other bound above
    by_cases same : other = index
    · rw [same] at above ⊢
      exact moves.sendsAbove inOrder.ordered above
    · rw [moves.peers_of_ne same]
      exact above
  refine {
    ordered := moves.ordered inOrder.ordered
    started := fun other => ?_
    follows := fun frame sent => ?_
    increasing := ?_ }
  · by_cases same : other = index
    · rw [same]
      exact moves.started inOrder.ordered (inOrder.started index)
    · rw [moves.peers_of_ne same]
      exact inOrder.started other
  · rcases moves.sent_cases with unchanged | ⟨new, phase, sends, added, peer⟩
    · exact stays _ _ (inOrder.follows frame (unchanged ▸ sent))
    · rw [added] at sent
      rcases List.mem_append.mp sent with earlier | last
      · exact stays _ _ (inOrder.follows frame earlier)
      · rw [List.mem_singleton.mp last, sends.peer, peer]
        rcases inOrder.started index with waiting | ⟨bound, above⟩
        · rw [waiting.1] at sends
          cases sends
        · exact (sends.above above).2
  · rcases moves.sent_cases with unchanged | ⟨new, phase, sends, added, peer⟩
    · rw [unchanged]
      exact inOrder.increasing
    · rw [added]
      refine List.pairwise_append.mpr
        ⟨inOrder.increasing, List.pairwise_singleton _ _, fun earlier mem later last same => ?_⟩
      rw [List.mem_singleton.mp last] at same ⊢
      have above := inOrder.follows earlier mem
      rw [same, sends.peer] at above
      exact (sends.above above).1

/-- A connection asks for a session only while it waits. -/
theorem GatewayState.waiting_of_resume {gateway next : GatewayState} {index : Nat}
    {bot : AuthenticatedBot} {sessionId : String} {clientSequence : Int}
    (stepped : gateway.step (index, .resume bot sessionId clientSequence) = some next)
    : (gateway.peers index).Waiting := by
  rw [GatewayState.step] at stepped
  cases phase : (gateway.peers index).phase with
  | idle =>
      simp only [phase, GatewayState.resume, Option.ite_none_left_eq_some, Bool.not_eq_true,
        Option.isSome_eq_false_iff, Option.isNone_iff_eq_none] at stepped
      exact ⟨phase, stepped.1⟩
  | _ => simp only [phase, reduceCtorEq] at stepped

/-- After a connection has asked for a session, granted or not, it sends only above the number
that its client gave.
-/
theorem GatewayState.sendsAbove_of_resume {gateway next : GatewayState} {index : Nat}
    {bot : AuthenticatedBot} {sessionId : String} {clientSequence : Int}
    (stepped : gateway.step (index, .resume bot sessionId clientSequence) = some next)
    : next.sent = gateway.sent ∧ (next.peers index).SendsAbove clientSequence := by
  have waiting := waiting_of_resume stepped
  cases GatewayState.step_moves stepped with
  | granted _ _ _ session store phase unidentified resumed =>
      refine ⟨rfl, ?_⟩
      rw [GatewayState.peers_withPeer_self]
      exact ⟨le_refl _, (SessionStore.resumeSession_resumed resumed).2.2.1⟩
  | sent _ frame after sends =>
      rw [waiting.1] at sends
      cases sends
  | closed =>
      refine ⟨rfl, ?_⟩
      rw [GatewayState.peers_withPeer_self]
      trivial

/-- A connection that sends above a number has sent above it, and will. -/
structure StaysAbove (index : Nat) (bound : Int) (gateway : GatewayState) : Prop where
  inOrder : InOrder gateway
  before : ∀ frame ∈ gateway.sent, frame.peer = index → bound < frame.sequence
  later : (gateway.peers index).SendsAbove bound

theorem StaysAbove.step {index : Nat} {bound : Int} {gateway next : GatewayState}
    (above : StaysAbove index bound gateway) {move : Nat × Action}
    (stepped : gateway.step move = some next)
    : StaysAbove index bound next := by
  obtain ⟨mover, action⟩ := move
  have moves := GatewayState.step_moves stepped
  refine ⟨above.inOrder.step stepped, fun frame sent own => ?_, ?_⟩
  · rcases moves.sent_cases with unchanged | ⟨new, phase, sends, added, _⟩
    · exact above.before frame (unchanged ▸ sent) own
    · rw [added] at sent
      rcases List.mem_append.mp sent with earlier | last
      · exact above.before frame earlier own
      · rw [List.mem_singleton.mp last] at own ⊢
        have mine : mover = index := sends.peer.symm.trans own
        rw [mine] at sends
        exact (sends.above above.later).1
  · by_cases same : index = mover
    · rw [same]
      exact moves.sendsAbove above.inOrder.ordered (same ▸ above.later)
    · rw [moves.peers_of_ne same]
      exact above.later

/-- On each connection frames are numbered upwards, and above what its client asked for. -/
structure NumberedUpwards (moves : List (Nat × Action)) (gateway : GatewayState) : Prop where
  increasing : gateway.sent.Pairwise fun earlier later =>
    earlier.peer = later.peer → earlier.sequence < later.sequence
  aboveClient : ∀ index bot sessionId clientSequence,
    (index, .resume bot sessionId clientSequence) ∈ moves →
      ∀ frame ∈ gateway.sent, frame.peer = index → clientSequence < frame.sequence

/-- In every run of any number of connections, the frames of each connection are numbered
upwards, and above the number that it has resumed with.
-/
theorem numberedUpwards {moves : List (Nat × Action)} {gateway : GatewayState}
    (ran : run GatewayState.step .empty moves = some gateway)
    : NumberedUpwards moves gateway := by
  have inOrder : ∀ {moves gateway}, run GatewayState.step .empty moves = some gateway →
      InOrder gateway :=
    run_preserves (fun _ _ _ inOrder stepped => inOrder.step stepped) InOrder.empty
  refine ⟨(inOrder ran).increasing, fun index bot sessionId clientSequence asked => ?_⟩
  obtain ⟨before, later, rfl⟩ := List.append_of_mem asked
  obtain ⟨middle, ranBefore, ranLater⟩ := run_append_eq_some.mp ran
  obtain ⟨next, stepped, rest⟩ := run_cons_eq_some.mp ranLater
  obtain ⟨unchanged, above⟩ := GatewayState.sendsAbove_of_resume stepped
  have waiting := GatewayState.waiting_of_resume stepped
  have initially : StaysAbove index clientSequence next := by
    refine ⟨(inOrder ranBefore).step stepped, fun frame sent own => ?_, above⟩
    have follows := (inOrder ranBefore).follows frame (unchanged ▸ sent)
    rw [own] at follows
    exact absurd waiting follows.not_waiting
  exact (run_preserves (fun _ _ _ stays stepped => stays.step stepped) initially rest).before

/-- The bot of two connections to one session. -/
def helperBot : AuthenticatedBot := ⟨.ofNat 1, .ofNat 2, .ofNat 3, "Helper"⟩

/-- A second connection resumes a session to which the first one keeps adding. -/
def sharedSession : List (Nat × Action) :=
  [(0, .identifyUnstored), (0, .identify helperBot "gw_1" 513 .null), (0, .sendReady true),
    (0, .receive "MESSAGE_CREATE" .null), (0, .append), (0, .sendLive true),
    (1, .resume helperBot "gw_1" 2), (0, .advance), (0, .receive "MESSAGE_UPDATE" .null),
    (0, .append), (1, .list), (1, .replay true), (0, .sendLive true), (1, .replay true),
    (1, .takeOver), (0, .advance), (1, .sendResumed true)]

theorem sharedSession_numberedUpwards
    : ∃ gateway, run GatewayState.step .empty sharedSession = some gateway
        ∧ gateway.sent.map (fun frame => (frame.peer, frame.eventType, frame.sequence))
          = [(0, "READY", 2), (0, "MESSAGE_CREATE", 3), (1, "MESSAGE_CREATE", 3),
            (0, "MESSAGE_UPDATE", 4), (1, "MESSAGE_UPDATE", 4), (1, "RESUMED", 5)]
        ∧ NumberedUpwards sharedSession gateway := by
  have facts : (run GatewayState.step .empty sharedSession).any fun gateway =>
      gateway.sent.map (fun frame => (frame.peer, frame.eventType, frame.sequence))
        = [(0, "READY", 2), (0, "MESSAGE_CREATE", 3), (1, "MESSAGE_CREATE", 3),
          (0, "MESSAGE_UPDATE", 4), (1, "MESSAGE_UPDATE", 4), (1, "RESUMED", 5)] := by
    decide +kernel
  obtain ⟨gateway, ran, sent⟩ := (Option.any_eq_true _ _).mp facts
  exact ⟨gateway, ran, of_decide_eq_true sent, numberedUpwards ran⟩

end OpenCord.Gateway

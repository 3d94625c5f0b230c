import OpenCord.Gateway.Ledger

/-! Sequence numbers over whole runs of the gateway: one step keeps the invariant under the
conditions on resumes, so every allowed run does, and a stale connection breaks it.
-/

namespace OpenCord.Gateway

open OpenCord.Library OpenCord.Platform OpenCord.Bots

/-- The conditions on a step: a granted resume takes a session that no other live
connection holds or is resuming, and when a resume reads its page, either all events after
the client's number fit on it or none is numbered above the stored sequence.
-/
structure StepAllowed (gateway : GatewayState) (move : Nat × Action) : Prop where
  resumesAlone : ∀ bot sessionId clientSequence session store,
    move.2 = .resume bot sessionId clientSequence →
    gateway.store.resumeSession sessionId bot clientSequence = (.resumed session, store) →
      ∀ other, other ≠ move.1 → (gateway.peers other).sessionId? ≠ some sessionId
  pageReaches : ∀ bot session clientSequence,
    (gateway.peers move.1).phase = .listing bot session clientSequence → move.2 = .list →
      ((gateway.store.eventsOf session.sessionId).filter fun event =>
          decide (clientSequence < event.sequence)).length ≤ gatewayReplayLimit
        ∨ ∀ event ∈ gateway.store.eventsOf session.sessionId,
            event.sequence ≤ session.sequence

-----------------------------------------------------------------------------------------
-- Sessions of other connections
-----------------------------------------------------------------------------------------

/-- Another connection's session is not the one a connection holds. -/
theorem Sound.ne_of_holds {gateway : GatewayState} (sound : Sound gateway)
    {index other : Nat} (differs : other ≠ index) {own sessionId : String}
    (holds : (gateway.peers index).sessionId? = some own)
    (otherHolds : (gateway.peers other).sessionId? = some sessionId)
    : sessionId ≠ own := by
  intro same
  rw [same] at otherHolds
  exact differs (sound.exclusive other index own otherHolds holds)

/-- A write to the sessions leaves a session with the same record. -/
theorem agreeOn_of_sessions {gateway : GatewayState} {store : SessionStore}
    (events : store.replayEvents = gateway.store.replayEvents) {sessionId : String}
    (same : store.sessions.lookup sessionId = gateway.store.sessions.lookup sessionId)
    (index : Nat) (phase : Phase) (connection : Connection)
    : AgreeOn gateway
        (GatewayState.withPeer { gateway with store := store } index phase connection)
        sessionId := by
  refine ⟨same, ?_, fun frame mem _ _ => mem⟩
  show store.eventsOf sessionId = _
  rw [SessionStore.eventsOf, events, SessionStore.eventsOf]

/-- A sequence update of another session leaves a session. -/
theorem agreeOn_updateSequence {gateway : GatewayState} {updated sessionId : String}
    (differs : sessionId ≠ updated) (sequence : Int) (index : Nat) (phase : Phase)
    (connection : Connection)
    : AgreeOn gateway
        (GatewayState.withPeer
          { gateway with store := gateway.store.updateSequence updated sequence } index
          phase connection)
        sessionId := by
  refine agreeOn_of_sessions ?_ ?_ index phase connection
  · rw [SessionStore.updateSequence]
    split <;> rfl
  · rw [SessionStore.lookup_updateSequence, if_neg differs]

/-- A frame of another session, or one that is not sent for the first time, leaves a
session.
-/
theorem agreeOn_send {gateway : GatewayState} {frame : SentDispatch} {sessionId : String}
    (other : frame.original → frame.sessionId ≠ sessionId) (index : Nat) (phase : Phase)
    (connection : Connection)
    : AgreeOn gateway
        (GatewayState.withPeer { gateway with sent := gateway.sent ++ [frame] } index phase
          connection)
        sessionId := by
  refine ⟨rfl, rfl, ?_⟩
  intro candidate mem original same
  rcases List.mem_append.mp mem with older | new
  · exact older
  · rw [List.mem_singleton.mp new] at original same
    exact absurd same (other original)

-----------------------------------------------------------------------------------------
-- Steps
-----------------------------------------------------------------------------------------

/-- A new session belongs to the connection that created it. -/
theorem Sound.identify {gateway : GatewayState} (sound : Sound gateway) {index : Nat}
    {bot : AuthenticatedBot} {sessionId : String} {intents : Nat} {ready : Json}
    (newSession : sessionId ∉ gateway.store.sessions)
    (newEvents : gateway.store.eventsOf sessionId = [])
    : Sound
        (GatewayState.withPeer
          { gateway with
            store := gateway.store.createSession ⟨sessionId, bot.applicationId,
              bot.organizationId, bot.botUserId,
              (gateway.peers index).connection.sequence + 1, intents⟩ }
          index (.readying bot sessionId ready)
          ⟨some bot, some sessionId, intents,
            (gateway.peers index).connection.sequence + 1⟩) := by
  have unsent : ∀ sequence, Unsent gateway sessionId sequence := by
    intro sequence frame mem _ same
    by_cases control : frame.control
    · obtain ⟨⟨session, stored, -⟩, -⟩ := sound.ledger.control frame mem control
      rw [same] at stored
      exact absurd (Table.mem_of_lookup stored) newSession
    · have recorded := sound.ledger.event frame mem control
      rw [same, newEvents] at recorded
      cases recorded
  refine sound.of_step index ((sound.ledger.createSession newSession).withPeer _ _ _)
    (fun other differs => GatewayState.peers_withPeer_of_ne differs _ _) ?_ ?_
  · rw [GatewayState.peers_withPeer_self]
    refine ⟨rfl, ⟨_, AList.lookup_insert _, rfl⟩, ?_, unsent _⟩
    · intro event mem
      have none : event ∈ gateway.store.eventsOf sessionId := mem
      rw [newEvents] at none
      cases none
  · intro other held differs holds
    obtain ⟨session, stored⟩ := (sound.peers other).stored holds
    have older : held ≠ sessionId := by
      intro same
      rw [same] at stored
      exact newSession (Table.mem_of_lookup stored)
    refine ⟨?_, ?_⟩
    · rw [GatewayState.peers_withPeer_self]
      intro same
      exact older (Option.some.inj same).symm
    · apply agreeOn_of_sessions
      · rfl
      · exact AList.lookup_insert_ne older

/-- A step within the connection's own session keeps the invariant if it keeps the ledger
and its own part and leaves the other sessions alone.
-/
theorem Sound.of_ownStep {before after : GatewayState} (sound : Sound before) (index : Nat)
    {own : String} (holds : (before.peers index).sessionId? = some own)
    (ledger : Ledger after)
    (others : ∀ other, other ≠ index → after.peers other = before.peers other)
    (invariant : PeerInvariant after (after.peers index))
    (stays : ∀ sessionId, (after.peers index).sessionId? = some sessionId → sessionId = own)
    (agree : ∀ sessionId, sessionId ≠ own → AgreeOn before after sessionId)
    : Sound after := by
  refine sound.of_step index ledger others invariant ?_
  intro other sessionId differs otherHolds
  have elsewhere := sound.ne_of_holds differs holds otherHolds
  refine ⟨?_, agree sessionId elsewhere⟩
  intro same
  exact elsewhere (stays sessionId same)

/-- Ending a connection keeps the invariant. -/
theorem Sound.close {gateway : GatewayState} (sound : Sound gateway) (index : Nat)
    : Sound (gateway.withPeer index .closed (gateway.peers index).connection) := by
  refine sound.of_step index (sound.ledger.withPeer _ _ _)
    (fun other differs => GatewayState.peers_withPeer_of_ne differs _ _) ?_ ?_
  · rw [GatewayState.peers_withPeer_self]
    trivial
  · intro other sessionId _ _
    refine ⟨?_, rfl, rfl, fun frame mem _ _ => mem⟩
    rw [GatewayState.peers_withPeer_self]
    intro same
    cases same

/-- A number that is used up for nothing keeps the invariant. -/
theorem Sound.countUp {gateway : GatewayState} (sound : Sound gateway) {index : Nat}
    (phase : (gateway.peers index).phase = .idle)
    : Sound
        (gateway.withPeer index .idle
          { (gateway.peers index).connection with
            sequence := (gateway.peers index).connection.sequence + 1 }) := by
  have invariant := sound.peers index
  simp only [PeerInvariant, phase] at invariant
  refine sound.of_step index (sound.ledger.withPeer _ _ _)
    (fun other differs => GatewayState.peers_withPeer_of_ne differs _ _) ?_ ?_
  · rw [GatewayState.peers_withPeer_self]
    intro sessionId active
    obtain ⟨⟨session, stored, bound⟩, events⟩ := invariant sessionId active
    refine ⟨⟨session, stored, by simp only; omega⟩, fun event mem => ?_⟩
    have below := events event mem
    simp only
    omega
  · intro other sessionId differs holds
    refine ⟨?_, rfl, rfl, fun frame mem _ _ => mem⟩
    rw [GatewayState.peers_withPeer_self]
    intro same
    have own : (gateway.peers index).sessionId? = some sessionId := by
      rw [Peer.sessionId?, phase]
      exact same
    exact sound.ne_of_holds differs own holds rfl

/-- A granted resume keeps the invariant when no other connection holds the session. -/
theorem Sound.grant {gateway : GatewayState} (sound : Sound gateway) {index : Nat}
    {bot : AuthenticatedBot} {sessionId : String} {clientSequence : Int}
    {session : CompatGatewaySession} {store : SessionStore}
    (resumed : gateway.store.resumeSession sessionId bot clientSequence
      = (.resumed session, store))
    (alone : ∀ other, other ≠ index → (gateway.peers other).sessionId? ≠ some sessionId)
    : Sound
        (GatewayState.withPeer { gateway with store := store } index
          (.listing bot session clientSequence) (gateway.peers index).connection) := by
  obtain ⟨stored, -, reached, sessions, events⟩ :=
    SessionStore.resumeSession_resumed resumed
  have own : session.sessionId = sessionId := sound.ledger.keyed sessionId session stored
  have ledger : Ledger { gateway with store := store } := by
    refine sound.ledger.of_sessions (sound.ledger.keyed.of_lookup sessions) events ?_
    intro other record found
    exact ⟨record, (sessions other).trans found, le_refl _⟩
  refine sound.of_step index (ledger.withPeer _ _ _)
    (fun other differs => GatewayState.peers_withPeer_of_ne differs _ _) ?_ ?_
  · rw [GatewayState.peers_withPeer_self]
    refine ⟨?_, reached⟩
    show store.sessions.lookup session.sessionId = some session
    rw [sessions, own, stored]
  · intro other held differs holds
    refine ⟨?_, ?_⟩
    · rw [GatewayState.peers_withPeer_self]
      intro same
      have heldEq : session.sessionId = held := Option.some.inj same
      rw [← heldEq, own] at holds
      exact alone other differs holds
    · apply agreeOn_of_sessions events
      exact sessions held

/-- Every recorded event is numbered below the `RESUMED` frame if the page reaches it. -/
theorem lt_resumedSequence {store : SessionStore} {session : CompatGatewaySession}
    {clientSequence : Int}
    (sorted : KeyedLog.Sorted CompatGatewayReplayEvent.sequence
      (store.eventsOf session.sessionId))
    (reached : clientSequence ≤ session.sequence)
    (page : ((store.eventsOf session.sessionId).filter fun event =>
        decide (clientSequence < event.sequence)).length ≤ gatewayReplayLimit
      ∨ ∀ event ∈ store.eventsOf session.sessionId, event.sequence ≤ session.sequence)
    : ∀ event ∈ store.eventsOf session.sessionId,
        event.sequence < resumedSequence session
          (store.listReplayEventsAfter session.sessionId clientSequence
            gatewayReplayLimit) := by
  intro event mem
  have atLeast : ∀ last, session.sequence ≤ max session.sequence last := le_max_left _
  rw [resumedSequence]
  rcases page with fits | bounded
  · by_cases later : clientSequence < event.sequence
    · have complete := (sorted.pageAfter_complete_iff clientSequence gatewayReplayLimit).mpr
        fits
      have listed : event ∈ store.listReplayEventsAfter session.sessionId clientSequence
          gatewayReplayLimit := (complete event).mpr ⟨mem, later⟩
      obtain ⟨last, ends, bound⟩ :=
        (sorted.pageAfter clientSequence gatewayReplayLimit).key_le_getLast? listed
      rw [SessionStore.listReplayEventsAfter, ends, Option.map_some, Option.getD_some]
      have above := le_max_right session.sequence last.sequence
      omega
    · have below := atLeast (((store.listReplayEventsAfter session.sessionId clientSequence
        gatewayReplayLimit).getLast?.map (·.sequence)).getD session.sequence)
      omega
  · have below := atLeast (((store.listReplayEventsAfter session.sessionId clientSequence
      gatewayReplayLimit).getLast?.map (·.sequence)).getD session.sequence)
    have bound := bounded event mem
    omega

/-- Reading the page keeps the invariant when the page reaches every unnumbered event. -/
theorem Sound.list {gateway : GatewayState} (sound : Sound gateway) {index : Nat}
    {bot : AuthenticatedBot} {session : CompatGatewaySession} {clientSequence : Int}
    (phase : (gateway.peers index).phase = .listing bot session clientSequence)
    (page : ((gateway.store.eventsOf session.sessionId).filter fun event =>
        decide (clientSequence < event.sequence)).length ≤ gatewayReplayLimit
      ∨ ∀ event ∈ gateway.store.eventsOf session.sessionId,
          event.sequence ≤ session.sequence)
    : Sound
        (gateway.withPeer index
          (.replaying bot session
            (gateway.store.listReplayEventsAfter session.sessionId clientSequence
              gatewayReplayLimit)
            (gateway.store.listReplayEventsAfter session.sessionId clientSequence
              gatewayReplayLimit))
          (gateway.peers index).connection) := by
  have holds : (gateway.peers index).sessionId? = some session.sessionId := by
    simp only [Peer.sessionId?, phase]
  have invariant := sound.peers index
  simp only [PeerInvariant, phase] at invariant
  obtain ⟨stored, reached⟩ := invariant
  have sorted := sound.ledger.sorted session.sessionId
  refine sound.of_ownStep index holds (sound.ledger.withPeer _ _ _)
    (fun other differs => GatewayState.peers_withPeer_of_ne differs _ _) ?_ ?_ ?_
  · rw [GatewayState.peers_withPeer_self]
    refine ⟨stored, ?_, lt_resumedSequence sorted reached page⟩
    intro event mem
    exact (KeyedLog.mem_of_mem_pageAfter mem).1
  · intro sessionId held
    rw [GatewayState.peers_withPeer_self] at held
    exact (Option.some.inj held).symm
  · intro sessionId _
    exact ⟨rfl, rfl, fun frame mem _ _ => mem⟩

/-- First-time frames are numbered up to the stored sequence or up to a recorded event. -/
theorem Ledger.unsent_of_above {gateway : GatewayState} (ledger : Ledger gateway)
    {sessionId : String} {sequence : Int} (covers : Covers gateway sessionId (sequence - 1))
    : Unsent gateway sessionId sequence := by
  intro frame mem _ same
  by_cases control : frame.control
  · obtain ⟨⟨session, stored, bound⟩, -⟩ := ledger.control frame mem control
    obtain ⟨known, knownStored, knownBound⟩ := covers.session
    rw [same, knownStored] at stored
    cases stored
    omega
  · have recorded := ledger.event frame mem control
    rw [same] at recorded
    have bound := covers.events _ recorded
    simp only [SentDispatch.event] at bound
    omega

/-- Taking a session over reserves a number above all its numbers. -/
theorem Sound.takeOver {gateway : GatewayState} (sound : Sound gateway) {index : Nat}
    {bot : AuthenticatedBot} {session : CompatGatewaySession}
    {page : List CompatGatewayReplayEvent}
    (phase : (gateway.peers index).phase = .replaying bot session page [])
    : Sound
        (GatewayState.withPeer
          { gateway with
            store := gateway.store.updateSequence session.sessionId
              (resumedSequence session page) }
          index (.answering bot session.sessionId)
          ⟨some bot, some session.sessionId, session.intents,
            resumedSequence session page⟩) := by
  have holds : (gateway.peers index).sessionId? = some session.sessionId := by
    simp only [Peer.sessionId?, phase]
  have invariant := sound.peers index
  simp only [PeerInvariant, phase] at invariant
  obtain ⟨stored, -, below⟩ := invariant
  have above : session.sequence < resumedSequence session page := by
    rw [resumedSequence]
    have atLeast := le_max_left session.sequence
      ((page.getLast?.map (·.sequence)).getD session.sequence)
    omega
  have unsent : Unsent gateway session.sessionId (resumedSequence session page) := by
    refine sound.ledger.unsent_of_above ⟨⟨session, stored, by omega⟩, ?_⟩
    intro event mem
    have bound := below event mem
    omega
  refine sound.of_ownStep index holds
    ((sound.ledger.updateSequence _ _).withPeer _ _ _)
    (fun other differs => GatewayState.peers_withPeer_of_ne differs _ _) ?_ ?_ ?_
  · rw [GatewayState.peers_withPeer_self]
    refine ⟨rfl, ⟨{ session with sequence := resumedSequence session page }, ?_, rfl⟩, ?_,
      unsent⟩
    · show (gateway.store.updateSequence _ _).sessions.lookup _ = _
      rw [SessionStore.lookup_updateSequence, if_pos rfl, stored, Option.map_some,
        max_eq_right (le_of_lt above)]
    · intro event mem
      have older : event ∈ gateway.store.eventsOf session.sessionId := by
        simpa using mem
      exact below event older
  · intro sessionId held
    rw [GatewayState.peers_withPeer_self] at held
    exact (Option.some.inj held).symm
  · intro sessionId differs
    exact agreeOn_updateSequence differs _ _ _ _

/-- A hub event gets the next number, above all numbers of the session. -/
theorem Sound.receive {gateway : GatewayState} (sound : Sound gateway) {index : Nat}
    {bot : AuthenticatedBot} {sessionId eventType : String} {payload : Json}
    (phase : (gateway.peers index).phase = .idle)
    (active : (gateway.peers index).connection.activeSessionId = some sessionId)
    : Sound
        (gateway.withPeer index (.appending bot sessionId eventType payload)
          { (gateway.peers index).connection with
            sequence := (gateway.peers index).connection.sequence + 1 }) := by
  have holds : (gateway.peers index).sessionId? = some sessionId := by
    simp only [Peer.sessionId?, phase, active]
  have invariant := sound.peers index
  simp only [PeerInvariant, phase] at invariant
  have covers := invariant sessionId active
  refine sound.of_ownStep index holds (sound.ledger.withPeer _ _ _)
    (fun other differs => GatewayState.peers_withPeer_of_ne differs _ _) ?_ ?_ ?_
  · rw [GatewayState.peers_withPeer_self]
    refine ⟨active, ?_⟩
    rw [Int.add_sub_cancel]
    exact ⟨covers.session, covers.events⟩
  · intro held same
    rw [GatewayState.peers_withPeer_self] at same
    exact (Option.some.inj same).symm
  · intro other _
    exact ⟨rfl, rfl, fun frame mem _ _ => mem⟩

/-- Recording a numbered event keeps every recorded event. -/
theorem Sound.append {gateway : GatewayState} (sound : Sound gateway) {index : Nat}
    {bot : AuthenticatedBot} {sessionId eventType : String} {payload : Json}
    (phase : (gateway.peers index).phase = .appending bot sessionId eventType payload)
    : Sound
        (GatewayState.withPeer
          { gateway with
            store := gateway.store.appendReplayEvent
              ⟨sessionId, (gateway.peers index).connection.sequence, eventType, payload⟩
            appended := gateway.appended
              ++ [⟨sessionId, (gateway.peers index).connection.sequence, eventType,
                payload⟩] }
          index (.sending bot sessionId eventType payload)
          (gateway.peers index).connection) := by
  have holds : (gateway.peers index).sessionId? = some sessionId := by
    simp only [Peer.sessionId?, phase]
  have invariant := sound.peers index
  simp only [PeerInvariant, phase] at invariant
  obtain ⟨active, covers⟩ := invariant
  have unsent := sound.ledger.unsent_of_above covers
  have ledger := sound.ledger.append
    ⟨sessionId, (gateway.peers index).connection.sequence, eventType, payload⟩ covers
  have contents : ∀ other, other ∈ (gateway.store.appendReplayEvent
        ⟨sessionId, (gateway.peers index).connection.sequence, eventType,
          payload⟩).eventsOf sessionId
      ↔ other = ⟨sessionId, (gateway.peers index).connection.sequence, eventType, payload⟩
        ∨ other ∈ gateway.store.eventsOf sessionId
          ∧ other.sequence ≠ (gateway.peers index).connection.sequence := by
    intro other
    rw [SessionStore.eventsOf_appendReplayEvent, if_pos rfl]
    exact (sound.ledger.sorted sessionId).mem_upsert
  refine sound.of_ownStep index holds (ledger.withPeer _ _ _)
    (fun other differs => GatewayState.peers_withPeer_of_ne differs _ _) ?_ ?_ ?_
  · rw [GatewayState.peers_withPeer_self]
    refine ⟨active, ⟨?_, ?_⟩, (contents _).mpr (.inl rfl), unsent⟩
    · obtain ⟨session, stored, bound⟩ := covers.session
      refine ⟨session, stored, ?_⟩
      dsimp only
      omega
    · intro event mem
      dsimp only
      rcases (contents event).mp mem with new | ⟨old, -⟩
      · rw [new]
      · have bound := covers.events event old
        omega
  · intro held same
    rw [GatewayState.peers_withPeer_self] at same
    exact (Option.some.inj same).symm
  · intro other differs
    refine ⟨rfl, ?_, fun frame mem _ _ => mem⟩
    rw [GatewayState.store_withPeer, SessionStore.eventsOf_appendReplayEvent,
      if_neg differs]

/-- Storing the number of a sent event keeps the invariant. -/
theorem Sound.advance {gateway : GatewayState} (sound : Sound gateway) {index : Nat}
    {bot : AuthenticatedBot} {sessionId : String}
    (phase : (gateway.peers index).phase = .advancing bot sessionId)
    : Sound
        (GatewayState.withPeer
          { gateway with
            store := gateway.store.updateSequence sessionId
              (gateway.peers index).connection.sequence }
          index .idle (gateway.peers index).connection) := by
  have holds : (gateway.peers index).sessionId? = some sessionId := by
    simp only [Peer.sessionId?, phase]
  have invariant := sound.peers index
  simp only [PeerInvariant, phase] at invariant
  obtain ⟨active, covers⟩ := invariant
  refine sound.of_ownStep index holds ((sound.ledger.updateSequence _ _).withPeer _ _ _)
    (fun other differs => GatewayState.peers_withPeer_of_ne differs _ _) ?_ ?_ ?_
  · rw [GatewayState.peers_withPeer_self]
    intro held same
    dsimp only at same
    rw [active, Option.some.injEq] at same
    rw [← same]
    obtain ⟨session, stored, bound⟩ := covers.session
    refine ⟨⟨{ session with
      sequence := max session.sequence (gateway.peers index).connection.sequence }, ?_,
        max_le bound (le_refl _)⟩, ?_⟩
    · show (gateway.store.updateSequence _ _).sessions.lookup _ = _
      rw [SessionStore.lookup_updateSequence, if_pos rfl, stored, Option.map_some]
    · intro event mem
      have older : event ∈ gateway.store.eventsOf sessionId := by
        simpa using mem
      exact covers.events event older
  · intro held same
    rw [GatewayState.peers_withPeer_self] at same
    have activeEq : (gateway.peers index).connection.activeSessionId = some held := same
    rw [active] at activeEq
    exact (Option.some.inj activeEq).symm
  · intro other differs
    exact agreeOn_updateSequence differs _ _ _ _

/-- A frame of the connection's session with a number of its own keeps the invariant. -/
theorem Sound.sendFrame {gateway : GatewayState} (sound : Sound gateway) {index : Nat}
    {phase next : Phase} {connection : Connection} {frame : SentDispatch}
    (peer : gateway.peers index = ⟨phase, connection⟩)
    (holds : Peer.sessionId? ⟨phase, connection⟩ = some frame.sessionId)
    (ledger : Ledger { gateway with sent := gateway.sent ++ [frame] })
    (invariant : PeerInvariant { gateway with sent := gateway.sent ++ [frame] }
      ⟨next, connection⟩)
    (stays : ∀ sessionId, Peer.sessionId? ⟨next, connection⟩ = some sessionId →
      sessionId = frame.sessionId)
    : Sound
        (GatewayState.withPeer { gateway with sent := gateway.sent ++ [frame] } index next
          connection) := by
  rw [← peer] at holds
  refine sound.of_ownStep index holds (ledger.withPeer _ _ _)
    (fun other differs => GatewayState.peers_withPeer_of_ne differs _ _) ?_ ?_ ?_
  · rw [GatewayState.peers_withPeer_self]
    refine PeerInvariant.congr ?_ invariant
    intro sessionId _
    exact ⟨rfl, rfl, fun frame mem _ _ => mem⟩
  · rw [GatewayState.peers_withPeer_self]
    exact stays
  · intro sessionId differs
    exact agreeOn_send (fun _ same => differs same.symm) _ _ _

/-- A control frame with a reserved number keeps the invariant. -/
theorem Sound.sendControl {gateway : GatewayState} (sound : Sound gateway) {index : Nat}
    {phase : Phase} {connection : Connection} {frame : SentDispatch}
    (peer : gateway.peers index = ⟨phase, connection⟩)
    (holds : Peer.sessionId? ⟨phase, connection⟩ = some frame.sessionId)
    (control : frame.control) (sequence : frame.sequence = connection.sequence)
    (active : connection.activeSessionId = some frame.sessionId)
    (reserved : Reserved gateway frame.sessionId connection.sequence)
    : Sound
        (GatewayState.withPeer { gateway with sent := gateway.sent ++ [frame] } index .idle
          connection) := by
  obtain ⟨⟨session, stored, same⟩, below, unsent⟩ := reserved
  have ledger : Ledger { gateway with sent := gateway.sent ++ [frame] } := by
    refine sound.ledger.send frame ?_ ?_ ?_
    · intro _
      refine ⟨⟨session, stored, by omega⟩, ?_⟩
      intro event mem
      have bound := below event mem
      omega
    · intro other
      exact absurd control other
    · intro _
      rw [sequence]
      exact unsent
  refine sound.sendFrame peer holds ledger ?_ ?_
  · intro sessionId held
    have heldEq : connection.activeSessionId = some sessionId := held
    rw [active, Option.some.injEq] at heldEq
    rw [← heldEq]
    refine ⟨⟨session, stored, le_of_eq same⟩, ?_⟩
    intro event mem
    exact le_of_lt (below event mem)
  · intro sessionId held
    have heldEq : connection.activeSessionId = some sessionId := held
    rw [active, Option.some.injEq] at heldEq
    exact heldEq.symm

/-- A frame that goes out keeps the invariant, by what it is sent for. -/
theorem Sound.send {gateway : GatewayState} (sound : Sound gateway) {index : Nat}
    {phase next : Phase} {connection : Connection} {frame : SentDispatch}
    (peer : gateway.peers index = ⟨phase, connection⟩)
    (sends : Sends phase connection index frame next)
    : Sound
        (GatewayState.withPeer { gateway with sent := gateway.sent ++ [frame] } index next
          connection) := by
  have invariant := sound.peers index
  rw [peer] at invariant
  cases sends with
  | ready bot sessionId payload =>
      exact sound.sendControl peer rfl (.inl rfl) rfl invariant.1 invariant.2
  | resumed bot sessionId =>
      exact sound.sendControl peer rfl (.inr rfl) rfl invariant.1 invariant.2
  | replayed bot session page remaining event =>
      obtain ⟨stored, replayable, below⟩ := invariant
      have recorded := replayable event List.mem_cons_self
      have owned := sound.ledger.owned session.sessionId event recorded
      have same : (⟨session.sessionId, event.sequence, event.eventType, event.payload⟩
          : CompatGatewayReplayEvent) = event := by
        rw [← owned]
      have ledger := sound.ledger.send
        ⟨index, bot, session.sessionId, .replayed, event.eventType, event.sequence,
          event.payload⟩
        (fun control => absurd rfl control.original) (fun _ => same ▸ recorded)
        (fun original => absurd rfl original)
      refine sound.sendFrame peer rfl ledger ?_ ?_
      · exact ⟨stored, fun other mem => replayable other (List.mem_cons_of_mem _ mem), below⟩
      · intro sessionId held
        exact (Option.some.inj held).symm
  | live bot sessionId eventType payload =>
      obtain ⟨active, covers, recorded, unsent⟩ := invariant
      have notControl : ¬ SentDispatch.control ⟨index, bot, sessionId, .live, eventType,
          connection.sequence, payload⟩ := by
        intro control
        rcases control with isReady | isResumed
        · cases isReady
        · cases isResumed
      have ledger := sound.ledger.send _ (fun control => absurd control notControl)
        (fun _ => recorded) (fun _ => unsent)
      refine sound.sendFrame peer rfl ledger ?_ ?_
      · exact ⟨active, covers.session, covers.events⟩
      · intro held same
        exact (Option.some.inj same).symm

/-- One allowed step keeps the invariant, by the moves. -/
theorem Sound.step {gateway next : GatewayState} (sound : Sound gateway)
    {move : Nat × Action} (allowed : StepAllowed gateway move)
    (stepped : gateway.step move = some next)
    : Sound next := by
  obtain ⟨index, action⟩ := move
  cases GatewayState.step_moves stepped with
  | identified bot sessionId intents ready phase unidentified newSession newEvents =>
      exact sound.identify newSession newEvents
  | granted bot sessionId clientSequence session store phase unidentified resumed =>
      exact sound.grant resumed
        (allowed.resumesAlone bot sessionId clientSequence session store rfl resumed)
  | listed bot session clientSequence phase =>
      exact sound.list phase (allowed.pageReaches bot session clientSequence phase rfl)
  | tookOver bot session page phase => exact sound.takeOver phase
  | unstored phase unidentified => exact sound.countUp phase
  | received bot sessionId eventType payload phase identified active =>
      exact sound.receive phase active
  | appended bot sessionId eventType payload phase => exact sound.append phase
  | advanced bot sessionId phase => exact sound.advance phase
  | sent _ frame phase sends => exact sound.send rfl sends
  | closed => exact sound.close index

theorem Sound.empty : Sound GatewayState.empty := by
  refine ⟨.empty, ?_, ?_⟩
  · intro left right sessionId holds
    cases holds
  · intro index sessionId active
    cases active

-----------------------------------------------------------------------------------------
-- Main result
-----------------------------------------------------------------------------------------

/-- A sequence number identifies the frames of a session: two frames with one number are
the same event, of which at least one is a repetition; and no recorded event was
overwritten by another.
-/
structure NumbersIdentify (gateway : GatewayState) : Prop where
  frames : gateway.sent.Pairwise fun earlier later =>
    earlier.sessionId = later.sessionId → earlier.sequence = later.sequence →
      earlier.eventType = later.eventType ∧ earlier.payload = later.payload
        ∧ (earlier.origin = .replayed ∨ later.origin = .replayed)
  recorded : ∀ event ∈ gateway.appended, event ∈ gateway.store.eventsOf event.sessionId

/-- The invariant makes numbers identify frames: of two frames with one number neither is
a control frame, so both repeat the one recorded event.
-/
theorem Sound.numbersIdentify {gateway : GatewayState} (sound : Sound gateway)
    : NumbersIdentify gateway := by
  have ledger := sound.ledger
  have control_ne_event : ∀ frame ∈ gateway.sent, ∀ other ∈ gateway.sent, frame.control →
      ¬ other.control → frame.sessionId = other.sessionId →
        frame.sequence ≠ other.sequence := by
    intro frame mem other otherMem control event session sequence
    have recorded := ledger.event other otherMem event
    rw [← session] at recorded
    exact (ledger.control frame mem control).2 _ recorded sequence.symm
  refine ⟨ledger.originals.imp_of_mem ?_, ledger.recorded⟩
  intro earlier later earlierMem laterMem distinct session sequence
  have oneReplayed : earlier.origin = .replayed ∨ later.origin = .replayed := by
    by_contra neither
    rw [not_or] at neither
    exact distinct neither.1 neither.2 session sequence
  have earlierEvent : ¬ earlier.control := by
    intro control
    by_cases laterControl : later.control
    · exact distinct control.original laterControl.original session sequence
    · exact control_ne_event earlier earlierMem later laterMem control laterControl session
        sequence
  have laterEvent : ¬ later.control := by
    intro control
    exact control_ne_event later laterMem earlier earlierMem control earlierEvent
      session.symm sequence.symm
  have earlierRecorded := ledger.event earlier earlierMem earlierEvent
  have laterRecorded := ledger.event later laterMem laterEvent
  rw [session] at earlierRecorded
  have same : earlier.event = later.event :=
    (ledger.sorted later.sessionId).eq_of_key_eq earlierRecorded laterRecorded sequence
  simp only [SentDispatch.event, CompatGatewayReplayEvent.mk.injEq] at same
  exact ⟨same.2.2.1, same.2.2.2, oneReplayed⟩

/-- In every state of every run whose steps are allowed, sequence numbers identify the
frames of each session and no recorded event is overwritten.
Witness: induction over the steps with the invariant `Sound`.
-/
theorem numbersIdentify_of_allowed {moves : List (Nat × Action)} {gateway : GatewayState}
    (allowed : Allowed GatewayState.step StepAllowed GatewayState.empty moves)
    (ran : run GatewayState.step GatewayState.empty moves = some gateway)
    : NumbersIdentify gateway := by
  have sound : Sound gateway :=
    run_preserves_of_allowed (fun _ _ _ sound allowed stepped => sound.step allowed stepped)
      .empty allowed ran
  exact sound.numbersIdentify

/-- A step that neither resumes nor reads a page is allowed. -/
theorem StepAllowed.of_other {gateway : GatewayState} {index : Nat} {action : Action}
    (notResume : ∀ bot sessionId clientSequence,
      action ≠ .resume bot sessionId clientSequence)
    (notList : action ≠ .list)
    : StepAllowed gateway (index, action) :=
  ⟨fun bot sessionId clientSequence _ _ same =>
      absurd same (notResume bot sessionId clientSequence),
    fun _ _ _ _ same => absurd same notList⟩

/-- The application whose connections the examples follow. -/
def exampleBot : AuthenticatedBot := ⟨.ofNat 1, .ofNat 2, .ofNat 3, "Helper"⟩

/-- A connection identifies and ends, and another one resumes its session. -/
def reconnect : List (Nat × Action) :=
  [(0, .identify exampleBot "gw_1" 513 .null), (0, .sendReady true), (0, .disconnect),
    (1, .resume exampleBot "gw_1" 1), (1, .list), (1, .takeOver), (1, .sendResumed true)]

theorem reconnect_allowed
    : Allowed GatewayState.step StepAllowed GatewayState.empty reconnect := by
  refine ⟨.of_other (by simp) (by simp), fun _ stepped => ?_⟩
  obtain rfl := Option.some.inj stepped
  refine ⟨.of_other (by simp) (by simp), fun _ stepped => ?_⟩
  obtain rfl := Option.some.inj stepped
  refine ⟨.of_other (by simp) (by simp), fun _ stepped => ?_⟩
  obtain rfl := Option.some.inj stepped
  refine ⟨⟨?_, by simp⟩, fun _ stepped => ?_⟩
  · intro bot sessionId clientSequence session store same resumed other differs holds
    cases other with
    | zero => cases holds
    | succ other => cases holds
  obtain rfl := Option.some.inj stepped
  refine ⟨⟨by simp, ?_⟩, fun _ stepped => ?_⟩
  · intro bot session clientSequence phase _
    cases phase
    left
    decide
  obtain rfl := Option.some.inj stepped
  refine ⟨.of_other (by simp) (by simp), fun _ stepped => ?_⟩
  obtain rfl := Option.some.inj stepped
  exact ⟨.of_other (by simp) (by simp), fun _ _ => trivial⟩

theorem reconnect_numbersIdentify
    : ∃ gateway, run GatewayState.step GatewayState.empty reconnect = some gateway
        ∧ gateway.sent.map (fun frame => (frame.eventType, frame.sequence))
          = [("READY", 1), ("RESUMED", 2)]
        ∧ NumbersIdentify gateway :=
  ⟨_, rfl, rfl, numbersIdentify_of_allowed reconnect_allowed rfl⟩

/-- A second connection resumes a session that the first still holds; the first then gets a
hub event.
-/
def secondResume : List (Nat × Action) :=
  [(0, .identify exampleBot "gw_1" 513 .null), (0, .sendReady true),
    (1, .resume exampleBot "gw_1" 1), (1, .list), (1, .takeOver), (1, .sendResumed true),
    (0, .receive "MESSAGE_CREATE" .null), (0, .append), (0, .sendLive true)]

/-- Both connections count on from 1, so `RESUMED` and `MESSAGE_CREATE` share number 2. -/
theorem secondResume_sharesNumber
    : ∃ gateway, run GatewayState.step GatewayState.empty secondResume = some gateway
        ∧ ¬ NumbersIdentify gateway := by
  refine ⟨_, rfl, ?_⟩
  intro identify
  have pair := identify.frames
  rw [List.pairwise_iff_getElem] at pair
  have same := pair 1 2 (by decide) (by decide) (by decide) rfl rfl
  exact absurd same.1 (by decide)

end OpenCord.Gateway

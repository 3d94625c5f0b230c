import OpenCord.Gateway.Machine

/-! When sequence numbers identify the frames of a session. Each connection counts on its
own while the session record only keeps a maximum, so the numbers stay unique as long as
every session has one connection at a time and no resume falls behind a recorded event.
-/

namespace OpenCord.Gateway

open OpenCord.Library OpenCord.Platform OpenCord.Bots

/-- A frame that is sent for the first time. -/
def SentDispatch.original (frame : SentDispatch) : Prop :=
  frame.origin ≠ .replayed

/-- A frame that is not kept for replay. -/
def SentDispatch.control (frame : SentDispatch) : Prop :=
  frame.origin = .ready ∨ frame.origin = .resumed

theorem SentDispatch.control.original {frame : SentDispatch} (control : frame.control)
    : frame.original := by
  intro replayed
  rcases control with ready | resumed
  · rw [ready] at replayed
    cases replayed
  · rw [resumed] at replayed
    cases replayed

/-- The replay event a frame was sent for. -/
def SentDispatch.event (frame : SentDispatch) : CompatGatewayReplayEvent :=
  ⟨frame.sessionId, frame.sequence, frame.eventType, frame.payload⟩

-----------------------------------------------------------------------------------------
-- The invariant
-----------------------------------------------------------------------------------------

/-- What holds of the store and of the frames that went out. -/
structure Ledger (gateway : GatewayState) : Prop where
  keyed : gateway.store.SessionsKeyed
  sorted : ∀ sessionId,
    KeyedLog.Sorted CompatGatewayReplayEvent.sequence (gateway.store.eventsOf sessionId)
  owned : ∀ sessionId, ∀ event ∈ gateway.store.eventsOf sessionId,
    event.sessionId = sessionId
  recorded : ∀ event ∈ gateway.appended, event ∈ gateway.store.eventsOf event.sessionId
  control : ∀ frame ∈ gateway.sent, frame.control →
    (∃ session, gateway.store.sessions.lookup frame.sessionId = some session
      ∧ frame.sequence ≤ session.sequence)
    ∧ ∀ event ∈ gateway.store.eventsOf frame.sessionId, event.sequence ≠ frame.sequence
  event : ∀ frame ∈ gateway.sent, ¬ frame.control →
    frame.event ∈ gateway.store.eventsOf frame.sessionId
  originals : gateway.sent.Pairwise fun earlier later =>
    earlier.original → later.original → earlier.sessionId = later.sessionId →
      earlier.sequence ≠ later.sequence

/-- No number of a session is above `sequence`. -/
structure Covers (gateway : GatewayState) (sessionId : String) (sequence : Int) : Prop where
  session : ∃ session, gateway.store.sessions.lookup sessionId = some session
    ∧ session.sequence ≤ sequence
  events : ∀ event ∈ gateway.store.eventsOf sessionId, event.sequence ≤ sequence

/-- No first-time frame of a session has the number. -/
def Unsent (gateway : GatewayState) (sessionId : String) (sequence : Int) : Prop :=
  ∀ frame ∈ gateway.sent, frame.original → frame.sessionId = sessionId →
    frame.sequence ≠ sequence

/-- The number belongs to a control frame that is about to be sent. -/
structure Reserved (gateway : GatewayState) (sessionId : String) (sequence : Int)
    : Prop where
  session : ∃ session, gateway.store.sessions.lookup sessionId = some session
    ∧ session.sequence = sequence
  events : ∀ event ∈ gateway.store.eventsOf sessionId, event.sequence < sequence
  unsent : Unsent gateway sessionId sequence

/-- What a connection may rely on at its place in the code. -/
def PeerInvariant (gateway : GatewayState) (peer : Peer) : Prop :=
  match peer.phase with
  | .closed => True
  | .idle => ∀ sessionId, peer.connection.activeSessionId = some sessionId →
      Covers gateway sessionId peer.connection.sequence
  | .readying _ sessionId _ => peer.connection.activeSessionId = some sessionId
      ∧ Reserved gateway sessionId peer.connection.sequence
  | .answering _ sessionId => peer.connection.activeSessionId = some sessionId
      ∧ Reserved gateway sessionId peer.connection.sequence
  | .listing _ session clientSequence =>
      gateway.store.sessions.lookup session.sessionId = some session
      ∧ clientSequence ≤ session.sequence
  | .replaying _ session page remaining =>
      gateway.store.sessions.lookup session.sessionId = some session
      ∧ (∀ event ∈ remaining, event ∈ gateway.store.eventsOf session.sessionId)
      ∧ ∀ event ∈ gateway.store.eventsOf session.sessionId,
          event.sequence < resumedSequence session page
  | .appending _ sessionId _ _ => peer.connection.activeSessionId = some sessionId
      ∧ Covers gateway sessionId (peer.connection.sequence - 1)
  | .sending _ sessionId eventType payload =>
      peer.connection.activeSessionId = some sessionId
      ∧ Covers gateway sessionId peer.connection.sequence
      ∧ ⟨sessionId, peer.connection.sequence, eventType, payload⟩
          ∈ gateway.store.eventsOf sessionId
      ∧ Unsent gateway sessionId peer.connection.sequence
  | .advancing _ sessionId => peer.connection.activeSessionId = some sessionId
      ∧ Covers gateway sessionId peer.connection.sequence

/-- The invariant of allowed runs. -/
structure Sound (gateway : GatewayState) : Prop where
  ledger : Ledger gateway
  exclusive : ∀ left right sessionId, (gateway.peers left).sessionId? = some sessionId →
    (gateway.peers right).sessionId? = some sessionId → left = right
  peers : ∀ index, PeerInvariant gateway (gateway.peers index)

-----------------------------------------------------------------------------------------
-- Other connections
-----------------------------------------------------------------------------------------

/-- Two states agree on a session: same record, same events, no new first-time frame. -/
structure AgreeOn (before after : GatewayState) (sessionId : String) : Prop where
  session : after.store.sessions.lookup sessionId
    = before.store.sessions.lookup sessionId
  events : after.store.eventsOf sessionId = before.store.eventsOf sessionId
  frames : ∀ frame ∈ after.sent, frame.original → frame.sessionId = sessionId →
    frame ∈ before.sent

theorem Covers.congr {before after : GatewayState} {sessionId : String} {sequence : Int}
    (agree : AgreeOn before after sessionId) (covers : Covers before sessionId sequence)
    : Covers after sessionId sequence := by
  refine ⟨?_, ?_⟩
  · rw [agree.session]
    exact covers.session
  · rw [agree.events]
    exact covers.events

theorem Unsent.congr {before after : GatewayState} {sessionId : String} {sequence : Int}
    (agree : AgreeOn before after sessionId) (unsent : Unsent before sessionId sequence)
    : Unsent after sessionId sequence := by
  intro frame mem original same
  exact unsent frame (agree.frames frame mem original same) original same

theorem Reserved.congr {before after : GatewayState} {sessionId : String} {sequence : Int}
    (agree : AgreeOn before after sessionId)
    (reserved : Reserved before sessionId sequence)
    : Reserved after sessionId sequence := by
  refine ⟨?_, ?_, reserved.unsent.congr agree⟩
  · rw [agree.session]
    exact reserved.session
  · rw [agree.events]
    exact reserved.events

/-- A connection keeps its invariant when the states agree on its session. -/
theorem PeerInvariant.congr {before after : GatewayState} {peer : Peer}
    (agree : ∀ sessionId, peer.sessionId? = some sessionId → AgreeOn before after sessionId)
    (invariant : PeerInvariant before peer)
    : PeerInvariant after peer := by
  obtain ⟨phase, connection⟩ := peer
  cases phase with
  | closed => trivial
  | idle =>
      intro sessionId active
      exact (invariant sessionId active).congr (agree sessionId active)
  | readying bot sessionId payload =>
      exact ⟨invariant.1, invariant.2.congr (agree sessionId rfl)⟩
  | answering bot sessionId =>
      exact ⟨invariant.1, invariant.2.congr (agree sessionId rfl)⟩
  | listing bot session clientSequence =>
      exact ⟨(agree session.sessionId rfl).session.trans invariant.1, invariant.2⟩
  | replaying bot session page remaining =>
      have same := agree session.sessionId rfl
      obtain ⟨stored, replayable, below⟩ := invariant
      refine ⟨same.session.trans stored, ?_, ?_⟩
      · rw [same.events]
        exact replayable
      · rw [same.events]
        exact below
  | appending bot sessionId eventType payload =>
      exact ⟨invariant.1, invariant.2.congr (agree sessionId rfl)⟩
  | sending bot sessionId eventType payload =>
      have same := agree sessionId rfl
      obtain ⟨active, covers, recorded, unsent⟩ := invariant
      refine ⟨active, covers.congr same, ?_, unsent.congr same⟩
      rw [same.events]
      exact recorded
  | advancing bot sessionId =>
      exact ⟨invariant.1, invariant.2.congr (agree sessionId rfl)⟩

/-- The session of a connection is stored. -/
theorem PeerInvariant.stored {gateway : GatewayState} {peer : Peer}
    (invariant : PeerInvariant gateway peer) {sessionId : String}
    (holds : peer.sessionId? = some sessionId)
    : ∃ session, gateway.store.sessions.lookup sessionId = some session := by
  obtain ⟨phase, connection⟩ := peer
  cases phase with
  | closed => cases holds
  | idle =>
      obtain ⟨session, stored, -⟩ := (invariant sessionId holds).session
      exact ⟨session, stored⟩
  | readying bot own payload =>
      cases holds
      obtain ⟨session, stored, -⟩ := invariant.2.session
      exact ⟨session, stored⟩
  | answering bot own =>
      cases holds
      obtain ⟨session, stored, -⟩ := invariant.2.session
      exact ⟨session, stored⟩
  | listing bot session clientSequence =>
      cases holds
      exact ⟨session, invariant.1⟩
  | replaying bot session page remaining =>
      cases holds
      exact ⟨session, invariant.1⟩
  | appending bot own eventType payload =>
      cases holds
      obtain ⟨session, stored, -⟩ := invariant.2.session
      exact ⟨session, stored⟩
  | sending bot own eventType payload =>
      cases holds
      obtain ⟨session, stored, -⟩ := invariant.2.1.session
      exact ⟨session, stored⟩
  | advancing bot own =>
      cases holds
      obtain ⟨session, stored, -⟩ := invariant.2.session
      exact ⟨session, stored⟩

/-- A step of one connection keeps the invariant if it keeps the ledger and its own part,
holds no session of another connection, and leaves their sessions alone.
-/
theorem Sound.of_step {before after : GatewayState} (sound : Sound before) (index : Nat)
    (ledger : Ledger after)
    (others : ∀ other, other ≠ index → after.peers other = before.peers other)
    (own : PeerInvariant after (after.peers index))
    (alone : ∀ other sessionId, other ≠ index →
      (before.peers other).sessionId? = some sessionId →
        (after.peers index).sessionId? ≠ some sessionId ∧ AgreeOn before after sessionId)
    : Sound after := by
  refine ⟨ledger, ?_, ?_⟩
  · intro left right sessionId leftHolds rightHolds
    by_cases leftMoved : left = index
    · by_cases rightMoved : right = index
      · rw [leftMoved, rightMoved]
      · rw [others right rightMoved] at rightHolds
        rw [leftMoved] at leftHolds
        exact absurd leftHolds (alone right sessionId rightMoved rightHolds).1
    · rw [others left leftMoved] at leftHolds
      by_cases rightMoved : right = index
      · rw [rightMoved] at rightHolds
        exact absurd rightHolds (alone left sessionId leftMoved leftHolds).1
      · rw [others right rightMoved] at rightHolds
        exact sound.exclusive left right sessionId leftHolds rightHolds
  · intro other
    by_cases moved : other = index
    · rw [moved]
      exact own
    · rw [others other moved]
      refine (sound.peers other).congr ?_
      intro sessionId holds
      exact (alone other sessionId moved holds).2

-----------------------------------------------------------------------------------------
-- The ledger
-----------------------------------------------------------------------------------------

theorem Ledger.empty : Ledger GatewayState.empty where
  keyed _ _ stored := by cases stored
  sorted _ := List.Pairwise.nil
  owned _ _ mem := by cases mem
  recorded _ mem := by cases mem
  control _ mem := by cases mem
  event _ mem := by cases mem
  originals := List.Pairwise.nil

/-- The ledger does not depend on the connections. -/
theorem Ledger.withPeer {gateway : GatewayState} (ledger : Ledger gateway) (index : Nat)
    (phase : Phase) (connection : Connection)
    : Ledger (gateway.withPeer index phase connection) :=
  ⟨ledger.keyed, ledger.sorted, ledger.owned, ledger.recorded, ledger.control,
    ledger.event, ledger.originals⟩

/-- A write to the sessions keeps the ledger if it keeps identifiers and lets no stored
sequence of a session with control frames go down.
-/
theorem Ledger.of_sessions {gateway : GatewayState} (ledger : Ledger gateway)
    {store : SessionStore} (keyed : store.SessionsKeyed)
    (events : store.replayEvents = gateway.store.replayEvents)
    (grown : ∀ sessionId session,
      gateway.store.sessions.lookup sessionId = some session →
        ∃ next, store.sessions.lookup sessionId = some next
          ∧ session.sequence ≤ next.sequence)
    : Ledger { gateway with store := store } := by
  have sameEvents : ∀ sessionId,
      store.eventsOf sessionId = gateway.store.eventsOf sessionId := by
    intro sessionId
    rw [SessionStore.eventsOf, events, SessionStore.eventsOf]
  refine ⟨keyed, ?_, ?_, ?_, ?_, ?_, ledger.originals⟩
  · intro sessionId
    rw [sameEvents]
    exact ledger.sorted sessionId
  · intro sessionId
    rw [sameEvents]
    exact ledger.owned sessionId
  · intro event mem
    rw [sameEvents]
    exact ledger.recorded event mem
  · intro frame mem control
    obtain ⟨⟨session, stored, bound⟩, differs⟩ := ledger.control frame mem control
    obtain ⟨next, nextStored, more⟩ := grown frame.sessionId session stored
    refine ⟨⟨next, nextStored, le_trans bound more⟩, ?_⟩
    rw [sameEvents]
    exact differs
  · intro frame mem event
    rw [sameEvents]
    exact ledger.event frame mem event

/-- A new session keeps the ledger. -/
theorem Ledger.createSession {gateway : GatewayState} (ledger : Ledger gateway)
    {session : CompatGatewaySession} (new : session.sessionId ∉ gateway.store.sessions)
    : Ledger { gateway with store := gateway.store.createSession session } := by
  refine ledger.of_sessions ?_ rfl ?_
  · intro sessionId stored found
    rw [SessionStore.createSession, Table.lookup_insert_eq] at found
    split at found
    · next same =>
        cases found
        exact same.symm
    · exact ledger.keyed sessionId stored found
  · intro sessionId stored found
    have older : sessionId ≠ session.sessionId := by
      intro same
      rw [same] at found
      exact new (Table.mem_of_lookup found)
    refine ⟨stored, ?_, le_refl _⟩
    rw [SessionStore.createSession, Table.lookup_insert_eq, if_neg older, found]

/-- A sequence update keeps the ledger. -/
theorem Ledger.updateSequence {gateway : GatewayState} (ledger : Ledger gateway)
    (updated : String) (sequence : Int)
    : Ledger { gateway with store := gateway.store.updateSequence updated sequence } := by
  refine ledger.of_sessions (ledger.keyed.updateSequence updated sequence) ?_ ?_
  · rw [SessionStore.updateSequence]
    split <;> rfl
  · intro sessionId session found
    rw [SessionStore.lookup_updateSequence]
    split
    · next same =>
        rw [same] at found
        exact ⟨_, by rw [found, Option.map_some], le_max_left _ _⟩
    · exact ⟨session, found, le_refl _⟩

/-- A frame keeps the ledger if its number is its own: a control frame's is in no recorded
event, any other frame repeats a recorded event, and no first-time frame had it before.
-/
theorem Ledger.send {gateway : GatewayState} (ledger : Ledger gateway)
    (frame : SentDispatch)
    (control : frame.control →
      (∃ session, gateway.store.sessions.lookup frame.sessionId = some session
        ∧ frame.sequence ≤ session.sequence)
      ∧ ∀ event ∈ gateway.store.eventsOf frame.sessionId, event.sequence ≠ frame.sequence)
    (event : ¬ frame.control → frame.event ∈ gateway.store.eventsOf frame.sessionId)
    (unsent : frame.original → Unsent gateway frame.sessionId frame.sequence)
    : Ledger { gateway with sent := gateway.sent ++ [frame] } := by
  refine ⟨ledger.keyed, ledger.sorted, ledger.owned, ledger.recorded, ?_, ?_, ?_⟩
  · intro other mem
    rcases List.mem_append.mp mem with older | new
    · exact ledger.control other older
    · rw [List.mem_singleton.mp new]
      exact control
  · intro other mem
    rcases List.mem_append.mp mem with older | new
    · exact ledger.event other older
    · rw [List.mem_singleton.mp new]
      exact event
  · refine List.pairwise_append.mpr ⟨ledger.originals, List.pairwise_singleton _ _, ?_⟩
    intro earlier older later new earlierOriginal laterOriginal same
    rw [List.mem_singleton.mp new] at laterOriginal same ⊢
    exact unsent laterOriginal earlier older earlierOriginal same

/-- Recording an event above every number of its session keeps the ledger. -/
theorem Ledger.append {gateway : GatewayState} (ledger : Ledger gateway)
    (event : CompatGatewayReplayEvent)
    (covers : Covers gateway event.sessionId (event.sequence - 1))
    : Ledger
        { gateway with
          store := gateway.store.appendReplayEvent event
          appended := gateway.appended ++ [event] } := by
  have kept : ∀ sessionId, ∀ other ∈ gateway.store.eventsOf sessionId,
      other ∈ (gateway.store.appendReplayEvent event).eventsOf sessionId := by
    intro sessionId other mem
    rw [SessionStore.eventsOf_appendReplayEvent]
    split
    · next same =>
        rw [same] at mem
        have below := covers.events other mem
        exact ((ledger.sorted event.sessionId).mem_upsert).mpr (.inr ⟨mem, by omega⟩)
    · exact mem
  have new : ∀ sessionId, ∀ other ∈ (gateway.store.appendReplayEvent event).eventsOf
      sessionId, other = event ∧ sessionId = event.sessionId
        ∨ other ∈ gateway.store.eventsOf sessionId := by
    intro sessionId other mem
    rw [SessionStore.eventsOf_appendReplayEvent] at mem
    split at mem
    · next same =>
        rcases ((ledger.sorted event.sessionId).mem_upsert).mp mem with isNew | ⟨old, -⟩
        · exact .inl ⟨isNew, same⟩
        · rw [same]
          exact .inr old
    · exact .inr mem
  refine ⟨ledger.keyed, ?_, ?_, ?_, ?_, ?_, ledger.originals⟩
  · intro sessionId
    rw [SessionStore.eventsOf_appendReplayEvent]
    split
    · exact (ledger.sorted event.sessionId).upsert event
    · exact ledger.sorted sessionId
  · intro sessionId other mem
    rcases new sessionId other mem with ⟨isNew, same⟩ | old
    · rw [isNew, same]
    · exact ledger.owned sessionId other old
  · intro other mem
    rcases List.mem_append.mp mem with older | isNew
    · exact kept other.sessionId other (ledger.recorded other older)
    · rw [List.mem_singleton.mp isNew, SessionStore.eventsOf_appendReplayEvent, if_pos rfl]
      exact ((ledger.sorted event.sessionId).mem_upsert).mpr (.inl rfl)
  · intro frame mem control
    obtain ⟨stored, differs⟩ := ledger.control frame mem control
    refine ⟨stored, ?_⟩
    intro other otherMem
    rcases new frame.sessionId other otherMem with ⟨isNew, same⟩ | old
    · obtain ⟨session, found, bound⟩ := stored
      obtain ⟨known, knownFound, knownBound⟩ := covers.session
      rw [same, knownFound] at found
      cases found
      rw [isNew]
      omega
    · exact differs other old
  · intro frame mem event
    exact kept frame.sessionId _ (ledger.event frame mem event)

end OpenCord.Gateway

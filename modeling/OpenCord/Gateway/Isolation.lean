import OpenCord.Gateway.FrameOrder
import OpenCord.Gateway.Ledger

/-! Sessions and frames belong to the bot that a connection has identified. What is dispatched
live is given by a predicate on frames, and a replayed frame repeats such a dispatch for a bot
of the same identity.
-/

namespace OpenCord.Gateway

open OpenCord.Library OpenCord.Platform OpenCord.Bots

/-- The session is stored for the bot, with the intents. -/
def SessionStore.BelongsTo (store : SessionStore) (sessionId : String) (bot : AuthenticatedBot)
    (intents : Nat) : Prop :=
  ∃ session, store.sessions.lookup sessionId = some session ∧ session.ownedBy bot = true
    ∧ session.intents = intents

/-- Sessions stay with their bots and their intents. -/
def SessionStore.Keeps (before after : SessionStore) : Prop :=
  ∀ sessionId bot intents, before.BelongsTo sessionId bot intents →
    after.BelongsTo sessionId bot intents

theorem SessionStore.keeps_of_lookup {before after : SessionStore}
    (same : ∀ sessionId, after.sessions.lookup sessionId = before.sessions.lookup sessionId)
    : before.Keeps after := by
  intro sessionId bot intents belongs
  obtain ⟨session, stored, owned⟩ := belongs
  exact ⟨session, (same sessionId).trans stored, owned⟩

theorem SessionStore.keeps_updateSequence (store : SessionStore) (updated : String)
    (sequence : Int)
    : store.Keeps (store.updateSequence updated sequence) := by
  intro sessionId bot intents belongs
  obtain ⟨session, stored, owned, same⟩ := belongs
  rw [SessionStore.BelongsTo, lookup_updateSequence]
  split
  · next isUpdated =>
      rw [← isUpdated, stored]
      exact ⟨_, rfl, owned, same⟩
  · exact ⟨session, stored, owned, same⟩

/-- The same application, organization and bot user. -/
structure SameIdentity (bot other : AuthenticatedBot) : Prop where
  applicationId : bot.applicationId = other.applicationId
  organizationId : bot.organizationId = other.organizationId
  botUserId : bot.botUserId = other.botUserId

/-- The owners of one session have one identity, and the session has one set of intents. -/
theorem SessionStore.BelongsTo.same {store : SessionStore} {sessionId : String}
    {bot other : AuthenticatedBot} {intents otherIntents : Nat}
    (belongs : store.BelongsTo sessionId bot intents)
    (belongsToOther : store.BelongsTo sessionId other otherIntents)
    : SameIdentity bot other ∧ intents = otherIntents := by
  obtain ⟨session, stored, owned, rfl⟩ := belongs
  obtain ⟨found, storedToo, ownedToo, rfl⟩ := belongsToOther
  cases stored.symm.trans storedToo
  simp only [CompatGatewaySession.ownedBy, Bool.and_eq_true, beq_iff_eq] at owned ownedToo
  refine ⟨⟨?_, ?_, ?_⟩, rfl⟩
  · exact owned.1.1.symm.trans ownedToo.1.1
  · exact owned.1.2.symm.trans ownedToo.1.2
  · exact owned.2.symm.trans ownedToo.2

/-- The dispatch of an event that a connection has numbered. -/
def liveFrame (index : Nat) (bot : AuthenticatedBot) (sessionId eventType : String)
    (sequence : Int) (payload : Json) : SentDispatch :=
  ⟨index, bot, sessionId, .live, eventType, sequence, payload⟩

/-- A connection that has identified a bot uses a session of the bot. -/
structure Connection.Identifies (connection : Connection) (bot : AuthenticatedBot)
    (sessionId : String) : Prop where
  bot : connection.identifiedBot = some bot
  session : connection.activeSessionId = some sessionId

/-- A connection uses a session of its own bot, and what it is about to dispatch is noted. -/
structure Peer.Isolated (noted : SentDispatch → Prop) (store : SessionStore)
    (appended : List CompatGatewayReplayEvent) (index : Nat) (peer : Peer) : Prop where
  owns : ∀ bot, peer.connection.identifiedBot = some bot → ∃ sessionId,
    peer.connection.activeSessionId = some sessionId
      ∧ store.BelongsTo sessionId bot peer.connection.activeIntents
  phase : match peer.phase with
    | .idle => True
    | .closed => True
    | .readying bot sessionId _ => peer.connection.Identifies bot sessionId
    | .answering bot sessionId => peer.connection.Identifies bot sessionId
    | .advancing bot sessionId => peer.connection.Identifies bot sessionId
    | .listing bot session _ =>
        peer.connection.identifiedBot = none
          ∧ store.BelongsTo session.sessionId bot session.intents
    | .replaying bot session _ remaining =>
        peer.connection.identifiedBot = none
          ∧ store.BelongsTo session.sessionId bot session.intents
          ∧ ∀ event ∈ remaining, event ∈ appended ∧ event.sessionId = session.sessionId
    | .appending bot sessionId eventType payload =>
        peer.connection.Identifies bot sessionId
          ∧ noted (liveFrame index bot sessionId eventType peer.connection.sequence payload)
    | .sending bot sessionId eventType payload =>
        peer.connection.Identifies bot sessionId
          ∧ noted (liveFrame index bot sessionId eventType peer.connection.sequence payload)
          ∧ ⟨sessionId, peer.connection.sequence, eventType, payload⟩ ∈ appended

theorem Peer.Isolated.mono {noted later : SentDispatch → Prop} {store next : SessionStore}
    {appended more : List CompatGatewayReplayEvent} {index : Nat} {peer : Peer}
    (isolated : peer.Isolated noted store appended index)
    (notes : ∀ frame, noted frame → later frame) (keeps : store.Keeps next)
    (grows : appended ⊆ more)
    : peer.Isolated later next more index := by
  obtain ⟨phase, connection⟩ := peer
  refine ⟨fun bot identified => ?_, ?_⟩
  · obtain ⟨sessionId, active, belongs⟩ := isolated.owns bot identified
    exact ⟨sessionId, active, keeps _ _ _ belongs⟩
  · have own := isolated.phase
    cases phase with
    | idle => trivial
    | closed => trivial
    | readying => exact own
    | answering => exact own
    | advancing => exact own
    | listing => exact ⟨own.1, keeps _ _ _ own.2⟩
    | replaying =>
        obtain ⟨unidentified, belongs, recorded⟩ := own
        refine ⟨unidentified, keeps _ _ _ belongs, fun event mem => ?_⟩
        exact ⟨grows (recorded event mem).1, (recorded event mem).2⟩
    | appending => exact ⟨own.1, notes _ own.2⟩
    | sending => exact ⟨own.1, notes _ own.2.1, grows own.2.2⟩

/-- Live frames are sent for the identified bot and are noted; replayed frames repeat what was
recorded for a session of the same bot; what is recorded has been noted.
-/
structure Isolated (noted : SentDispatch → Prop) (gateway : GatewayState) : Prop where
  keyed : gateway.store.SessionsKeyed
  ordered : gateway.store.Ordered
  recorded : ∀ sessionId, ∀ event ∈ gateway.store.eventsOf sessionId,
    event ∈ gateway.appended ∧ event.sessionId = sessionId
  peers : ∀ index,
    (gateway.peers index).Isolated noted gateway.store gateway.appended index
  appended : ∀ event ∈ gateway.appended, ∃ frame, noted frame ∧ frame.event = event
    ∧ ∃ intents, gateway.store.BelongsTo frame.sessionId frame.bot intents
  live : ∀ frame ∈ gateway.sent, frame.origin = .live → noted frame
    ∧ (gateway.peers frame.peer).connection.Identifies frame.bot frame.sessionId
  replayed : ∀ frame ∈ gateway.sent, frame.origin = .replayed →
    frame.event ∈ gateway.appended
      ∧ ∃ intents, gateway.store.BelongsTo frame.sessionId frame.bot intents

theorem Isolated.empty (noted : SentDispatch → Prop) : Isolated noted .empty where
  keyed := nofun
  ordered := fun _ => .nil
  recorded := nofun
  peers := fun _ => ⟨nofun, trivial⟩
  appended := nofun
  live := nofun
  replayed := nofun

/-- Noting more keeps the gateway isolated. -/
theorem Isolated.mono {noted later : SentDispatch → Prop} {gateway : GatewayState}
    (isolated : Isolated noted gateway) (notes : ∀ frame, noted frame → later frame)
    : Isolated later gateway where
  keyed := isolated.keyed
  ordered := isolated.ordered
  recorded := isolated.recorded
  peers := fun index => (isolated.peers index).mono notes (fun _ _ _ => id) (List.Subset.refl _)
  appended := fun event listed => (isolated.appended event listed).imp fun frame found =>
    ⟨notes frame found.1, found.2⟩
  live := fun frame sent isLive =>
    ⟨notes frame (isolated.live frame sent isLive).1, (isolated.live frame sent isLive).2⟩
  replayed := isolated.replayed

section

variable {noted : SentDispatch → Prop} {gateway next : GatewayState} {index : Nat}
  {action : Action}

/-- A step writes the sessions so that they stay with their bots. -/
theorem Moves.keeps (moves : Moves gateway index action next)
    : gateway.store.Keeps next.store := by
  cases moves with
  | identified bot sessionId intents ready phase unidentified newSession newEvents =>
      intro other owner ownIntents belongs
      obtain ⟨session, stored, owned⟩ := belongs
      have differs : other ≠ sessionId := by
        intro same
        rw [same] at stored
        exact newSession (Table.mem_of_lookup stored)
      exact ⟨session, (AList.lookup_insert_ne differs).trans stored, owned⟩
  | granted bot sessionId clientSequence session store phase unidentified resumed =>
      exact SessionStore.keeps_of_lookup
        (SessionStore.resumeSession_resumed resumed).2.2.2.1
  | tookOver => exact SessionStore.keeps_updateSequence _ _ _
  | advanced => exact SessionStore.keeps_updateSequence _ _ _
  | _ => exact fun _ _ _ belongs => belongs

/-- A step records the event that its connection is about to record, or none. -/
theorem Moves.appended_cases (moves : Moves gateway index action next)
    : (next.appended = gateway.appended
        ∧ ∀ sessionId, next.store.eventsOf sessionId = gateway.store.eventsOf sessionId)
      ∨ ∃ bot sessionId eventType payload,
          (gateway.peers index).phase = .appending bot sessionId eventType payload
            ∧ next.appended = gateway.appended
              ++ [(liveFrame index bot sessionId eventType
                (gateway.peers index).connection.sequence payload).event]
            ∧ next.store = gateway.store.appendReplayEvent
              (liveFrame index bot sessionId eventType
                (gateway.peers index).connection.sequence payload).event := by
  cases moves with
  | appended bot sessionId eventType payload phase =>
      exact .inr ⟨bot, sessionId, eventType, payload, phase, rfl, rfl⟩
  | granted bot sessionId clientSequence session store phase unidentified resumed =>
      refine .inl ⟨rfl, fun other => ?_⟩
      show store.eventsOf other = _
      rw [SessionStore.eventsOf, (SessionStore.resumeSession_resumed resumed).2.2.2.2]
      rfl
  | tookOver => exact .inl ⟨rfl, fun _ => SessionStore.eventsOf_updateSequence ..⟩
  | advanced => exact .inl ⟨rfl, fun _ => SessionStore.eventsOf_updateSequence ..⟩
  | _ => exact .inl ⟨rfl, fun _ => rfl⟩

/-- A connection that has identified a bot keeps it, and its session. -/
theorem Moves.identifies (moves : Moves gateway index action next) {bot : AuthenticatedBot}
    {sessionId : String} {store : SessionStore} {recorded : List CompatGatewayReplayEvent}
    (isolated : (gateway.peers index).Isolated noted store recorded index)
    (identifies : (gateway.peers index).connection.Identifies bot sessionId)
    : (next.peers index).connection.Identifies bot sessionId := by
  cases moves with
  | identified _ _ _ _ phase unidentified => cases unidentified.symm.trans identifies.bot
  | tookOver own session page phase =>
      have unidentified := isolated.phase
      rw [phase] at unidentified
      cases unidentified.1.symm.trans identifies.bot
  | received =>
      rw [GatewayState.peers_withPeer_self]
      exact ⟨identifies.bot, identifies.session⟩
  | unstored =>
      rw [GatewayState.peers_withPeer_self]
      exact ⟨identifies.bot, identifies.session⟩
  | _ =>
      rw [GatewayState.peers_withPeer_self]
      exact identifies

/-- Only a connection that takes an event is about to record one. -/
theorem Moves.appending (moves : Moves gateway index action next) {bot : AuthenticatedBot}
    {sessionId eventType : String} {payload : Json}
    (phase : (next.peers index).phase = .appending bot sessionId eventType payload)
    : action = .receive eventType payload
        ∧ (gateway.peers index).connection.Identifies bot sessionId
        ∧ (next.peers index).connection.sequence
          = (gateway.peers index).connection.sequence + 1 := by
  cases moves with
  | received own ownSession ownType ownPayload idle identified active =>
      rw [GatewayState.peers_withPeer_self] at phase ⊢
      cases phase
      exact ⟨rfl, ⟨identified, active⟩, rfl⟩
  | sent _ frame after sends =>
      rw [GatewayState.peers_withPeer_self] at phase
      obtain rfl : after = _ := phase
      generalize (gateway.peers index).phase = before at sends
      cases sends
  | _ =>
      rw [GatewayState.peers_withPeer_self] at phase
      cases phase

/-- A step keeps its connection isolated, if it notes what it is about to dispatch. -/
theorem Moves.isolated (moves : Moves gateway index action next)
    (invariant : Isolated noted gateway)
    (notes : ∀ bot sessionId eventType payload, (gateway.peers index).phase = .idle →
      (next.peers index).phase = .appending bot sessionId eventType payload →
        noted (liveFrame index bot sessionId eventType
          (next.peers index).connection.sequence payload))
    : (next.peers index).Isolated noted next.store next.appended index := by
  have own := invariant.peers index
  have keeps := moves.keeps
  have identity := own.phase
  cases moves with
  | identified bot sessionId intents ready phase unidentified newSession newEvents =>
      rw [GatewayState.peers_withPeer_self]
      refine ⟨fun other same => ⟨sessionId, rfl, ?_⟩, rfl, rfl⟩
      cases same
      refine ⟨_, AList.lookup_insert _, ?_, rfl⟩
      simp only [CompatGatewaySession.ownedBy, beq_self_eq_true, Bool.and_self]
  | unstored phase unidentified =>
      rw [GatewayState.peers_withPeer_self]
      refine ⟨fun bot identified => ?_, trivial⟩
      cases unidentified.symm.trans identified
  | granted bot asked clientSequence session store phase unidentified resumed =>
      obtain ⟨stored, owned, _, sessions, _⟩ := SessionStore.resumeSession_resumed resumed
      rw [GatewayState.peers_withPeer_self]
      refine ⟨fun other identified => ?_, unidentified, session, ?_, owned, rfl⟩
      · cases unidentified.symm.trans identified
      · show store.sessions.lookup session.sessionId = some session
        rw [invariant.keyed asked session stored, sessions]
        exact stored
  | listed bot session clientSequence phase =>
      rw [phase] at identity
      rw [GatewayState.peers_withPeer_self]
      refine ⟨own.owns, identity.1, identity.2, fun event listed => ?_⟩
      exact invariant.recorded _ event (KeyedLog.mem_of_mem_pageAfter listed).1
  | tookOver bot session page phase =>
      rw [phase] at identity
      rw [GatewayState.peers_withPeer_self]
      refine ⟨fun other same => ⟨session.sessionId, rfl, ?_⟩, rfl, rfl⟩
      cases same
      exact keeps _ _ _ identity.2.1
  | received bot sessionId eventType payload phase identified active =>
      have noted := notes bot sessionId eventType payload phase
      rw [GatewayState.peers_withPeer_self] at noted ⊢
      exact ⟨own.owns, ⟨identified, active⟩, noted rfl⟩
  | appended bot sessionId eventType payload phase =>
      rw [phase] at identity
      rw [GatewayState.peers_withPeer_self]
      refine ⟨own.owns, identity.1, identity.2, ?_⟩
      exact List.mem_append_right _ List.mem_cons_self
  | advanced bot sessionId phase =>
      rw [GatewayState.peers_withPeer_self]
      refine ⟨fun other identified => ?_, trivial⟩
      obtain ⟨held, active, belongs⟩ := own.owns other identified
      exact ⟨held, active, keeps _ _ _ belongs⟩
  | sent _ frame after sends =>
      rw [GatewayState.peers_withPeer_self]
      refine ⟨own.owns, ?_⟩
      generalize (gateway.peers index).phase = phase at sends identity
      generalize (gateway.peers index).connection = connection at sends identity
      cases sends with
      | ready => trivial
      | resumed => trivial
      | replayed bot session page remaining event =>
          obtain ⟨unidentified, belongs, recorded⟩ := identity
          refine ⟨unidentified, belongs, fun other mem => ?_⟩
          exact recorded other (List.mem_cons_of_mem _ mem)
      | live => exact identity.1
  | closed =>
      rw [GatewayState.peers_withPeer_self]
      exact ⟨own.owns, trivial⟩

/-- Every step keeps the gateway isolated, if it notes what it is about to dispatch. -/
theorem Isolated.step (isolated : Isolated noted gateway)
    (moves : Moves gateway index action next)
    (notes : ∀ bot sessionId eventType payload, (gateway.peers index).phase = .idle →
      (next.peers index).phase = .appending bot sessionId eventType payload →
        noted (liveFrame index bot sessionId eventType
          (next.peers index).connection.sequence payload))
    : Isolated noted next := by
  have own := isolated.peers index
  have keeps := moves.keeps
  have grows : gateway.appended ⊆ next.appended := by
    rcases moves.appended_cases with ⟨same, _⟩ | ⟨_, _, _, _, _, added, _⟩
    · rw [same]
      exact List.Subset.refl _
    · rw [added]
      exact List.subset_append_left ..
  have belongs : ∀ {sessionId bot}, (∃ intents, gateway.store.BelongsTo sessionId bot intents) →
      ∃ intents, next.store.BelongsTo sessionId bot intents :=
    fun found => found.imp fun intents => keeps _ _ intents
  have identifies : ∀ {frame : SentDispatch},
      (gateway.peers frame.peer).connection.Identifies frame.bot frame.sessionId →
        (next.peers frame.peer).connection.Identifies frame.bot frame.sessionId := by
    intro frame before
    by_cases same : frame.peer = index
    · rw [same] at before ⊢
      exact moves.identifies own before
    · rw [moves.peers_of_ne same]
      exact before
  refine {
    keyed := moves.keyed isolated.keyed
    ordered := moves.ordered isolated.ordered
    recorded := fun sessionId event listed => ?_
    peers := fun other => ?_
    appended := fun event listed => ?_
    live := fun frame sent isLive => ?_
    replayed := fun frame sent isReplayed => ?_ }
  · rcases moves.appended_cases with ⟨_, same⟩ | ⟨bot, own, eventType, payload, _, added, store⟩
    · rw [same] at listed
      exact ⟨grows (isolated.recorded _ _ listed).1, (isolated.recorded _ _ listed).2⟩
    · rw [store, SessionStore.eventsOf_appendReplayEvent] at listed
      split at listed
      · next isOwn =>
          rcases (isolated.ordered _).mem_upsert.mp listed with rfl | ⟨earlier, _⟩
          · rw [added]
            exact ⟨List.mem_append_right _ List.mem_cons_self, isOwn.symm⟩
          · rw [isOwn]
            exact ⟨grows (isolated.recorded _ _ earlier).1, (isolated.recorded _ _ earlier).2⟩
      · exact ⟨grows (isolated.recorded _ _ listed).1, (isolated.recorded _ _ listed).2⟩
  · by_cases same : other = index
    · rw [same]
      exact moves.isolated isolated notes
    · rw [moves.peers_of_ne same]
      exact (isolated.peers other).mono (fun _ => id) keeps grows
  · rcases moves.appended_cases with
      ⟨same, _⟩ | ⟨bot, sessionId, eventType, payload, phase, added, _⟩
    · obtain ⟨frame, wasNoted, isEvent, owner⟩ := isolated.appended event (same ▸ listed)
      exact ⟨frame, wasNoted, isEvent, belongs owner⟩
    · rw [added] at listed
      rcases List.mem_append.mp listed with earlier | last
      · obtain ⟨frame, wasNoted, isEvent, owner⟩ := isolated.appended event earlier
        exact ⟨frame, wasNoted, isEvent, belongs owner⟩
      · have identity := own.phase
        rw [phase] at identity
        obtain ⟨held, active, owner⟩ := own.owns bot identity.1.bot
        cases identity.1.session.symm.trans active
        rw [List.mem_singleton.mp last]
        exact ⟨_, identity.2, rfl, belongs ⟨_, owner⟩⟩
  · rcases moves.sent_cases with unchanged | ⟨new, phase, sends, added, _⟩
    · obtain ⟨wasNoted, before⟩ := isolated.live frame (unchanged ▸ sent) isLive
      exact ⟨wasNoted, identifies before⟩
    · rw [added] at sent
      rcases List.mem_append.mp sent with earlier | last
      · obtain ⟨wasNoted, before⟩ := isolated.live frame earlier isLive
        exact ⟨wasNoted, identifies before⟩
      · rw [List.mem_singleton.mp last] at isLive ⊢
        have identity := own.phase
        have before : noted new
            ∧ (gateway.peers index).connection.Identifies new.bot new.sessionId := by
          generalize (gateway.peers index).phase = phase at sends identity
          generalize (gateway.peers index).connection = connection at sends identity
          cases sends with
          | ready => cases isLive
          | resumed => cases isLive
          | replayed => cases isLive
          | live => exact ⟨identity.2.1, identity.1⟩
        rw [← sends.peer] at before
        exact ⟨before.1, identifies before.2⟩
  · rcases moves.sent_cases with unchanged | ⟨new, phase, sends, added, _⟩
    · obtain ⟨recorded, owner⟩ := isolated.replayed frame (unchanged ▸ sent) isReplayed
      exact ⟨grows recorded, belongs owner⟩
    · rw [added] at sent
      rcases List.mem_append.mp sent with earlier | last
      · obtain ⟨recorded, owner⟩ := isolated.replayed frame earlier isReplayed
        exact ⟨grows recorded, belongs owner⟩
      · rw [List.mem_singleton.mp last] at isReplayed ⊢
        have identity := own.phase
        generalize (gateway.peers index).phase = phase at sends identity
        cases sends with
        | ready => cases isReplayed
        | resumed => cases isReplayed
        | live => cases isReplayed
        | replayed bot session page remaining event =>
            obtain ⟨_, owner, recorded⟩ := identity
            obtain ⟨listed, same⟩ := recorded event List.mem_cons_self
            refine ⟨grows ?_, belongs ⟨_, owner⟩⟩
            rw [SentDispatch.event, ← same]
            exact listed

end

end OpenCord.Gateway

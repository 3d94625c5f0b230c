import OpenCord.Server.World

/-! What a session misses while no connection is live on it. Only a live connection records
events for its session, so a later resume replays none that was published in between.
-/

namespace OpenCord.Gateway

open OpenCord.Bots

/-- The connection is open and uses the session. -/
def Peer.LiveOn (peer : Peer) (sessionId : String) : Prop :=
  ¬ peer.phase.isClosed ∧ peer.connection.activeSessionId = some sessionId

instance (peer : Peer) (sessionId : String) : Decidable (peer.LiveOn sessionId) :=
  inferInstanceAs (Decidable (_ ∧ _))

/-- The bot, the session and the page of a connection that has sent its whole replay. -/
def Phase.replayed? : Phase → Option (AuthenticatedBot × CompatGatewaySession
    × List CompatGatewayReplayEvent)
  | .replaying bot session page [] => some (bot, session, page)
  | _ => none

theorem Phase.replayed?_eq_some {phase : Phase} {bot : AuthenticatedBot}
    {session : CompatGatewaySession} {page : List CompatGatewayReplayEvent}
    : phase.replayed? = some (bot, session, page) ↔ phase = .replaying bot session page [] := by
  rw [Phase.replayed?.eq_def]
  split
  · simp
  · next unlike =>
      refine iff_of_false (fun found => ?_) fun same => unlike _ _ _ same
      cases found

end OpenCord.Gateway

namespace OpenCord.Server

open OpenCord.Library OpenCord.Platform OpenCord.Auth OpenCord.Tenancy OpenCord.Bots
  OpenCord.Realtime OpenCord.Gateway

/-- No connection is live on the session. -/
def World.NoLive (sessionId : String) (world : World) : Prop :=
  ∀ index, ¬ (world.gateway.peers index).LiveOn sessionId

/-- A frame is the dispatch of the event that was published at a position. -/
def World.StemsFrom (world : World) (frame : SentDispatch) (position : Nat) : Prop :=
  ∃ check ∈ world.checks, check.position = position ∧ check.frame.event = frame.event

/-- A time in which a session has no live connection, from the end of its last one until a
connection that resumes it has sent its whole replay. What is left of the resume is to take the
session over and to send `RESUMED`.
-/
structure Gap (crypto : Crypto) where
  ended : World
  moves : List WorldMove
  resuming : World
  index : Nat
  bot : AuthenticatedBot
  session : CompatGatewaySession
  page : List CompatGatewayReplayEvent
  reached : ended.Reached crypto
  ran : run (World.step crypto) ended moves = some resuming
  noLive : Always (World.step crypto) (World.NoLive session.sessionId) ended moves
  replayed : (resuming.gateway.peers index).phase = .replaying bot session page []

namespace Gap

variable {crypto : Crypto}

/-- An event is published in the gap, and passes the intents of the session and the check for
its bot.
-/
structure Misses (gap : Gap crypto) (position : Nat) (event : RealtimeEvent) : Prop where
  afterEnd : gap.ended.app.published.length ≤ position
  published : gap.resuming.app.published[position]? = some event
  passes : (CompatGatewayController.dispatchFor gap.resuming.app gap.bot gap.session.intents
    event).isSome

/-- The frames that the resume has sent before `RESUMED`. -/
def replay (gap : Gap crypto) : List SentDispatch :=
  gap.resuming.gateway.sent.filter fun frame =>
    frame.peer = gap.index ∧ frame.origin = .replayed
      ∧ frame.sessionId = gap.session.sessionId

end Gap

-----------------------------------------------------------------------------------------
-- What is checked for a session without a live connection
-----------------------------------------------------------------------------------------

variable {crypto : Crypto}

/-- All events that were checked for a session were published before the given length. -/
def World.CheckedBefore (sessionId : String) (length : Nat) (world : World) : Prop :=
  ∀ check ∈ world.checks, check.frame.sessionId = sessionId → check.position < length

/-- A checked event is among the published ones. -/
theorem World.Invariant.checkedBefore {world : World} (invariant : world.Invariant crypto)
    (sessionId : String)
    : world.CheckedBefore sessionId world.app.published.length := by
  intro check listed _
  have published := (invariant.genuine check listed).published
  have within : check.position < check.state.published.length :=
    (List.getElem?_eq_some_iff.mp published).1
  exact lt_of_lt_of_le within (invariant.earlier check listed).length_le

/-- Only a connection that is live on the session checks an event for it. -/
theorem World.CheckedBefore.step {sessionId : String} {length : Nat} {world next : World}
    (before : world.CheckedBefore sessionId length) (noLive : world.NoLive sessionId)
    {move : WorldMove} (moves : WorldMoves crypto world move next)
    : next.CheckedBefore sessionId length := by
  cases moves with
  | received index position event bot active name payload gateway waits _ identified uses =>
      refine List.forall_mem_append.mpr ⟨before, List.forall_mem_singleton.mpr ?_⟩
      intro same
      refine absurd ?_ (noLive index)
      refine ⟨?_, uses.trans (congrArg some same)⟩
      rw [waits]
      exact Bool.false_ne_true
  | _ => exact before

/-- In a gap nothing is checked for the session, by induction over the steps of the gap. -/
theorem Gap.checkedBefore (gap : Gap crypto)
    : gap.resuming.CheckedBefore gap.session.sessionId gap.ended.app.published.length := by
  have initially := gap.reached.invariant.checkedBefore gap.session.sessionId
  refine run_preserves_of_allowed ?_ initially gap.noLive.allowed gap.ran
  intro world move next before noLive stepped
  exact before.step noLive (World.step_moves stepped)

/-- A resume replays what was published before the gap, and no event of the gap. -/
theorem Gap.replay_precedes (gap : Gap crypto)
    : (∀ frame ∈ gap.replay, ∃ position < gap.ended.app.published.length,
        gap.resuming.StemsFrom frame position)
      ∧ ∀ position event, gap.Misses position event →
          ∀ frame ∈ gap.replay, ¬ gap.resuming.StemsFrom frame position := by
  have bound : ∀ frame ∈ gap.replay, ∀ position, gap.resuming.StemsFrom frame position →
      position < gap.ended.app.published.length := by
    intro frame listed position stems
    obtain ⟨check, checked, rfl, same⟩ := stems
    obtain ⟨_, _, session⟩ := of_decide_eq_true (List.mem_filter.mp listed).2
    have ofSession : check.frame.sessionId = frame.sessionId :=
      congrArg CompatGatewayReplayEvent.sessionId same
    exact gap.checkedBefore check checked (ofSession.trans session)
  refine ⟨fun frame listed => ?_, fun position event misses frame listed stems => ?_⟩
  · obtain ⟨sent, checks⟩ := List.mem_filter.mp listed
    obtain ⟨_, isReplayed, _⟩ := of_decide_eq_true checks
    have invariant : gap.resuming.Invariant crypto := by
      refine run_preserves ?_ gap.reached.invariant gap.ran
      intro world move next invariant stepped
      exact invariant.step (World.step_moves stepped)
    obtain ⟨recorded, _⟩ := invariant.isolated.replayed frame sent isReplayed
    obtain ⟨_, ⟨check, checked, rfl⟩, same, _⟩ := invariant.isolated.appended _ recorded
    have stems : gap.resuming.StemsFrom frame check.position := ⟨check, checked, rfl, same⟩
    exact ⟨check.position, bound frame listed check.position stems, stems⟩
  · exact absurd (bound frame listed position stems) (not_lt.mpr misses.afterEnd)

-----------------------------------------------------------------------------------------
-- A space is renamed while the bot is away
-----------------------------------------------------------------------------------------

/-- Every step is taken by one of the first connections, or by none. -/
def WorldMove.Within (bound : Nat) (move : WorldMove) : Prop :=
  ∀ index ∈ move.connection?, index < bound

instance (bound : Nat) (move : WorldMove) : Decidable (move.Within bound) :=
  inferInstanceAs (Decidable (∀ index ∈ move.connection?, index < bound))

/-- Connections beyond those that take steps stay as they are opened, by induction over the
steps.
-/
theorem World.peers_of_within {bound index : Nat} (beyond : bound ≤ index)
    {start last : World} {moves : List WorldMove} (within : ∀ move ∈ moves, move.Within bound)
    (ran : run (World.step crypto) start moves = some last)
    : last.gateway.peers index = start.gateway.peers index := by
  induction moves generalizing start with
  | nil =>
      cases ran
      rfl
  | cons move moves ih =>
      obtain ⟨next, stepped, rest⟩ := run_cons_eq_some.mp ran
      rw [ih (fun other listed => within other (List.mem_cons_of_mem _ listed)) rest]
      refine (World.step_moves stepped).peers_of_ne fun taken => ?_
      exact absurd (within move List.mem_cons_self index taken) (not_lt.mpr beyond)

/-- Connections that are only opened are not live. -/
theorem World.noLive_of_first {bound : Nat} {sessionId : String} {world : World}
    (opened : ∀ index, bound ≤ index → world.gateway.peers index = .opened)
    (first : ∀ index < bound, ¬ (world.gateway.peers index).LiveOn sessionId)
    : world.NoLive sessionId := by
  intro index
  rcases lt_or_ge index bound with within | beyond
  · exact first index within
  · rw [opened index beyond]
    exact fun live => nomatch live.2

/-- Whether a session stays without a live connection shows on the connections that take steps,
by induction over the steps.
-/
theorem World.always_noLive {bound : Nat} {sessionId : String} {start : World}
    {moves : List WorldMove} (within : ∀ move ∈ moves, move.Within bound)
    (opened : ∀ index, bound ≤ index → start.gateway.peers index = .opened)
    (first : Always (World.step crypto)
      (fun world => ∀ index < bound, ¬ (world.gateway.peers index).LiveOn sessionId) start moves)
    : Always (World.step crypto) (World.NoLive sessionId) start moves := by
  induction moves generalizing start with
  | nil => exact World.noLive_of_first opened first
  | cons move moves ih =>
      refine ⟨World.noLive_of_first opened first.1, fun next stepped => ?_⟩
      refine ih (fun other listed => within other (List.mem_cons_of_mem _ listed)) ?_
        (first.2 next stepped)
      intro index beyond
      have one : ∀ other ∈ [move], other.Within bound :=
        List.forall_mem_singleton.mpr (within move List.mem_cons_self)
      refine Eq.trans ?_ (opened index beyond)
      exact World.peers_of_within beyond one (run_cons_eq_some.mpr ⟨next, stepped, rfl⟩)

namespace Acme

/-- The bot has recorded an interaction in its session when its connection ends. -/
def botLeft : List WorldMove :=
  identified ++ [.request interactionRequest, .receive 0 3, .gateway 0 .append,
    .gateway 0 (.sendLive true), .gateway 0 .advance, .gateway 0 .disconnect]

/-- Alice renames the space, then the bot resumes its session. -/
def renamedWhileAway : List WorldMove :=
  [.request (.updateSpace (stamp 205) aliceToken main ⟨some "Lobby"⟩),
    .resume 1 botToken "gw_1" 1, .gateway 1 .list, .gateway 1 (.replay true)]

/-- The new name is the event with number 4, and the bot gets the interaction again, but not the
new name.
-/
theorem renamedWhileAway_gap
    : ∃ gap : Gap botCrypto, ∃ event, gap.Misses 4 event ∧ event.eventType = "space.updated"
        ∧ gap.replay ≠ [] ∧ (∀ frame ∈ gap.replay, frame.eventType ≠ "GUILD_UPDATE")
        ∧ ∀ check ∈ gap.resuming.checks, check.position ≠ 4 := by
  have facts : (run (World.step botCrypto) .empty botLeft).any fun ended =>
      ended.app.published.length = 4
        ∧ Always (World.step botCrypto)
            (fun world => ∀ index < 2, ¬ (world.gateway.peers index).LiveOn "gw_1") ended
            renamedWhileAway
        ∧ (run (World.step botCrypto) ended renamedWhileAway).any fun resuming =>
            (∀ check ∈ resuming.checks, check.position ≠ 4)
              ∧ (∀ frame ∈ resuming.gateway.sent, frame.eventType ≠ "GUILD_UPDATE")
              ∧ ((resuming.gateway.peers 1).phase.replayed?.any fun replayed =>
                  replayed.2.1.sessionId = "gw_1" ∧ (resuming.app.published[4]?).any fun event =>
                    event.eventType = "space.updated"
                      ∧ (CompatGatewayController.dispatchFor resuming.app replayed.1
                          replayed.2.1.intents event).isSome)
              ∧ ∃ frame ∈ resuming.gateway.sent, frame.peer = 1 ∧ frame.origin = .replayed
                  ∧ frame.sessionId = "gw_1" := by
    decide +kernel
  obtain ⟨ended, ranBefore, facts⟩ := (Option.any_eq_true _ _).mp facts
  obtain ⟨count, first, facts⟩ := of_decide_eq_true facts
  obtain ⟨resuming, ran, facts⟩ := (Option.any_eq_true _ _).mp facts
  obtain ⟨unchecked, unsent, facts, frame, sent, peer, origin, ofSession⟩ :=
    of_decide_eq_true facts
  obtain ⟨⟨bot, session, page⟩, replayed, facts⟩ := (Option.any_eq_true _ _).mp facts
  obtain ⟨isSession, facts⟩ := of_decide_eq_true facts
  obtain ⟨event, published, facts⟩ := (Option.any_eq_true _ _).mp facts
  obtain ⟨eventType, passes⟩ := of_decide_eq_true facts
  have opened : ∀ index, 2 ≤ index → ended.gateway.peers index = .opened :=
    fun index beyond => World.peers_of_within beyond (by decide +kernel) ranBefore
  have noLive := World.always_noLive (by decide +kernel) opened first
  refine ⟨⟨ended, renamedWhileAway, resuming, 1, bot, session, page, ⟨_, ranBefore⟩, ran,
    isSession ▸ noLive, Phase.replayed?_eq_some.mp replayed⟩, event,
    ⟨count.le, published, passes⟩, eventType, ?_, ?_, unchecked⟩
  · refine List.ne_nil_of_mem (List.mem_filter.mpr ⟨sent, decide_eq_true ?_⟩)
    exact ⟨peer, origin, ofSession.trans isSession.symm⟩
  · exact fun frame listed => unsent frame (List.mem_of_mem_filter listed)

end Acme

/-- An event of the gap is lost. -/
theorem renamedWhileAway_lost
    : ∃ gap : Gap Acme.botCrypto, ∃ position event, gap.Misses position event
        ∧ event.eventType = "space.updated"
        ∧ (∀ frame ∈ gap.replay, frame.eventType ≠ "GUILD_UPDATE")
        ∧ ¬ ∃ frame ∈ gap.replay, gap.resuming.StemsFrom frame position := by
  obtain ⟨gap, event, misses, eventType, _, unsent, unchecked⟩ := Acme.renamedWhileAway_gap
  refine ⟨gap, 4, event, misses, eventType, unsent, fun replayed => ?_⟩
  obtain ⟨frame, _, check, listed, position, _⟩ := replayed
  exact unchecked check listed position

theorem renamedWhileAway_replay_precedes
    : ∃ gap : Gap Acme.botCrypto, ∃ event, gap.replay ≠ [] ∧ gap.Misses 4 event
        ∧ ∀ frame ∈ gap.replay, ¬ gap.resuming.StemsFrom frame 4 := by
  obtain ⟨gap, event, misses, _, replayed, _⟩ := Acme.renamedWhileAway_gap
  exact ⟨gap, event, replayed, misses, gap.replay_precedes.2 4 event misses⟩

end OpenCord.Server

import Mathlib.Data.Finset.Card
import OpenCord.Gateway.Connection

/-! Which recorded events a resume replays. The events after the client's number are listed
one page deep, so a longer tail stays behind.
-/

namespace OpenCord.Gateway

open OpenCord.Library OpenCord.Platform OpenCord.Bots

/-- The store after recording a history of events. -/
def SessionStore.record (store : SessionStore) (history : List CompatGatewayReplayEvent)
    : SessionStore :=
  history.foldl SessionStore.appendReplayEvent store

/-- An event of a history that no later one of its session and number took the place of. -/
def Recorded (history : List CompatGatewayReplayEvent) (event : CompatGatewayReplayEvent)
    : Prop :=
  ∃ earlier later, history = earlier ++ event :: later
    ∧ ∀ other ∈ later, other.sessionId = event.sessionId → other.sequence ≠ event.sequence

/-- The numbers after `start` under which a history has events of a session. -/
def numbersAfter (history : List CompatGatewayReplayEvent) (sessionId : String)
    (start : Int) : Finset Int :=
  ((history.filter fun event =>
    decide (event.sessionId = sessionId ∧ start < event.sequence)).map
      (·.sequence)).toFinset

-----------------------------------------------------------------------------------------
-- Histories
-----------------------------------------------------------------------------------------

theorem not_recorded_nil (event : CompatGatewayReplayEvent) : ¬ Recorded [] event := by
  intro recorded
  obtain ⟨earlier, later, split, -⟩ := recorded
  simp at split

/-- The newest event is recorded, and it replaces the one of its session and number. -/
theorem recorded_concat {history : List CompatGatewayReplayEvent}
    {newest event : CompatGatewayReplayEvent}
    : Recorded (history ++ [newest]) event
      ↔ event = newest
        ∨ Recorded history event
          ∧ ¬ (newest.sessionId = event.sessionId ∧ newest.sequence = event.sequence) := by
  refine ⟨?_, ?_⟩
  · intro recorded
    obtain ⟨earlier, later, split, unreplaced⟩ := recorded
    rcases List.eq_nil_or_concat later with last | ⟨middle, final, concat⟩
    · rw [last] at split
      have ends := List.append_inj_right' split rfl
      exact .inl (List.singleton_inj.mp ends).symm
    · rw [concat, List.concat_eq_append, ← List.cons_append, ← List.append_assoc] at split
      obtain ⟨fronts, ends⟩ := List.append_inj' split rfl
      obtain rfl := List.singleton_inj.mp ends
      refine .inr ⟨⟨earlier, middle, fronts, ?_⟩, ?_⟩
      · intro other mem
        exact unreplaced other (by simp [concat, mem])
      · intro same
        exact unreplaced newest (by simp [concat]) same.1 same.2
  · intro recorded
    rcases recorded with new | ⟨⟨earlier, later, split, unreplaced⟩, kept⟩
    · exact ⟨history, [], by rw [new], by simp⟩
    · refine ⟨earlier, later ++ [newest], by simp [split], ?_⟩
      intro other mem session sequence
      rcases List.mem_append.mp mem with inLater | isNewest
      · exact unreplaced other inLater session sequence
      · rw [List.mem_singleton] at isNewest
        rw [isNewest] at session sequence
        exact kept ⟨session, sequence⟩

/-- Every number of a history has its recorded event, by induction from the newest. -/
theorem exists_recorded {history : List CompatGatewayReplayEvent}
    {event : CompatGatewayReplayEvent} (mem : event ∈ history)
    : ∃ last, Recorded history last ∧ last.sessionId = event.sessionId
        ∧ last.sequence = event.sequence := by
  induction history using List.reverseRecOn with
  | nil => cases mem
  | append_singleton history newest ih =>
      by_cases same : newest.sessionId = event.sessionId ∧ newest.sequence = event.sequence
      · exact ⟨newest, recorded_concat.mpr (.inl rfl), same.1, same.2⟩
      · rcases List.mem_append.mp mem with older | isNewest
        · obtain ⟨last, recorded, session, sequence⟩ := ih older
          refine ⟨last, recorded_concat.mpr (.inr ⟨recorded, ?_⟩), session, sequence⟩
          rw [session, sequence]
          exact same
        · rw [List.mem_singleton] at isNewest
          rw [isNewest] at same
          exact absurd ⟨rfl, rfl⟩ same

/-- A recorded event stands in its history. -/
theorem Recorded.mem {history : List CompatGatewayReplayEvent}
    {event : CompatGatewayReplayEvent} (recorded : Recorded history event)
    : event ∈ history := by
  obtain ⟨earlier, later, split, -⟩ := recorded
  rw [split]
  exact List.mem_append_right _ List.mem_cons_self

/-- The store holds exactly the recorded events of each session, sorted by number, by
induction from the newest event.
-/
theorem eventsOf_record {base : SessionStore} (unrecorded : base.replayEvents = ∅)
    (history : List CompatGatewayReplayEvent) (sessionId : String)
    : KeyedLog.Sorted CompatGatewayReplayEvent.sequence
        ((base.record history).eventsOf sessionId)
      ∧ ∀ event, event ∈ (base.record history).eventsOf sessionId
          ↔ Recorded history event ∧ event.sessionId = sessionId := by
  induction history using List.reverseRecOn with
  | nil =>
      have none : (base.record []).eventsOf sessionId = [] := by
        simp [SessionStore.record, SessionStore.eventsOf, unrecorded]
      rw [none]
      refine ⟨List.Pairwise.nil, ?_⟩
      intro event
      simp [not_recorded_nil]
  | append_singleton history newest ih =>
      obtain ⟨sorted, contents⟩ := ih
      have extended : base.record (history ++ [newest])
          = (base.record history).appendReplayEvent newest := by
        simp [SessionStore.record, List.foldl_append]
      rw [extended, SessionStore.eventsOf_appendReplayEvent]
      split
      · next same =>
          rw [← same]
          refine ⟨sorted.upsert newest, ?_⟩
          intro event
          rw [sorted.mem_upsert, contents, recorded_concat]
          refine ⟨?_, ?_⟩
          · intro mem
            rcases mem with new | ⟨⟨recorded, session⟩, differs⟩
            · exact ⟨.inl new, by rw [new, same]⟩
            · exact ⟨.inr ⟨recorded, fun both => differs both.2.symm⟩, session⟩
          · intro both
            rcases both with ⟨new | ⟨recorded, kept⟩, session⟩
            · exact .inl new
            · refine .inr ⟨⟨recorded, session⟩, ?_⟩
              intro number
              exact kept ⟨by rw [session, same], number.symm⟩
      · next other =>
          refine ⟨sorted, ?_⟩
          intro event
          rw [contents, recorded_concat]
          refine ⟨?_, ?_⟩
          · intro both
            refine ⟨.inr ⟨both.1, ?_⟩, both.2⟩
            intro same
            exact other (by rw [same.1, both.2])
          · intro both
            rcases both with ⟨new | ⟨recorded, _⟩, session⟩
            · exact absurd (by rw [← session, new]) other
            · exact ⟨recorded, session⟩

/-- The recorded events after a number are as many as the numbers of the history after
it.
-/
theorem length_filter_record {base : SessionStore} (unrecorded : base.replayEvents = ∅)
    (history : List CompatGatewayReplayEvent) (sessionId : String) (start : Int)
    : (((base.record history).eventsOf sessionId).filter fun event =>
          decide (start < event.sequence)).length
        = (numbersAfter history sessionId start).card := by
  obtain ⟨sorted, contents⟩ := eventsOf_record unrecorded history sessionId
  have distinct : ((((base.record history).eventsOf sessionId).filter fun event =>
      decide (start < event.sequence)).map (·.sequence)).Nodup := by
    rw [List.Nodup, List.pairwise_map]
    exact (List.Pairwise.filter _ sorted).imp fun less => ne_of_lt less
  rw [← List.length_map (·.sequence), ← List.toFinset_card_of_nodup distinct]
  congr 1
  ext number
  simp only [numbersAfter, List.mem_toFinset, List.mem_map, List.mem_filter, contents,
    decide_eq_true_eq]
  refine ⟨?_, ?_⟩
  · intro found
    obtain ⟨event, ⟨⟨recorded, session⟩, later⟩, same⟩ := found
    exact ⟨event, ⟨recorded.mem, session, later⟩, same⟩
  · intro found
    obtain ⟨event, ⟨mem, session, later⟩, same⟩ := found
    obtain ⟨last, recorded, lastSession, lastNumber⟩ := exists_recorded mem
    refine ⟨last, ⟨⟨recorded, lastSession.trans session⟩, ?_⟩, lastNumber.trans same⟩
    rw [lastNumber]
    exact later

-----------------------------------------------------------------------------------------
-- Resuming
-----------------------------------------------------------------------------------------

/-- A resume of a session from a client number that sends `before` and then the `RESUMED`
frame with the given number.
-/
structure AnswersResumed (call : GatewayCall)
    (authenticateToken : String → Option AuthenticatedBot) (request : Json)
    (sessionId : String) (clientSequence : Int) (before : List Frame) (sequence : Int)
    : Prop where
  decodes : ∃ payload, decodeResumePayload request = some payload
    ∧ payload.sessionId = sessionId ∧ payload.seq.getD 0 = clientSequence
  stays : (call.resumeBot authenticateToken (some request)).1 = true
  sends : (call.resumeBot authenticateToken (some request)).2.socket.sent
    = call.socket.sent ++ before ++ [resumedFrame sessionId sequence]

/-- The frames are those of all recorded events of the session after the client's number,
each once and in increasing order.
-/
def ReplaysExactly (history : List CompatGatewayReplayEvent) (sessionId : String)
    (clientSequence : Int) (before : List Frame) : Prop :=
  ∃ events : List CompatGatewayReplayEvent, before = events.map (·.frame)
    ∧ (∀ event, event ∈ events
        ↔ (Recorded history event ∧ event.sessionId = sessionId)
          ∧ clientSequence < event.sequence)
    ∧ events.Pairwise fun left right => left.sequence < right.sequence

/-- Recording events leaves the sessions, by induction over the events. -/
theorem sessions_record (base : SessionStore) (history : List CompatGatewayReplayEvent)
    : (base.record history).sessions = base.sessions := by
  induction history generalizing base with
  | nil => rfl
  | cons event history ih => exact ih (base.appendReplayEvent event)

/-- A resume that answers `RESUMED` sends the listed page before it. -/
theorem AnswersResumed.before_eq {call : GatewayCall}
    {authenticateToken : String → Option AuthenticatedBot} {request : Json}
    {sessionId : String} {clientSequence sequence : Int} {before : List Frame}
    (answered : AnswersResumed call authenticateToken request sessionId clientSequence before
      sequence)
    (keyed : call.store.SessionsKeyed)
    : before = (call.store.listReplayEventsAfter sessionId clientSequence
        gatewayReplayLimit).map (·.frame) := by
  obtain ⟨⟨payload, decoded, session, number⟩, stays, sends⟩ := answered
  subst session number
  obtain ⟨bot, session, store, -, resumed, replayed⟩ :=
    GatewayCall.resumeBot_stays decoded (Prod.ext stays rfl)
  obtain ⟨stored, -, -, -, unchanged⟩ := SessionStore.resumeSession_resumed resumed
  have own : session.sessionId = payload.sessionId := keyed _ _ stored
  have sameList : ∀ start limit,
      store.listReplayEventsAfter payload.sessionId start limit
        = call.store.listReplayEventsAfter payload.sessionId start limit := by
    intro start limit
    simp only [SessionStore.listReplayEventsAfter, SessionStore.eventsOf, unchanged]
  have sent := GatewayCall.replaySession_stays replayed
  rw [sends] at sent
  simp only [own, sameList, List.append_assoc, List.append_cancel_left_eq] at sent
  exact (List.append_inj' sent rfl).1

/-- On a socket that accepts everything, a request that the store grants is answered. -/
theorem AnswersResumed.of_accepting {call : GatewayCall}
    {authenticateToken : String → Option AuthenticatedBot} {request : Json}
    {payload : ResumePayload} {bot : AuthenticatedBot} {session : CompatGatewaySession}
    {store : SessionStore}
    (accepting : ∀ attempt, call.socket.accepts attempt = true)
    (unidentified : call.connection.identifiedBot = none)
    (decoded : decodeResumePayload request = some payload)
    (authenticated : authenticateToken payload.token = some bot)
    (resumed : call.store.resumeSession payload.sessionId bot (payload.seq.getD 0)
      = (.resumed session, store))
    (own : session.sessionId = payload.sessionId)
    : AnswersResumed call authenticateToken request payload.sessionId (payload.seq.getD 0)
        ((store.listReplayEventsAfter payload.sessionId (payload.seq.getD 0)
          gatewayReplayLimit).map (·.frame))
        (resumedSequence session (store.listReplayEventsAfter payload.sessionId
          (payload.seq.getD 0) gatewayReplayLimit)) := by
  obtain ⟨last, replayed⟩ :=
    @GatewayCall.replaySession_of_accepting { call with store := store } accepting bot
      session (payload.seq.getD 0)
  have ended : call.resumeBot authenticateToken (some request) = (true, last) := by
    simp only [GatewayCall.resumeBot, unidentified, Option.isSome_none, Option.bind_some,
      decoded, authenticated, resumed, replayed]
    rfl
  have sent := GatewayCall.replaySession_stays replayed
  rw [own] at sent
  exact ⟨⟨payload, decoded, rfl, rfl⟩, by rw [ended], by rw [ended, sent]⟩

/-- The frames before an answer are those of all recorded events exactly when the history
has events under at most a hundred numbers after the client's.
-/
theorem AnswersResumed.replaysExactly_iff {base : SessionStore}
    (unrecorded : base.replayEvents = ∅) (keyed : base.SessionsKeyed)
    {history : List CompatGatewayReplayEvent} {call : GatewayCall}
    (store : call.store = base.record history)
    {authenticateToken : String → Option AuthenticatedBot} {request : Json}
    {sessionId : String} {clientSequence sequence : Int} {before : List Frame}
    (answered : AnswersResumed call authenticateToken request sessionId clientSequence before
      sequence)
    : ReplaysExactly history sessionId clientSequence before
      ↔ (numbersAfter history sessionId clientSequence).card ≤ 100 := by
  have callKeyed : call.store.SessionsKeyed := by
    rw [store, SessionStore.SessionsKeyed, sessions_record]
    exact keyed
  have page := answered.before_eq callKeyed
  obtain ⟨sorted, contents⟩ := eventsOf_record unrecorded history sessionId
  rw [store, SessionStore.listReplayEventsAfter] at page
  rw [← length_filter_record unrecorded history sessionId clientSequence]
  refine ⟨?_, ?_⟩
  · intro exactly
    obtain ⟨events, frames, complete, -⟩ := exactly
    have short : events.length ≤ gatewayReplayLimit := by
      have lengths := congrArg List.length (frames.symm.trans page)
      rw [List.length_map, List.length_map, KeyedLog.pageAfter, List.length_take] at lengths
      omega
    refine le_trans ((sorted.nodup.filter _).subperm ?_).length_le short
    intro event mem
    rw [List.mem_filter, contents, decide_eq_true_eq] at mem
    exact (complete event).mpr mem
  · intro bounded
    have complete := (sorted.pageAfter_complete_iff clientSequence 100).mpr bounded
    refine ⟨_, page, ?_, sorted.pageAfter clientSequence _⟩
    intro event
    rw [← contents event]
    exact complete event

/-- A resume that answers `RESUMED` replays exactly the recorded events after the client's
number, and skips none below the number of `RESUMED`, if and only if the history has events
under at most a hundred numbers after the client's.
-/
theorem resume_replaysAll_iff {base : SessionStore}
    (unrecorded : base.replayEvents = ∅) (keyed : base.SessionsKeyed)
    {history : List CompatGatewayReplayEvent} {call : GatewayCall}
    (store : call.store = base.record history)
    {authenticateToken : String → Option AuthenticatedBot} {request : Json}
    {sessionId : String} {clientSequence sequence : Int} {before : List Frame}
    (answered : AnswersResumed call authenticateToken request sessionId clientSequence before
      sequence)
    : (ReplaysExactly history sessionId clientSequence before
        ∧ ∀ event, Recorded history event → event.sessionId = sessionId →
            clientSequence < event.sequence → event.sequence < sequence →
              event.frame ∈ before)
      ↔ (numbersAfter history sessionId clientSequence).card ≤ 100 := by
  rw [← answered.replaysExactly_iff unrecorded keyed store]
  refine ⟨fun both => both.1, ?_⟩
  intro exactly
  refine ⟨exactly, ?_⟩
  obtain ⟨events, frames, complete, -⟩ := exactly
  intro event recorded session later _
  rw [frames]
  exact List.mem_map_of_mem ((complete event).mpr ⟨⟨recorded, session⟩, later⟩)

/-- A bot and a session of it that has reached a number. -/
def sampleBot : AuthenticatedBot := ⟨.ofNat 1, .ofNat 2, .ofNat 3, "Helper"⟩

def sampleSessions (sequence : Int) : SessionStore :=
  SessionStore.empty.createSession
    ⟨"gw_1", .ofNat 1, .ofNat 2, .ofNat 3, sequence, 513⟩

/-- Message events under the numbers `2, …, count + 1`. -/
def messageHistory (count : Nat) : List CompatGatewayReplayEvent :=
  (List.range count).map fun index =>
    ⟨"gw_1", index + 2, "MESSAGE_CREATE", .object [("id", .integer index)]⟩

/-- A fresh connection on a socket that accepts everything. -/
def sampleCall (count : Nat) : GatewayCall where
  store := (sampleSessions (count + 1)).record (messageHistory count)
  socket := ⟨fun _ => true, 0, []⟩
  connection := Connection.opened

/-- A resume of the session from number 1. -/
def sampleRequest : Json :=
  .object [("token", .string "ocb_0"), ("session_id", .string "gw_1"), ("seq", .integer 1)]

theorem sampleSessions_keyed (sequence : Int) : (sampleSessions sequence).SessionsKeyed := by
  intro sessionId session stored
  rw [sampleSessions, SessionStore.createSession, Table.lookup_insert_eq] at stored
  split at stored
  · next same =>
      cases stored
      exact same.symm
  · simp [SessionStore.empty] at stored

/-- The sample resume is answered, however long the history is. -/
theorem sampleCall_answersResumed (count : Nat)
    : ∃ before sequence,
        AnswersResumed (sampleCall count) (fun _ => some sampleBot) sampleRequest "gw_1" 1
          before sequence := by
  have stored : (sampleCall count).store.sessions.lookup "gw_1"
      = some ⟨"gw_1", .ofNat 1, .ofNat 2, .ofNat 3, count + 1, 513⟩ := by
    rw [sampleCall, sessions_record, sampleSessions, SessionStore.createSession,
      Table.lookup_insert_eq, if_pos rfl]
  have decoded : decodeResumePayload sampleRequest = some ⟨"ocb_0", "gw_1", some 1⟩ := rfl
  obtain ⟨next, resumed⟩ := SessionStore.resumeSession_of_owned stored
    (rfl : CompatGatewaySession.ownedBy _ sampleBot = true)
    (show (1 : Int) ≤ (count : Int) + 1 by omega)
  exact ⟨_, _, AnswersResumed.of_accepting (fun _ => rfl) rfl decoded rfl resumed rfl⟩

/-- One recorded event is replayed. -/
theorem shortHistory_replaysAll
    : ∃ before sequence,
        AnswersResumed (sampleCall 1) (fun _ => some sampleBot) sampleRequest "gw_1" 1
            before sequence
          ∧ ReplaysExactly (messageHistory 1) "gw_1" 1 before := by
  obtain ⟨before, sequence, answered⟩ := sampleCall_answersResumed 1
  refine ⟨before, sequence, answered, ?_⟩
  exact ((resume_replaysAll_iff rfl (sampleSessions_keyed _) rfl answered).mpr
    (by decide)).1

/-- Of a hundred and one recorded events the last is not replayed. -/
theorem longHistory_notReplayed
    : ∃ before sequence,
        AnswersResumed (sampleCall 101) (fun _ => some sampleBot) sampleRequest "gw_1" 1
            before sequence
          ∧ ¬ ReplaysExactly (messageHistory 101) "gw_1" 1 before := by
  obtain ⟨before, sequence, answered⟩ := sampleCall_answersResumed 101
  refine ⟨before, sequence, answered, ?_⟩
  rw [answered.replaysExactly_iff rfl (sampleSessions_keyed _) rfl]
  decide +kernel

end OpenCord.Gateway

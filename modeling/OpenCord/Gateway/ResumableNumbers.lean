import OpenCord.Gateway.Machine

/-! Which numbers a client can resume with. A frame goes out before its number is stored, so a
second connection that resumes in between asks for a number that the store does not know.
-/

namespace OpenCord.Gateway

open OpenCord.Library OpenCord.Platform OpenCord.Bots

/-- A resume that was answered with an invalid sequence; `seen` tells whether a frame of the
session with its number had been sent by then.
-/
structure RefusedResume where
  sessionId : String
  clientSequence : Int
  seen : Bool

/-- The gateway, the numbers stored so far, and the resumes refused for their number. -/
structure ResumeHistory where
  gateway : GatewayState
  stored : List (String × Int)
  refused : List RefusedResume

/-- A frame of the session with the number has been sent. -/
def GatewayState.Seen (gateway : GatewayState) (sessionId : String) (sequence : Int) : Prop :=
  ∃ frame ∈ gateway.sent, frame.sessionId = sessionId ∧ frame.sequence = sequence

instance (gateway : GatewayState) (sessionId : String) (sequence : Int)
    : Decidable (gateway.Seen sessionId sequence) :=
  inferInstanceAs (Decidable (∃ frame ∈ gateway.sent, _))

/-- The number that a connection has stored with a step: it has created its session, taken it
over, or followed up on an event that it has sent.
-/
def GatewayState.stores (before after : GatewayState) (index : Nat) : Option (String × Int) :=
  match (before.peers index).phase, (after.peers index).phase with
  | .idle, .readying _ sessionId _ => some (sessionId, (after.peers index).connection.sequence)
  | .replaying _ _ _ _, .answering _ sessionId =>
      some (sessionId, (after.peers index).connection.sequence)
  | .advancing _ sessionId, .idle => some (sessionId, (after.peers index).connection.sequence)
  | _, _ => none

def GatewayState.refuses (gateway : GatewayState) : Action → Option RefusedResume
  | .resume bot sessionId clientSequence =>
      match (gateway.store.resumeSession sessionId bot clientSequence).1 with
      | .invalidSequence => some ⟨sessionId, clientSequence, gateway.Seen sessionId clientSequence⟩
      | _ => none
  | _ => none

namespace ResumeHistory

def empty : ResumeHistory := ⟨.empty, [], []⟩

def step (history : ResumeHistory) (move : Nat × Action) : Option ResumeHistory :=
  (history.gateway.step move).map fun next =>
    ⟨next, (history.gateway.stores next move.1).toList ++ history.stored,
      (history.gateway.refuses move.2).toList ++ history.refused⟩

/-- A number that has been seen is not refused. -/
def SeenResumable (history : ResumeHistory) : Prop :=
  ∀ refusal ∈ history.refused, refusal.seen = false

/-- The owner of a session resumes with a number of a frame only once a connection has stored
that number or a higher one.
-/
def StoredFirst (history : ResumeHistory) : Nat × Action → Prop
  | (_, .resume bot sessionId clientSequence) =>
      (∃ session ∈ history.gateway.store.sessions.lookup sessionId, session.ownedBy bot = true) →
        history.gateway.Seen sessionId clientSequence →
          ∃ number ∈ history.stored, number.1 = sessionId ∧ clientSequence ≤ number.2
  | _ => True

instance (history : ResumeHistory) (move : Nat × Action)
    : Decidable (history.StoredFirst move) := by
  unfold StoredFirst
  split <;> infer_instance

end ResumeHistory

/-- A connection uses a session, or has it as its active one. -/
def Peer.Mentions (peer : Peer) (sessionId : String) : Prop :=
  peer.sessionId? = some sessionId ∨ peer.connection.activeSessionId = some sessionId

/-- The stored sequence of a session is the highest number stored for it. -/
structure ResumeHistory.Invariant (history : ResumeHistory) : Prop where
  keyed : history.gateway.store.SessionsKeyed
  held : ∀ index sessionId, (history.gateway.peers index).Mentions sessionId →
    sessionId ∈ history.gateway.store.sessions
  tracked : ∀ sessionId session,
    history.gateway.store.sessions.lookup sessionId = some session →
      (sessionId, session.sequence) ∈ history.stored
  bounded : ∀ number ∈ history.stored, ∃ session,
    history.gateway.store.sessions.lookup number.1 = some session ∧ number.2 ≤ session.sequence

/-- A step leaves the sessions and stores no number, or stores the number that it is meant to:
in a new session, or as the maximum with the number before.
-/
inductive SessionWrite (before after : GatewayState) (index : Nat) : Prop where
  | unchanged (sessions : ∀ sessionId,
        after.store.sessions.lookup sessionId = before.store.sessions.lookup sessionId)
      (none : before.stores after index = none)
  | created (session : CompatGatewaySession)
      (new : session.sessionId ∉ before.store.sessions)
      (sessions : after.store.sessions
        = before.store.sessions.insert session.sessionId session)
      (stores : before.stores after index = some (session.sessionId, session.sequence))
  | raised (sessionId : String) (sequence : Int)
      (held : (before.peers index).Mentions sessionId)
      (store : after.store = before.store.updateSequence sessionId sequence)
      (stores : before.stores after index = some (sessionId, sequence))

section

variable {gateway next : GatewayState} {index : Nat} {action : Action}

theorem Moves.sessionWrite (moves : Moves gateway index action next)
    : SessionWrite gateway next index := by
  cases moves with
  | identified bot sessionId intents ready phase unidentified newSession newEvents =>
      refine .created ⟨sessionId, bot.applicationId, bot.organizationId, bot.botUserId,
        (gateway.peers index).connection.sequence + 1, intents⟩ newSession rfl ?_
      rw [GatewayState.stores, phase, GatewayState.peers_withPeer_self]
  | unstored phase unidentified =>
      refine .unchanged (fun _ => rfl) ?_
      rw [GatewayState.stores, phase, GatewayState.peers_withPeer_self]
  | granted bot sessionId clientSequence session store phase unidentified resumed =>
      refine .unchanged (SessionStore.resumeSession_resumed resumed).2.2.2.1 ?_
      rw [GatewayState.stores, phase, GatewayState.peers_withPeer_self]
  | listed bot session clientSequence phase =>
      refine .unchanged (fun _ => rfl) ?_
      rw [GatewayState.stores, phase, GatewayState.peers_withPeer_self]
  | tookOver bot session page phase =>
      refine .raised session.sessionId (resumedSequence session page) (.inl ?_) rfl ?_
      · rw [Peer.sessionId?, phase]
      · rw [GatewayState.stores, phase, GatewayState.peers_withPeer_self]
  | received bot sessionId eventType payload phase identified active =>
      refine .unchanged (fun _ => rfl) ?_
      rw [GatewayState.stores, phase, GatewayState.peers_withPeer_self]
  | appended bot sessionId eventType payload phase =>
      refine .unchanged (fun _ => rfl) ?_
      rw [GatewayState.stores, phase, GatewayState.peers_withPeer_self]
  | advanced bot sessionId phase =>
      refine .raised sessionId (gateway.peers index).connection.sequence (.inl ?_) rfl ?_
      · rw [Peer.sessionId?, phase]
      · rw [GatewayState.stores, phase, GatewayState.peers_withPeer_self]
  | sent _ frame after sends =>
      refine .unchanged (fun _ => rfl) ?_
      rw [GatewayState.stores, GatewayState.peers_withPeer_self]
      generalize (gateway.peers index).phase = phase at sends
      cases sends <;> rfl
  | closed =>
      refine .unchanged (fun _ => rfl) ?_
      rw [GatewayState.stores, GatewayState.peers_withPeer_self]
      cases (gateway.peers index).phase <;> rfl

/-- The sessions only become more. -/
theorem SessionWrite.grows {before after : GatewayState} {index : Nat}
    (write : SessionWrite before after index) {sessionId : String}
    (stored : sessionId ∈ before.store.sessions)
    : sessionId ∈ after.store.sessions := by
  cases write with
  | unchanged sessions =>
      rw [← AList.lookup_isSome, sessions, AList.lookup_isSome]
      exact stored
  | created session new sessions =>
      rw [sessions]
      exact (AList.mem_insert _).mpr (.inr stored)
  | raised raisedId sequence held store =>
      rw [store, ← AList.lookup_isSome, SessionStore.lookup_updateSequence]
      split
      · next same =>
          rw [Option.isSome_map, AList.lookup_isSome, ← same]
          exact stored
      · rw [AList.lookup_isSome]
        exact stored

/-- A session that a step starts to use is stored. -/
theorem Moves.mentions (moves : Moves gateway index action next)
    (keyed : gateway.store.SessionsKeyed) {sessionId : String}
    (mentions : (next.peers index).Mentions sessionId)
    : (gateway.peers index).Mentions sessionId ∨ sessionId ∈ next.store.sessions := by
  cases moves with
  | identified bot own intents ready phase unidentified newSession newEvents =>
      rw [GatewayState.peers_withPeer_self] at mentions
      have same : sessionId = own := by
        rcases mentions with held | active
        · exact (Option.some.inj held).symm
        · exact (Option.some.inj active).symm
      rw [same]
      exact .inr ((AList.mem_insert _).mpr (.inl rfl))
  | unstored phase unidentified =>
      rw [GatewayState.peers_withPeer_self] at mentions
      exact .inl (.inr (mentions.elim id id))
  | granted bot asked clientSequence session store phase unidentified resumed =>
      rw [GatewayState.peers_withPeer_self] at mentions
      rcases mentions with held | active
      · obtain ⟨stored, _, _, sessions, _⟩ := SessionStore.resumeSession_resumed resumed
        have same : asked = sessionId :=
          (keyed asked session stored).symm.trans (Option.some.inj held)
        rw [← same]
        exact .inr (Table.mem_of_lookup ((sessions asked).trans stored))
      · exact .inl (.inr active)
  | listed bot session clientSequence phase =>
      rw [GatewayState.peers_withPeer_self] at mentions
      refine .inl (mentions.imp_left fun held => ?_)
      rw [Peer.sessionId?, phase]
      exact held
  | tookOver bot session page phase =>
      rw [GatewayState.peers_withPeer_self] at mentions
      refine .inl (.inl ?_)
      rw [Peer.sessionId?, phase]
      exact mentions.elim id id
  | received bot own eventType payload phase identified active =>
      rw [GatewayState.peers_withPeer_self] at mentions
      refine .inl (.inr ?_)
      rcases mentions with held | same
      · exact active.trans held
      · exact same
  | appended bot own eventType payload phase =>
      rw [GatewayState.peers_withPeer_self] at mentions
      refine .inl (mentions.imp_left fun held => ?_)
      rw [Peer.sessionId?, phase]
      exact held
  | advanced bot own phase =>
      rw [GatewayState.peers_withPeer_self] at mentions
      exact .inl (.inr (mentions.elim id id))
  | sent _ frame after sends =>
      rw [GatewayState.peers_withPeer_self] at mentions
      rcases mentions with held | active
      · left
        rw [Peer.Mentions, Peer.sessionId?]
        generalize (gateway.peers index).phase = phase at sends
        cases sends with
        | ready => exact .inr held
        | resumed => exact .inr held
        | replayed => exact .inl held
        | live => exact .inl held
      · exact .inl (.inr active)
  | closed =>
      rw [GatewayState.peers_withPeer_self] at mentions
      rcases mentions with held | active
      · cases held
      · exact .inl (.inr active)

end

namespace ResumeHistory

theorem Invariant.empty : ResumeHistory.empty.Invariant where
  keyed := nofun
  held := by
    intro index sessionId mentions
    rcases mentions with held | active
    · cases held
    · cases active
  tracked := nofun
  bounded := nofun

/-- Every step keeps the invariant. -/
theorem Invariant.step {history next : ResumeHistory} (invariant : history.Invariant)
    {move : Nat × Action} (stepped : history.step move = some next)
    : next.Invariant := by
  obtain ⟨index, action⟩ := move
  obtain ⟨gateway, moved, rfl⟩ := Option.map_eq_some_iff.mp stepped
  have moves := GatewayState.step_moves moved
  have write := moves.sessionWrite
  have keyed := moves.keyed invariant.keyed
  have held : ∀ other sessionId, (gateway.peers other).Mentions sessionId →
      sessionId ∈ gateway.store.sessions := by
    intro other sessionId mentions
    by_cases same : other = index
    · rw [same] at mentions
      rcases moves.mentions invariant.keyed mentions with before | stored
      · exact write.grows (invariant.held index sessionId before)
      · exact stored
    · rw [moves.peers_of_ne same] at mentions
      exact write.grows (invariant.held other sessionId mentions)
  cases write with
  | unchanged sessions none =>
      simp only [none, Option.toList_none, List.nil_append]
      refine ⟨keyed, held, fun sessionId session found => ?_, fun number listed => ?_⟩
      · exact invariant.tracked sessionId session ((sessions sessionId).symm.trans found)
      · obtain ⟨session, found, bound⟩ := invariant.bounded number listed
        exact ⟨session, (sessions number.1).trans found, bound⟩
  | created session new sessions stores =>
      simp only [stores, Option.toList_some, List.singleton_append]
      refine ⟨keyed, held, ?_, fun number listed => ?_⟩
      · show ∀ _ _, gateway.store.sessions.lookup _ = _ → _
        rw [sessions]
        exact Table.forall_insert List.mem_cons_self fun sessionId other found =>
          List.mem_cons_of_mem _ (invariant.tracked sessionId other found)
      · show ∃ _, gateway.store.sessions.lookup _ = _ ∧ _
        rw [sessions]
        rcases List.mem_cons.mp listed with rfl | earlier
        · exact ⟨session, AList.lookup_insert _, le_refl _⟩
        · obtain ⟨other, found, bound⟩ := invariant.bounded number earlier
          have differs : number.1 ≠ session.sessionId := by
            intro same
            rw [same] at found
            exact new (Table.mem_of_lookup found)
          exact ⟨other, (AList.lookup_insert_ne differs).trans found, bound⟩
  | raised raisedId sequence holds store stores =>
      obtain ⟨session, stored⟩ := Option.isSome_iff_exists.mp
        (AList.lookup_isSome.mpr (invariant.held index raisedId holds))
      have lookups : ∀ sessionId, gateway.store.sessions.lookup sessionId
          = if sessionId = raisedId then
              some { session with sequence := max session.sequence sequence }
            else history.gateway.store.sessions.lookup sessionId := by
        intro sessionId
        rw [store, SessionStore.lookup_updateSequence, stored, Option.map_some]
      simp only [stores, Option.toList_some, List.singleton_append]
      refine ⟨keyed, held, fun sessionId other found => ?_, fun number listed => ?_⟩
      · have found := (lookups sessionId).symm.trans found
        split at found
        · next same =>
            cases found
            rw [same]
            rcases le_total session.sequence sequence with up | down
            · rw [max_eq_right up]
              exact List.mem_cons_self
            · rw [max_eq_left down]
              exact List.mem_cons_of_mem _ (invariant.tracked raisedId session stored)
        · exact List.mem_cons_of_mem _ (invariant.tracked sessionId other found)
      · show ∃ _, gateway.store.sessions.lookup _ = _ ∧ _
        rw [lookups]
        rcases List.mem_cons.mp listed with rfl | earlier
        · exact ⟨_, if_pos rfl, le_max_right _ _⟩
        · obtain ⟨other, found, bound⟩ := invariant.bounded number earlier
          by_cases same : number.1 = raisedId
          · rw [same, stored] at found
            cases found
            exact ⟨_, if_pos same, le_trans bound (le_max_left _ _)⟩
          · exact ⟨other, (if_neg same).trans found, bound⟩

/-- The owner of a session is refused a number exactly if none as high is stored. -/
theorem Invariant.resumeSession_invalid {history : ResumeHistory} (invariant : history.Invariant)
    (bot : AuthenticatedBot) (sessionId : String) (clientSequence : Int)
    : (history.gateway.store.resumeSession sessionId bot clientSequence).1 = .invalidSequence
      ↔ (∃ session ∈ history.gateway.store.sessions.lookup sessionId, session.ownedBy bot = true)
          ∧ ¬ ∃ number ∈ history.stored, number.1 = sessionId ∧ clientSequence ≤ number.2 := by
  rw [SessionStore.resumeSession]
  cases found : history.gateway.store.sessions.lookup sessionId with
  | none =>
      refine iff_of_false (fun refused => ?_) fun owned => by simp at owned
      cases refused
  | some session =>
      have reaches : (∃ number ∈ history.stored, number.1 = sessionId ∧ clientSequence ≤ number.2)
          ↔ clientSequence ≤ session.sequence := by
        constructor
        · intro reached
          obtain ⟨number, listed, rfl, bound⟩ := reached
          obtain ⟨other, same, below⟩ := invariant.bounded number listed
          obtain rfl := Option.some.inj (found.symm.trans same)
          exact le_trans bound below
        · intro bound
          exact ⟨_, invariant.tracked sessionId session found, rfl, bound⟩
      rw [reaches, not_le]
      simp only [Option.mem_some_iff, exists_eq_left']
      by_cases owned : session.ownedBy bot = true
      · rw [if_pos owned]
        by_cases below : session.sequence < clientSequence
        · rw [if_pos below]
          exact iff_of_true rfl ⟨owned, below⟩
        · rw [if_neg below]
          refine iff_of_false (fun refused => ?_) fun both => below both.2
          cases refused
      · rw [if_neg owned]
        refine iff_of_false (fun refused => ?_) fun both => owned both.1
        cases refused

/-- A step refuses no number that was seen exactly if that number is stored first. -/
theorem seenResumable_step {history next : ResumeHistory} (invariant : history.Invariant)
    (resumable : history.SeenResumable) {move : Nat × Action}
    (stepped : history.step move = some next)
    : next.SeenResumable ↔ history.StoredFirst move := by
  obtain ⟨index, action⟩ := move
  obtain ⟨gateway, _, rfl⟩ := Option.map_eq_some_iff.mp stepped
  have splits : ∀ refusals, (∀ refusal ∈ refusals ++ history.refused, refusal.seen = false)
      ↔ ∀ refusal ∈ refusals, refusal.seen = false := by
    intro refusals
    rw [List.forall_mem_append]
    exact and_iff_left resumable
  refine (splits _).trans ?_
  rw [GatewayState.refuses.eq_def]
  cases action with
  | resume bot sessionId clientSequence =>
      have invalid := invariant.resumeSession_invalid bot sessionId clientSequence
      simp only [StoredFirst]
      cases answer : (history.gateway.store.resumeSession sessionId bot clientSequence).1 with
      | invalidSequence =>
          obtain ⟨owned, notStored⟩ := invalid.mp answer
          simp only [Option.toList_some, List.mem_singleton, forall_eq, decide_eq_false_iff_not]
          exact ⟨fun unseen _ seen => absurd seen unseen,
            fun stored seen => notStored (stored owned seen)⟩
      | resumed session =>
          refine iff_of_true nofun fun owned _ => ?_
          by_contra notStored
          cases answer.symm.trans (invalid.mpr ⟨owned, notStored⟩)
      | notFound =>
          refine iff_of_true nofun fun owned _ => ?_
          by_contra notStored
          cases answer.symm.trans (invalid.mpr ⟨owned, notStored⟩)
  | _ => exact iff_of_true nofun trivial

/-- Along a run of any connections, no number that a client has seen is refused exactly if
every owner resumes with a seen number only once that number or a higher one is stored.
-/
theorem seenResumable_iff_storedFirst {moves : List (Nat × Action)} {last : ResumeHistory}
    (ran : run step empty moves = some last)
    : Always step SeenResumable empty moves ↔ Allowed step StoredFirst empty moves := by
  refine @always_iff_allowed _ _ step StoredFirst Invariant SeenResumable ?_ ?_ _ _ _
    Invariant.empty nofun ran
  · intro history move next invariant resumable stepped stored
    exact invariant.step stepped
  · intro history move next invariant resumable stepped
    exact seenResumable_step invariant resumable stepped

/-- The bot that comes back to its session on a second connection. -/
def returningBot : AuthenticatedBot := ⟨.ofNat 1, .ofNat 2, .ofNat 3, "Helper"⟩

/-- A connection identifies and sends an event with the number 2. -/
def eventSent : List (Nat × Action) :=
  [(0, .identify returningBot "gw_1" 513 .null), (0, .sendReady true),
    (0, .receive "MESSAGE_CREATE" .null), (0, .append), (0, .sendLive true)]

/-- The client resumes with that number once the connection has stored it. -/
def resumedAfter : List (Nat × Action) :=
  eventSent ++ [(0, .advance), (1, .resume returningBot "gw_1" 2)]

/-- The client resumes with that number before. -/
def resumedBefore : List (Nat × Action) :=
  eventSent ++ [(1, .resume returningBot "gw_1" 2)]

theorem resumedAfter_seenResumable
    : ∃ last, run step empty resumedAfter = some last
        ∧ last.gateway.Seen "gw_1" 2 ∧ Always step SeenResumable empty resumedAfter := by
  have allowed : Allowed step StoredFirst empty resumedAfter := by decide +kernel
  have facts : (run step empty resumedAfter).any fun last => last.gateway.Seen "gw_1" 2 := by
    decide +kernel
  obtain ⟨last, ran, seen⟩ := (Option.any_eq_true _ _).mp facts
  exact ⟨last, ran, of_decide_eq_true seen, (seenResumable_iff_storedFirst ran).mpr allowed⟩

/-- The client has the frame with number 2, and is refused that number. -/
theorem resumedBefore_refused
    : ∃ last, run step empty resumedBefore = some last
        ∧ last.gateway.Seen "gw_1" 2 ∧ ¬ last.SeenResumable := by
  have facts : (run step empty resumedBefore).any fun last =>
      last.gateway.Seen "gw_1" 2 ∧ last.refused.any (·.seen) := by
    decide +kernel
  obtain ⟨last, ran, facts⟩ := (Option.any_eq_true _ _).mp facts
  obtain ⟨seen, refused⟩ := of_decide_eq_true facts
  obtain ⟨refusal, listed, wasSeen⟩ := List.any_eq_true.mp refused
  refine ⟨last, ran, seen, fun resumable => ?_⟩
  rw [resumable refusal listed] at wasSeen
  cases wasSeen

end ResumeHistory

end OpenCord.Gateway

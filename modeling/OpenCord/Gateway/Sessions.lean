import OpenCord.Bots.Application
import OpenCord.Library.KeyedLog
import OpenCord.Library.Tables
import OpenCord.Platform.Json

/-! The in-memory store of gateway sessions and of the dispatches recorded for replay. -/

namespace OpenCord.Gateway

open OpenCord.Library OpenCord.Platform OpenCord.Bots

structure CompatGatewaySession where
  sessionId : String
  applicationId : Uuid
  organizationId : Uuid
  botUserId : Uuid
  sequence : Int
  intents : Nat
  deriving DecidableEq

structure CompatGatewayReplayEvent where
  sessionId : String
  sequence : Int
  eventType : String
  payload : Json

/-- A session belongs to the bot that identified for it. -/
def CompatGatewaySession.ownedBy (session : CompatGatewaySession) (bot : AuthenticatedBot)
    : Bool :=
  session.applicationId == bot.applicationId
    && session.organizationId == bot.organizationId && session.botUserId == bot.botUserId

inductive CompatGatewayResumeResult where
  | resumed (session : CompatGatewaySession)
  | invalidSequence
  | notFound

structure SessionStore where
  sessions : Table String CompatGatewaySession
  replayEvents : Table String (List CompatGatewayReplayEvent)

namespace SessionStore

def empty : SessionStore := ⟨∅, ∅⟩

/-- Sessions are stored under their own identifier. -/
def SessionsKeyed (store : SessionStore) : Prop :=
  ∀ sessionId session, store.sessions.lookup sessionId = some session →
    session.sessionId = sessionId

/-- The recorded events of a session. -/
def eventsOf (store : SessionStore) (sessionId : String) : List CompatGatewayReplayEvent :=
  (store.replayEvents.lookup sessionId).getD []

def createSession (store : SessionStore) (session : CompatGatewaySession) : SessionStore :=
  { store with sessions := store.sessions.insert session.sessionId session }

/-- The stored sequence never goes down; an unknown session is left alone. -/
def updateSequence (store : SessionStore) (sessionId : String) (sequence : Int)
    : SessionStore :=
  match store.sessions.lookup sessionId with
  | none => store
  | some session =>
      { store with
        sessions := store.sessions.insert sessionId
          { session with sequence := max session.sequence sequence } }

def resumeSession (store : SessionStore) (sessionId : String) (bot : AuthenticatedBot)
    (clientSequence : Int) : CompatGatewayResumeResult × SessionStore :=
  match store.sessions.lookup sessionId with
  | none => (.notFound, store)
  | some session =>
      if session.ownedBy bot then
        if session.sequence < clientSequence then
          (.invalidSequence, store)
        else
          let session := { session with sequence := max session.sequence clientSequence }
          (.resumed session,
            { store with sessions := store.sessions.insert sessionId session })
      else
        (.notFound, store)

/-- Records an event in place of the one with its number, or sorts it in. -/
def appendReplayEvent (store : SessionStore) (event : CompatGatewayReplayEvent)
    : SessionStore :=
  { store with
    replayEvents := store.replayEvents.insert event.sessionId
      (KeyedLog.upsert CompatGatewayReplayEvent.sequence (store.eventsOf event.sessionId)
        event) }

def listReplayEventsAfter (store : SessionStore) (sessionId : String) (sequence : Int)
    (limit : Nat) : List CompatGatewayReplayEvent :=
  KeyedLog.pageAfter CompatGatewayReplayEvent.sequence (store.eventsOf sessionId) sequence
    limit

-----------------------------------------------------------------------------------------
-- What the writes change
-----------------------------------------------------------------------------------------

@[simp] theorem eventsOf_createSession (store : SessionStore)
    (session : CompatGatewaySession) (sessionId : String)
    : (store.createSession session).eventsOf sessionId = store.eventsOf sessionId :=
  rfl

@[simp] theorem eventsOf_updateSequence (store : SessionStore) (updated : String)
    (sequence : Int) (sessionId : String)
    : (store.updateSequence updated sequence).eventsOf sessionId
        = store.eventsOf sessionId := by
  rw [updateSequence]
  split <;> rfl

@[simp] theorem sessions_appendReplayEvent (store : SessionStore)
    (event : CompatGatewayReplayEvent)
    : (store.appendReplayEvent event).sessions = store.sessions :=
  rfl

/-- An append changes the events of its own session only. -/
theorem eventsOf_appendReplayEvent (store : SessionStore) (event : CompatGatewayReplayEvent)
    (sessionId : String)
    : (store.appendReplayEvent event).eventsOf sessionId
        = if sessionId = event.sessionId then
            KeyedLog.upsert CompatGatewayReplayEvent.sequence
              (store.eventsOf event.sessionId) event
          else
            store.eventsOf sessionId := by
  rw [appendReplayEvent, eventsOf, Table.lookup_insert_eq]
  split <;> rfl

/-- A sequence update changes its own session only. -/
theorem lookup_updateSequence (store : SessionStore) (updated sessionId : String)
    (sequence : Int)
    : (store.updateSequence updated sequence).sessions.lookup sessionId
        = if sessionId = updated then
            (store.sessions.lookup updated).map fun session =>
              { session with sequence := max session.sequence sequence }
          else
            store.sessions.lookup sessionId := by
  rw [updateSequence]
  split
  · next unknown =>
      split
      · next same => rw [same, unknown, Option.map_none]
      · rfl
  · next session known =>
      rw [Table.lookup_insert_eq, known]
      rfl

/-- Sessions stay under their identifiers where the same ones are found. -/
theorem SessionsKeyed.of_lookup {store next : SessionStore} (keyed : store.SessionsKeyed)
    (same : ∀ sessionId, next.sessions.lookup sessionId = store.sessions.lookup sessionId)
    : next.SessionsKeyed :=
  fun sessionId session found => keyed sessionId session ((same sessionId).symm.trans found)

theorem SessionsKeyed.updateSequence {store : SessionStore} (keyed : store.SessionsKeyed)
    (updated : String) (sequence : Int)
    : (store.updateSequence updated sequence).SessionsKeyed := by
  intro sessionId session found
  rw [lookup_updateSequence] at found
  split at found
  · next same =>
      obtain ⟨stored, known, rfl⟩ := Option.map_eq_some_iff.mp found
      exact (keyed updated stored known).trans same.symm
  · exact keyed sessionId session found

/-- A resume succeeds exactly for the bot of a stored session and a sequence number up to
the stored one, and changes nothing.
-/
theorem resumeSession_resumed {store next : SessionStore} {sessionId : String}
    {bot : AuthenticatedBot} {clientSequence : Int} {session : CompatGatewaySession}
    (resumed : store.resumeSession sessionId bot clientSequence = (.resumed session, next))
    : store.sessions.lookup sessionId = some session ∧ session.ownedBy bot = true
      ∧ clientSequence ≤ session.sequence
      ∧ (∀ other, next.sessions.lookup other = store.sessions.lookup other)
      ∧ next.replayEvents = store.replayEvents := by
  rw [resumeSession] at resumed
  split at resumed
  · cases resumed
  · next stored known =>
      split at resumed
      · next owned =>
          split at resumed
          · cases resumed
          · next bounded =>
              have reached : clientSequence ≤ stored.sequence := not_lt.mp bounded
              have unchanged : max stored.sequence clientSequence = stored.sequence :=
                max_eq_left reached
              rw [unchanged] at resumed
              cases resumed
              refine ⟨known, owned, reached, ?_, rfl⟩
              intro other
              rw [Table.lookup_insert_eq]
              split
              · next same => rw [same, known]
              · rfl
      · cases resumed

/-- A stored session of the bot that has reached the client's number is resumed. -/
theorem resumeSession_of_owned {store : SessionStore} {sessionId : String}
    {bot : AuthenticatedBot} {clientSequence : Int} {session : CompatGatewaySession}
    (stored : store.sessions.lookup sessionId = some session)
    (owned : session.ownedBy bot = true) (reached : clientSequence ≤ session.sequence)
    : ∃ next, store.resumeSession sessionId bot clientSequence
        = (.resumed session, next) := by
  refine ⟨{ store with sessions := store.sessions.insert sessionId session }, ?_⟩
  rw [resumeSession, stored]
  simp only [owned, if_true, not_lt.mpr reached, if_false, max_eq_left reached]

end SessionStore

end OpenCord.Gateway

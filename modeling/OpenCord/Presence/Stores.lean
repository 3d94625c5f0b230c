import OpenCord.Library.Effects
import OpenCord.Library.Instants
import OpenCord.Library.KeyedLog
import OpenCord.Platform.Uuid

/-! Who is present in a space: heartbeats of users, the in-memory reference store, and the store
on a database that drops rows when their time to live is over.
-/

namespace OpenCord.Presence

open OpenCord.Library OpenCord.Platform

inductive PresenceStatus where
  | online
  | idle
  | offline
  deriving DecidableEq

namespace PresenceStatus

def toStr : PresenceStatus → String
  | online => "online"
  | idle => "idle"
  | offline => "offline"

def fromStr (value : String) : PresenceStatus :=
  if value = "idle" then .idle else if value = "offline" then .offline else .online

@[simp] theorem fromStr_toStr (status : PresenceStatus) : fromStr status.toStr = status := by
  cases status <;> simp [fromStr, toStr]

end PresenceStatus

structure PresenceHeartbeat where
  organizationId : Uuid
  spaceId : Uuid
  userId : Uuid
  status : PresenceStatus
  observedAt : Instant
  expiresAt : Instant
  deriving DecidableEq

namespace PresenceHeartbeat

/-- What a heartbeat replaces the earlier ones of. -/
def key (heartbeat : PresenceHeartbeat) : Uuid × Uuid × Uuid :=
  (heartbeat.organizationId, heartbeat.spaceId, heartbeat.userId)

/-- The heartbeat with its times in whole milliseconds. -/
def wholeMilli (heartbeat : PresenceHeartbeat) : PresenceHeartbeat :=
  { heartbeat with
    observedAt := heartbeat.observedAt.wholeMilli
    expiresAt := heartbeat.expiresAt.wholeMilli }

/-- The whole seconds from the observation to the expiry. -/
def wholeSeconds (heartbeat : PresenceHeartbeat) : Int :=
  heartbeat.expiresAt.secondsSince heartbeat.observedAt

/-- At least one second, as a signed number of 32 bits. -/
def ttlSeconds (heartbeat : PresenceHeartbeat) : Int :=
  (max heartbeat.wholeSeconds 1).bmod (2 ^ 32)

@[simp] theorem key_wholeMilli (heartbeat : PresenceHeartbeat)
    : heartbeat.wholeMilli.key = heartbeat.key :=
  rfl

/-- Spans that fit in 32 bits are sent as they are. -/
theorem ttlSeconds_of_lt {heartbeat : PresenceHeartbeat}
    (fits : heartbeat.wholeSeconds < 2 ^ 31)
    : heartbeat.ttlSeconds = max heartbeat.wholeSeconds 1 := by
  unfold ttlSeconds
  apply Int.bmod_eq_of_le <;> omega

end PresenceHeartbeat

inductive ScyllaStoreError where
  | database (message : String)
  | invalidTimestampMillis (value : Int)
  | invalidUserId (value : String)
  deriving DecidableEq

-----------------------------------------------------------------------------------------
-- In memory
-----------------------------------------------------------------------------------------

structure InMemoryPresenceStore where
  heartbeats : List PresenceHeartbeat

namespace InMemoryPresenceStore

def empty : InMemoryPresenceStore := ⟨[]⟩

def upsert (heartbeat : PresenceHeartbeat)
    : Eff InMemoryPresenceStore ScyllaStoreError Unit :=
  Eff.writes fun store => ⟨store.heartbeats.filter (fun candidate =>
    candidate.organizationId ≠ heartbeat.organizationId
      ∨ candidate.spaceId ≠ heartbeat.spaceId
      ∨ candidate.userId ≠ heartbeat.userId) ++ [heartbeat]⟩

def listActiveBySpace (store : InMemoryPresenceStore) (organizationId spaceId : Uuid)
    (time : Instant) : List PresenceHeartbeat :=
  store.heartbeats.filter fun heartbeat =>
    heartbeat.organizationId = organizationId ∧ heartbeat.spaceId = spaceId
      ∧ time < heartbeat.expiresAt

/-- The store after some upserts. -/
def afterAll (history : List PresenceHeartbeat) : InMemoryPresenceStore :=
  history.foldl (fun store heartbeat => (upsert heartbeat).after store) empty

/-- The store holds the last heartbeat of each user in each space. -/
theorem mem_afterAll {history : List PresenceHeartbeat} {heartbeat : PresenceHeartbeat}
    : heartbeat ∈ (afterAll history).heartbeats
      ↔ KeyedLog.LastArrival PresenceHeartbeat.key history heartbeat := by
  have holds := @KeyedLog.mem_iff_lastArrival _ _ history _
    (fun history => (afterAll history).heartbeats) (fun _ => true) id PresenceHeartbeat.key rfl
    ?_ (fun _ _ never => nomatch never) heartbeat
  · rw [holds]
    simp
  · intro earlier last _ found
    simp [afterAll, Eff.after, upsert, PresenceHeartbeat.key]
    tauto

theorem mem_listActiveBySpace {store : InMemoryPresenceStore} {organizationId spaceId : Uuid}
    {time : Instant} {heartbeat : PresenceHeartbeat}
    : heartbeat ∈ store.listActiveBySpace organizationId spaceId time
      ↔ heartbeat ∈ store.heartbeats ∧ heartbeat.organizationId = organizationId
          ∧ heartbeat.spaceId = spaceId ∧ time < heartbeat.expiresAt := by
  simp [listActiveBySpace]

end InMemoryPresenceStore

-----------------------------------------------------------------------------------------
-- On the database
-----------------------------------------------------------------------------------------

/-- What becomes of a row that is written with some time to live. -/
inductive RowLife where
  | refused (message : String)
  | seconds (count : Int)
  | unlimited
  deriving DecidableEq

namespace RowLife

def isRefused : RowLife → Bool
  | refused _ => true
  | _ => false

/-- A row that was written at one time is still there at another. -/
def Covers (life : RowLife) (written time : Instant) : Prop :=
  match life with
  | refused _ => False
  | seconds count => time.nanos < written.nanos + count * 1000000000
  | unlimited => True

instance (life : RowLife) (written time : Instant) : Decidable (life.Covers written time) :=
  match life with
  | refused _ => .isFalse id
  | seconds _ => inferInstanceAs (Decidable (_ < _))
  | unlimited => .isTrue trivial

end RowLife

/-- A database keeps a row with a valid time to live for as many seconds. What it does with
other rows is its own affair.
-/
structure Database where
  lifeOf : Int → RowLife
  lifeOf_valid : ∀ ttl, 0 < ttl → ttl < 2 ^ 31 → lifeOf ttl = .seconds ttl

/-- The database takes the row of a heartbeat. -/
def Database.accepts (database : Database) (heartbeat : PresenceHeartbeat) : Bool :=
  !(database.lifeOf heartbeat.ttlSeconds).isRefused

/-- A row of `presence_by_space`. -/
structure PresenceRow where
  organizationId : String
  spaceId : String
  userId : String
  status : String
  observedAtMs : Int
  expiresAtMs : Int
  deriving DecidableEq

def PresenceRow.key (row : PresenceRow) : String × String × String :=
  (row.organizationId, row.spaceId, row.userId)

structure StoredRow where
  row : PresenceRow
  written : Instant
  life : RowLife
  deriving DecidableEq

structure ScyllaPresenceStore where
  rows : List StoredRow

def datetimeFromMillis (value : Int) : Except ScyllaStoreError Instant :=
  match Instant.ofMillis value with
  | some time => .ok time
  | none => .error (.invalidTimestampMillis value)

@[simp] theorem datetimeFromMillis_millis (time : Instant)
    : datetimeFromMillis time.millis = .ok time.wholeMilli := by
  rw [datetimeFromMillis, Instant.ofMillis_millis]

/-- The columns that are bound for a heartbeat. -/
def PresenceHeartbeat.toRow (heartbeat : PresenceHeartbeat) : PresenceRow where
  organizationId := heartbeat.organizationId.toString
  spaceId := heartbeat.spaceId.toString
  userId := heartbeat.userId.toString
  status := heartbeat.status.toStr
  observedAtMs := heartbeat.observedAt.millis
  expiresAtMs := heartbeat.expiresAt.millis

namespace ScyllaPresenceStore

def empty : ScyllaPresenceStore := ⟨[]⟩

/-- The row of a heartbeat that is written when it is observed. -/
def storedRow (database : Database) (heartbeat : PresenceHeartbeat) : StoredRow :=
  ⟨heartbeat.toRow, heartbeat.observedAt, database.lifeOf heartbeat.ttlSeconds⟩

/-- A row takes the place of the row with its primary key, unless the database refuses it. -/
def upsert (database : Database) (heartbeat : PresenceHeartbeat)
    : Eff ScyllaPresenceStore ScyllaStoreError Unit :=
  match database.lifeOf heartbeat.ttlSeconds with
  | .refused message => throw (.database message)
  | _ => Eff.writes fun store => ⟨store.rows.filter (fun stored =>
      stored.row.key ≠ heartbeat.toRow.key) ++ [storedRow database heartbeat]⟩

/-- A heartbeat is read from its row, unless it has expired. -/
def readRow (organizationId spaceId : Uuid) (time : Instant) (row : PresenceRow)
    : Except ScyllaStoreError (Option PresenceHeartbeat) := do
  let expiresAt ← datetimeFromMillis row.expiresAtMs
  if expiresAt ≤ time then
    return none
  else
    let userId ← match Uuid.parseStr row.userId with
      | some userId => Except.ok userId
      | none => .error (.invalidUserId row.userId)
    let observedAt ← datetimeFromMillis row.observedAtMs
    return some ⟨organizationId, spaceId, userId, .fromStr row.status, observedAt, expiresAt⟩

/-- The rows of a partition that are there at some time. -/
def selectBySpace (store : ScyllaPresenceStore) (organizationId spaceId : String)
    (time : Instant) : List PresenceRow :=
  (store.rows.filter fun stored => stored.row.organizationId = organizationId
    ∧ stored.row.spaceId = spaceId ∧ stored.life.Covers stored.written time).map (·.row)

def listActiveBySpace (store : ScyllaPresenceStore) (organizationId spaceId : Uuid)
    (time : Instant) : Except ScyllaStoreError (List PresenceHeartbeat) := do
  let heartbeats ← (store.selectBySpace organizationId.toString spaceId.toString time).mapM
    (readRow organizationId spaceId time)
  return heartbeats.reduceOption

/-- The store after some upserts, of which the database may have refused some. -/
def afterAll (database : Database) (history : List PresenceHeartbeat) : ScyllaPresenceStore :=
  history.foldl (fun store heartbeat => (upsert database heartbeat).after store) empty

theorem after_upsert_of_accepts {database : Database} {heartbeat : PresenceHeartbeat}
    (accepted : database.accepts heartbeat = true) (store : ScyllaPresenceStore)
    : (upsert database heartbeat).after store
        = ⟨store.rows.filter (fun stored => stored.row.key ≠ heartbeat.toRow.key)
            ++ [storedRow database heartbeat]⟩ := by
  unfold upsert
  split
  · next refused =>
      rw [Database.accepts, refused] at accepted
      cases accepted
  · rfl

/-- A refused row leaves the store. -/
theorem after_upsert_of_refused {database : Database} {heartbeat : PresenceHeartbeat}
    (refused : database.accepts heartbeat = false) (store : ScyllaPresenceStore)
    : (upsert database heartbeat).after store = store := by
  unfold upsert
  split
  · rfl
  · next kept =>
      cases life : database.lifeOf heartbeat.ttlSeconds with
      | refused message => exact absurd life (kept message)
      | seconds count =>
          rw [Database.accepts, life] at refused
          cases refused
      | unlimited =>
          rw [Database.accepts, life] at refused
          cases refused

theorem key_toRow_eq_iff {first second : PresenceHeartbeat}
    : first.toRow.key = second.toRow.key ↔ first.key = second.key := by
  simp [PresenceRow.key, PresenceHeartbeat.toRow, PresenceHeartbeat.key,
    Uuid.toString_injective.eq_iff]

/-- The store holds the rows of the last accepted heartbeats. -/
theorem mem_afterAll {database : Database} {history : List PresenceHeartbeat}
    {stored : StoredRow}
    : stored ∈ (afterAll database history).rows
      ↔ ∃ heartbeat, KeyedLog.LastArrival PresenceHeartbeat.key
            (history.filter database.accepts) heartbeat
          ∧ stored = storedRow database heartbeat := by
  have holds := @KeyedLog.mem_iff_lastArrival _ _ history _
    (fun history => (afterAll database history).rows) database.accepts (storedRow database)
    (fun stored => stored.row.key) rfl ?_ ?_ stored
  · rw [holds]
    exact exists_congr fun heartbeat =>
      and_congr_left' (KeyedLog.lastArrival_congr fun _ _ => key_toRow_eq_iff)
  · intro earlier last accepted found
    simp only [afterAll, List.foldl_append, List.foldl_cons, List.foldl_nil,
      after_upsert_of_accepts accepted, List.mem_append, List.mem_filter, List.mem_singleton,
      decide_eq_true_eq, storedRow]
    exact or_comm
  · intro earlier last refused
    simp only [afterAll, List.foldl_append, List.foldl_cons, List.foldl_nil,
      after_upsert_of_refused refused]

/-- The row of a heartbeat is read as the heartbeat in whole milliseconds. -/
theorem readRow_toRow (heartbeat : PresenceHeartbeat) (time : Instant)
    : readRow heartbeat.organizationId heartbeat.spaceId time heartbeat.toRow
        = .ok (if heartbeat.expiresAt.wholeMilli ≤ time then none
            else some heartbeat.wholeMilli) := by
  simp only [readRow, PresenceHeartbeat.toRow, datetimeFromMillis_millis,
    PresenceStatus.fromStr_toStr, Uuid.parseStr_toString]
  change (if heartbeat.expiresAt.wholeMilli ≤ time then _ else _) = _
  split <;> rfl

end ScyllaPresenceStore

end OpenCord.Presence

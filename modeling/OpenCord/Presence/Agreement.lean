import Mathlib.Data.List.ReduceOption
import OpenCord.Presence.Stores

/-! The two presence stores beside each other. Upserts go to both stores, the database writes
each row when the heartbeat is observed, and both are asked who is present. The database forgets
a heartbeat early where its time to live is cut off to whole seconds or to 32 bits.
-/

namespace OpenCord.Presence

open OpenCord.Library OpenCord.Platform

def PresenceHeartbeat.IsIn (heartbeat : PresenceHeartbeat) (organizationId spaceId : Uuid)
    : Prop :=
  heartbeat.organizationId = organizationId ∧ heartbeat.spaceId = spaceId

/-- The query shows the row of a heartbeat. -/
def PresenceHeartbeat.IsShown (heartbeat : PresenceHeartbeat) (database : Database)
    (time : Instant) : Prop :=
  time < heartbeat.expiresAt.wholeMilli
    ∧ (database.lifeOf heartbeat.ttlSeconds).Covers heartbeat.observedAt time

/-- After some upserts both stores return the same heartbeats, in whole milliseconds. -/
def StoresAgree (database : Database) (history : List PresenceHeartbeat)
    (organizationId spaceId : Uuid) (time : Instant) : Prop :=
  ∃ answers, (ScyllaPresenceStore.afterAll database history).listActiveBySpace organizationId
      spaceId time = .ok answers
    ∧ ∀ heartbeat, heartbeat ∈ answers
        ↔ ∃ active ∈ (InMemoryPresenceStore.afterAll history).listActiveBySpace organizationId
            spaceId time,
          heartbeat = active.wholeMilli

/-- The last heartbeat of a user, and the last one that the database has accepted. -/
abbrev IsLast (history : List PresenceHeartbeat) (heartbeat : PresenceHeartbeat) : Prop :=
  KeyedLog.LastArrival PresenceHeartbeat.key history heartbeat

abbrev IsStored (database : Database) (history : List PresenceHeartbeat)
    (heartbeat : PresenceHeartbeat) : Prop :=
  IsLast (history.filter database.accepts) heartbeat

section

variable {database : Database} {history : List PresenceHeartbeat}
  {heartbeat stored : PresenceHeartbeat} {organizationId spaceId : Uuid} {time : Instant}

theorem mem_selectBySpace {row : PresenceRow}
    : row ∈ (ScyllaPresenceStore.afterAll database history).selectBySpace
        organizationId.toString spaceId.toString time
      ↔ ∃ stored, IsStored database history stored ∧ stored.IsIn organizationId spaceId
          ∧ (database.lifeOf stored.ttlSeconds).Covers stored.observedAt time
          ∧ row = stored.toRow := by
  simp only [ScyllaPresenceStore.selectBySpace, List.mem_map, List.mem_filter,
    decide_eq_true_eq, ScyllaPresenceStore.mem_afterAll]
  constructor
  · rintro ⟨_, ⟨⟨stored, isStored, rfl⟩, organization, space, covers⟩, rfl⟩
    exact ⟨stored, isStored, ⟨Uuid.toString_injective organization,
      Uuid.toString_injective space⟩, covers, rfl⟩
  · rintro ⟨stored, isStored, ⟨rfl, rfl⟩, covers, rfl⟩
    exact ⟨_, ⟨⟨stored, isStored, rfl⟩, rfl, rfl, covers⟩, rfl⟩

/-- The database answers with the stored heartbeats that it shows. -/
theorem exists_listActiveBySpace (database : Database) (history : List PresenceHeartbeat)
    (organizationId spaceId : Uuid) (time : Instant)
    : ∃ answers, (ScyllaPresenceStore.afterAll database history).listActiveBySpace
          organizationId spaceId time = .ok answers
        ∧ ∀ heartbeat, heartbeat ∈ answers
            ↔ ∃ stored, IsStored database history stored
                ∧ stored.IsIn organizationId spaceId ∧ stored.IsShown database time
                ∧ heartbeat = stored.wholeMilli := by
  have readable : ∀ row ∈ (ScyllaPresenceStore.afterAll database history).selectBySpace
      organizationId.toString spaceId.toString time,
      ∃ found, ScyllaPresenceStore.readRow organizationId spaceId time row = .ok found := by
    intro row selected
    obtain ⟨stored, -, ⟨rfl, rfl⟩, -, rfl⟩ := mem_selectBySpace.mp selected
    exact ⟨_, ScyllaPresenceStore.readRow_toRow stored time⟩
  obtain ⟨read, built⟩ := Eff.exists_mapM_eq_ok readable
  refine ⟨read.reduceOption, ?_, fun heartbeat => ?_⟩
  · rw [ScyllaPresenceStore.listActiveBySpace, built]
    rfl
  · rw [List.reduceOption_mem_iff, Eff.mem_iff_of_mapM built]
    constructor
    · rintro ⟨row, selected, isRead⟩
      obtain ⟨stored, isStored, ⟨rfl, rfl⟩, covers, rfl⟩ := mem_selectBySpace.mp selected
      rw [ScyllaPresenceStore.readRow_toRow] at isRead
      split at isRead
      · cases isRead
      · next unexpired =>
          cases isRead
          exact ⟨stored, isStored, ⟨rfl, rfl⟩, ⟨not_le.mp unexpired, covers⟩, rfl⟩
    · rintro ⟨stored, isStored, ⟨rfl, rfl⟩, ⟨unexpired, covers⟩, rfl⟩
      refine ⟨_, mem_selectBySpace.mpr ⟨stored, isStored, ⟨rfl, rfl⟩, covers, rfl⟩, ?_⟩
      rw [ScyllaPresenceStore.readRow_toRow, if_neg (not_le.mpr unexpired)]

/-- The reference store answers with the last heartbeats that have not expired. -/
theorem mem_inMemory
    : heartbeat ∈ (InMemoryPresenceStore.afterAll history).listActiveBySpace organizationId
        spaceId time
      ↔ IsLast history heartbeat ∧ heartbeat.IsIn organizationId spaceId
          ∧ time < heartbeat.expiresAt := by
  rw [InMemoryPresenceStore.mem_listActiveBySpace, InMemoryPresenceStore.mem_afterAll,
    PresenceHeartbeat.IsIn, and_assoc]

-----------------------------------------------------------------------------------------
-- When the stores agree
-----------------------------------------------------------------------------------------

/-- As long as a heartbeat has not expired, what is stored of its user is shown, and is this
heartbeat. Afterwards nothing is shown.
-/
structure Follows (database : Database) (history : List PresenceHeartbeat) (time : Instant)
    (heartbeat : PresenceHeartbeat) : Prop where
  active : time < heartbeat.expiresAt → ∃ stored, IsStored database history stored
    ∧ stored.wholeMilli = heartbeat.wholeMilli ∧ stored.IsShown database time
  expired : heartbeat.expiresAt ≤ time → ∀ stored, IsStored database history stored →
    stored.key = heartbeat.key → ¬ stored.IsShown database time

theorem key_eq_of_wholeMilli_eq {first second : PresenceHeartbeat}
    (same : first.wholeMilli = second.wholeMilli)
    : first.key = second.key := by
  rw [← first.key_wholeMilli, same, second.key_wholeMilli]

theorem isIn_of_key_eq {first second : PresenceHeartbeat} (same : first.key = second.key)
    (isIn : first.IsIn organizationId spaceId)
    : second.IsIn organizationId spaceId := by
  simp only [PresenceHeartbeat.key, Prod.mk.injEq] at same
  exact ⟨same.1.symm.trans isIn.1, same.2.1.symm.trans isIn.2⟩

/-- The stores agree if the database follows the last heartbeat of each user. -/
theorem storesAgree_iff_follows
    : StoresAgree database history organizationId spaceId time
      ↔ ∀ heartbeat, IsLast history heartbeat → heartbeat.IsIn organizationId spaceId →
          Follows database history time heartbeat := by
  obtain ⟨answers, listed, shows⟩ :=
    exists_listActiveBySpace database history organizationId spaceId time
  constructor
  · intro agree heartbeat isLast isIn
    obtain ⟨others, otherListed, same⟩ := agree
    obtain rfl := Except.ok.inj (listed.symm.trans otherListed)
    refine ⟨fun active => ?_, fun expired stored isStored sameKey shown => ?_⟩
    · have answered := (same heartbeat.wholeMilli).mpr
        ⟨heartbeat, mem_inMemory.mpr ⟨isLast, isIn, active⟩, rfl⟩
      obtain ⟨stored, isStored, -, shown, wholeMilli⟩ := (shows _).mp answered
      exact ⟨stored, isStored, wholeMilli.symm, shown⟩
    · have answered := (shows stored.wholeMilli).mpr
        ⟨stored, isStored, isIn_of_key_eq sameKey.symm isIn, shown, rfl⟩
      obtain ⟨last, found, wholeMilli⟩ := (same _).mp answered
      obtain ⟨otherLast, -, active⟩ := mem_inMemory.mp found
      have lastKey := (key_eq_of_wholeMilli_eq wholeMilli).symm.trans sameKey
      obtain rfl := otherLast.unique isLast lastKey
      exact absurd active (not_lt.mpr expired)
  · intro follows
    refine ⟨answers, listed, fun heartbeat => ?_⟩
    rw [shows]
    constructor
    · rintro ⟨stored, isStored, isIn, shown, rfl⟩
      have known : ∃ last, IsLast history last ∧ last.key = stored.key :=
        KeyedLog.exists_lastArrival (List.mem_of_mem_filter isStored.mem)
      obtain ⟨last, isLast, sameKey⟩ := known
      have lastIn := isIn_of_key_eq sameKey.symm isIn
      rcases lt_or_ge time last.expiresAt with active | expired
      · obtain ⟨current, isCurrent, wholeMilli, -⟩ := (follows last isLast lastIn).active active
        have currentKey := (key_eq_of_wholeMilli_eq wholeMilli).trans sameKey
        obtain rfl := isCurrent.unique isStored currentKey
        exact ⟨last, mem_inMemory.mpr ⟨isLast, lastIn, active⟩, wholeMilli⟩
      · exact absurd shown
          ((follows last isLast lastIn).expired expired stored isStored sameKey.symm)
    · rintro ⟨last, found, rfl⟩
      obtain ⟨isLast, isIn, active⟩ := mem_inMemory.mp found
      obtain ⟨stored, isStored, wholeMilli, shown⟩ :=
        (follows last isLast isIn).active active
      have storedIn := isIn_of_key_eq (key_eq_of_wholeMilli_eq wholeMilli).symm isIn
      exact ⟨stored, isStored, storedIn, shown, wholeMilli.symm⟩

/-- The heartbeat has expired, or the query comes before the whole millisecond of the expiry and
within some seconds from the observation.
-/
def PresenceHeartbeat.Lasts (heartbeat : PresenceHeartbeat) (seconds : Int) (time : Instant)
    : Prop :=
  heartbeat.expiresAt ≤ time
    ∨ time < heartbeat.expiresAt.wholeMilli
      ∧ time.nanos < heartbeat.observedAt.nanos + seconds * 1000000000

/-- The database keeps the last heartbeat of a user for the whole seconds until its expiry, at
least for one, and these do not end between the observation and the expiry. Where the seconds do
not fit in 32 bits it depends on what the database makes of the number that is left of them. If
it refuses the row, it has to be right with the heartbeat that it has stored before.
-/
def Served (database : Database) (history : List PresenceHeartbeat) (time : Instant)
    (heartbeat : PresenceHeartbeat) : Prop :=
  if heartbeat.wholeSeconds < 2 ^ 31 then
    heartbeat.Lasts (max heartbeat.wholeSeconds 1) time
  else
    match database.lifeOf heartbeat.ttlSeconds with
    | .refused _ => Follows database history time heartbeat
    | .seconds count => heartbeat.Lasts count time
    | .unlimited => heartbeat.expiresAt ≤ time ∨ time < heartbeat.expiresAt.wholeMilli

theorem lifeOf_ttlSeconds (database : Database) (fits : heartbeat.wholeSeconds < 2 ^ 31)
    : database.lifeOf heartbeat.ttlSeconds = .seconds (max heartbeat.wholeSeconds 1) := by
  rw [PresenceHeartbeat.ttlSeconds_of_lt fits]
  apply database.lifeOf_valid <;> omega

/-- An accepted heartbeat is followed if its row is shown until it expires. -/
theorem follows_iff_of_accepts (isLast : IsLast history heartbeat)
    (accepted : database.accepts heartbeat = true)
    : Follows database history time heartbeat
      ↔ heartbeat.expiresAt ≤ time ∨ heartbeat.IsShown database time := by
  have isStored : IsStored database history heartbeat := isLast.filter accepted
  have unexpired (shown : heartbeat.IsShown database time) : time < heartbeat.expiresAt :=
    shown.1.trans_le heartbeat.expiresAt.wholeMilli_le
  constructor
  · intro follows
    rcases lt_or_ge time heartbeat.expiresAt with active | expired
    · obtain ⟨stored, otherStored, wholeMilli, shown⟩ := follows.active active
      obtain rfl := otherStored.unique isStored (key_eq_of_wholeMilli_eq wholeMilli)
      exact .inr shown
    · exact .inl expired
  · intro right
    refine ⟨fun active => ?_, fun expired stored otherStored sameKey shown => ?_⟩
    · rcases right with expired | shown
      · exact absurd active (not_lt.mpr expired)
      · exact ⟨heartbeat, isStored, rfl, shown⟩
    · obtain rfl := otherStored.unique isStored sameKey
      exact absurd (unexpired shown) (not_lt.mpr expired)

theorem served_iff_follows (isLast : IsLast history heartbeat)
    : Served database history time heartbeat ↔ Follows database history time heartbeat := by
  have ofAccepted := @follows_iff_of_accepts database history heartbeat time isLast
  simp only [PresenceHeartbeat.IsShown, Database.accepts] at ofAccepted
  unfold Served
  split
  · next fits =>
      rw [lifeOf_ttlSeconds database fits] at ofAccepted
      exact (ofAccepted rfl).symm
  · cases life : database.lifeOf heartbeat.ttlSeconds with
    | refused message => exact .rfl
    | seconds count =>
        rw [life] at ofAccepted
        exact (ofAccepted rfl).symm
    | unlimited =>
        rw [life] at ofAccepted
        rw [ofAccepted rfl]
        simp [RowLife.Covers]

/-- The stores agree exactly if the last heartbeat of each user in the space is served. -/
theorem storesAgree_iff_served (database : Database) (history : List PresenceHeartbeat)
    (organizationId spaceId : Uuid) (time : Instant)
    : StoresAgree database history organizationId spaceId time
      ↔ ∀ heartbeat, IsLast history heartbeat → heartbeat.IsIn organizationId spaceId →
          Served database history time heartbeat := by
  rw [storesAgree_iff_follows]
  constructor
  · intro follows heartbeat isLast isIn
    exact (served_iff_follows isLast).mpr (follows heartbeat isLast isIn)
  · intro served heartbeat isLast isIn
    exact (served_iff_follows isLast).mp (served heartbeat isLast isIn)

end

namespace ShortNap

/-- Rows without a time to live stay, and negative times are refused. -/
def database : Database where
  lifeOf ttl := if ttl < 0 then .refused "A TTL must be greater or equal to 0"
    else if ttl = 0 then .unlimited else .seconds ttl
  lifeOf_valid ttl positive _ := by
    rw [if_neg (by omega), if_neg (by omega)]

/-- Expires a second and a half after it is observed. -/
def heartbeat : PresenceHeartbeat where
  organizationId := .ofNat 1
  spaceId := .ofNat 2
  userId := .ofNat 3
  status := .idle
  observedAt := ⟨0, by decide, by decide⟩
  expiresAt := ⟨1500000000, by decide, by decide⟩

def query : Instant := ⟨1200000000, by decide, by decide⟩

end ShortNap

/-- The row of a heartbeat of one and a half seconds is gone after one. -/
theorem shortNap_storesDisagree
    : ShortNap.heartbeat.observedAt ≤ ShortNap.query
      ∧ 0 < ShortNap.heartbeat.ttlSeconds ∧ ShortNap.heartbeat.ttlSeconds < 2 ^ 31
      ∧ ¬ StoresAgree ShortNap.database [ShortNap.heartbeat] (.ofNat 1) (.ofNat 2)
          ShortNap.query := by
  refine ⟨by decide, by decide, by decide, ?_⟩
  rintro ⟨answers, listed, same⟩
  have nothing : (ScyllaPresenceStore.afterAll ShortNap.database
      [ShortNap.heartbeat]).listActiveBySpace (.ofNat 1) (.ofNat 2) ShortNap.query = .ok [] := by
    rfl
  obtain rfl := Except.ok.inj (nothing.symm.trans listed)
  have active : ShortNap.heartbeat ∈ (InMemoryPresenceStore.afterAll
      [ShortNap.heartbeat]).listActiveBySpace (.ofNat 1) (.ofNat 2) ShortNap.query := by
    decide
  exact absurd ((same _).mpr ⟨_, active, rfl⟩) List.not_mem_nil

end OpenCord.Presence

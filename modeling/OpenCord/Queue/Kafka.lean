import Mathlib.Algebra.BigOperators.Group.List.Basic
import Mathlib.Algebra.Ring.Nat
import Mathlib.Data.List.TakeWhile
import OpenCord.Jobs.Worker

/-! The Kafka consumer: one partition for each topic, an offset for each partition, and calls
that look for the next record of the first partition that has one. What becomes of a record
depends on whether it has a value, and on whether its value can be decoded.
-/

namespace OpenCord.Queue

open OpenCord.Jobs

structure QueueError where
  message : String

/-- A record without a value is a tombstone. -/
structure RecordAndOffset where
  offset : Int
  value : Option (List UInt8)

/-- A partition with its records, the earliest first. Fetching answers all records from an
offset on.
-/
structure PartitionClient where
  records : List RecordAndOffset
  earliest : Int
  fetchRecords : Int → List RecordAndOffset
  increasing : records.Pairwise fun first second => first.offset < second.offset
  earliest_le : ∀ record ∈ records, earliest ≤ record.offset
  fetchRecords_eq : ∀ offset,
    fetchRecords offset = records.filter fun record => offset ≤ record.offset

/-- A partition with its next offset, and with what the calls so far have returned from it: the
envelopes, and the offsets of the records whose decoding failed.
-/
structure Subscription where
  partition : PartitionClient
  nextOffset : Int
  returned : List EventEnvelope
  failed : List Int

/-- A consumer holds its subscriptions in the order of its topics. -/
abbrev KafkaQueueConsumer := List Subscription

namespace KafkaQueueConsumer

def subscribe (partitions : List PartitionClient) : KafkaQueueConsumer :=
  partitions.map fun partition => ⟨partition, partition.earliest, [], []⟩

variable (decode : List UInt8 → Except QueueError EventEnvelope)

/-- One call. A partition whose next record has no value is passed over, a failed decoding ends
the call; in both cases the offset stays where it is.
-/
def next : KafkaQueueConsumer → Except QueueError (Option EventEnvelope) × KafkaQueueConsumer
  | [] => (.ok none, [])
  | subscription :: rest =>
      match (subscription.partition.fetchRecords subscription.nextOffset).head? with
      | none =>
          let (answer, rest) := next rest
          (answer, subscription :: rest)
      | some record =>
          match record.value with
          | none =>
              let (answer, rest) := next rest
              (answer, subscription :: rest)
          | some value =>
              match decode value with
              | .error error =>
                  (.error error,
                    { subscription with failed := subscription.failed ++ [record.offset] }
                      :: rest)
              | .ok envelope =>
                  (.ok (some envelope),
                    { subscription with
                      nextOffset := record.offset + 1
                      returned := subscription.returned ++ [envelope] } :: rest)

/-- The consumer after a number of calls. -/
def after : Nat → KafkaQueueConsumer → KafkaQueueConsumer
  | 0, consumer => consumer
  | count + 1, consumer => after count (next decode consumer).2

end KafkaQueueConsumer

variable (decode : List UInt8 → Except QueueError EventEnvelope)

/-- The envelope of a record, if it has a value that can be decoded. -/
def RecordAndOffset.envelope (record : RecordAndOffset) : Option EventEnvelope :=
  record.value.bind fun value => (decode value).toOption

/-- All envelopes of a partition. -/
def PartitionClient.envelopes (partition : PartitionClient) : List EventEnvelope :=
  partition.records.filterMap fun record => record.envelope decode

/-- After finitely many calls there is nothing left, and all envelopes have been returned; at
any time each partition has returned the first of its envelopes in their order, and has
failed at most once for a record.
-/
structure Progresses (partitions : List PartitionClient) : Prop where
  drains : ∃ count,
    (KafkaQueueConsumer.next decode (.after decode count (.subscribe partitions))).1 = .ok none
      ∧ (KafkaQueueConsumer.after decode count (.subscribe partitions)).map
          (fun subscription => (subscription.partition, subscription.returned))
        = partitions.map fun partition => (partition, partition.envelopes decode)
  inOrder : ∀ count, ∀ subscription ∈ KafkaQueueConsumer.after decode count
      (.subscribe partitions),
    subscription.returned <+: subscription.partition.envelopes decode
  failsOnce : ∀ count, ∀ subscription ∈ KafkaQueueConsumer.after decode count
      (.subscribe partitions),
    subscription.failed.Nodup

/-- Every record before the first tombstone can be decoded, and none after it can. -/
structure PartitionClient.Clean (partition : PartitionClient) : Prop where
  before : ∀ record ∈ partition.records.takeWhile (fun record => record.value.isSome),
    (record.envelope decode).isSome
  behind : ∀ record ∈ partition.records.dropWhile (fun record => record.value.isSome),
    record.envelope decode = none

-----------------------------------------------------------------------------------------
-- What one call does to a subscription
-----------------------------------------------------------------------------------------

/-- A call leaves a subscription, fails on its next record, or returns it. -/
inductive Subscription.Polled : Subscription → Subscription → Prop where
  | kept (subscription : Subscription) : Polled subscription subscription
  | failed (subscription : Subscription) (record : RecordAndOffset)
      (first : (subscription.partition.fetchRecords subscription.nextOffset).head?
        = some record)
      (valued : record.value.isSome) (undecodable : record.envelope decode = none)
      : Polled subscription
          { subscription with failed := subscription.failed ++ [record.offset] }
  | returned (subscription : Subscription) (record : RecordAndOffset) (envelope : EventEnvelope)
      (first : (subscription.partition.fetchRecords subscription.nextOffset).head?
        = some record)
      (decodes : record.envelope decode = some envelope)
      : Polled subscription
          { subscription with
            nextOffset := record.offset + 1
            returned := subscription.returned ++ [envelope] }

/-- Nothing is fetched, or a tombstone comes first. -/
def Subscription.Silent (subscription : Subscription) : Prop :=
  ∀ record ∈ (subscription.partition.fetchRecords subscription.nextOffset).head?,
    record.value = none

variable {decode}

theorem Subscription.Polled.partition {subscription polled : Subscription}
    (polls : subscription.Polled decode polled)
    : polled.partition = subscription.partition := by
  cases polls <;> rfl

theorem RecordAndOffset.envelope_eq_some {record : RecordAndOffset} {envelope : EventEnvelope}
    {value : List UInt8} (valued : record.value = some value)
    (decodes : decode value = .ok envelope)
    : record.envelope decode = some envelope := by
  rw [RecordAndOffset.envelope, valued, Option.bind_some, decodes]
  rfl

theorem RecordAndOffset.envelope_eq_none {record : RecordAndOffset} {error : QueueError}
    {value : List UInt8} (valued : record.value = some value)
    (fails : decode value = .error error)
    : record.envelope decode = none := by
  rw [RecordAndOffset.envelope, valued, Option.bind_some, fails]
  rfl

/-- What can be decoded has a value. -/
theorem RecordAndOffset.isSome_value {record : RecordAndOffset}
    (decodes : (record.envelope decode).isSome)
    : record.value.isSome := by
  cases valued : record.value with
  | none =>
      rw [RecordAndOffset.envelope, valued] at decodes
      cases decodes
  | some value => rfl

namespace KafkaQueueConsumer

/-- A call polls every subscription, by induction over the subscriptions. -/
theorem forall₂_next (consumer : KafkaQueueConsumer)
    : List.Forall₂ (Subscription.Polled decode) consumer (next decode consumer).2 := by
  induction consumer with
  | nil => exact .nil
  | cons subscription rest ih =>
      have others : List.Forall₂ (Subscription.Polled decode) rest rest :=
        List.forall₂_same.mpr fun other _ => .kept other
      rw [next]
      split
      · exact .cons (.kept _) ih
      · next record first =>
          split
          · exact .cons (.kept _) ih
          · next value valued =>
              split
              · next error fails =>
                  refine .cons (.failed _ record first ?_ ?_) others
                  · rw [valued]
                    rfl
                  · exact RecordAndOffset.envelope_eq_none valued fails
              · next envelope decodes =>
                  refine .cons (.returned _ record envelope first ?_) others
                  exact RecordAndOffset.envelope_eq_some valued decodes

/-- A subscription after a call is one from before it that was polled, by induction over the
subscriptions.
-/
theorem exists_polled {consumer polled : KafkaQueueConsumer}
    (polls : List.Forall₂ (Subscription.Polled decode) consumer polled) {later : Subscription}
    (listed : later ∈ polled)
    : ∃ subscription ∈ consumer, subscription.Polled decode later := by
  induction polls with
  | nil => exact absurd listed List.not_mem_nil
  | cons first _ ih =>
      rcases List.mem_cons.mp listed with same | mem
      · exact ⟨_, List.mem_cons_self, same ▸ first⟩
      · obtain ⟨subscription, earlier, found⟩ := ih mem
        exact ⟨subscription, List.mem_cons_of_mem _ earlier, found⟩

/-- No call changes the partitions, by induction over the calls. -/
theorem map_partition_after (consumer : KafkaQueueConsumer) (count : Nat)
    : (after decode count consumer).map (fun subscription => subscription.partition)
        = consumer.map fun subscription => subscription.partition := by
  induction count generalizing consumer with
  | zero => rfl
  | succ count ih =>
      refine (ih (next decode consumer).2).trans ?_
      have polls := @forall₂_next decode consumer
      refine List.forall₂_eq_eq_eq ▸ ?_
      exact List.forall₂_map_left_iff.mpr (List.forall₂_map_right_iff.mpr
        (polls.flip.imp fun _ _ found => found.partition))

/-- A call answers that there is nothing only if no partition has a value to offer; by
induction over the subscriptions.
-/
theorem silent_of_next {consumer : KafkaQueueConsumer}
    (nothing : (next decode consumer).1 = .ok none)
    : ∀ subscription ∈ consumer, subscription.Silent := by
  induction consumer with
  | nil => exact fun _ listed => absurd listed List.not_mem_nil
  | cons subscription rest ih =>
      rw [next] at nothing
      split at nothing
      · next empty =>
          refine List.forall_mem_cons.mpr ⟨?_, ih nothing⟩
          rw [Subscription.Silent, empty]
          exact nofun
      · next record first =>
          split at nothing
          · next tombstone =>
              refine List.forall_mem_cons.mpr ⟨?_, ih nothing⟩
              rw [Subscription.Silent, first]
              intro other same
              cases same
              exact tombstone
          · split at nothing
            · cases nothing
            · cases nothing

/-- What every poll keeps, every number of calls keeps; by induction over the calls. -/
theorem forall_after {property : Subscription → Prop}
    (kept : ∀ subscription polled, subscription.Polled decode polled →
      property subscription → property polled)
    {consumer : KafkaQueueConsumer} (initially : ∀ subscription ∈ consumer, property subscription)
    (count : Nat)
    : ∀ subscription ∈ after decode count consumer, property subscription := by
  induction count generalizing consumer with
  | zero => exact initially
  | succ count ih =>
      refine ih fun polled listed => ?_
      obtain ⟨subscription, mem, polls⟩ :=
        exists_polled (forall₂_next consumer) listed
      exact kept subscription polled polls (initially subscription mem)

end KafkaQueueConsumer

-----------------------------------------------------------------------------------------
-- How far a subscription has read
-----------------------------------------------------------------------------------------

/-- Fetching past a record answers the records behind it. -/
theorem PartitionClient.fetchRecords_behind {partition : PartitionClient}
    {read rest : List RecordAndOffset} {record : RecordAndOffset}
    (split : partition.records = read ++ record :: rest)
    : partition.fetchRecords (record.offset + 1) = rest := by
  have increasing := partition.increasing
  rw [split, List.pairwise_append, List.pairwise_cons] at increasing
  obtain ⟨_, ⟨later, _⟩, earlier⟩ := increasing
  rw [partition.fetchRecords_eq, split, List.filter_append, List.filter_cons_of_neg
    (by simp only [decide_eq_true_eq]; omega)]
  rw [List.filter_eq_nil_iff.mpr, List.filter_eq_self.mpr, List.nil_append]
  · intro other listed
    have := later other listed
    simp only [decide_eq_true_eq]
    omega
  · intro other listed
    have := earlier other listed record List.mem_cons_self
    simp only [decide_eq_true_eq]
    omega

variable (decode) in
/-- The records that were read have been decoded and returned, and the others are fetched
next.
-/
structure Subscription.Reads (subscription : Subscription) (read rest : List RecordAndOffset)
    : Prop where
  records : subscription.partition.records = read ++ rest
  fetched : subscription.partition.fetchRecords subscription.nextOffset = rest
  returned : read.map (fun record => record.envelope decode) = subscription.returned.map some

/-- A subscription starts before all records of its partition. -/
theorem Subscription.Reads.start (partition : PartitionClient)
    : Reads decode ⟨partition, partition.earliest, [], []⟩ [] partition.records := by
  refine ⟨rfl, ?_, rfl⟩
  rw [partition.fetchRecords_eq, List.filter_eq_self]
  intro record listed
  exact decide_eq_true (partition.earliest_le record listed)

namespace Subscription.Reads

variable {subscription polled : Subscription} {read rest : List RecordAndOffset}

/-- All records that were read could be decoded. -/
theorem isSome_envelope (reads : subscription.Reads decode read rest)
    {record : RecordAndOffset} (listed : record ∈ read)
    : (record.envelope decode).isSome := by
  have mapped : record.envelope decode ∈ read.map fun record => record.envelope decode :=
    List.mem_map_of_mem listed
  rw [reads.returned] at mapped
  obtain ⟨envelope, _, same⟩ := List.mem_map.mp mapped
  rw [← same]
  rfl

/-- The envelopes of a partition are those that were returned, and those of the other records. -/
theorem envelopes_eq (reads : subscription.Reads decode read rest)
    : subscription.partition.envelopes decode
        = subscription.returned ++ rest.filterMap fun record => record.envelope decode := by
  have decoded : read.filterMap (fun record => record.envelope decode) = subscription.returned := by
    have asOptions := @List.filterMap_map _ _ _ (fun record => record.envelope decode) id read
    rw [reads.returned, List.filterMap_map] at asOptions
    exact asOptions.symm.trans (List.filterMap_some ..)
  rw [PartitionClient.envelopes, reads.records, List.filterMap_append, decoded]

/-- A poll reads one record more, or none. -/
theorem poll (reads : subscription.Reads decode read rest)
    (polls : subscription.Polled decode polled)
    : ∃ read rest, polled.Reads decode read rest := by
  cases polls with
  | kept => exact ⟨read, rest, reads⟩
  | failed record first valued undecodable => exact ⟨read, rest, reads.records, reads.fetched,
      reads.returned⟩
  | returned record envelope first decodes =>
      rw [reads.fetched] at first
      obtain ⟨behind, rfl⟩ := List.head?_eq_some_iff.mp first
      refine ⟨read ++ [record], behind, ?_, ?_, ?_⟩
      · rw [List.append_assoc]
        exact reads.records
      · exact PartitionClient.fetchRecords_behind reads.records
      · rw [List.map_append, List.map_append, reads.returned]
        exact congrArg (_ ++ [·]) decodes

/-- Where nothing more is offered, the records that were read are those before the first
tombstone.
-/
theorem span_of_silent (reads : subscription.Reads decode read rest)
    (silent : subscription.Silent)
    : subscription.partition.records.takeWhile (fun record => record.value.isSome) = read
        ∧ subscription.partition.records.dropWhile (fun record => record.value.isSome)
          = rest := by
  have valued : ∀ record ∈ read, record.value.isSome = true :=
    fun record listed => RecordAndOffset.isSome_value (reads.isSome_envelope listed)
  rw [Subscription.Silent, reads.fetched] at silent
  rw [reads.records, List.takeWhile_append_of_pos valued, List.dropWhile_append_of_pos valued]
  cases rest with
  | nil => exact ⟨List.append_nil read, rfl⟩
  | cons record rest =>
      have tombstone := silent record rfl
      simp [tombstone]

end Subscription.Reads

/-- The next record of a clean partition can be decoded, if it has a value. -/
theorem PartitionClient.Clean.isSome_envelope {subscription : Subscription}
    (clean : subscription.partition.Clean decode) {read rest : List RecordAndOffset}
    {record : RecordAndOffset} (reads : subscription.Reads decode read (record :: rest))
    (valued : record.value.isSome)
    : (record.envelope decode).isSome := by
  refine clean.before record ?_
  have earlier : ∀ record ∈ read, record.value.isSome = true :=
    fun record listed => RecordAndOffset.isSome_value (reads.isSome_envelope listed)
  rw [reads.records, List.takeWhile_append_of_pos earlier]
  simp [valued]

-----------------------------------------------------------------------------------------
-- Calls until nothing is left
-----------------------------------------------------------------------------------------

/-- The subscription has read on from the start of its partition, and has not failed where the
partition is clean.
-/
structure Subscription.Reading (decode : List UInt8 → Except QueueError EventEnvelope)
    (subscription : Subscription) : Prop where
  reads : ∃ read rest, subscription.Reads decode read rest
  unfailed : subscription.partition.Clean decode → subscription.failed = []

theorem Subscription.Reading.start (partition : PartitionClient)
    : Reading decode ⟨partition, partition.earliest, [], []⟩ :=
  ⟨⟨_, _, .start partition⟩, fun _ => rfl⟩

theorem Subscription.Reading.poll {subscription polled : Subscription}
    (polls : subscription.Polled decode polled) (reading : subscription.Reading decode)
    : polled.Reading decode := by
  obtain ⟨read, rest, reads⟩ := reading.reads
  refine ⟨reads.poll polls, fun clean => ?_⟩
  rw [polls.partition] at clean
  cases polls with
  | kept => exact reading.unfailed clean
  | failed record first valued undecodable =>
      rw [reads.fetched] at first
      obtain ⟨behind, rfl⟩ := List.head?_eq_some_iff.mp first
      have decodable := clean.isSome_envelope reads valued
      rw [undecodable] at decodable
      cases decodable
  | returned => exact reading.unfailed clean

namespace KafkaQueueConsumer

/-- The number of records that are still to be fetched. -/
def remaining (consumer : KafkaQueueConsumer) : Nat :=
  (consumer.map fun subscription =>
    (subscription.partition.fetchRecords subscription.nextOffset).length).sum

theorem reading_subscribe (partitions : List PartitionClient)
    : ∀ subscription ∈ subscribe partitions, subscription.Reading decode := by
  intro subscription listed
  obtain ⟨partition, _, rfl⟩ := List.mem_map.mp listed
  exact .start partition

/-- On clean partitions a call that returns something leaves less to fetch; by induction over
the subscriptions.
-/
theorem remaining_next {consumer : KafkaQueueConsumer}
    (reading : ∀ subscription ∈ consumer, subscription.Reading decode)
    (clean : ∀ subscription ∈ consumer, subscription.partition.Clean decode)
    : (next decode consumer).1 = .ok none
        ∨ remaining (next decode consumer).2 < remaining consumer := by
  induction consumer with
  | nil => exact .inl rfl
  | cons subscription rest ih =>
      obtain ⟨own, othersReading⟩ := List.forall_mem_cons.mp reading
      obtain ⟨ownClean, othersClean⟩ := List.forall_mem_cons.mp clean
      have passed := (ih othersReading othersClean).imp_right fun less =>
        Nat.add_lt_add_left less
          (subscription.partition.fetchRecords subscription.nextOffset).length
      obtain ⟨read, fetched, reads⟩ := own.reads
      rw [next]
      split
      · exact passed
      · next record first =>
          split
          · exact passed
          · next value valued =>
              rw [reads.fetched] at first
              obtain ⟨behind, rfl⟩ := List.head?_eq_some_iff.mp first
              split
              · next error fails =>
                  have decodable := ownClean.isSome_envelope reads (by rw [valued]; rfl)
                  rw [RecordAndOffset.envelope_eq_none valued fails] at decodable
                  cases decodable
              · right
                simp only [remaining, List.map_cons, List.sum_cons, reads.fetched,
                  PartitionClient.fetchRecords_behind reads.records, List.length_cons]
                omega

/-- On clean partitions the calls come to an end; by induction on what is left to fetch. -/
theorem exists_drained {consumer : KafkaQueueConsumer}
    (reading : ∀ subscription ∈ consumer, subscription.Reading decode)
    (clean : ∀ subscription ∈ consumer, subscription.partition.Clean decode)
    : ∃ count, (next decode (after decode count consumer)).1 = .ok none := by
  induction size : remaining consumer using Nat.strong_induction_on generalizing consumer with
  | h size ih =>
      rcases remaining_next reading clean with nothing | less
      · exact ⟨0, nothing⟩
      · have polls := @forall₂_next decode consumer
        have laterReading : ∀ subscription ∈ (next decode consumer).2,
            subscription.Reading decode := by
          intro subscription listed
          obtain ⟨earlier, mem, polled⟩ := exists_polled polls listed
          exact (reading earlier mem).poll polled
        have laterClean : ∀ subscription ∈ (next decode consumer).2,
            subscription.partition.Clean decode := by
          intro subscription listed
          obtain ⟨earlier, mem, polled⟩ := exists_polled polls listed
          exact polled.partition ▸ clean earlier mem
        obtain ⟨count, drained⟩ := ih _ (size ▸ less) laterReading laterClean rfl
        exact ⟨count + 1, drained⟩

end KafkaQueueConsumer

/-- Where nothing more is offered, all envelopes were returned exactly where the partition is
clean.
-/
theorem Subscription.Reads.returned_iff_clean {subscription : Subscription}
    {read rest : List RecordAndOffset} (reads : subscription.Reads decode read rest)
    (silent : subscription.Silent)
    : subscription.returned = subscription.partition.envelopes decode
        ↔ subscription.partition.Clean decode := by
  obtain ⟨beforeTombstone, behindTombstone⟩ := reads.span_of_silent silent
  rw [reads.envelopes_eq, List.self_eq_append_right, List.filterMap_eq_nil_iff]
  constructor
  · intro nothing
    refine ⟨fun record listed => ?_, fun record listed => ?_⟩
    · rw [beforeTombstone] at listed
      exact reads.isSome_envelope listed
    · rw [behindTombstone] at listed
      exact nothing record listed
  · intro clean
    have behind := clean.behind
    rwa [behindTombstone] at behind

section Progress

open KafkaQueueConsumer

/-- Every subscription of a consumer has read on from the start, whatever the records are. -/
theorem reading_after (partitions : List PartitionClient) (count : Nat)
    : ∀ subscription ∈ after decode count (subscribe partitions),
        subscription.Reading decode :=
  forall_after (fun _ _ polls reading => reading.poll polls) (reading_subscribe partitions) count

theorem partition_mem_after {partitions : List PartitionClient} {count : Nat}
    {subscription : Subscription}
    (listed : subscription ∈ after decode count (subscribe partitions))
    : subscription.partition ∈ partitions := by
  have mapped : subscription.partition ∈ (after decode count (subscribe partitions)).map
      fun subscription => subscription.partition :=
    List.mem_map_of_mem listed
  rw [map_partition_after, subscribe, List.map_map] at mapped
  obtain ⟨partition, mem, same⟩ := List.mem_map.mp mapped
  exact same ▸ mem

/-- Calls that end with all envelopes returned show that the partitions are clean. -/
theorem clean_of_progresses {partitions : List PartitionClient}
    (progresses : Progresses decode partitions)
    : ∀ partition ∈ partitions, partition.Clean decode := by
  intro partition listed
  obtain ⟨count, nothing, returned⟩ := progresses.drains
  have mapped : (partition, partition.envelopes decode)
      ∈ partitions.map fun partition => (partition, partition.envelopes decode) :=
    List.mem_map_of_mem listed
  rw [← returned] at mapped
  obtain ⟨subscription, mem, same⟩ := List.mem_map.mp mapped
  obtain ⟨rfl, all⟩ := Prod.mk.inj same
  obtain ⟨read, rest, reads⟩ := (reading_after partitions count subscription mem).reads
  exact (reads.returned_iff_clean (silent_of_next nothing subscription mem)).mp all

theorem progresses_of_clean {partitions : List PartitionClient}
    (clean : ∀ partition ∈ partitions, partition.Clean decode)
    : Progresses decode partitions where
  drains := by
    have cleanStart : ∀ subscription ∈ subscribe partitions,
        subscription.partition.Clean decode :=
      fun subscription listed => clean _ (@partition_mem_after decode partitions 0 _ listed)
    obtain ⟨count, nothing⟩ := exists_drained (reading_subscribe partitions) cleanStart
    refine ⟨count, nothing, ?_⟩
    have returned : ∀ subscription ∈ after decode count (subscribe partitions),
        (subscription.partition, subscription.returned)
          = (subscription.partition, subscription.partition.envelopes decode) := by
      intro subscription listed
      obtain ⟨read, rest, reads⟩ := (reading_after partitions count subscription listed).reads
      have silent := silent_of_next nothing subscription listed
      rw [(reads.returned_iff_clean silent).mpr (clean _ (partition_mem_after listed))]
    rw [List.map_congr_left returned]
    have partitionsAfter := congrArg
      (List.map fun partition : PartitionClient => (partition, partition.envelopes decode))
      (@map_partition_after decode (subscribe partitions) count)
    rw [List.map_map, subscribe, List.map_map, List.map_map] at partitionsAfter
    exact partitionsAfter
  inOrder := by
    intro count subscription listed
    obtain ⟨read, rest, reads⟩ := (reading_after partitions count subscription listed).reads
    rw [reads.envelopes_eq]
    exact List.prefix_append ..
  failsOnce := by
    intro count subscription listed
    have reading := reading_after partitions count subscription listed
    rw [reading.unfailed (clean _ (partition_mem_after listed))]
    exact List.nodup_nil

/-- The consumer makes its way through the partitions exactly when each of them is clean. -/
theorem progresses_iff_clean (partitions : List PartitionClient)
    : Progresses decode partitions ↔ ∀ partition ∈ partitions, partition.Clean decode :=
  ⟨clean_of_progresses, progresses_of_clean⟩

end Progress

namespace Compacted

def text : String :=
  "\x7b\"event_id\":\"evt_1\",\"topic\":\"opencord.jobs.usage.v1\",\"type\":\"usage.recorded\","
    ++ "\"schema_version\":1,\"organization_id\":\"org_1\",\"partition_key\":\"org_1\","
    ++ "\"occurred_at\":\"1970-01-01T00:00:00Z\",\"traceparent\":null,"
    ++ "\"idempotency_key\":\"usage.recorded:1\",\"payload\":null\x7d"

def value : List UInt8 := text.toList.map fun character => character.toNat.toUInt8

def envelope : EventEnvelope :=
  ⟨"evt_1", "opencord.jobs.usage.v1", "usage.recorded", 1, "org_1", "org_1", 0, none,
    "usage.recorded:1", .null⟩

/-- Decodes the one event. -/
def fromSlice (bytes : List UInt8) : Except QueueError EventEnvelope :=
  if bytes = value then .ok envelope else .error ⟨"EOF while parsing an object"⟩

/-- A record, and the event behind it. -/
def partition (first : Option (List UInt8)) : PartitionClient where
  records := [⟨0, first⟩, ⟨1, some value⟩]
  earliest := 0
  fetchRecords offset := [⟨0, first⟩, ⟨1, some value⟩].filter fun record => offset ≤ record.offset
  increasing := by simp
  earliest_le := by simp
  fetchRecords_eq _ := rfl

end Compacted

/-- Neither behind a tombstone nor behind a record with broken JSON does the consumer return the
event.
-/
theorem compacted_notProgresses
    : ¬ Progresses Compacted.fromSlice [Compacted.partition none]
        ∧ ¬ Progresses Compacted.fromSlice [Compacted.partition (some [123])] := by
  have decodes : RecordAndOffset.envelope Compacted.fromSlice ⟨1, some Compacted.value⟩
      = some Compacted.envelope :=
    RecordAndOffset.envelope_eq_some rfl (if_pos rfl)
  have broken : RecordAndOffset.envelope Compacted.fromSlice ⟨0, some [123]⟩ = none :=
    RecordAndOffset.envelope_eq_none rfl (if_neg (by decide +kernel))
  constructor
  · intro progresses
    have clean := clean_of_progresses progresses _ List.mem_cons_self
    have lost := clean.behind ⟨1, some Compacted.value⟩ (List.mem_cons_of_mem _ List.mem_cons_self)
    rw [decodes] at lost
    cases lost
  · intro progresses
    have clean := clean_of_progresses progresses _ List.mem_cons_self
    have decodable := clean.before ⟨0, some [123]⟩ List.mem_cons_self
    rw [broken] at decodable
    cases decodable

end OpenCord.Queue

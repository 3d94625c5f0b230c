import Mathlib.Data.List.Basic

/-! A broadcast channel of bounded capacity. Every receiver reads the messages in the order in
which they were sent; the channel retains the last ones only, and a receiver that has fallen
further behind is told so once and goes on with the oldest message that is left.
-/

namespace OpenCord.Library

variable {α : Type}

/-- A receiver, by the positions of the first message after its subscription and of the next
message that it reads.
-/
structure Receiver where
  since : Nat
  next : Nat

/-- What a receiver reads: a message with its position, or how many it has missed. -/
inductive Received (α : Type) where
  | message (position : Nat) (message : α)
  | lagged (missed : Nat)

namespace Receiver

/-- A new receiver reads what is sent from now on. -/
def subscribe (log : List α) : Receiver := ⟨log.length, log.length⟩

/-- The next message of the receiver is no longer retained. -/
def Behind (capacity : Nat) (log : List α) (receiver : Receiver) : Prop :=
  receiver.next < log.length - capacity

instance (capacity : Nat) (log : List α) (receiver : Receiver)
    : Decidable (receiver.Behind capacity log) :=
  inferInstanceAs (Decidable (_ < _))

/-- Reads the next message; without one the receiver waits. -/
def recv (capacity : Nat) (log : List α) (receiver : Receiver) : Option (Received α × Receiver) :=
  if receiver.Behind capacity log then
    let oldest := log.length - capacity
    some (.lagged (oldest - receiver.next), { receiver with next := oldest })
  else
    log[receiver.next]?.map fun message =>
      (.message receiver.next message, { receiver with next := receiver.next + 1 })

/-- What a receiver that is not behind reads is its next message. -/
theorem recv_message {capacity : Nat} {log : List α} {receiver next : Receiver}
    {position : Nat} {message : α}
    (received : receiver.recv capacity log = some (.message position message, next))
    : ¬ receiver.Behind capacity log ∧ position = receiver.next
        ∧ log[receiver.next]? = some message
        ∧ next = { receiver with next := receiver.next + 1 } := by
  rw [recv] at received
  split at received
  · cases received
  · next keepsUp =>
      obtain ⟨found, retained, same⟩ := Option.map_eq_some_iff.mp received
      cases same
      exact ⟨keepsUp, rfl, retained, rfl⟩

/-- A receiver that has missed messages was behind, and goes on with a later one. -/
theorem recv_lagged {capacity : Nat} {log : List α} {receiver next : Receiver} {missed : Nat}
    (received : receiver.recv capacity log = some (.lagged missed, next))
    : receiver.Behind capacity log
        ∧ next = { receiver with next := log.length - capacity } := by
  rw [recv] at received
  split at received
  · next behind =>
      cases received
      exact ⟨behind, rfl⟩
  · obtain ⟨_, _, same⟩ := Option.map_eq_some_iff.mp received
    cases same

end Receiver

-----------------------------------------------------------------------------------------
-- What a reader does with the messages
-----------------------------------------------------------------------------------------

/-- The messages that a reader has handed on, each with its position, and the positions of
those that it has turned away.
-/
structure Handled (α : Type) where
  handedOn : List (Nat × α)
  turnedAway : List Nat

namespace Handled

def none : Handled α := ⟨[], []⟩

def handOn (handled : Handled α) (position : Nat) (message : α) : Handled α :=
  { handled with handedOn := handled.handedOn ++ [(position, message)] }

def turnAway (handled : Handled α) (position : Nat) : Handled α :=
  { handled with turnedAway := handled.turnedAway ++ [position] }

/-- The messages that were handed on are messages of the channel, in its order and each of them
once, and every message since the subscription that the reader has passed is among them unless
it was turned away.
-/
structure LosesNothing (log : List α) (receiver : Receiver) (handled : Handled α) : Prop where
  ordered : (handled.handedOn.map Prod.fst).Pairwise (· < ·)
  genuine : ∀ entry ∈ handled.handedOn, log[entry.1]? = some entry.2
  complete : ∀ position, receiver.since ≤ position → position < receiver.next →
    position ∉ handled.turnedAway → position ∈ handled.handedOn.map Prod.fst

/-- A reader stands between its subscription and the end of the channel, and has handled
earlier messages only.
-/
structure Within (log : List α) (receiver : Receiver) (handled : Handled α) : Prop where
  since : receiver.since ≤ receiver.next
  sent : receiver.next ≤ log.length
  handedOn : ∀ position ∈ handled.handedOn.map Prod.fst, position < receiver.next
  turnedAway : ∀ position ∈ handled.turnedAway, position < receiver.next

variable {log : List α} {receiver : Receiver} {handled : Handled α}

theorem losesNothing_subscribe (log : List α)
    : LosesNothing log (.subscribe log) none where
  ordered := .nil
  genuine := fun _ listed => absurd listed List.not_mem_nil
  complete := fun _ after before _ => absurd before (Nat.not_lt.mpr after)

theorem within_subscribe (log : List α) : Within log (.subscribe log) none where
  since := Nat.le_refl _
  sent := Nat.le_refl _
  handedOn := fun _ listed => absurd listed List.not_mem_nil
  turnedAway := fun _ listed => absurd listed List.not_mem_nil

/-- Later messages change nothing. -/
theorem LosesNothing.grow (whole : LosesNothing log receiver handled) {longer : List α}
    (grows : log <+: longer)
    : LosesNothing longer receiver handled where
  ordered := whole.ordered
  genuine := by
    intro entry listed
    obtain ⟨before, found⟩ := List.getElem?_eq_some_iff.mp (whole.genuine entry listed)
    rw [← found]
    exact List.prefix_iff_getElem?.mp grows _ before
  complete := whole.complete

theorem Within.grow (within : Within log receiver handled) {longer : List α}
    (grows : log <+: longer)
    : Within longer receiver handled :=
  { within with sent := Nat.le_trans within.sent grows.length_le }

/-- The next message is handed on. -/
theorem LosesNothing.handOn (whole : LosesNothing log receiver handled)
    (within : Within log receiver handled) {message : α}
    (sent : log[receiver.next]? = some message)
    : LosesNothing log { receiver with next := receiver.next + 1 }
        (handled.handOn receiver.next message) where
  ordered := by
    rw [Handled.handOn, List.map_append, List.map_singleton]
    refine List.pairwise_append.mpr ⟨whole.ordered, List.pairwise_singleton .., ?_⟩
    intro earlier listed position own
    rw [List.mem_singleton.mp own]
    exact within.handedOn earlier listed
  genuine := List.forall_mem_append.mpr ⟨whole.genuine, List.forall_mem_singleton.mpr sent⟩
  complete := by
    intro position after before kept
    rw [Handled.handOn, List.map_append, List.map_singleton, List.mem_append,
      List.mem_singleton]
    rcases Nat.lt_succ_iff_lt_or_eq.mp before with earlier | rfl
    · exact .inl (whole.complete position after earlier kept)
    · exact .inr rfl

theorem Within.handOn (within : Within log receiver handled) {message : α}
    (sent : log[receiver.next]? = some message)
    : Within log { receiver with next := receiver.next + 1 }
        (handled.handOn receiver.next message) where
  since := Nat.le_trans within.since (Nat.le_succ _)
  sent := (List.getElem?_eq_some_iff.mp sent).1
  handedOn := by
    rw [Handled.handOn, List.map_append, List.map_singleton]
    refine List.forall_mem_append.mpr ⟨fun position listed => ?_, ?_⟩
    · exact Nat.lt_succ_of_lt (within.handedOn position listed)
    · exact List.forall_mem_singleton.mpr (Nat.lt_succ_self _)
  turnedAway := fun position listed => Nat.lt_succ_of_lt (within.turnedAway position listed)

/-- The next message is turned away. -/
theorem LosesNothing.turnAway (whole : LosesNothing log receiver handled)
    : LosesNothing log { receiver with next := receiver.next + 1 }
        (handled.turnAway receiver.next) where
  ordered := whole.ordered
  genuine := whole.genuine
  complete := by
    intro position after before kept
    rw [Handled.turnAway, List.mem_append, List.mem_singleton, not_or] at kept
    rcases Nat.lt_succ_iff_lt_or_eq.mp before with earlier | same
    · exact whole.complete position after earlier kept.1
    · exact absurd same kept.2

theorem Within.turnAway (within : Within log receiver handled) {message : α}
    (sent : log[receiver.next]? = some message)
    : Within log { receiver with next := receiver.next + 1 }
        (handled.turnAway receiver.next) where
  since := Nat.le_trans within.since (Nat.le_succ _)
  sent := (List.getElem?_eq_some_iff.mp sent).1
  handedOn := fun position listed => Nat.lt_succ_of_lt (within.handedOn position listed)
  turnedAway := by
    refine List.forall_mem_append.mpr ⟨fun position listed => ?_, ?_⟩
    · exact Nat.lt_succ_of_lt (within.turnedAway position listed)
    · exact List.forall_mem_singleton.mpr (Nat.lt_succ_self _)

/-- A receiver that was behind has lost its next message for good. -/
theorem Within.not_losesNothing (within : Within log receiver handled) {capacity : Nat}
    (behind : receiver.Behind capacity log)
    : ¬ LosesNothing log { receiver with next := log.length - capacity } handled := by
  intro whole
  have kept : receiver.next ∉ handled.turnedAway :=
    fun listed => Nat.lt_irrefl _ (within.turnedAway _ listed)
  have listed := whole.complete receiver.next within.since behind kept
  exact Nat.lt_irrefl _ (within.handedOn _ listed)

theorem Within.skip (within : Within log receiver handled) {capacity : Nat}
    (behind : receiver.Behind capacity log)
    : Within log { receiver with next := log.length - capacity } handled where
  since := Nat.le_trans within.since (Nat.le_of_lt behind)
  sent := Nat.sub_le ..
  handedOn := fun position listed => Nat.lt_trans (within.handedOn position listed) behind
  turnedAway := fun position listed => Nat.lt_trans (within.turnedAway position listed) behind

end Handled

end OpenCord.Library

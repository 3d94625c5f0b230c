import OpenCord.Library.Tables

/-! Logs of changes. Whoever replays a log from its start holds a table; a store whose changes are
logged can be followed that way.
-/

namespace OpenCord.Library

/-- One entry of a log: a value is put under a key, a key is dropped, or nothing changes. -/
inductive Change (κ ν : Type) where
  | put (key : κ) (value : ν)
  | drop (key : κ)
  | nothing

namespace Change

variable {κ ν : Type} [DecidableEq κ]

def apply (table : Table κ ν) : Change κ ν → Table κ ν
  | put key value => table.insert key value
  | drop key => table.erase key
  | nothing => table

/-- The table of whoever followed a log from its start. -/
def replay (log : List (Change κ ν)) : Table κ ν := log.foldl apply ∅

/-- The key that a change is about. -/
def key? : Change κ ν → Option κ
  | put key _ => some key
  | drop key => some key
  | nothing => none

@[simp] theorem replay_nil : replay ([] : List (Change κ ν)) = ∅ := rfl

@[simp] theorem replay_concat (log : List (Change κ ν)) (change : Change κ ν)
    : replay (log ++ [change]) = apply (replay log) change := by
  rw [replay, List.foldl_append]
  rfl

/-- Entries that change nothing are not noticed, by induction over them. -/
theorem replay_append_nothing (log : List (Change κ ν)) {more : List (Change κ ν)}
    (idle : ∀ change ∈ more, change = nothing)
    : replay (log ++ more) = replay log := by
  induction more generalizing log with
  | nil => rw [List.append_nil]
  | cons change more ih =>
      obtain ⟨rfl, rest⟩ := List.forall_mem_cons.mp idle
      rw [← List.singleton_append, ← List.append_assoc, ih _ rest, replay_concat]
      rfl

/-- A change leaves what lies under other keys. -/
theorem lookup_apply_of_ne {table : Table κ ν} {change : Change κ ν} {key : κ}
    (other : change.key? ≠ some key)
    : (change.apply table).lookup key = table.lookup key := by
  cases change with
  | put changed value =>
      have differs : key ≠ changed := fun same => other (same ▸ rfl)
      exact AList.lookup_insert_ne differs
  | drop changed =>
      have differs : key ≠ changed := fun same => other (same ▸ rfl)
      exact AList.lookup_erase_ne differs
  | nothing => rfl

@[simp] theorem lookup_apply_put (table : Table κ ν) (key : κ) (value : ν)
    : ((put key value).apply table).lookup key = some value :=
  AList.lookup_insert table

@[simp] theorem lookup_apply_drop (table : Table κ ν) (key : κ)
    : ((drop key : Change κ ν).apply table).lookup key = none :=
  AList.lookup_erase key table

end Change

end OpenCord.Library

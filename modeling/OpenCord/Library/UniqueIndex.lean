import OpenCord.Library.Tables

/-! A table with an index by a key of its rows. A row may be archived: it leaves the table and
keeps its key in the index, as under a uniqueness constraint over live and archived rows.
-/

namespace OpenCord.Library

namespace UniqueIndex

variable {ι κ ρ : Type} [DecidableEq ι] {key : ρ → κ} {live archived : Table ι ρ}

/-- A row that is live or archived has the key. -/
def Holds (key : ρ → κ) (live archived : Table ι ρ) (id : ι) (value : κ) : Prop :=
  ∃ row, (live.lookup id = some row ∨ archived.lookup id = some row) ∧ key row = value

theorem Holds.of_live {id : ι} {row : ρ} (stored : live.lookup id = some row)
    : Holds key live archived id (key row) :=
  ⟨row, .inl stored, rfl⟩

variable [DecidableEq κ] {index : Table κ ι}

/-- No row is both live and archived, and the index answers exactly for the keys of the rows,
with the row that has the key.
-/
structure Exact (key : ρ → κ) (live archived : Table ι ρ) (index : Table κ ι) : Prop where
  apart : ∀ id ∈ live, id ∉ archived
  indexed : ∀ value id, index.lookup value = some id ↔ Holds key live archived id value

namespace Exact

theorem empty : Exact key (∅ : Table ι ρ) ∅ (∅ : Table κ ι) := by
  refine ⟨fun id stored => absurd stored (AList.notMem_empty id), fun value id => ?_⟩
  simp [Holds]

/-- Two rows with one key are the same row. -/
theorem unique (exact : Exact key live archived index) {id other : ι} {value : κ}
    (holds : Holds key live archived id value) (same : Holds key live archived other value)
    : id = other := by
  have first := (exact.indexed value id).mpr holds
  have second := (exact.indexed value other).mpr same
  exact Option.some.inj (first.symm.trans second)

/-- A key is indexed when some row has it. -/
theorem mem_index (exact : Exact key live archived index) {value : κ}
    : value ∈ index ↔ ∃ id, Holds key live archived id value := by
  rw [← AList.lookup_isSome, Option.isSome_iff_exists]
  simp only [exact.indexed]

/-- The index answers with another row when another row has the key. -/
theorem any_ne (exact : Exact key live archived index) {value : κ} {id : ι}
    : (index.lookup value).any (· ≠ id) = true
      ↔ ∃ other, other ≠ id ∧ Holds key live archived other value := by
  rw [Option.any_eq_true]
  constructor
  · rintro ⟨other, found, differs⟩
    exact ⟨other, of_decide_eq_true differs, (exact.indexed value other).mp found⟩
  · rintro ⟨other, differs, holds⟩
    exact ⟨other, (exact.indexed value other).mpr holds, decide_eq_true differs⟩

/-- A new row under a key that no row has. -/
theorem insert (exact : Exact key live archived index) {id : ι} {row : ρ}
    (new : id ∉ live) (neverArchived : id ∉ archived) (free : key row ∉ index)
    : Exact key (live.insert id row) archived (index.insert (key row) id) := by
  have missing : live.lookup id = none := AList.lookup_eq_none.mpr new
  have notKept : archived.lookup id = none := AList.lookup_eq_none.mpr neverArchived
  refine ⟨fun other stored => ?_, fun value other => ?_⟩
  · rcases (AList.mem_insert _).mp stored with rfl | stored
    · exact neverArchived
    · exact exact.apart other stored
  · rw [Table.lookup_insert_eq]
    by_cases same : value = key row
    · -- Nobody else has the key of the new row.
      rw [if_pos same, Option.some.injEq, same]
      constructor
      · rintro rfl
        exact .of_live (AList.lookup_insert _)
      · rintro ⟨other', stored, sameKey⟩
        by_contra differs
        rw [AList.lookup_insert_ne (Ne.symm differs)] at stored
        exact free (exact.mem_index.mpr ⟨other, other', stored, sameKey⟩)
    · rw [if_neg same, exact.indexed]
      by_cases own : other = id
      · rw [own]
        simp [Holds, missing, notKept, Ne.symm same]
      · simp [Holds, AList.lookup_insert_ne own]

/-- A live row changes, and gives up its key for one that no other row has. -/
theorem replace (exact : Exact key live archived index) {id : ι} {previous row : ρ}
    (stored : live.lookup id = some previous)
    (free : ∀ other, Holds key live archived other (key row) → other = id)
    : Exact key (live.insert id row) archived
        ((index.erase (key previous)).insert (key row) id) := by
  have notKept : archived.lookup id = none :=
    AList.lookup_eq_none.mpr (exact.apart id (Table.mem_of_lookup stored))
  refine ⟨fun other mem => ?_, fun value other => ?_⟩
  · rcases (AList.mem_insert _).mp mem with rfl | mem
    · exact exact.apart _ (Table.mem_of_lookup stored)
    · exact exact.apart other mem
  · rw [Table.lookup_insert_eq]
    by_cases next : value = key row
    · rw [if_pos next, Option.some.injEq, next]
      constructor
      · rintro rfl
        exact .of_live (AList.lookup_insert _)
      · rintro ⟨other', holds, sameKey⟩
        by_contra differs
        rw [AList.lookup_insert_ne (Ne.symm differs)] at holds
        exact differs (free other ⟨other', holds, sameKey⟩).symm
    · rw [if_neg next]
      by_cases own : other = id
      · -- The row has neither its old key nor any other but the new one.
        rw [own]
        have notNext : ¬ Holds key (live.insert id row) archived id value := by
          simp [Holds, notKept, Ne.symm next]
        refine iff_of_false (fun found => ?_) notNext
        by_cases old : value = key previous
        · rw [old, AList.lookup_erase] at found
          cases found
        · rw [AList.lookup_erase_ne old, exact.indexed] at found
          obtain ⟨row', holds, sameKey⟩ := found
          rw [stored, notKept] at holds
          simp only [Option.some.injEq, reduceCtorEq, or_false] at holds
          exact old (sameKey ▸ holds ▸ rfl)
      · have unchanged : Holds key (live.insert id row) archived other value
            ↔ Holds key live archived other value := by
          simp [Holds, AList.lookup_insert_ne own]
        rw [unchanged, ← exact.indexed]
        by_cases old : value = key previous
        · -- The old key was the row's own.
          rw [old, AList.lookup_erase, (exact.indexed _ id).mpr (.of_live stored)]
          simp [Ne.symm own]
        · rw [AList.lookup_erase_ne old]

/-- A live row changes and keeps its key. -/
theorem amend (exact : Exact key live archived index) {id : ι} {previous row : ρ}
    (stored : live.lookup id = some previous) (sameKey : key row = key previous)
    : Exact key (live.insert id row) archived index := by
  refine ⟨fun other mem => ?_, fun value other => ?_⟩
  · rcases (AList.mem_insert _).mp mem with rfl | mem
    · exact exact.apart _ (Table.mem_of_lookup stored)
    · exact exact.apart other mem
  · rw [exact.indexed]
    by_cases own : other = id
    · rw [own]
      simp [Holds, stored, sameKey]
    · simp [Holds, AList.lookup_insert_ne own]

/-- An archived row keeps its key. -/
theorem archive (exact : Exact key live archived index) {id : ι} {row : ρ}
    (stored : live.lookup id = some row)
    : Exact key (live.erase id) (archived.insert id row) index := by
  have notKept : archived.lookup id = none :=
    AList.lookup_eq_none.mpr (exact.apart id (Table.mem_of_lookup stored))
  refine ⟨fun other mem => ?_, fun value other => ?_⟩
  · obtain ⟨differs, mem⟩ := AList.mem_erase.mp mem
    rw [AList.mem_insert, not_or]
    exact ⟨differs, exact.apart other mem⟩
  · rw [exact.indexed]
    by_cases own : other = id
    · rw [own]
      simp [Holds, stored, notKept]
    · simp [Holds, AList.lookup_insert_ne own, AList.lookup_erase_ne own]

end Exact

end UniqueIndex

end OpenCord.Library

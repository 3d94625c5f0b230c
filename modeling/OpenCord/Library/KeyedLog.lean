import Mathlib.Data.List.Induction
import Mathlib.Data.List.Sort

/-! Logs ordered by a numeric key, with at most one item for a key. An item that arrives
under a recorded key takes the place of the recorded one; any other item is sorted in.
-/

namespace OpenCord.Library.KeyedLog

variable {α : Type} (key : α → Int)

/-- The items stand in strictly increasing key order. -/
def Sorted (items : List α) : Prop :=
  items.Pairwise fun left right => key left < key right

/-- The log with its first item of the same key replaced. -/
def replaceFirst (item : α) : List α → List α
  | [] => []
  | head :: tail => if key head = key item then item :: tail else head :: replaceFirst item tail

/-- The log after an item arrives. -/
def upsert (items : List α) (item : α) : List α :=
  if items.any fun existing => key existing == key item then
    replaceFirst key item items
  else
    (items ++ [item]).insertionSort fun left right => key left ≤ key right

/-- The items after a key, at most `limit` of them. -/
def pageAfter (items : List α) (start : Int) (limit : Nat) : List α :=
  (items.filter fun item => decide (start < key item)).take limit

variable {key}

/-- Replacing an item of a recorded key changes no key, by induction over the log. -/
theorem map_key_replaceFirst (item : α) (items : List α)
    : (replaceFirst key item items).map key = items.map key := by
  induction items with
  | nil => rfl
  | cons head tail ih =>
      rw [replaceFirst]
      split
      · next same => rw [List.map_cons, List.map_cons, same]
      · rw [List.map_cons, List.map_cons, ih]

/-- Order is a property of the keys alone. -/
theorem sorted_iff_map_key {items : List α}
    : Sorted key items ↔ (items.map key).Pairwise (· < ·) := by
  rw [Sorted, List.pairwise_map]

/-- Items of a sorted log that share a key are the same. -/
theorem Sorted.eq_of_key_eq {items : List α} (sorted : Sorted key items) {left right : α}
    (leftMem : left ∈ items) (rightMem : right ∈ items) (same : key left = key right)
    : left = right := by
  induction items with
  | nil => cases leftMem
  | cons head tail ih =>
      obtain ⟨below, tailSorted⟩ := List.pairwise_cons.mp sorted
      rcases List.mem_cons.mp leftMem with leftHead | leftTail <;>
        rcases List.mem_cons.mp rightMem with rightHead | rightTail
      · rw [leftHead, rightHead]
      · have later := below right rightTail
        rw [leftHead] at same
        omega
      · have later := below left leftTail
        rw [rightHead] at same
        omega
      · exact ih tailSorted leftTail rightTail

theorem Sorted.nodup {items : List α} (sorted : Sorted key items) : items.Nodup := by
  refine List.Pairwise.imp ?_ sorted
  intro left right less same
  rw [same] at less
  exact lt_irrefl _ less

/-- The last item of a sorted log has the largest key, by induction over the log. -/
theorem Sorted.key_le_getLast? {items : List α} (sorted : Sorted key items) {item : α}
    (mem : item ∈ items)
    : ∃ last, items.getLast? = some last ∧ key item ≤ key last := by
  induction items generalizing item with
  | nil => cases mem
  | cons head tail ih =>
      obtain ⟨below, tailSorted⟩ := List.pairwise_cons.mp sorted
      cases tail with
      | nil =>
          rw [List.mem_singleton] at mem
          exact ⟨head, rfl, by rw [mem]⟩
      | cons second rest =>
          rw [List.getLast?_cons_cons]
          rcases List.mem_cons.mp mem with isHead | inTail
          · obtain ⟨last, ends, bound⟩ := ih tailSorted List.mem_cons_self
            have first := below second List.mem_cons_self
            refine ⟨last, ends, ?_⟩
            rw [isHead]
            omega
          · exact ih tailSorted inTail

/-- In a sorted log a replacement keeps exactly the items of other keys. -/
theorem Sorted.mem_replaceFirst {items : List α} (sorted : Sorted key items) {item other : α}
    (recorded : ∃ existing ∈ items, key existing = key item)
    : other ∈ replaceFirst key item items
      ↔ other = item ∨ other ∈ items ∧ key other ≠ key item := by
  induction items with
  | nil =>
      obtain ⟨existing, mem, _⟩ := recorded
      cases mem
  | cons head tail ih =>
      obtain ⟨below, tailSorted⟩ := List.pairwise_cons.mp sorted
      rw [replaceFirst]
      split
      · next same =>
          have tailDiffers : ∀ other ∈ tail, key other ≠ key item := by
            intro other mem
            have later := below other mem
            omega
          rw [List.mem_cons, List.mem_cons]
          refine ⟨?_, ?_⟩
          · intro mem
            rcases mem with new | old
            · exact .inl new
            · exact .inr ⟨.inr old, tailDiffers other old⟩
          · intro mem
            rcases mem with new | ⟨isHead | old, differs⟩
            · exact .inl new
            · rw [isHead] at differs
              exact absurd same differs
            · exact .inr old
      · next differs =>
          have recordedTail : ∃ existing ∈ tail, key existing = key item := by
            obtain ⟨existing, mem, same⟩ := recorded
            rcases List.mem_cons.mp mem with isHead | inTail
            · rw [isHead] at same
              exact absurd same differs
            · exact ⟨existing, inTail, same⟩
          rw [List.mem_cons, List.mem_cons, ih tailSorted recordedTail]
          refine ⟨?_, ?_⟩
          · intro mem
            rcases mem with isHead | new | ⟨old, otherDiffers⟩
            · rw [isHead]
              exact .inr ⟨.inl rfl, differs⟩
            · exact .inl new
            · exact .inr ⟨.inr old, otherDiffers⟩
          · intro mem
            rcases mem with new | ⟨isHead | old, otherDiffers⟩
            · exact .inr (.inl new)
            · exact .inl isHead
            · exact .inr (.inr ⟨old, otherDiffers⟩)

/-- The test of `upsert` asks for a recorded item of the same key. -/
theorem any_key_eq_iff {items : List α} {item : α}
    : items.any (fun existing => key existing == key item) = true
      ↔ ∃ existing ∈ items, key existing = key item := by
  simp only [List.any_eq_true, beq_iff_eq]

/-- Items of different keys make a log once they are sorted. -/
theorem sorted_insertionSort {items : List α} (distinct : (items.map key).Nodup)
    : Sorted key (items.insertionSort fun left right => key left ≤ key right) := by
  have ordered := items.pairwise_insertionSort fun left right => key left ≤ key right
  have sortedDistinct
      : ((items.insertionSort fun left right => key left ≤ key right).map key).Nodup :=
    ((List.perm_insertionSort _ _).map key).nodup_iff.mpr distinct
  rw [List.Nodup, List.pairwise_map] at sortedDistinct
  exact (ordered.and sortedDistinct).imp fun both => lt_of_le_of_ne both.1 both.2

/-- Arrivals keep a log sorted. -/
theorem Sorted.upsert {items : List α} (sorted : Sorted key items) (item : α)
    : Sorted key (upsert key items item) := by
  rw [KeyedLog.upsert]
  split
  · rw [sorted_iff_map_key, map_key_replaceFirst, ← sorted_iff_map_key]
    exact sorted
  · next fresh =>
      rw [any_key_eq_iff] at fresh
      apply sorted_insertionSort
      rw [List.map_append, List.nodup_append]
      refine ⟨(sorted_iff_map_key.mp sorted).imp fun less => ne_of_lt less, by simp, ?_⟩
      intro left leftMem right rightMem same
      obtain ⟨existing, mem, keyEq⟩ := List.mem_map.mp leftMem
      rw [List.map_singleton, List.mem_singleton] at rightMem
      exact fresh ⟨existing, mem, by rw [keyEq, same, rightMem]⟩

/-- An arrival is recorded, and every item of another key stays. -/
theorem Sorted.mem_upsert {items : List α} (sorted : Sorted key items) {item other : α}
    : other ∈ KeyedLog.upsert key items item
      ↔ other = item ∨ other ∈ items ∧ key other ≠ key item := by
  rw [KeyedLog.upsert]
  split
  · next recorded => exact sorted.mem_replaceFirst (any_key_eq_iff.mp recorded)
  · next fresh =>
      rw [any_key_eq_iff] at fresh
      rw [(List.perm_insertionSort _ _).mem_iff, List.mem_append, List.mem_singleton]
      refine ⟨?_, ?_⟩
      · intro mem
        rcases mem with old | new
        · exact .inr ⟨old, fun same => fresh ⟨other, old, same⟩⟩
        · exact .inl new
      · intro mem
        rcases mem with new | ⟨old, _⟩
        · exact .inr new
        · exact .inl old

/-- An item of a page is a recorded item after its start. -/
theorem mem_of_mem_pageAfter {items : List α} {start : Int} {limit : Nat} {item : α}
    (mem : item ∈ pageAfter key items start limit)
    : item ∈ items ∧ start < key item := by
  simpa using List.mem_of_mem_take mem

/-- A page of a sorted log is sorted. -/
theorem Sorted.pageAfter {items : List α} (sorted : Sorted key items) (start : Int)
    (limit : Nat)
    : Sorted key (pageAfter key items start limit) :=
  List.Pairwise.sublist ((List.take_sublist _ _).trans List.filter_sublist) sorted

/-- A list without duplicates is covered by its first items exactly when it is no longer
than they are.
-/
theorem forall_mem_take_iff {items : List α} (distinct : items.Nodup) (limit : Nat)
    : (∀ item ∈ items, item ∈ items.take limit) ↔ items.length ≤ limit := by
  refine ⟨?_, ?_⟩
  · intro covered
    by_contra longer
    rw [not_le] at longer
    -- The first item behind the limit would stand twice in the list.
    have behind := covered items[limit] (List.getElem_mem longer)
    obtain ⟨index, bound, same⟩ := List.mem_take_iff_getElem.mp behind
    have indexEq : index = limit := (List.Nodup.getElem_inj_iff distinct).mp same
    omega
  · intro short item mem
    rwa [List.take_of_length_le short]

/-- A page holds every item after its start exactly when these are at most `limit`. -/
theorem Sorted.pageAfter_complete_iff {items : List α} (sorted : Sorted key items)
    (start : Int) (limit : Nat)
    : (∀ item, item ∈ KeyedLog.pageAfter key items start limit
          ↔ item ∈ items ∧ start < key item)
      ↔ (items.filter fun item => decide (start < key item)).length ≤ limit := by
  rw [← forall_mem_take_iff (sorted.nodup.filter _) limit]
  refine ⟨?_, ?_⟩
  · intro complete item mem
    exact (complete item).mpr (by simpa using mem)
  · intro covered item
    refine ⟨mem_of_mem_pageAfter, ?_⟩
    intro later
    exact covered item (by simpa using later)

/-- A log is determined by its items, as they are sorted. -/
theorem Sorted.ext {items others : List α} (sorted : Sorted key items)
    (othersSorted : Sorted key others) (same : ∀ item, item ∈ items ↔ item ∈ others)
    : items = others := by
  have irreflexive : Std.Irrefl fun left right : α => key left < key right :=
    ⟨fun _ => lt_irrefl _⟩
  have antisymmetric : Std.Antisymm fun left right : α => key left < key right :=
    ⟨fun _ _ less greater => absurd less (lt_asymm greater)⟩
  exact sorted.eq_of_mem_iff othersSorted same

-----------------------------------------------------------------------------------------
-- Histories of arrivals
-----------------------------------------------------------------------------------------

/-- An item has arrived, and no item of its key has arrived after it. -/
def LastArrival {κ : Type} (key : α → κ) (history : List α) (item : α) : Prop :=
  ∃ before later, history = before ++ item :: later ∧ ∀ other ∈ later, key other ≠ key item

section

variable {κ : Type} {key : α → κ} {history : List α} {item last : α}

theorem not_lastArrival_nil : ¬ LastArrival key [] item := by
  rintro ⟨before, later, split, -⟩
  simp at split

/-- A further arrival is the last one of its key, and leaves those of other keys. -/
theorem lastArrival_concat
    : LastArrival key (history ++ [last]) item
      ↔ item = last ∨ LastArrival key history item ∧ key item ≠ key last := by
  constructor
  · rintro ⟨before, later, split, none⟩
    induction later using List.reverseRecOn with
    | nil =>
        obtain ⟨-, same⟩ := List.append_inj' split rfl
        exact .inl (List.singleton_inj.mp same).symm
    | append_singleton later final _ =>
        rw [← List.cons_append, ← List.append_assoc] at split
        obtain ⟨rfl, same⟩ := List.append_inj' split rfl
        obtain rfl := List.singleton_inj.mp same
        refine .inr ⟨⟨before, later, rfl, fun other mem => ?_⟩, ?_⟩
        · exact none other (List.mem_append_left _ mem)
        · exact (none last (by simp)).symm
  · rintro (rfl | ⟨⟨before, later, rfl, none⟩, differs⟩)
    · exact ⟨history, [], rfl, by simp⟩
    · refine ⟨before, later ++ [last], by simp, fun other mem => ?_⟩
      rcases List.mem_append.mp mem with mem | mem
      · exact none other mem
      · rw [List.mem_singleton.mp mem]
        exact differs.symm

theorem LastArrival.mem (arrival : LastArrival key history item) : item ∈ history := by
  obtain ⟨before, later, rfl, -⟩ := arrival
  simp

/-- Only one item of a key is the last one, by induction over the history from its end. -/
theorem LastArrival.unique {other : α} (arrival : LastArrival key history item)
    (otherArrival : LastArrival key history other) (same : key item = key other)
    : item = other := by
  induction history using List.reverseRecOn with
  | nil => exact absurd arrival not_lastArrival_nil
  | append_singleton history last ih =>
      rcases lastArrival_concat.mp arrival with rfl | ⟨older, differs⟩
      · rcases lastArrival_concat.mp otherArrival with rfl | ⟨-, otherDiffers⟩
        · rfl
        · exact absurd same.symm otherDiffers
      · rcases lastArrival_concat.mp otherArrival with rfl | ⟨otherOlder, -⟩
        · exact absurd same differs
        · exact ih older otherOlder

/-- Each key of a history has a last item, by induction over the history from its end. -/
theorem exists_lastArrival (mem : item ∈ history)
    : ∃ last, LastArrival key history last ∧ key last = key item := by
  induction history using List.reverseRecOn with
  | nil => cases mem
  | append_singleton history last ih =>
      by_cases same : key item = key last
      · exact ⟨last, lastArrival_concat.mpr (.inl rfl), same.symm⟩
      · rcases List.mem_append.mp mem with mem | mem
        · obtain ⟨found, arrival, sameKey⟩ := ih mem
          refine ⟨found, lastArrival_concat.mpr (.inr ⟨arrival, ?_⟩), sameKey⟩
          rwa [sameKey]
        · rw [List.mem_singleton.mp mem] at same
          exact absurd rfl same

/-- Where some items do not arrive, an item that does is still the last one. -/
theorem LastArrival.filter {arrives : α → Bool} (arrival : LastArrival key history item)
    (own : arrives item = true)
    : LastArrival key (history.filter arrives) item := by
  obtain ⟨before, later, rfl, none⟩ := arrival
  refine ⟨before.filter arrives, later.filter arrives, ?_, fun other mem => ?_⟩
  · rw [List.filter_append, List.filter_cons_of_pos own]
  · exact none other (List.mem_filter.mp mem).1

/-- Keys that tell the same items apart have the same last items. -/
theorem lastArrival_congr {κ' : Type} {key' : α → κ'}
    (same : ∀ first second, key first = key second ↔ key' first = key' second)
    : LastArrival key history item ↔ LastArrival key' history item := by
  simp only [LastArrival, ne_eq, same]

/-- A container in which an arriving entry takes the place of the entry of its key holds the
last entry of each key, by induction over the history from its end.
-/
theorem mem_iff_lastArrival {β : Type} {contents : List α → List β} {arrives : α → Bool}
    {entry : α → β} {keyOf : β → κ} (empty : contents [] = [])
    (arrived : ∀ history last, arrives last = true → ∀ found,
      found ∈ contents (history ++ [last])
        ↔ found = entry last ∨ found ∈ contents history ∧ keyOf found ≠ keyOf (entry last))
    (stayed : ∀ history last, arrives last = false →
      contents (history ++ [last]) = contents history)
    {found : β}
    : found ∈ contents history
      ↔ ∃ item, LastArrival (fun item => keyOf (entry item)) (history.filter arrives) item
          ∧ found = entry item := by
  induction history using List.reverseRecOn with
  | nil =>
      rw [empty]
      refine iff_of_false List.not_mem_nil ?_
      rintro ⟨item, arrival, -⟩
      exact not_lastArrival_nil arrival
  | append_singleton history last ih =>
      rw [List.filter_append]
      cases own : arrives last with
      | false =>
          rw [stayed history last own, List.filter_singleton, own, cond_false, List.append_nil]
          exact ih
      | true =>
          rw [arrived history last own, ih, List.filter_singleton, own, cond_true]
          simp only [lastArrival_concat]
          constructor
          · rintro (rfl | ⟨⟨item, arrival, rfl⟩, differs⟩)
            · exact ⟨last, .inl rfl, rfl⟩
            · exact ⟨item, .inr ⟨arrival, differs⟩, rfl⟩
          · rintro ⟨item, rfl | ⟨arrival, differs⟩, rfl⟩
            · exact .inl rfl
            · exact .inr ⟨⟨item, arrival, rfl⟩, differs⟩

end

end OpenCord.Library.KeyedLog

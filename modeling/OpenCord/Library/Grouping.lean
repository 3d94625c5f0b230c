import Mathlib.Data.List.Sort
import OpenCord.Library.Tables

/-! Tables built from lists in one pass. Looking up a key afterwards finds what a search of the
list for that key would find.
-/

namespace OpenCord.Library.Table

variable {κ ν α : Type} [DecidableEq κ]

/-- Items that are added under their keys lie there in the order of the list, by induction over
the list; items without a key are left out.
-/
theorem getD_lookup_foldl (key : ν → Option κ)
    {add : Table κ (List ν) → ν → Table κ (List ν)}
    (adds : ∀ grouped item, add grouped item = match key item with
      | some group => grouped.insert group ((grouped.lookup group).getD [] ++ [item])
      | none => grouped)
    (items : List ν) (grouped : Table κ (List ν)) (group : κ)
    : ((items.foldl add grouped).lookup group).getD []
        = (grouped.lookup group).getD [] ++ items.filter fun item => key item = some group := by
  induction items generalizing grouped with
  | nil => rw [List.foldl_nil, List.filter_nil, List.append_nil]
  | cons item items ih =>
      rw [List.foldl_cons, ih, adds]
      cases found : key item with
      | none => simp [found]
      | some other =>
          by_cases same : other = group
          · subst same
            simp [found]
          · simp [found, same, AList.lookup_insert_ne (Ne.symm same)]

/-- A value that is computed from an item lies under the key of the item, if all items of that key
give the same value; by induction over the list.
-/
theorem lookup_foldl_insert {key : α → κ} {value : α → ν} {stored : κ} (computed : ν)
    (items : List α) (table : Table κ ν)
    (same : ∀ item ∈ items, key item = stored → value item = computed)
    (there : table.lookup stored = some computed ∨ ∃ item ∈ items, key item = stored)
    : (items.foldl (fun table item => table.insert (key item) (value item)) table).lookup stored
        = some computed := by
  induction items generalizing table with
  | nil => exact there.resolve_right (by simp)
  | cons item items ih =>
      obtain ⟨first, rest⟩ := List.forall_mem_cons.mp same
      refine ih _ rest ?_
      rw [lookup_insert_eq]
      by_cases own : stored = key item
      · exact .inl (by rw [if_pos own, first own.symm])
      · rw [if_neg own]
        refine there.imp_right fun later => ?_
        obtain ⟨other, listed, known⟩ := later
        rcases List.mem_cons.mp listed with rfl | listed
        · exact absurd known.symm own
        · exact ⟨other, listed, known⟩

/-- Records that are looked up one by one lie under their keys, by induction over the keys. -/
theorem lookup_foldl_found (get : κ → Option ν) (key : ν → κ)
    {add : Table κ ν → κ → Table κ ν}
    (adds : ∀ found asked, add found asked = match get asked with
      | some record => found.insert (key record) record
      | none => found)
    (keyed : ∀ asked record, get asked = some record → key record = asked)
    (asked : List κ) (found : Table κ ν) (stored : κ)
    (fresh : found.lookup stored = none ∨ found.lookup stored = get stored)
    : (asked.foldl add found).lookup stored
        = if stored ∈ asked then get stored else found.lookup stored := by
  induction asked generalizing found with
  | nil => simp
  | cons first rest ih =>
      rw [List.foldl_cons, adds]
      by_cases own : stored = first
      · subst own
        cases present : get stored with
        | none =>
            rw [ih found fresh, present]
            rcases fresh with missing | same
            · simp [missing]
            · simp [same, present]
        | some record =>
            have own := keyed stored record present
            have inserted : AList.lookup stored (AList.insert (key record) record found)
                = some record := by rw [own, AList.lookup_insert]
            rw [ih _ (.inr (inserted.trans present.symm)), inserted, present]
            simp
      · have kept : AList.lookup stored (match get first with
            | some record => AList.insert (key record) record found
            | none => found) = found.lookup stored := by
          cases present : get first with
          | none => rfl
          | some record =>
              have other := keyed first record present
              exact AList.lookup_insert_ne (other.symm ▸ own)
        rw [ih _ (by rwa [kept]), kept]
        simp [own]

/-- Sorting keeps the items that a filter keeps, in the order of the sorted list, where the order
tells the items apart.
-/
theorem filter_insertionSort {le : α → α → Prop} [DecidableRel le] [Std.Total le] [IsTrans α le]
    {items : List α} (antisymm : ∀ first ∈ items, ∀ second ∈ items,
      le first second → le second first → first = second)
    (keep : α → Bool)
    : (items.insertionSort le).filter keep = (items.filter keep).insertionSort le := by
  have sorted := items.pairwise_insertionSort le
  have filtered := (items.filter keep).pairwise_insertionSort le
  have perm := ((items.perm_insertionSort le).filter keep).trans
    ((items.filter keep).perm_insertionSort le).symm
  refine List.Perm.eq_of_pairwise (fun first second kept listed => ?_) (sorted.filter keep)
    filtered perm
  have inItems : first ∈ items := by simpa using (List.mem_filter.mp kept).1
  have alsoInItems : second ∈ items := by
    simpa using (List.mem_filter.mp ((List.mem_insertionSort le).mp listed)).1
  exact antisymm first inItems second alsoInItems

end OpenCord.Library.Table

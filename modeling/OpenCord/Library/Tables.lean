import Mathlib.Data.List.AList

/-! Finite maps from keys to values, on top of the association lists of Mathlib. -/

namespace OpenCord.Library

/-- A finite map with at most one value for a key. -/
abbrev Table (κ ν : Type) := AList fun _ : κ => ν

namespace Table

variable {κ ν : Type} [DecidableEq κ]

/-- The values in the order the table stores them. -/
def values (table : Table κ ν) : List ν :=
  table.entries.map Sigma.snd

/-- The table with every value changed in the same way. -/
def mapValues (update : ν → ν) (table : Table κ ν) : Table κ ν :=
  ⟨table.entries.map (.map id fun _ => update), table.nodupKeys.map₂ _ _⟩

@[simp] theorem lookup_mapValues (update : ν → ν) (table : Table κ ν) (key : κ)
    : (mapValues update table).lookup key = (table.lookup key).map update :=
  List.dlookup_map₂ key

/-- A key that answers is a key of the table. -/
theorem mem_of_lookup {table : Table κ ν} {key : κ} {value : ν}
    (found : table.lookup key = some value)
    : key ∈ table :=
  AList.lookup_isSome.mp (by rw [found]; rfl)

/-- An insertion answers for its own key and leaves the others. -/
theorem lookup_insert_eq (table : Table κ ν) (key other : κ) (value : ν)
    : (table.insert key value).lookup other
        = if other = key then some value else table.lookup other := by
  split
  · next same => rw [same, AList.lookup_insert]
  · next differs => rw [AList.lookup_insert_ne differs]

theorem forall_empty {property : κ → ν → Prop}
    : ∀ key stored, (∅ : Table κ ν).lookup key = some stored → property key stored := by
  intro key stored found
  rw [AList.lookup_empty] at found
  cases found

/-- A property of all entries survives an insertion that has it. -/
theorem forall_insert {property : κ → ν → Prop} {table : Table κ ν} {key : κ} {value : ν}
    (inserted : property key value)
    (kept : ∀ other stored, table.lookup other = some stored → property other stored)
    : ∀ other stored, (table.insert key value).lookup other = some stored →
        property other stored := by
  intro other stored found
  rw [lookup_insert_eq] at found
  split at found
  · next same =>
      cases found
      rw [same]
      exact inserted
  · exact kept other stored found

/-- An erased key answers nothing and the others answer as before. -/
theorem lookup_erase_eq (table : Table κ ν) (key other : κ)
    : (table.erase key).lookup other = if other = key then none else table.lookup other := by
  by_cases same : other = key
  · rw [if_pos same, same, AList.lookup_erase]
  · rw [if_neg same, AList.lookup_erase_ne same]

/-- What a table answers after an erasure it answered before. -/
theorem lookup_of_erase {table : Table κ ν} {key other : κ} {value : ν}
    (found : (table.erase key).lookup other = some value)
    : table.lookup other = some value := by
  by_cases same : other = key
  · rw [same, AList.lookup_erase] at found
    cases found
  · rwa [AList.lookup_erase_ne same] at found

/-- The table without some of its keys. -/
def eraseAll (keys : List κ) (table : Table κ ν) : Table κ ν :=
  keys.foldl (fun table key => table.erase key) table

/-- Erased keys answer nothing and the others answer as before, by induction over the keys. -/
theorem lookup_eraseAll (keys : List κ) (table : Table κ ν) (key : κ)
    : (table.eraseAll keys).lookup key = if key ∈ keys then none else table.lookup key := by
  induction keys generalizing table with
  | nil => simp [eraseAll]
  | cons first rest ih =>
      have unfolded : table.eraseAll (first :: rest) = eraseAll rest (table.erase first) := rfl
      rw [unfolded, ih]
      by_cases same : key = first
      · subst same
        simp
      · simp [same, AList.lookup_erase_ne same]

/-- What a table answers after erasures it answered before. -/
theorem lookup_of_eraseAll {keys : List κ} {table : Table κ ν} {key : κ} {value : ν}
    (found : (table.eraseAll keys).lookup key = some value)
    : table.lookup key = some value := by
  rw [lookup_eraseAll] at found
  split at found
  · cases found
  · exact found

/-- The values are what the keys answer. -/
theorem mem_values {table : Table κ ν} {value : ν}
    : value ∈ table.values ↔ ∃ key, table.lookup key = some value := by
  simp only [values, List.mem_map, Sigma.exists]
  constructor
  · rintro ⟨key, _, mem, rfl⟩
    exact ⟨key, AList.mem_lookup_iff.mpr mem⟩
  · rintro ⟨key, found⟩
    exact ⟨key, value, AList.mem_lookup_iff.mp found, rfl⟩

/-- Values lie under the keys that they say. -/
def Keyed (key : ν → κ) (table : Table κ ν) : Prop :=
  ∀ stored value, table.lookup stored = some value → key value = stored

theorem Keyed.insert {key : ν → κ} {table : Table κ ν} (keyed : Keyed key table) (value : ν)
    : Keyed key (AList.insert (key value) value table) := by
  intro stored other found
  rw [lookup_insert_eq] at found
  split at found
  · next same =>
      cases found
      exact same.symm
  · exact keyed stored other found

/-- The keys of the values with a property, as the values say them. -/
def keysWhere (key : ν → κ) (property : ν → Prop) [DecidablePred property]
    (table : Table κ ν) : List κ :=
  (table.values.filter fun value => property value).map key

theorem mem_keysWhere {key : ν → κ} {property : ν → Prop} [DecidablePred property]
    {table : Table κ ν} (keyed : Keyed key table) {stored : κ}
    : stored ∈ table.keysWhere key property
      ↔ ∃ value ∈ table.lookup stored, property value := by
  simp only [keysWhere, List.mem_map, List.mem_filter, mem_values, decide_eq_true_eq]
  constructor
  · intro listed
    obtain ⟨value, ⟨⟨other, found⟩, holds⟩, rfl⟩ := listed
    rw [keyed other value found]
    exact ⟨value, found, holds⟩
  · intro listed
    obtain ⟨value, found, holds⟩ := listed
    exact ⟨value, ⟨⟨stored, found⟩, holds⟩, keyed _ _ found⟩

/-- Erasing the keys of the values with a property leaves exactly the other values. -/
theorem lookup_eraseAll_keysWhere {key : ν → κ} {property : ν → Prop} [DecidablePred property]
    {table : Table κ ν} (keyed : Keyed key table) (stored : κ)
    : (table.eraseAll (table.keysWhere key property)).lookup stored
        = (table.lookup stored).filter fun value => ¬ property value := by
  rw [lookup_eraseAll]
  split
  · next listed =>
      obtain ⟨value, found, holds⟩ := (mem_keysWhere keyed).mp listed
      rw [show table.lookup stored = some value from found]
      simp [Option.filter, holds]
  · next unlisted =>
      cases found : table.lookup stored with
      | none => rfl
      | some value =>
          have fails : ¬ property value :=
            fun holds => unlisted ((mem_keysWhere keyed).mpr ⟨value, found, holds⟩)
          simp [Option.filter, fails]

/-- Values that say their keys say different ones. -/
theorem nodup_map_values {key : ν → κ} {table : Table κ ν} (keyed : Keyed key table)
    : (table.values.map key).Nodup := by
  have said : table.values.map key = table.keys := by
    rw [values, List.map_map, AList.keys, List.keys]
    refine List.map_congr_left fun entry listed => ?_
    exact keyed entry.1 entry.2 (AList.mem_lookup_iff.mpr listed)
  rw [said]
  exact table.keys_nodup

theorem nodup_keysWhere {key : ν → κ} {property : ν → Prop} [DecidablePred property]
    {table : Table κ ν} (keyed : Keyed key table)
    : (table.keysWhere key property).Nodup :=
  (nodup_map_values keyed).sublist (List.filter_sublist.map key)

/-- Two tables hold as many values with a property as each other if they do so key by key. -/
theorem length_keysWhere_congr {key : ν → κ} {property other : ν → Prop}
    [DecidablePred property] [DecidablePred other] {table changed : Table κ ν}
    (keyed : Keyed key table) (changedKeyed : Keyed key changed)
    (same : ∀ stored, (∃ value ∈ table.lookup stored, property value)
      ↔ ∃ value ∈ changed.lookup stored, other value)
    : (table.keysWhere key property).length = (changed.keysWhere key other).length := by
  refine List.Perm.length_eq ((List.perm_ext_iff_of_nodup (nodup_keysWhere keyed)
    (nodup_keysWhere changedKeyed)).mpr fun stored => ?_)
  rw [mem_keysWhere keyed, mem_keysWhere changedKeyed, same]

/-- Values with a property are either among the ones that an erasure selects, or left by it. -/
theorem length_keysWhere_eraseAll {key : ν → κ} {property selected : ν → Prop}
    [DecidablePred property] [DecidablePred selected] {table : Table κ ν}
    (keyed : Keyed key table) (within : ∀ value, selected value → property value)
    : (keysWhere key property (table.eraseAll (table.keysWhere key selected))).length
          + (table.keysWhere key selected).length
        = (table.keysWhere key property).length := by
  have erasedKeyed : Keyed key (table.eraseAll (table.keysWhere key selected)) := by
    intro stored value found
    rw [lookup_eraseAll_keysWhere keyed, Option.filter_eq_some_iff] at found
    exact keyed stored value found.1
  have left : (keysWhere key property (table.eraseAll (table.keysWhere key selected))).length
      = (table.keysWhere key fun value => property value ∧ ¬ selected value).length := by
    refine length_keysWhere_congr erasedKeyed keyed fun stored => ?_
    simp only [lookup_eraseAll_keysWhere keyed, Option.mem_def, Option.filter_eq_some_iff,
      decide_eq_true_eq]
    exact exists_congr fun value => and_assoc.trans (and_congr_right fun _ => and_comm)
  have erased : (table.values.filter fun value => property value).filter (selected ·)
      = table.values.filter (selected ·) := by
    rw [List.filter_filter]
    refine List.filter_congr fun value _ => ?_
    simpa using within value
  have kept : (table.values.filter fun value => property value).filter
      (fun value => !decide (selected value))
      = table.values.filter fun value => property value ∧ ¬ selected value := by
    rw [List.filter_filter]
    exact List.filter_congr fun value _ => by simp [Bool.and_comm]
  rw [left, keysWhere, keysWhere, keysWhere, List.length_map, List.length_map, List.length_map,
    @List.length_eq_length_filter_add _ (table.values.filter fun value => property value)
      (selected ·), erased, kept, Nat.add_comm]

/-- A property that no value has selects no keys. -/
theorem keysWhere_eq_nil_iff {key : ν → κ} {property : ν → Prop} [DecidablePred property]
    {table : Table κ ν}
    : table.keysWhere key property = []
      ↔ ∀ stored, ∀ value ∈ table.lookup stored, ¬ property value := by
  rw [keysWhere, List.map_eq_nil_iff, List.filter_eq_nil_iff]
  simp only [mem_values, decide_eq_true_eq]
  constructor
  · intro none stored value found
    exact none value ⟨stored, found⟩
  · rintro none value ⟨stored, found⟩
    exact none stored value found

omit [DecidableEq κ] in
theorem values_mapValues (update : ν → ν) (table : Table κ ν)
    : values (mapValues update table) = table.values.map update := by
  rw [values, values, mapValues, List.map_map, List.map_map]
  rfl

/-- A new key adds its value. -/
theorem values_insert_of_notMem {table : Table κ ν} {key : κ} (new : key ∉ table) (value : ν)
    : values (table.insert key value) = value :: table.values := by
  rw [values, AList.entries_insert_of_notMem new]
  rfl

/-- An insertion under a key that answers replaces its answer, and nothing else. -/
theorem values_insert_of_lookup {table : Table κ ν} {key : κ} {old : ν}
    (found : table.lookup key = some old)
    : ∃ rest, table.values.Perm (old :: rest)
        ∧ ∀ value, values (table.insert key value) = value :: rest := by
  obtain ⟨stored, front, back, _, entries, erased⟩ :=
    List.exists_of_kerase (mem_of_lookup found)
  have same : stored = old := by
    have listed : (⟨key, stored⟩ : Sigma fun _ : κ => ν) ∈ table.entries := by
      rw [entries]
      exact List.mem_append_right _ List.mem_cons_self
    exact Option.some.inj ((AList.mem_lookup_iff.mpr listed).symm.trans found)
  refine ⟨(front ++ back).map fun entry => entry.2, ?_, fun value => ?_⟩
  · rw [values, entries, ← same]
    exact List.perm_middle.map fun entry : Sigma fun _ : κ => ν => entry.2
  · rw [values, AList.entries_insert, erased]
    rfl

end Table

end OpenCord.Library

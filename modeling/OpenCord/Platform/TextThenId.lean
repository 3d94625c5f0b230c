import Mathlib.Data.List.Sort
import OpenCord.Platform.Uuid

/-! Records in the order of a text, as a timestamp, and of their identifiers where the texts are
the same.
-/

namespace OpenCord.Platform

variable {α : Type}

def TextThenId (text : α → String) (id : α → Uuid) (first second : α) : Prop :=
  text first < text second
    ∨ text first = text second ∧ (id first).bits ≤ (id second).bits

namespace TextThenId

variable {text : α → String} {id : α → Uuid}

instance : DecidableRel (TextThenId text id) := fun first second =>
  inferInstanceAs (Decidable (text first < text second ∨ _ ∧ _))

instance : IsTrans α (TextThenId text id) where
  trans first second third earlier later := by
    rcases earlier with less | ⟨same, ids⟩
    · rcases later with more | ⟨again, _⟩
      · exact .inl (String.lt_trans less more)
      · exact .inl (again ▸ less)
    · rcases later with more | ⟨again, more⟩
      · exact .inl (same ▸ more)
      · exact .inr ⟨same.trans again, BitVec.le_trans ids more⟩

instance : Std.Total (TextThenId text id) where
  total first second := by
    by_cases less : text first < text second
    · exact .inl (.inl less)
    by_cases greater : text second < text first
    · exact .inr (.inl greater)
    have same : text first = text second :=
      String.le_antisymm (String.not_lt.mp greater) (String.not_lt.mp less)
    rcases BitVec.le_total (id first).bits (id second).bits with ids | ids
    · exact .inl (.inr ⟨same, ids⟩)
    · exact .inr (.inr ⟨same.symm, ids⟩)

/-- Records that come before each other have the same identifier. -/
theorem id_eq {first second : α} (before : TextThenId text id first second)
    (after : TextThenId text id second first)
    : id first = id second := by
  have bits : (id first).bits = (id second).bits := by
    rcases before with less | ⟨same, ids⟩
    · rcases after with more | ⟨again, _⟩
      · exact absurd more (String.lt_asymm less)
      · exact absurd (again ▸ less) (String.lt_irrefl _)
    · rcases after with more | ⟨_, more⟩
      · exact absurd (same ▸ more) (String.lt_irrefl _)
      · exact BitVec.le_antisymm ids more
  exact congrArg Uuid.mk bits

/-- Where the texts are ordered as instants, the records are in the order of time. -/
theorem inTime {Instant : Type} [LinearOrder Instant] {first second : α} {time later : Instant}
    (forward : text first < text second ↔ time < later)
    (backward : text second < text first ↔ later < time)
    (before : TextThenId text id first second)
    : time < later ∨ time = later ∧ (id first).bits ≤ (id second).bits := by
  rcases before with less | ⟨same, ids⟩
  · exact .inl (forward.mp less)
  · rw [same] at forward backward
    have notLess := forward.not.mp (String.lt_irrefl _)
    have notGreater := backward.not.mp (String.lt_irrefl _)
    exact .inr ⟨le_antisymm (not_lt.mp notGreater) (not_lt.mp notLess), ids⟩

/-- The same records have one order, where their identifiers are distinct. -/
theorem eq_of_perm {first second : List α} (perm : first.Perm second)
    (unique : (second.map id).Nodup) (firstSorted : first.Pairwise (TextThenId text id))
    (secondSorted : second.Pairwise (TextThenId text id))
    : first = second := by
  refine perm.eq_of_pairwise (fun one other listed mem before after => ?_) firstSorted
    secondSorted
  exact List.inj_on_of_nodup_map unique (perm.mem_iff.mp listed) mem (id_eq before after)

end TextThenId

end OpenCord.Platform

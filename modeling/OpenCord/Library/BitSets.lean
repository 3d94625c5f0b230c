import Mathlib.Logic.Basic

/-! Sets as bit vectors: the test of a single member, and unions over lists. -/

namespace OpenCord.Library.BitSets

variable {α : Type} {width : Nat}

/-- A set meets the set of one position exactly when it has the position. -/
theorem and_bit_ne_zero {bits : BitVec width} {position : Nat} (inside : position < width)
    : bits &&& (BitVec.ofNat width 1 <<< position) ≠ 0 ↔ bits.getLsbD position = true := by
  rw [← BitVec.twoPow_eq, BitVec.and_twoPow]
  split
  · next has =>
      refine ⟨fun _ => has, fun _ empty => ?_⟩
      have member := congrArg (fun bits => BitVec.getLsbD bits position) empty
      simp only [BitVec.getLsbD_twoPow, inside, decide_true, Bool.and_true, BitVec.ofNat_eq_ofNat,
        BitVec.getLsbD_zero, Bool.true_eq_false] at member
  · next lacks =>
      refine ⟨fun nonempty => absurd rfl nonempty, fun has => absurd has lacks⟩

/-- A position is in a union when it is in the first set or in the set of an item, by
induction over the items.
-/
theorem getLsbD_union (sets : α → BitVec width) (items : List α) (first : BitVec width)
    (position : Nat)
    : (items.foldl (fun bits item => bits ||| sets item) first).getLsbD position
      = (first.getLsbD position || items.any fun item => (sets item).getLsbD position) := by
  induction items generalizing first with
  | nil => rw [List.foldl_nil, List.any_nil, Bool.or_false]
  | cons item items ih =>
      rw [List.foldl_cons, ih, BitVec.getLsbD_or, List.any_cons, Bool.or_assoc]

end OpenCord.Library.BitSets

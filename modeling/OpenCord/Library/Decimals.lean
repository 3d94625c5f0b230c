import Mathlib.Algebra.GroupWithZero.Nat
import Mathlib.Data.List.Basic
import Mathlib.Order.Lattice

/-! Decimal numerals of a fixed width, and texts that are laid out as such numerals with a
separator behind each. The order of the texts is the order of the numbers in them.
-/

namespace OpenCord.Library.Decimals

/-- The digit of a value below ten. -/
def digit (value : Nat) : Char := Nat.digitChar value

/-- The last `width` digits of a number, the most significant one first. -/
def digits : Nat → Nat → List Char
  | 0, _ => []
  | width + 1, value => digit (value / 10 ^ width % 10) :: digits width value

@[simp] theorem length_digits (width value : Nat) : (digits width value).length = width := by
  induction width with
  | zero => rfl
  | succ width ih => rw [digits, List.length_cons, ih]

/-- Digits are ordered as their values. -/
theorem digit_lt_digit {first second : Nat} (firstSmall : first < 10) (secondSmall : second < 10)
    : digit first < digit second ↔ first < second := by
  have all : ∀ first < 10, ∀ second < 10, digit first < digit second ↔ first < second := by
    decide
  exact all first firstSmall second secondSmall

theorem digit_inj {first second : Nat} (firstSmall : first < 10) (secondSmall : second < 10)
    : digit first = digit second ↔ first = second := by
  have all : ∀ first < 10, ∀ second < 10, digit first = digit second ↔ first = second := by
    decide
  exact all first firstSmall second secondSmall

/-- Numbers are compared by their quotients first, and by their remainders next. -/
theorem mod_lt_mod_iff (base scale first second : Nat) (positive : 0 < scale)
    : first % (scale * base) < second % (scale * base)
        ↔ first / scale % base < second / scale % base
          ∨ first / scale % base = second / scale % base
            ∧ first % scale < second % scale := by
  have split : ∀ number, number % (scale * base)
      = scale * (number / scale % base) + number % scale := by
    intro number
    rw [Nat.mod_mul]
    omega
  have small : ∀ number, number % scale < scale := fun number => Nat.mod_lt number positive
  rw [split, split]
  generalize first / scale % base = firstQuotient, second / scale % base = secondQuotient
  have firstSmall := small first
  have secondSmall := small second
  rcases Nat.lt_trichotomy firstQuotient secondQuotient with less | same | greater
  · have step : scale * firstQuotient + scale ≤ scale * secondQuotient := by
      rw [← Nat.mul_succ]
      exact Nat.mul_le_mul_left scale less
    refine iff_of_true ?_ (.inl less)
    omega
  · rw [same]
    omega
  · have step : scale * secondQuotient + scale ≤ scale * firstQuotient := by
      rw [← Nat.mul_succ]
      exact Nat.mul_le_mul_left scale greater
    refine iff_of_false ?_ ?_
    · omega
    · omega

/-- Numerals of one width are ordered as the numbers modulo it, by induction over the width. -/
theorem digits_lt_digits (width first second : Nat)
    : digits width first < digits width second
        ↔ first % 10 ^ width < second % 10 ^ width := by
  induction width with
  | zero => simp [digits, Nat.mod_one]
  | succ width ih =>
      have firstSmall : first / 10 ^ width % 10 < 10 := Nat.mod_lt _ (by decide)
      have secondSmall : second / 10 ^ width % 10 < 10 := Nat.mod_lt _ (by decide)
      rw [digits, digits, List.cons_lt_cons_iff, digit_lt_digit firstSmall secondSmall,
        digit_inj firstSmall secondSmall, ih, Nat.pow_succ]
      exact (mod_lt_mod_iff 10 (10 ^ width) first second (Nat.pow_pos (by decide))).symm

/-- Numbers that fit a width are told apart by their numerals. -/
theorem digits_inj {width first second : Nat} (firstFits : first < 10 ^ width)
    (secondFits : second < 10 ^ width)
    : digits width first = digits width second ↔ first = second := by
  refine ⟨fun same => ?_, fun same => by rw [same]⟩
  have notLess : ¬ digits width first < digits width second := by
    rw [same]
    exact List.lt_irrefl _
  have notGreater : ¬ digits width second < digits width first := by
    rw [same]
    exact List.lt_irrefl _
  rw [digits_lt_digits, Nat.mod_eq_of_lt firstFits, Nat.mod_eq_of_lt secondFits] at notLess
  rw [digits_lt_digits, Nat.mod_eq_of_lt firstFits, Nat.mod_eq_of_lt secondFits] at notGreater
  omega

/-- Where two lists start with equally long parts, these decide first; by induction over
them.
-/
theorem append_lt_append_iff {α : Type*} [LT α] [Std.Irrefl fun first second : α => first < second]
    {first second firstRest secondRest : List α} (sameLength : first.length = second.length)
    : first ++ firstRest < second ++ secondRest
        ↔ first < second ∨ first = second ∧ firstRest < secondRest := by
  induction first generalizing second with
  | nil =>
      obtain rfl : second = [] := List.eq_nil_of_length_eq_zero sameLength.symm
      simp
  | cons head tail ih =>
      cases second with
      | nil => cases sameLength
      | cons secondHead secondTail =>
          rw [List.cons_append, List.cons_append, List.cons_lt_cons_iff, List.cons_lt_cons_iff,
            ih (Nat.succ.inj sameLength), List.cons.injEq, and_or_left, or_assoc, and_assoc]

/-- The numerals of some numbers, each with its width and with the separator behind it. -/
def layOut : List (Nat × Char) → List Nat → List Char
  | (width, separator) :: layout, number :: numbers =>
      digits width number ++ separator :: layOut layout numbers
  | _, _ => []

/-- Every number fits its width. -/
abbrev Fits : List (Nat × Char) → List Nat → Prop :=
  List.Forall₂ fun field number => number < 10 ^ field.1

/-- Texts of one layout are ordered as the numbers in them, by induction over the layout. -/
theorem layOut_lt_layOut {layout : List (Nat × Char)} {first second : List Nat}
    (firstFits : Fits layout first) (secondFits : Fits layout second)
    : layOut layout first < layOut layout second ↔ first < second := by
  induction firstFits generalizing second with
  | nil =>
      cases secondFits
      exact iff_of_false (List.lt_irrefl _) (List.lt_irrefl _)
  | @cons field number layout numbers fits _ ih =>
      cases secondFits with
      | @cons _ other _ others otherFits othersFit =>
          have sameLength : (digits field.1 number).length = (digits field.1 other).length := by
            rw [length_digits, length_digits]
          rw [layOut, layOut, append_lt_append_iff sameLength, digits_lt_digits,
            Nat.mod_eq_of_lt fits, Nat.mod_eq_of_lt otherFits, digits_inj fits otherFits,
            List.cons_lt_cons_iff, List.cons_lt_cons_iff, ih othersFit]
          simp

theorem layOut_inj {layout : List (Nat × Char)} {first second : List Nat}
    (firstFits : Fits layout first) (secondFits : Fits layout second)
    : layOut layout first = layOut layout second ↔ first = second := by
  refine ⟨fun same => ?_, fun same => by rw [same]⟩
  have notLess := (layOut_lt_layOut firstFits secondFits).not
  have notGreater := (layOut_lt_layOut secondFits firstFits).not
  rw [same] at notLess notGreater
  exact List.le_antisymm (notGreater.mp (List.lt_irrefl _)) (notLess.mp (List.lt_irrefl _))

/-- Texts of one layout are equally long, by induction over the layout. -/
theorem length_layOut {layout : List (Nat × Char)} {numbers : List Nat}
    (fits : Fits layout numbers)
    : (layOut layout numbers).length = (layout.map fun field => field.1 + 1).sum := by
  induction fits with
  | nil => rfl
  | cons _ _ ih =>
      rw [layOut, List.length_append, length_digits, List.length_cons, ih, List.map_cons,
        List.sum_cons]
      omega

end OpenCord.Library.Decimals

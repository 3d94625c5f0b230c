import Mathlib.Data.List.Basic
import Mathlib.Tactic.Ring

/-! Hexadecimal numerals of a fixed width, most significant digit first. -/

namespace OpenCord.Library.Hex

/-- The lower-case digit of a value below sixteen. -/
def digit (value : Nat) : Char := Nat.digitChar value

/-- The value of a digit in either case. -/
def digitValue (character : Char) : Option Nat :=
  let code := character.toNat
  if 48 ≤ code ∧ code ≤ 57 then some (code - 48)
  else if 97 ≤ code ∧ code ≤ 102 then some (code - 87)
  else if 65 ≤ code ∧ code ≤ 70 then some (code - 55)
  else none

/-- The last `width` digits of a number. -/
def digits : Nat → Nat → List Char
  | 0, _ => []
  | width + 1, value => digits width (value / 16) ++ [digit (value % 16)]

/-- The number that digits write after those already read. -/
def readFrom (read : Nat) : List Char → Option Nat
  | [] => some read
  | character :: rest => do
      let value ← digitValue character
      readFrom (read * 16 + value) rest

def read (characters : List Char) : Option Nat := readFrom 0 characters

@[simp] theorem length_digits (width value : Nat) : (digits width value).length = width := by
  induction width generalizing value with
  | zero => rfl
  | succ width ih => rw [digits, List.length_append, ih, List.length_singleton]

/-- Each of the sixteen digits reads back as its value. -/
theorem digitValue_digit {value : Nat} (small : value < 16)
    : digitValue (digit value) = some value := by
  have all : ∀ value < 16, digitValue (digit value) = some value := by decide
  exact all value small

/-- Reading two stretches of digits is reading the second after the first. -/
theorem readFrom_append (start : Nat) (first second : List Char)
    : readFrom start (first ++ second)
        = (readFrom start first).bind fun middle => readFrom middle second := by
  induction first generalizing start with
  | nil => rfl
  | cons character rest ih =>
      simp only [List.cons_append, readFrom, Option.bind_eq_bind]
      cases digitValue character with
      | none => rfl
      | some value => exact ih _

/-- Written digits read back as the number modulo their width, by induction over the
width.
-/
theorem readFrom_digits (start width value : Nat)
    : readFrom start (digits width value)
        = some (start * 16 ^ width + value % 16 ^ width) := by
  induction width generalizing value with
  | zero => simp [digits, readFrom, Nat.mod_one]
  | succ width ih =>
      have last : value % 16 < 16 := Nat.mod_lt _ (by decide)
      rw [digits, readFrom_append, ih, Option.bind_some, readFrom, digitValue_digit last]
      have split : value % 16 ^ (width + 1) = value / 16 % 16 ^ width * 16 + value % 16 := by
        rw [Nat.pow_succ', Nat.mod_mul]
        ring
      simp only [Option.bind_eq_bind, Option.bind_some, readFrom]
      rw [split, Nat.pow_succ]
      congr 1
      ring

/-- A number that fits its width reads back. -/
theorem read_digits {width value : Nat} (fits : value < 16 ^ width)
    : read (digits width value) = some value := by
  rw [read, readFrom_digits, Nat.mod_eq_of_lt fits, Nat.zero_mul, Nat.zero_add]

end OpenCord.Library.Hex

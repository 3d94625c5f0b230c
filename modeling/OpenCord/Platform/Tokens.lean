import OpenCord.Library.Hex
import OpenCord.Library.Text

/-! Secrets drawn at random: a label and thirty-two bytes in hexadecimal. -/

namespace OpenCord.Platform

open OpenCord.Library

def randomToken (label : String) (bytes : BitVec 256) : String :=
  label ++ String.ofList (Hex.digits 64 bytes.toNat)

/-- A hexadecimal digit is not whitespace, by induction over the width of the numeral. -/
theorem isWhitespace_of_mem_digits {width value : Nat} {character : Char}
    (mem : character ∈ Hex.digits width value)
    : Text.isWhitespace character = false := by
  have all : ∀ value < 16, Text.isWhitespace (Hex.digit value) = false := by decide
  induction width generalizing value with
  | zero => cases mem
  | succ width ih =>
      rcases List.mem_append.mp mem with mem | mem
      · exact ih mem
      · rw [List.mem_singleton.mp mem]
        exact all _ (Nat.mod_lt _ (by decide))

/-- Trimming leaves a drawn token as it is. -/
theorem trim_randomToken {label : String} (bytes : BitVec 256)
    (solid : label.toList.any Text.isWhitespace = false)
    : Text.trim (randomToken label bytes) = randomToken label bytes := by
  have characters : ∀ character ∈ (randomToken label bytes).toList,
      Text.isWhitespace character = false := by
    intro character mem
    rw [randomToken, String.toList_append, String.toList_ofList] at mem
    rcases List.mem_append.mp mem with mem | mem
    · exact Bool.eq_false_iff.mpr (List.any_eq_false.mp solid character mem)
    · exact isWhitespace_of_mem_digits mem
  apply Text.trim_of_trimmed
  constructor
  · intro first mem
    exact characters first (List.mem_of_mem_head? mem)
  · intro last mem
    exact characters last (List.mem_of_getLast? mem)

theorem randomToken_ne_empty {label : String} (labelled : label ≠ "") (bytes : BitVec 256)
    : randomToken label bytes ≠ "" := by
  intro empty
  have characters := congrArg String.toList empty
  rw [randomToken, String.toList_append] at characters
  exact labelled (String.toList_inj.mp (List.append_eq_nil_iff.mp characters).1)

theorem startsWith_randomToken (label : String) (bytes : BitVec 256)
    : Text.startsWith (randomToken label bytes) label = true := by
  rw [Text.startsWith, randomToken, String.toList_append, List.isPrefixOf_iff_prefix]
  exact List.prefix_append _ _

end OpenCord.Platform

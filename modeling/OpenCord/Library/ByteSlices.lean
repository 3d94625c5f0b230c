import Mathlib.Data.List.Infix

/-! Texts whose parts are named by byte offsets in UTF-8. A slice at an offset inside a character
does not exist; searching a text yields offsets between characters.
-/

namespace OpenCord.Library.ByteSlices

def byteLength : List Char → Nat
  | [] => 0
  | character :: rest => character.utf8Size + byteLength rest

/-- What follows an offset. -/
def dropBytes : Nat → List Char → Option (List Char)
  | 0, characters => some characters
  | _ + 1, [] => none
  | offset + 1, character :: rest =>
      if character.utf8Size ≤ offset + 1 then
        dropBytes (offset + 1 - character.utf8Size) rest
      else
        none
termination_by structural _ characters => characters

/-- What comes before an offset. -/
def takeBytes : Nat → List Char → Option (List Char)
  | 0, _ => some []
  | _ + 1, [] => none
  | offset + 1, character :: rest =>
      if character.utf8Size ≤ offset + 1 then
        (takeBytes (offset + 1 - character.utf8Size) rest).map (character :: ·)
      else
        none
termination_by structural _ characters => characters

/-- The offset where a pattern occurs first. -/
def findText (pattern : List Char) : List Char → Option Nat
  | [] => if pattern = [] then some 0 else none
  | character :: rest =>
      if pattern <+: character :: rest then
        some 0
      else
        (findText pattern rest).map (character.utf8Size + ·)

@[simp] theorem byteLength_append (before after : List Char)
    : byteLength (before ++ after) = byteLength before + byteLength after := by
  induction before with
  | nil => rw [List.nil_append, byteLength, Nat.zero_add]
  | cons character before ih => rw [List.cons_append, byteLength, byteLength, ih, Nat.add_assoc]

/-- Slicing behind a part of a text skips the part, by induction over it. -/
theorem dropBytes_append (before after : List Char)
    : dropBytes (byteLength before) (before ++ after) = some after := by
  induction before with
  | nil =>
      rw [byteLength, List.nil_append]
      cases after <;> rfl
  | cons character before ih =>
      have positive := character.utf8Size_pos
      obtain ⟨offset, same⟩ : ∃ offset, byteLength (character :: before) = offset + 1 :=
        ⟨character.utf8Size - 1 + byteLength before, by rw [byteLength]; omega⟩
      have rest : offset + 1 - character.utf8Size = byteLength before := by
        rw [← same, byteLength, Nat.add_sub_cancel_left]
      rw [same, List.cons_append, dropBytes, rest, if_pos, ih]
      rw [← same, byteLength]
      exact Nat.le_add_right _ _

theorem takeBytes_append (before after : List Char)
    : takeBytes (byteLength before) (before ++ after) = some before := by
  induction before with
  | nil =>
      rw [byteLength, List.nil_append]
      cases after <;> rfl
  | cons character before ih =>
      have positive := character.utf8Size_pos
      obtain ⟨offset, same⟩ : ∃ offset, byteLength (character :: before) = offset + 1 :=
        ⟨character.utf8Size - 1 + byteLength before, by rw [byteLength]; omega⟩
      have rest : offset + 1 - character.utf8Size = byteLength before := by
        rw [← same, byteLength, Nat.add_sub_cancel_left]
      rw [same, List.cons_append, takeBytes, rest, if_pos, ih, Option.map_some]
      rw [← same, byteLength]
      exact Nat.le_add_right _ _

end OpenCord.Library.ByteSlices

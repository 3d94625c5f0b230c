import Mathlib.Algebra.GroupWithZero.Nat
import OpenCord.Library.Text

/-! Texts of lines that end with a carriage return and a line feed. Lines without such
characters are read back; a line with one of them makes more lines of the text, or keeps the
character in a line.
-/

namespace OpenCord.Library.ContentLines

def crLf : List Char := ['\r', '\n']

/-- The text of lines, each with its end. -/
def endLines (lines : List (List Char)) : List Char := lines.flatMap (· ++ crLf)

/-- The parts of a text between its line ends, the part behind the last one included. -/
def splitCrLf : List Char → List (List Char)
  | [] => [[]]
  | [character] => [[character]]
  | character :: next :: rest =>
      if character = '\r' ∧ next = '\n' then
        [] :: splitCrLf rest
      else
        match splitCrLf (next :: rest) with
        | [] => [[character]]
        | part :: parts => (character :: part) :: parts

/-- Neither of the two characters occurs. -/
def OneLine (characters : List Char) : Prop := '\r' ∉ characters ∧ '\n' ∉ characters

instance (characters : List Char) : Decidable (OneLine characters) :=
  inferInstanceAs (Decidable (_ ∧ _))

theorem OneLine.nil : OneLine [] := ⟨List.not_mem_nil, List.not_mem_nil⟩

theorem oneLine_append {first second : List Char}
    : OneLine (first ++ second) ↔ OneLine first ∧ OneLine second := by
  simp only [OneLine, List.mem_append, not_or]
  exact and_and_and_comm

theorem splitCrLf_ne_nil (characters : List Char) : splitCrLf characters ≠ [] := by
  fun_cases splitCrLf characters <;> simp_all

/-- The parts of a text with their ends between them are the text, by induction over it. -/
theorem intercalate_splitCrLf (characters : List Char)
    : crLf.intercalate (splitCrLf characters) = characters := by
  fun_induction splitCrLf characters with
  | case1 => rfl
  | case2 => rfl
  | case3 character next rest ends ih =>
      obtain ⟨rfl, rfl⟩ := ends
      rw [List.intercalate_cons_of_ne_nil (splitCrLf_ne_nil rest), ih]
      rfl
  | case4 character next rest _ none => exact absurd none (splitCrLf_ne_nil _)
  | case5 character next rest _ part parts shape ih =>
      rw [List.intercalate_cons_cons_left, ← shape, ih]

/-- A line is cut off at its end, by induction over it. -/
theorem splitCrLf_append {line : List Char} (oneLine : OneLine line) (rest : List Char)
    : splitCrLf (line ++ crLf ++ rest) = line :: splitCrLf rest := by
  induction line with
  | nil =>
      change splitCrLf ('\r' :: '\n' :: rest) = _
      rw [splitCrLf, if_pos ⟨rfl, rfl⟩]
  | cons character line ih =>
      obtain ⟨first, oneLine⟩ := oneLine_append.mp (show OneLine ([character] ++ line) from oneLine)
      have ih := ih oneLine
      have notEnd (next : Char) : ¬ (character = '\r' ∧ next = '\n') :=
        fun ends => first.1 (ends.1 ▸ List.mem_singleton.mpr rfl)
      rw [List.cons_append, List.cons_append]
      generalize shape : line ++ crLf ++ rest = later at ih
      cases later with
      | nil =>
          rw [crLf, List.append_assoc, List.append_eq_nil_iff] at shape
          cases shape.2
      | cons next later =>
          rw [splitCrLf, if_neg (notEnd next), ih]

/-- Lines are read back, by induction over them. -/
theorem splitCrLf_endLines {lines : List (List Char)} (oneLine : ∀ line ∈ lines, OneLine line)
    : splitCrLf (endLines lines) = lines ++ [[]] := by
  induction lines with
  | nil => rfl
  | cons line lines ih =>
      obtain ⟨first, others⟩ := List.forall_mem_cons.mp oneLine
      have parts : endLines (line :: lines) = line ++ crLf ++ endLines lines := rfl
      rw [parts, splitCrLf_append first, ih others, List.cons_append]

/-- Lines with their ends are the lines with the ends between them and behind, by induction. -/
theorem intercalate_append_crLf {lines : List (List Char)} (nonempty : lines ≠ [])
    : crLf.intercalate lines ++ crLf = endLines lines := by
  induction lines with
  | nil => exact absurd rfl nonempty
  | cons line lines ih =>
      have parts : endLines (line :: lines) = line ++ crLf ++ endLines lines := rfl
      rw [parts]
      by_cases last : lines = []
      · rw [last, List.intercalate_singleton]
        exact (List.append_nil _).symm
      · rw [List.intercalate_cons_of_ne_nil last, List.append_assoc, ih last]

/-- A text that is cut into lines with nothing behind them is the text of the lines; by
induction over them.
-/
theorem eq_endLines_of_splitCrLf {characters : List Char} {lines : List (List Char)}
    (cut : splitCrLf characters = lines ++ [[]])
    : characters = endLines lines := by
  rw [← intercalate_splitCrLf characters, cut]
  clear cut
  induction lines with
  | nil => rfl
  | cons line lines ih =>
      have parts : endLines (line :: lines) = line ++ crLf ++ endLines lines := rfl
      have nonempty : lines ++ [[]] ≠ [] := List.append_ne_nil_of_right_ne_nil _ (by simp)
      rw [List.cons_append, List.intercalate_cons_of_ne_nil nonempty, ih, parts]

theorem count_endLines (character : Char) (lines : List (List Char))
    : (endLines lines).count character
        = (lines.map fun line => line.count character).sum
          + lines.length * crLf.count character := by
  induction lines with
  | nil => simp [endLines]
  | cons line lines ih =>
      have parts : endLines (line :: lines) = line ++ crLf ++ endLines lines := rfl
      rw [parts, List.count_append, List.count_append, ih, List.map_cons, List.sum_cons,
        List.length_cons, Nat.succ_mul]
      omega

/-- A character occurs in none of some lists where the counts of it sum up to nothing. -/
theorem sum_count_eq_zero {character : Char} {lines : List (List Char)}
    : (lines.map fun line => line.count character).sum = 0
      ↔ ∀ line ∈ lines, character ∉ line := by
  rw [List.sum_eq_zero_iff_forall_eq_nat]
  simp only [List.forall_mem_map, List.count_eq_zero]

/-- A text of lines is cut into equally many lines exactly where no line has an end in it. -/
theorem splitCrLf_endLines_iff {lines others : List (List Char)}
    (sameLength : others.length = lines.length) (oneLine : ∀ line ∈ others, OneLine line)
    : splitCrLf (endLines lines) = others ++ [[]]
      ↔ (∀ line ∈ lines, OneLine line) ∧ others = lines := by
  constructor
  · intro cut
    have sameText := eq_endLines_of_splitCrLf cut
    have absent (character : Char) (notIn : ∀ line ∈ others, character ∉ line)
        : ∀ line ∈ lines, character ∉ line := by
      have counts := congrArg (List.count character) sameText
      rw [count_endLines, count_endLines, sameLength, sum_count_eq_zero.mpr notIn] at counts
      exact sum_count_eq_zero.mp (by omega)
    have first := absent '\r' fun line listed => (oneLine line listed).1
    have second := absent '\n' fun line listed => (oneLine line listed).2
    have clean : ∀ line ∈ lines, OneLine line := fun line listed =>
      ⟨first line listed, second line listed⟩
    rw [splitCrLf_endLines clean] at cut
    exact ⟨clean, (List.append_cancel_right cut).symm⟩
  · intro same
    obtain ⟨oneLine, rfl⟩ := same
    exact splitCrLf_endLines oneLine

end OpenCord.Library.ContentLines

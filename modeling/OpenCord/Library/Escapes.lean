import Mathlib.Data.List.Nodup

/-! Texts where a mark and a letter stand for a special character, and every other character
stands for itself. The mark is special too, so that an escaped text is read in one way only.
-/

namespace OpenCord.Library

/-- The mark, and the letter behind it for each special character. -/
structure Escapes where
  mark : Char
  entries : List (Char × Char)
  mark_mem : mark ∈ entries.map Prod.fst
  letters_nodup : (entries.map Prod.snd).Nodup

namespace Escapes

variable (escapes : Escapes)

/-- The letter for a special character. -/
def letter? (character : Char) : Option Char :=
  (escapes.entries.find? fun entry => entry.1 == character).map Prod.snd

/-- The special character that a letter stands for behind the mark. -/
def character? (letter : Char) : Option Char :=
  (escapes.entries.find? fun entry => entry.2 == letter).map Prod.fst

def escapeCharacter (character : Char) : List Char :=
  match escapes.letter? character with
  | some letter => [escapes.mark, letter]
  | none => [character]

def escape (characters : List Char) : List Char := characters.flatMap escapes.escapeCharacter

/-- A mark with a known letter is read as the special character, anything else as it is. -/
def unescape : List Char → List Char
  | [] => []
  | [character] => [character]
  | character :: next :: rest =>
      if character = escapes.mark then
        match escapes.character? next with
        | some special => special :: unescape rest
        | none => character :: unescape (next :: rest)
      else
        character :: unescape (next :: rest)

/-- Whether a text ends in a mark that is not itself behind such a mark. -/
def endsInMark (characters : List Char) : Bool :=
  characters.foldl (fun marked character => !marked && character == escapes.mark) false

/-- Every occurrence of some characters stands behind an escaping mark. -/
def Guarded (characters guarded : List Char) : Prop :=
  ∀ before character after, characters = before ++ character :: after → character ∈ guarded →
    escapes.endsInMark before = true

variable {escapes}

theorem mark_of_letter?_eq_none {character : Char} (plain : escapes.letter? character = none)
    : character ≠ escapes.mark := by
  rintro rfl
  obtain ⟨entry, mem, isMark⟩ := List.mem_map.mp escapes.mark_mem
  rw [letter?, Option.map_eq_none_iff, List.find?_eq_none] at plain
  exact plain entry mem (by simpa using isMark)

/-- Different special characters have different letters. -/
theorem character?_of_letter? {character letter : Char}
    (special : escapes.letter? character = some letter)
    : escapes.character? letter = some character := by
  obtain ⟨entry, found, rfl⟩ := Option.map_eq_some_iff.mp special
  have mem := List.mem_of_find?_eq_some found
  have own : entry.1 = character := by simpa using List.find?_some found
  obtain ⟨other, otherFound⟩ : ∃ other,
      escapes.entries.find? (fun candidate => candidate.2 == entry.2) = some other :=
    Option.isSome_iff_exists.mp (List.find?_isSome.mpr ⟨entry, mem, by simp⟩)
  have sameLetter : other.2 = entry.2 := by simpa using List.find?_some otherFound
  have same := List.inj_on_of_nodup_map escapes.letters_nodup
    (List.mem_of_find?_eq_some otherFound) mem sameLetter
  rw [character?, otherFound, Option.map_some, same, own]

theorem unescape_special {letter special : Char}
    (known : escapes.character? letter = some special) (rest : List Char)
    : escapes.unescape (escapes.mark :: letter :: rest) = special :: escapes.unescape rest := by
  rw [unescape, if_pos rfl, known]

theorem unescape_plain {character : Char} (plain : character ≠ escapes.mark)
    (rest : List Char)
    : escapes.unescape (character :: rest) = character :: escapes.unescape rest := by
  cases rest with
  | nil => rfl
  | cons next rest => rw [unescape, if_neg plain]

/-- Nothing is lost by escaping, by induction over the text. -/
theorem unescape_escape (characters : List Char)
    : escapes.unescape (escapes.escape characters) = characters := by
  induction characters with
  | nil => rfl
  | cons character rest ih =>
      rw [escape, List.flatMap_cons, ← escape, escapeCharacter]
      cases special : escapes.letter? character with
      | some letter =>
          simp only [List.cons_append, List.nil_append]
          rw [unescape_special (character?_of_letter? special), ih]
      | none =>
          simp only [List.cons_append, List.nil_append]
          rw [unescape_plain (mark_of_letter?_eq_none special), ih]

theorem endsInMark_append (first second : List Char)
    : escapes.endsInMark (first ++ second)
        = second.foldl (fun marked character => !marked && character == escapes.mark)
            (escapes.endsInMark first) := by
  rw [endsInMark, List.foldl_append]
  rfl

/-- The mark in front of a letter does not reach behind it. -/
theorem endsInMark_escapeCharacter (character : Char)
    : escapes.endsInMark (escapes.escapeCharacter character) = false := by
  rw [escapeCharacter]
  cases special : escapes.letter? character with
  | some letter => simp [endsInMark]
  | none => simpa [endsInMark] using mark_of_letter?_eq_none special

/-- The occurrences in two texts do not see each other, where the first leaves no mark open. -/
theorem Guarded.append {first second guarded : List Char}
    (firstGuarded : escapes.Guarded first guarded) (closed : escapes.endsInMark first = false)
    (secondGuarded : escapes.Guarded second guarded)
    : escapes.Guarded (first ++ second) guarded := by
  intro before character after split isGuarded
  have later (within : List Char) (split : second = within ++ character :: after)
      : escapes.endsInMark (first ++ within) = true := by
    rw [endsInMark_append, closed]
    exact secondGuarded within character after split isGuarded
  rcases List.append_eq_append_iff.mp split with ⟨within, rfl, behind⟩ | ⟨tail, rfl, behind⟩
  · exact later within behind
  · cases tail with
    | nil => simpa using later [] behind.symm
    | cons head tail =>
        obtain ⟨rfl, -⟩ := List.cons.inj behind
        exact firstGuarded before character tail rfl isGuarded

/-- In front of the letter for a special character is its mark. -/
theorem guarded_escapeCharacter {guarded : List Char}
    (special : ∀ character ∈ guarded, (escapes.letter? character).isSome = true)
    (unmarked : escapes.mark ∉ guarded) (character : Char)
    : escapes.Guarded (escapes.escapeCharacter character) guarded := by
  intro before own after split isGuarded
  rw [escapeCharacter] at split
  cases isSpecial : escapes.letter? character with
  | some letter =>
      rw [isSpecial] at split
      rcases List.append_eq_cons_iff.mp split.symm with ⟨rfl, same⟩ | ⟨within, rfl, behind⟩
      · obtain ⟨rfl, -⟩ := List.cons.inj same
        exact absurd isGuarded unmarked
      · rcases List.append_eq_cons_iff.mp behind.symm with ⟨rfl, -⟩ | ⟨further, -, beyond⟩
        · simp [endsInMark]
        · simp at beyond
  | none =>
      rw [isSpecial] at split
      rcases List.append_eq_cons_iff.mp split.symm with ⟨rfl, same⟩ | ⟨within, -, behind⟩
      · obtain ⟨rfl, -⟩ := List.cons.inj same
        have known := special own isGuarded
        rw [isSpecial] at known
        cases known
      · simp at behind

/-- Special characters other than the mark only stand behind an escaping mark, by induction
over the text.
-/
theorem guarded_escape {guarded : List Char}
    (special : ∀ character ∈ guarded, (escapes.letter? character).isSome = true)
    (unmarked : escapes.mark ∉ guarded) (characters : List Char)
    : escapes.Guarded (escapes.escape characters) guarded := by
  induction characters with
  | nil =>
      intro before character after split
      simp [escape] at split
  | cons first rest ih =>
      rw [escape, List.flatMap_cons, ← escape]
      exact (guarded_escapeCharacter special unmarked first).append
        (endsInMark_escapeCharacter first) ih

end Escapes

end OpenCord.Library

import Mathlib.Data.Bool.AllAny
import Mathlib.Data.List.DropRight
import Mathlib.Data.List.Infix

/-! Text operations with the meaning of the standard string library of the modelled
services: trimming, ASCII case folding, affix tests and cutting at a separator.
-/

namespace OpenCord.Library.Text

/-- A character with the Unicode property `White_Space`. -/
def isWhitespace (character : Char) : Bool :=
  let code := character.toNat
  decide (9 ≤ code ∧ code ≤ 13) || code == 0x20 || code == 0x85 || code == 0xA0
    || code == 0x1680 || decide (0x2000 ≤ code ∧ code ≤ 0x200A) || code == 0x2028
    || code == 0x2029 || code == 0x202F || code == 0x205F || code == 0x3000

/-- The characters without the whitespace at both ends. -/
def trimChars (characters : List Char) : List Char :=
  (characters.dropWhile isWhitespace).rdropWhile isWhitespace

/-- The text without the whitespace at both ends. -/
def trim (text : String) : String :=
  String.ofList (trimChars text.toList)

/-- The text without the occurrences of a character at its end. -/
def trimEndMatches (text : String) (character : Char) : String :=
  String.ofList (text.toList.rdropWhile (· == character))

/-- The text without the occurrences of a character at its start. -/
def trimStartMatches (text : String) (character : Char) : String :=
  String.ofList (text.toList.dropWhile (· == character))

/-- The text with its ASCII capitals folded to lower case. -/
def toAsciiLowercase (text : String) : String :=
  String.ofList (text.toList.map Char.toLower)

/-- The text with its ASCII small letters raised to upper case. -/
def toAsciiUppercase (text : String) : String :=
  String.ofList (text.toList.map Char.toUpper)

/-- The maximal stretches without whitespace. -/
def splitWhitespace (text : String) : List (List Char) :=
  (text.toList.splitOnP isWhitespace).filter (· ≠ [])

/-- The text with each stretch of whitespace replaced by one blank, none at the ends. -/
def collapseWhitespace (text : String) : String :=
  String.ofList ([' '].intercalate (splitWhitespace text))

/-- The lower-case form of a character as far as ASCII goes: of the other characters only
the Kelvin sign and the dotted capital I lower to texts with an ASCII letter.
-/
def toLowercase (character : Char) : List Char :=
  if character.toNat = 0x212A then ['k']
  else if character.toNat = 0x130 then ['i', Char.ofNat 0x307]
  else [character.toLower]

/-- The text's last four characters. -/
def lastFour (text : String) : String :=
  String.ofList (text.toList.drop (text.length - 4))

def startsWith (text start : String) : Bool :=
  start.toList.isPrefixOf text.toList

/-- The text after a start, if it has it. -/
def stripStart (start text : String) : Option String :=
  if startsWith text start then some (String.ofList (text.toList.drop start.length)) else none

def endsWith (text ending : String) : Bool :=
  ending.toList.isSuffixOf text.toList

def startsWithChar (text : String) (character : Char) : Bool :=
  text.toList.head? == some character

def endsWithChar (text : String) (character : Char) : Bool :=
  text.toList.getLast? == some character

def containsChar (text : String) (character : Char) : Bool :=
  text.toList.contains character

/-- The parts before and after the last occurrence of a character. -/
def rsplitOnce (text : String) (character : Char) : Option (String × String) :=
  if text.toList.contains character then
    some (String.ofList (text.toList.rdropWhile (· != character)).dropLast,
      String.ofList (text.toList.rtakeWhile (· != character)))
  else
    none

/-- All parts of a text between the occurrences of a separator, empty parts included. -/
def splitChars (separator : Char) : List Char → List (List Char)
  | [] => [[]]
  | character :: rest =>
      match splitChars separator rest with
      | [] => [[character]]
      | part :: parts =>
          if character = separator then [] :: part :: parts
          else (character :: part) :: parts

def split (text : String) (separator : Char) : List String :=
  (splitChars separator text.toList).map String.ofList

-----------------------------------------------------------------------------------------
-- Trimming
-----------------------------------------------------------------------------------------

/-- Characters without whitespace at either end. -/
def Trimmed (characters : List Char) : Prop :=
  (∀ first ∈ characters.head?, isWhitespace first = false)
    ∧ ∀ last ∈ characters.getLast?, isWhitespace last = false

-- the end is looked at, rather than all characters tried
instance (characters : List Char) : Decidable (Trimmed characters) :=
  @instDecidableAnd _ _ (Option.decidableForallMem _) (Option.decidableForallMem _)

/-- Dropping from the end a property the last element lacks changes nothing. -/
theorem rdropWhile_eq_self {α : Type*} {test : α → Bool} {items : List α}
    (kept : ∀ last ∈ items.getLast?, test last = false)
    : items.rdropWhile test = items := by
  rw [List.rdropWhile_eq_self_iff]
  intro nonempty
  simpa using kept _ (List.getLast?_eq_some_getLast nonempty)

/-- What is left after dropping from the end does not end in a dropped element. -/
theorem rdropWhile_getLast? {α : Type*} (test : α → Bool) (items : List α)
    : ∀ last ∈ (items.rdropWhile test).getLast?, test last = false := by
  intro last mem
  have nonempty : items.rdropWhile test ≠ [] := by
    rintro empty
    simp [empty] at mem
  rw [List.getLast?_eq_some_getLast nonempty, Option.mem_some_iff] at mem
  simpa [mem] using List.rdropWhile_last_not test items nonempty

/-- What is left after dropping from the start does not start with a dropped element. -/
theorem dropWhile_head? {α : Type*} (test : α → Bool) (items : List α)
    : ∀ first ∈ (items.dropWhile test).head?, test first = false := by
  intro first mem
  have shape := List.head?_dropWhile_not test items
  rw [Option.mem_def.mp mem] at shape
  simpa using shape

/-- An initial segment starts like the whole, unless it is empty. -/
theorem head?_of_isPrefix {α : Type*} {segment items : List α} (initial : segment <+: items)
    : ∀ first ∈ segment.head?, first ∈ items.head? := by
  obtain ⟨rest, rfl⟩ := initial
  cases segment <;> simp

theorem trimChars_trimmed (characters : List Char) : Trimmed (trimChars characters) := by
  refine ⟨?_, rdropWhile_getLast? _ _⟩
  intro first mem
  exact dropWhile_head? _ _ first (head?_of_isPrefix (List.rdropWhile_prefix _ _) first mem)

theorem trimChars_of_trimmed {characters : List Char} (trimmed : Trimmed characters)
    : trimChars characters = characters := by
  have start : characters.dropWhile isWhitespace = characters := by
    cases characters with
    | nil => rfl
    | cons first rest =>
        exact List.dropWhile_cons_of_neg (by simpa using trimmed.1 first rfl)
  rw [trimChars, start, rdropWhile_eq_self trimmed.2]

@[simp] theorem toList_trim (text : String) : (trim text).toList = trimChars text.toList :=
  String.toList_ofList

theorem trim_of_trimmed {text : String} (trimmed : Trimmed text.toList)
    : trim text = text := by
  rw [trim, trimChars_of_trimmed trimmed, String.ofList_toList]

/-- Trimming does not see the whitespace in front. -/
theorem trimChars_dropWhile (characters : List Char)
    : trimChars (characters.dropWhile isWhitespace) = trimChars characters := by
  rw [trimChars, List.dropWhile_idempotent, trimChars]

/-- What ends in another character than whitespace loses only the whitespace in front. -/
theorem trimChars_append {characters ending : List Char} (nonempty : ending ≠ [])
    (solid : ∀ character ∈ ending, isWhitespace character = false)
    : trimChars (characters ++ ending) = characters.dropWhile isWhitespace ++ ending := by
  have start : ending.dropWhile isWhitespace = ending := by
    cases ending with
    | nil => rfl
    | cons first rest =>
        exact List.dropWhile_cons_of_neg (by simpa using solid first List.mem_cons_self)
  have front : (characters ++ ending).dropWhile isWhitespace
      = characters.dropWhile isWhitespace ++ ending := by
    rw [List.dropWhile_append, start]
    split
    · next empty => rw [List.isEmpty_iff.mp empty, List.nil_append]
    · rfl
  rw [trimChars, front]
  apply rdropWhile_eq_self
  intro last mem
  rw [List.getLast?_append_of_ne_nil _ nonempty] at mem
  exact solid last (List.mem_of_getLast? mem)

-----------------------------------------------------------------------------------------
-- Case folding
-----------------------------------------------------------------------------------------

/-- An ASCII capital is folded to the letter thirty-two places further. -/
theorem toNat_toLower (character : Char)
    : character.toLower.toNat
        = if 65 ≤ character.toNat ∧ character.toNat ≤ 90 then character.toNat + 32
          else character.toNat := by
  unfold Char.toLower
  split
  · next capital =>
      have bounds : 65 ≤ character.toNat ∧ character.toNat ≤ 90 := by
        simpa [UInt32.le_iff_toNat_le] using capital
      rw [if_pos bounds]
      show (character.val + 32).toNat = _
      rw [UInt32.toNat_add]
      have small : character.val.toNat ≤ 90 := bounds.2
      simp only [UInt32.toNat_ofNat, Char.toNat]
      omega
  · next other =>
      have outside : ¬ (65 ≤ character.toNat ∧ character.toNat ≤ 90) := by
        simpa [UInt32.le_iff_toNat_le] using other
      rw [if_neg outside]

@[simp] theorem isWhitespace_toLower (character : Char)
    : isWhitespace character.toLower = isWhitespace character := by
  simp only [isWhitespace, toNat_toLower]
  split
  · next capital =>
      rw [Bool.eq_iff_iff]
      simp only [Bool.or_eq_true, decide_eq_true_eq, beq_iff_eq]
      omega
  · rfl

@[simp] theorem toLower_toLower (character : Char)
    : character.toLower.toLower = character.toLower := by
  apply Char.toNat_inj.mp
  rw [toNat_toLower character.toLower, toNat_toLower character]
  split
  · split <;> omega
  · rfl

/-- Folding case keeps the ends free of whitespace. -/
theorem Trimmed.map_toLower {characters : List Char} (trimmed : Trimmed characters)
    : Trimmed (characters.map Char.toLower) := by
  constructor
  · intro first mem
    rw [List.head?_map, Option.mem_def, Option.map_eq_some_iff] at mem
    obtain ⟨original, found, rfl⟩ := mem
    simpa using trimmed.1 original found
  · intro last mem
    rw [List.getLast?_map, Option.mem_def, Option.map_eq_some_iff] at mem
    obtain ⟨original, found, rfl⟩ := mem
    simpa using trimmed.2 original found

@[simp] theorem toList_toAsciiLowercase (text : String)
    : (toAsciiLowercase text).toList = text.toList.map Char.toLower :=
  String.toList_ofList

theorem toAsciiLowercase_idem (text : String)
    : toAsciiLowercase (toAsciiLowercase text) = toAsciiLowercase text := by
  apply String.toList_inj.mp
  simp [Function.comp_def]

-----------------------------------------------------------------------------------------
-- Cutting at a separator
-----------------------------------------------------------------------------------------

/-- Dropping from the end drops all of an ending that has the property. -/
theorem rdropWhile_append_of_forall {α : Type*} {test : α → Bool} (items : List α)
    {ending : List α} (dropped : ∀ item ∈ ending, test item = true)
    : (items ++ ending).rdropWhile test = items.rdropWhile test := by
  induction ending using List.reverseRecOn with
  | nil => rw [List.append_nil]
  | append_singleton ending last ih =>
      rw [← List.append_assoc, List.rdropWhile_concat_pos _ _ _ (dropped last (by simp))]
      exact ih fun item mem => dropped item (List.mem_append_left _ mem)

/-- Dropping from the end drops only what has the property. -/
theorem mem_rdropWhile {α : Type*} {test : α → Bool} {items : List α} {item : α}
    (mem : item ∈ items) (kept : test item = false)
    : item ∈ items.rdropWhile test := by
  have whole : items.rdropWhile test ++ items.rtakeWhile test = items :=
    List.rdropWhile_append_rtakeWhile
  rcases List.mem_append.mp (whole.symm ▸ mem) with mem | mem
  · exact mem
  · exact absurd (List.mem_rtakeWhile_imp mem) (by simp [kept])

/-- A text is cut where the separator occurs last. -/
theorem rsplitOnce_append (before : List Char) {after : List Char} {separator : Char}
    (last : separator ∉ after)
    : rsplitOnce (String.ofList (before ++ separator :: after)) separator
      = some (String.ofList before, String.ofList after) := by
  have others : ∀ character ∈ after, (character != separator) = true := by
    rintro character mem
    simp only [bne_iff_ne, ne_eq]
    rintro rfl
    exact last mem
  have front : (before ++ separator :: after).rdropWhile (· != separator)
      = before ++ [separator] := by
    rw [List.append_cons, rdropWhile_append_of_forall _ others]
    exact List.rdropWhile_concat_neg _ _ _ (by simp)
  have back : (before ++ separator :: after).rtakeWhile (· != separator) = after := by
    have whole : (before ++ separator :: after).rdropWhile (· != separator)
          ++ (before ++ separator :: after).rtakeWhile (· != separator)
        = before ++ separator :: after :=
      List.rdropWhile_append_rtakeWhile
    rw [front, List.append_assoc] at whole
    exact (List.cons.inj (List.append_cancel_left whole)).2
  rw [rsplitOnce, String.toList_ofList, if_pos (by simp), front, back,
    List.dropLast_concat]

/-- A text without the separator is not cut. -/
theorem rsplitOnce_of_notMem {text : String} {separator : Char}
    (missing : separator ∉ text.toList)
    : rsplitOnce text separator = none := by
  rw [rsplitOnce, if_neg (by simpa using missing)]

/-- The parts between the separators hold all other characters, by induction over the text. -/
theorem exists_mem_splitChars {separator character : Char} {characters : List Char}
    (mem : character ∈ characters) (other : character ≠ separator)
    : ∃ part ∈ splitChars separator characters, character ∈ part := by
  induction characters with
  | nil => cases mem
  | cons first rest ih =>
      rw [splitChars]
      rcases List.mem_cons.mp mem with rfl | mem
      · split
        · exact ⟨[character], by simp, by simp⟩
        · next part parts _ =>
            rw [if_neg other]
            exact ⟨character :: part, by simp, by simp⟩
      · obtain ⟨found, inParts, inside⟩ := ih mem
        split
        · next empty => rw [empty] at inParts; cases inParts
        · next part parts shape =>
            rw [shape] at inParts
            split
            · exact ⟨found, List.mem_cons_of_mem _ inParts, inside⟩
            · rcases List.mem_cons.mp inParts with rfl | inParts
              · exact ⟨first :: found, by simp, by simp [inside]⟩
              · exact ⟨found, List.mem_cons_of_mem _ inParts, inside⟩

/-- All ways to cut a list at one occurrence of a separator. -/
def cutsAt {α : Type*} [DecidableEq α] (separator : α) : List α → List (List α × List α)
  | [] => []
  | item :: rest =>
      let later := (cutsAt separator rest).map fun cut => (item :: cut.1, cut.2)
      if item = separator then ([], rest) :: later else later

/-- The cuts are exactly the decompositions around the separator, by induction over the
list.
-/
theorem mem_cutsAt {α : Type*} [DecidableEq α] {separator : α} {before after items : List α}
    : (before, after) ∈ cutsAt separator items ↔ before ++ separator :: after = items := by
  induction items generalizing before with
  | nil => simp [cutsAt]
  | cons item rest ih =>
      have later : (before, after)
            ∈ (cutsAt separator rest).map (fun cut => (item :: cut.1, cut.2))
          ↔ ∃ shorter, before = item :: shorter
              ∧ shorter ++ separator :: after = rest := by
        simp only [List.mem_map, Prod.exists, Prod.mk.injEq]
        constructor
        · rintro ⟨shorter, _, mem, rfl, rfl⟩
          exact ⟨shorter, rfl, ih.mp mem⟩
        · rintro ⟨shorter, rfl, eq⟩
          exact ⟨shorter, after, ih.mpr eq, rfl, rfl⟩
      have here : (before, after) ∈ cutsAt separator (item :: rest)
          ↔ (item = separator ∧ before = [] ∧ after = rest)
            ∨ ∃ shorter, before = item :: shorter
                ∧ shorter ++ separator :: after = rest := by
        rw [← later, cutsAt]
        by_cases same : item = separator <;> simp [same]
      rw [here]
      cases before with
      | nil => simp [eq_comm]
      | cons first shorter => simp [eq_comm]

end OpenCord.Library.Text

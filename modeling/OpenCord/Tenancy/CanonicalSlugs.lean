import Mathlib
import OpenCord.Tenancy.Channels
import OpenCord.Tenancy.Spaces

/-! The shape of slugs. A slug is one or more words of small letters and digits with single
dashes between them; the slugs are exactly the names that are their own slug.
-/

namespace OpenCord.Tenancy

open OpenCord.Library

-----------------------------------------------------------------------------------------
-- The language of the slugs
-----------------------------------------------------------------------------------------

/-- The characters of the words of a slug. -/
def slugCharacters : List Char := "abcdefghijklmnopqrstuvwxyz0123456789".toList

/-- One of some characters. -/
def oneCharacter (characters : List Char) : RegularExpression Char :=
  characters.foldr (fun character others => .char character + others) 0

/-- `[a-z0-9]+` -/
def wordPattern : RegularExpression Char :=
  oneCharacter slugCharacters * (oneCharacter slugCharacters).star

/-- `[a-z0-9]+(-[a-z0-9]+)*` -/
def slugPattern : RegularExpression Char :=
  wordPattern * (RegularExpression.char '-' * wordPattern).star

/-- Words with single dashes between them, from the first character on. -/
inductive IsSlug : List Char → Prop
  | last {character} (known : character ∈ slugCharacters) : IsSlug [character]
  | within {character rest} (known : character ∈ slugCharacters) (slug : IsSlug rest)
    : IsSlug (character :: rest)
  | dash {character rest} (known : character ∈ slugCharacters) (slug : IsSlug rest)
    : IsSlug (character :: '-' :: rest)

theorem mem_oneCharacter {characters word : List Char}
    : word ∈ (oneCharacter characters).matches'
      ↔ ∃ character ∈ characters, word = [character] := by
  induction characters with
  | nil => simp [oneCharacter]
  | cons first rest ih =>
      rw [oneCharacter, List.foldr_cons, ← oneCharacter, RegularExpression.matches'_add,
        Language.mem_add, ih, List.exists_mem_cons_iff]
      rfl

/-- A word is matched where it has characters, all of them known. -/
theorem mem_wordPattern {word : List Char}
    : word ∈ wordPattern.matches' ↔ word ≠ [] ∧ ∀ character ∈ word, character ∈ slugCharacters := by
  rw [wordPattern, RegularExpression.matches'_mul, RegularExpression.matches'_star,
    Language.mem_mul]
  constructor
  · rintro ⟨start, isStart, rest, ⟨parts, rfl, known⟩, rfl⟩
    obtain ⟨character, isKnown, rfl⟩ := mem_oneCharacter.mp isStart
    refine ⟨by simp, fun other mem => ?_⟩
    rcases List.mem_cons.mp mem with rfl | mem
    · exact isKnown
    · obtain ⟨part, listed, inside⟩ := List.mem_flatten.mp mem
      obtain ⟨only, onlyKnown, rfl⟩ := mem_oneCharacter.mp (known part listed)
      rwa [List.mem_singleton.mp inside]
  · rintro ⟨nonempty, known⟩
    obtain ⟨character, rest, rfl⟩ := List.exists_cons_of_ne_nil nonempty
    obtain ⟨isKnown, restKnown⟩ := List.forall_mem_cons.mp known
    refine ⟨[character], mem_oneCharacter.mpr ⟨character, isKnown, rfl⟩, rest, ?_, rfl⟩
    have single : rest = (rest.map fun other => [other]).flatten := by
      rw [← List.flatMap_def, List.flatMap_singleton']
    refine ⟨rest.map fun other => [other], single, fun part listed => ?_⟩
    obtain ⟨other, mem, rfl⟩ := List.mem_map.mp listed
    exact mem_oneCharacter.mpr ⟨other, restKnown other mem, rfl⟩

namespace IsSlug

variable {slug other : List Char}

theorem of_word {word : List Char} (nonempty : word ≠ [])
    (known : ∀ character ∈ word, character ∈ slugCharacters)
    : IsSlug word := by
  induction word with
  | nil => exact absurd rfl nonempty
  | cons character word ih =>
      obtain ⟨isKnown, wordKnown⟩ := List.forall_mem_cons.mp known
      by_cases ends : word = []
      · rw [ends]
        exact .last isKnown
      · exact .within isKnown (ih ends wordKnown)

/-- A known character can follow. -/
theorem concat (isSlug : IsSlug slug) {character : Char} (known : character ∈ slugCharacters)
    : IsSlug (slug ++ [character]) := by
  induction isSlug with
  | last first => exact .within first (.last known)
  | within first _ ih => exact .within first ih
  | dash first _ ih => exact .dash first ih

/-- A slug can follow behind a dash. -/
theorem append_dash (isSlug : IsSlug slug) (otherIsSlug : IsSlug other)
    : IsSlug (slug ++ '-' :: other) := by
  induction isSlug with
  | last first => exact .dash first otherIsSlug
  | within first _ ih => exact .within first ih
  | dash first _ ih => exact .dash first ih

theorem ne_nil (isSlug : IsSlug slug) : slug ≠ [] := by
  cases isSlug <;> simp

theorem mem_slugCharacters (isSlug : IsSlug slug)
    : ∀ character ∈ slug, character = '-' ∨ character ∈ slugCharacters := by
  induction isSlug with
  | last first => simpa using .inr first
  | within first _ ih => exact List.forall_mem_cons.mpr ⟨.inr first, ih⟩
  | dash first _ ih =>
      exact List.forall_mem_cons.mpr ⟨.inr first, List.forall_mem_cons.mpr ⟨.inl rfl, ih⟩⟩

/-- There is no dash at the end. -/
theorem getLast?_ne (isSlug : IsSlug slug) : ∀ last ∈ slug.getLast?, last ∈ slugCharacters := by
  induction isSlug with
  | last first => simpa using first
  | within first rest ih =>
      rw [List.getLast?_cons_of_ne_nil rest.ne_nil]
      exact ih
  | dash first rest ih =>
      rw [List.getLast?_cons_of_ne_nil (by simp), List.getLast?_cons_of_ne_nil rest.ne_nil]
      exact ih

/-- The slugs are the texts that the pattern matches. -/
theorem iff_mem_slugPattern : IsSlug slug ↔ slug ∈ slugPattern.matches' := by
  rw [slugPattern, RegularExpression.matches'_mul, RegularExpression.matches'_star,
    Language.mem_mul]
  constructor
  · intro isSlug
    induction isSlug with
    | @last character known =>
        refine ⟨[character], mem_wordPattern.mpr ⟨by simp, by simpa using known⟩, [], ?_, by simp⟩
        exact ⟨[], rfl, by simp⟩
    | @within character rest known _ ih =>
        obtain ⟨word, isWord, later, isLater, rfl⟩ := ih
        obtain ⟨-, wordKnown⟩ := mem_wordPattern.mp isWord
        refine ⟨character :: word, mem_wordPattern.mpr ⟨by simp, ?_⟩, later, isLater, rfl⟩
        exact List.forall_mem_cons.mpr ⟨known, wordKnown⟩
    | @dash character rest known _ ih =>
        obtain ⟨word, isWord, later, ⟨parts, rfl, dashed⟩, rfl⟩ := ih
        refine ⟨[character], mem_wordPattern.mpr ⟨by simp, by simpa using known⟩,
          (('-' :: word) :: parts).flatten, ⟨_, rfl, ?_⟩, by simp⟩
        refine List.forall_mem_cons.mpr ⟨?_, dashed⟩
        exact ⟨['-'], rfl, word, isWord, rfl⟩
  · rintro ⟨word, isWord, _, ⟨parts, rfl, dashed⟩, rfl⟩
    obtain ⟨nonempty, known⟩ := mem_wordPattern.mp isWord
    have start := of_word nonempty known
    -- the parts are attached one by one, from the last one
    induction parts using List.reverseRecOn with
    | nil => simpa using start
    | append_singleton parts part ih =>
        obtain ⟨front, isDash, rest, isRest, same⟩ := dashed part (by simp)
        obtain rfl : front = ['-'] := isDash
        obtain ⟨restNonempty, restKnown⟩ := mem_wordPattern.mp isRest
        rw [List.flatten_append, ← List.append_assoc, List.flatten_singleton, ← same]
        exact (ih fun other listed => dashed other (by simp [listed])).append_dash
          (of_word restNonempty restKnown)

end IsSlug

-----------------------------------------------------------------------------------------
-- Slugs of names
-----------------------------------------------------------------------------------------

theorem isAlphanum_of_mem_slugCharacters
    : ∀ character ∈ slugCharacters, character.isAlphanum = true :=
  List.all_iff_forall_prop.mp (by decide)

theorem toLowercase_of_mem_slug
    : ∀ character ∈ '-' :: slugCharacters, Text.toLowercase character = [character] :=
  List.all_iff_forall_prop.mp (by decide)

/-- No capital letters are left by lowering. -/
theorem mem_slugCharacters_of_lowered {character lowered : Char}
    (mem : lowered ∈ Text.toLowercase character) (alphanum : lowered.isAlphanum = true)
    : lowered ∈ slugCharacters := by
  have small : ∀ code < 123, 97 ≤ code ∨ 48 ≤ code ∧ code ≤ 57 →
      Char.ofNat code ∈ slugCharacters := by
    decide
  rw [Text.toLowercase] at mem
  split at mem
  · obtain rfl := List.mem_singleton.mp mem
    decide
  · split at mem
    · have letter : ∀ lowered ∈ ['i', Char.ofNat 0x307], lowered.isAlphanum = true →
          lowered ∈ slugCharacters :=
        List.all_iff_forall_prop.mp (by decide)
      exact letter lowered mem alphanum
    · obtain rfl := List.mem_singleton.mp mem
      have code := Text.toNat_toLower character
      have ranges : 65 ≤ character.toLower.toNat ∧ character.toLower.toNat ≤ 90
          ∨ 97 ≤ character.toLower.toNat ∧ character.toLower.toNat ≤ 122
          ∨ 48 ≤ character.toLower.toNat ∧ character.toLower.toNat ≤ 57 := by
        simp only [Char.isAlphanum, Char.isAlpha, Char.isUpper, Char.isLower, Char.isDigit,
          Bool.or_eq_true, Bool.and_eq_true, decide_eq_true_eq, ge_iff_le,
          UInt32.le_iff_toNat_le] at alphanum
        rcases alphanum with (⟨lower, upper⟩ | ⟨lower, upper⟩) | ⟨lower, upper⟩
        · exact .inl ⟨lower, upper⟩
        · exact .inr (.inl ⟨lower, upper⟩)
        · exact .inr (.inr ⟨lower, upper⟩)
      have known := small character.toLower.toNat (by split at code <;> omega)
        (by split at code <;> omega)
      rwa [Char.ofNat_toNat] at known

/-- What has been collected of a name: words with single dashes between them, and perhaps one
more dash.
-/
inductive Progress : List Char × Bool → Prop
  | empty : Progress ([], false)
  | words {slug} (isSlug : IsSlug slug) : Progress (slug, false)
  | dashed {slug} (isSlug : IsSlug slug) : Progress (slug ++ ['-'], true)

/-- Each character of a lowered name keeps the words apart by single dashes. -/
theorem Progress.step {progress : List Char × Bool} (collected : Progress progress)
    {character : Char}
    (known : character.isAlphanum = true → character ∈ slugCharacters)
    : Progress (slugStep progress character) := by
  cases alphanum : character.isAlphanum with
  | true =>
      have isKnown := known alphanum
      cases collected with
      | empty => simpa [slugStep, alphanum] using .words (.last isKnown)
      | words isSlug => simpa [slugStep, alphanum] using .words (isSlug.concat isKnown)
      | dashed isSlug =>
          simpa [slugStep, alphanum] using .words (isSlug.append_dash (.last isKnown))
  | false =>
      cases collected with
      | empty => simpa [slugStep, alphanum] using Progress.empty
      | words isSlug =>
          simpa [slugStep, alphanum, isSlug.ne_nil] using Progress.dashed isSlug
      | dashed isSlug => simpa [slugStep, alphanum] using Progress.dashed isSlug

theorem Progress.foldl {characters : List Char} {progress : List Char × Bool}
    (collected : Progress progress)
    (known : ∀ character ∈ characters,
      character.isAlphanum = true → character ∈ slugCharacters)
    : Progress (characters.foldl slugStep progress) := by
  induction characters generalizing progress with
  | nil => exact collected
  | cons character rest ih =>
      obtain ⟨first, others⟩ := List.forall_mem_cons.mp known
      exact ih (collected.step first) others

/-- A slug does not end in a dash. -/
theorem IsSlug.rdropWhile_eq_self {slug : List Char} (isSlug : IsSlug slug)
    : slug.rdropWhile (· == '-') = slug := by
  have different : ∀ character ∈ slugCharacters, (character == '-') = false :=
    List.all_iff_forall_prop.mp (by decide)
  exact Text.rdropWhile_eq_self fun last mem => different last (isSlug.getLast?_ne last mem)

/-- Without its last dashes, what has been collected is a slug or nothing. -/
theorem Progress.rdropWhile {progress : List Char × Bool} (collected : Progress progress)
    : progress.1.rdropWhile (· == '-') = [] ∨ IsSlug (progress.1.rdropWhile (· == '-')) := by
  cases collected with
  | empty => exact .inl rfl
  | words isSlug =>
      rw [isSlug.rdropWhile_eq_self]
      exact .inr isSlug
  | dashed isSlug =>
      rw [List.rdropWhile_concat_pos _ _ _ (by simp), isSlug.rdropWhile_eq_self]
      exact .inr isSlug

theorem isSlug_slugOf {name : String} (nonempty : slugOf name ≠ "")
    : IsSlug (slugOf name).toList := by
  have collected : Progress ((name.toList.flatMap Text.toLowercase).foldl slugStep ([], false)) := by
    refine Progress.empty.foldl fun character mem alphanum => ?_
    obtain ⟨original, -, lowered⟩ := List.mem_flatMap.mp mem
    exact mem_slugCharacters_of_lowered lowered alphanum
  rcases collected.rdropWhile with none | isSlug
  · rw [slugOf, none] at nonempty
    exact absurd rfl nonempty
  · rwa [slugOf, String.toList_ofList]

/-- A slug is collected as it is, by induction over it. -/
theorem IsSlug.foldl_slugStep {slug : List Char} (isSlug : IsSlug slug)
    (collected : List Char) (previousDash : Bool)
    : slug.foldl slugStep (collected, previousDash) = (collected ++ slug, false) := by
  have letters := isAlphanum_of_mem_slugCharacters
  have noLetter : ('-').isAlphanum = false := by decide
  induction isSlug generalizing collected previousDash with
  | @last character known => simp [slugStep, letters character known]
  | @within character rest known _ ih => simp [slugStep, letters character known, ih]
  | @dash character rest known _ ih => simp [slugStep, letters character known, noLetter, ih]

/-- A slug is its own slug. -/
theorem slugOf_of_isSlug {slug : String} (isSlug : IsSlug slug.toList) : slugOf slug = slug := by
  have lowered : slug.toList.flatMap Text.toLowercase = slug.toList := by
    rw [List.flatMap_congr fun character mem => toLowercase_of_mem_slug character
      (List.mem_cons.mpr (isSlug.mem_slugCharacters character mem)), List.flatMap_singleton']
  have collected := isSlug.foldl_slugStep [] false
  rw [slugOf, lowered, collected, List.nil_append, isSlug.rdropWhile_eq_self,
    String.ofList_toList]

/-- A letter or digit stays in what is collected, by induction over the rest of the name. -/
theorem mem_foldl_slugStep {characters : List Char} {progress : List Char × Bool}
    {character : Char} (mem : character ∈ progress.1)
    : character ∈ (characters.foldl slugStep progress).1 := by
  induction characters generalizing progress with
  | nil => exact mem
  | cons next rest ih =>
      apply ih
      rw [slugStep]
      split_ifs <;> simp [mem]

theorem slugOf_eq_empty_iff {name : String}
    : slugOf name = ""
      ↔ ∀ character ∈ name.toList.flatMap Text.toLowercase, character.isAlphanum = false := by
  constructor
  · intro empty character mem
    by_contra alphanum
    rw [Bool.not_eq_false] at alphanum
    obtain ⟨before, after, split⟩ := List.append_of_mem mem
    have kept : character ∈ ((name.toList.flatMap Text.toLowercase).foldl slugStep ([], false)).1 := by
      rw [split, List.foldl_append, List.foldl_cons]
      apply mem_foldl_slugStep
      simp [slugStep, alphanum]
    have other : (character == '-') = false := by
      rw [beq_eq_false_iff_ne]
      rintro rfl
      cases alphanum
    have inSlug : character ∈ (slugOf name).toList := by
      rw [slugOf, String.toList_ofList]
      exact Text.mem_rdropWhile kept other
    rw [empty] at inSlug
    cases inSlug
  · intro none
    have nothing (characters : List Char)
        (none : ∀ character ∈ characters, character.isAlphanum = false)
        : characters.foldl slugStep ([], false) = ([], false) := by
      induction characters with
      | nil => rfl
      | cons character rest ih =>
          obtain ⟨first, others⟩ := List.forall_mem_cons.mp none
          simpa [slugStep, first] using ih others
    rw [slugOf, nothing _ none]
    rfl

-----------------------------------------------------------------------------------------
-- The lowering of other characters
-----------------------------------------------------------------------------------------

/-- A lowering differs only in what it makes of characters without ASCII letters or digits in
their lower case.
-/
def LowersAlike (lowercase : Char → List Char) : Prop :=
  ∀ character, lowercase character = Text.toLowercase character
    ∨ lowercase character ≠ []
      ∧ ∀ lowered ∈ lowercase character ++ Text.toLowercase character,
          lowered.isAlphanum = false

/-- A stretch without letters and digits is as good as one dash, by induction over it. -/
theorem foldl_slugStep_of_forall {characters : List Char} (nonempty : characters ≠ [])
    (others : ∀ character ∈ characters, character.isAlphanum = false)
    (progress : List Char × Bool)
    : characters.foldl slugStep progress = slugStep progress '-' := by
  have noLetter : ('-').isAlphanum = false := by decide
  induction characters generalizing progress with
  | nil => exact absurd rfl nonempty
  | cons character rest ih =>
      obtain ⟨first, restOthers⟩ := List.forall_mem_cons.mp others
      have same : slugStep progress character = slugStep progress '-' := by
        simp [slugStep, first, noLetter]
      rw [List.foldl_cons, same]
      by_cases ends : rest = []
      · rw [ends, List.foldl_nil]
      · rw [ih ends restOthers]
        simp only [slugStep, noLetter]
        split_ifs <;> simp_all

/-- Slugs do not depend on how other characters are lowered. -/
theorem foldl_slugStep_of_lowersAlike {lowercase : Char → List Char}
    (alike : LowersAlike lowercase) (characters : List Char) (progress : List Char × Bool)
    : (characters.flatMap lowercase).foldl slugStep progress
        = (characters.flatMap Text.toLowercase).foldl slugStep progress := by
  induction characters generalizing progress with
  | nil => rfl
  | cons character rest ih =>
      rw [List.flatMap_cons, List.flatMap_cons, List.foldl_append, List.foldl_append, ih]
      rcases alike character with same | ⟨nonempty, others⟩
      · rw [same]
      · obtain ⟨first, second⟩ := List.forall_mem_append.mp others
        have lowers : Text.toLowercase character ≠ [] := by
          rw [Text.toLowercase]
          split_ifs <;> simp
        rw [foldl_slugStep_of_forall nonempty first, foldl_slugStep_of_forall lowers second]

-----------------------------------------------------------------------------------------
-- The three implementations
-----------------------------------------------------------------------------------------

/-- The slugs of organizations, of spaces and of channels. -/
def slugifies : List (String → Option String) :=
  [fun name => (OrganizationService.slugify name).toOption,
    fun name => (SpaceService.slugify name).toOption,
    fun name => (ChannelService.slugify name).toOption]

theorem toOption_slugifyOr {ε : Type} (message name : String) (lift : String → ε)
    : ((slugifyOr message name).mapError lift).toOption
        = if slugOf name = "" then none else some (slugOf name) := by
  rw [slugifyOr]
  split <;> rfl

theorem slugify_eq {slugify : String → Option String} (listed : slugify ∈ slugifies)
    (name : String)
    : slugify name = if slugOf name = "" then none else some (slugOf name) := by
  simp only [slugifies, List.mem_cons, List.not_mem_nil, or_false] at listed
  rcases listed with rfl | rfl | rfl
  all_goals exact toOption_slugifyOr _ name _

/-- A slug matches the pattern and is its own slug; there is none exactly for names that have
no ASCII letter or digit when lowered; and all implementations agree.
-/
theorem slugify_canonical (name : String) {slugify : String → Option String}
    (listed : slugify ∈ slugifies)
    : (∀ slug, slugify name = some slug →
        slug.toList ∈ slugPattern.matches' ∧ slugify slug = some slug)
      ∧ (slugify name = none
          ↔ ∀ character ∈ name.toList.flatMap Text.toLowercase, character.isAlphanum = false)
      ∧ ∀ other ∈ slugifies, other name = slugify name := by
  refine ⟨?_, ?_, fun other otherListed => ?_⟩
  · intro slug found
    rw [slugify_eq listed] at found
    split at found
    · cases found
    · next nonempty =>
        obtain rfl := Option.some.inj found
        have isSlug := isSlug_slugOf nonempty
        refine ⟨IsSlug.iff_mem_slugPattern.mp isSlug, ?_⟩
        rw [slugify_eq listed, slugOf_of_isSlug isSlug, if_neg nonempty]
  · rw [slugify_eq listed, ← slugOf_eq_empty_iff]
    split <;> simp_all
  · rw [slugify_eq listed, slugify_eq otherListed]

/-- The Kelvin sign is lowered to a letter. -/
theorem kelvin_canonical
    : "273-kelvin".toList ∈ slugPattern.matches'
        ∧ (OrganizationService.slugify "273-kelvin").toOption = some "273-kelvin" :=
  (slugify_canonical " 273 -- \u212Aelvin!" List.mem_cons_self).1 "273-kelvin" (by decide)

end OpenCord.Tenancy

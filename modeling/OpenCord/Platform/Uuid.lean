import OpenCord.Library.Hex

/-! Identifiers of stored records and their text forms. -/

namespace OpenCord.Platform

open OpenCord.Library

/-- A 128-bit identifier. -/
structure Uuid where
  bits : BitVec 128
  deriving DecidableEq

namespace Uuid

/-- The identifier with a given numeric value, modulo its width. -/
def ofNat (value : Nat) : Uuid := ⟨BitVec.ofNat 128 value⟩

/-- The thirty-two digits of an identifier. -/
def hexDigits (uuid : Uuid) : List Char := Hex.digits 32 uuid.bits.toNat

/-- The text of an identifier without hyphens. -/
def simple (uuid : Uuid) : String := String.ofList uuid.hexDigits

/-- Digits grouped with hyphens after the 8th, 12th, 16th and 20th. -/
def hyphenate (digits : List Char) : List Char :=
  digits.take 8 ++ '-' :: (digits.drop 8).take 4 ++ '-' :: (digits.drop 12).take 4
    ++ '-' :: (digits.drop 16).take 4 ++ '-' :: digits.drop 20

protected def toString (uuid : Uuid) : String := String.ofList (hyphenate uuid.hexDigits)

/-- The digits of a hyphenated text. -/
def unhyphenate (characters : List Char) : Option (List Char) :=
  if characters.length = 36 ∧ characters[8]? = some '-' ∧ characters[13]? = some '-'
      ∧ characters[18]? = some '-' ∧ characters[23]? = some '-' then
    some (characters.take 8 ++ (characters.drop 9).take 4 ++ (characters.drop 14).take 4
      ++ (characters.drop 19).take 4 ++ characters.drop 24)
  else
    none

def parseSimple (characters : List Char) : Option Uuid :=
  (Hex.read characters).map ofNat

def parseHyphenated (characters : List Char) : Option Uuid := do
  let digits ← unhyphenate characters
  parseSimple digits

/-- Reads the simple, hyphenated, braced and URN forms, told apart by their length. -/
def parseStr (text : String) : Option Uuid :=
  let characters := text.toList
  match characters.length with
  | 32 => parseSimple characters
  | 36 => parseHyphenated characters
  | 38 =>
      if characters.head? = some '{' ∧ characters.getLast? = some '}' then
        parseHyphenated (characters.drop 1).dropLast
      else
        none
  | 45 =>
      if "urn:uuid:".toList.isPrefixOf characters then
        parseHyphenated (characters.drop 9)
      else
        none
  | _ => none

@[simp] theorem length_hexDigits (uuid : Uuid) : uuid.hexDigits.length = 32 :=
  Hex.length_digits 32 _

/-- The digits of an identifier read back as the identifier. -/
theorem parseSimple_hexDigits (uuid : Uuid) : parseSimple uuid.hexDigits = some uuid := by
  have fits : uuid.bits.toNat < 16 ^ 32 := uuid.bits.isLt
  rw [parseSimple, hexDigits, Hex.read_digits fits]
  simp [ofNat]

/-- Different identifiers have different texts without hyphens. -/
theorem simple_injective : Function.Injective simple := by
  intro left right same
  have parsed := parseSimple_hexDigits left
  rw [String.ofList_injective same, parseSimple_hexDigits] at parsed
  exact (Option.some.inj parsed).symm

theorem length_hyphenate {digits : List Char} (full : digits.length = 32)
    : (hyphenate digits).length = 36 := by
  simp [hyphenate, full]

/-- Hyphens that were put in are found and taken out. -/
theorem unhyphenate_hyphenate {digits : List Char} (full : digits.length = 32)
    : unhyphenate (hyphenate digits) = some digits := by
  obtain ⟨first, second, third, fourth, last, rfl, lengths⟩ :
      ∃ first second third fourth last : List Char,
        digits = first ++ (second ++ (third ++ (fourth ++ last)))
          ∧ first.length = 8 ∧ second.length = 4 ∧ third.length = 4 ∧ fourth.length = 4
          ∧ last.length = 12 := by
    refine ⟨digits.take 8, (digits.drop 8).take 4, (digits.drop 12).take 4,
      (digits.drop 16).take 4, digits.drop 20, ?_, ?_⟩
    · have parts : ∀ start width, (digits.drop start).take width ++ digits.drop (start + width)
          = digits.drop start := by
        intro start width
        rw [← List.drop_drop, List.take_append_drop]
      rw [parts 16 4, parts 12 4, parts 8 4, List.take_append_drop]
    · simp [full]
  obtain ⟨h1, h2, h3, h4, h5⟩ := lengths
  have hyphenated : hyphenate (first ++ (second ++ (third ++ (fourth ++ last))))
      = first ++ '-' :: second ++ '-' :: third ++ '-' :: fourth ++ '-' :: last := by
    simp (disch := omega) [hyphenate, List.drop_append, List.drop_eq_nil_of_le, h1, h2, h3]
  rw [hyphenated, unhyphenate]
  simp (disch := omega) [List.drop_append, List.drop_eq_nil_of_le, List.getElem?_append_right,
    List.getElem?_cons_zero, h1, h2, h3, h4, h5]

/-- The text of an identifier reads back as the identifier. -/
@[simp] theorem parseStr_toString (uuid : Uuid) : parseStr uuid.toString = some uuid := by
  have full := length_hexDigits uuid
  rw [parseStr, Uuid.toString, String.toList_ofList, length_hyphenate full]
  simp only [parseHyphenated, unhyphenate_hyphenate full, Option.bind_eq_bind,
    Option.bind_some, parseSimple_hexDigits]

/-- Different identifiers have different texts. -/
theorem toString_injective : Function.Injective Uuid.toString := by
  intro left right same
  have parsed := parseStr_toString left
  rw [same, parseStr_toString] at parsed
  exact (Option.some.inj parsed).symm

end Uuid

end OpenCord.Platform

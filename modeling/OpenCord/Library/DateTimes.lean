import Mathlib.Data.Prod.Lex
import OpenCord.Library.Calendar

/-! Instants to the nanosecond, and their texts to the second and to the millisecond. In the
years 0 to 9999 the texts are ordered as the instants, cut off at the precision of the text.
-/

namespace OpenCord.Library

/-- The minutes from the start of the year 1970, and the nanoseconds from the start of the
minute. A minute may have a leap second behind its sixty seconds.
-/
@[ext] structure DateTime where
  minutes : Int
  nanos : Nat
  nanos_lt : nanos < 61 * 1000000000
  deriving DecidableEq

namespace DateTime

def key (time : DateTime) : Int ×ₗ Nat := toLex (time.minutes, time.nanos)

theorem key_injective : Function.Injective key := by
  intro first second same
  have pairs := toLex.injective same
  exact DateTime.ext (congrArg Prod.fst pairs) (congrArg Prod.snd pairs)

/-- Instants are ordered in time. -/
instance : LinearOrder DateTime := LinearOrder.lift' key key_injective

theorem lt_iff {first second : DateTime}
    : first < second ↔ first.minutes < second.minutes
        ∨ first.minutes = second.minutes ∧ first.nanos < second.nanos :=
  Prod.Lex.toLex_lt_toLex

-----------------------------------------------------------------------------------------
-- Cutting off
-----------------------------------------------------------------------------------------

/-- The instant without what is left of a unit of nanoseconds. -/
def truncated (unit : Nat) (time : DateTime) : DateTime where
  minutes := time.minutes
  nanos := time.nanos / unit * unit
  nanos_lt := Nat.lt_of_le_of_lt (Nat.div_mul_le_self ..) time.nanos_lt

def wholeSecond (time : DateTime) : DateTime := time.truncated 1000000000

def wholeMilli (time : DateTime) : DateTime := time.truncated 1000000

theorem truncated_lt_truncated {unit : Nat} (positive : 0 < unit) {first second : DateTime}
    : first.truncated unit < second.truncated unit
      ↔ first.minutes < second.minutes
        ∨ first.minutes = second.minutes ∧ first.nanos / unit < second.nanos / unit := by
  rw [lt_iff]
  simp only [truncated, Nat.mul_lt_mul_right positive]

theorem truncated_le {unit : Nat} (time : DateTime) : time.truncated unit ≤ time := by
  refine le_of_not_gt fun less => ?_
  rw [lt_iff] at less
  have kept : time.nanos / unit * unit ≤ time.nanos := Nat.div_mul_le_self ..
  simp only [truncated] at less
  omega

theorem truncated_mono {unit : Nat} (positive : 0 < unit) : Monotone (truncated unit) := by
  intro first second earlier
  refine le_of_not_gt fun less => ?_
  rw [truncated_lt_truncated positive] at less
  refine absurd earlier (not_le_of_gt (lt_iff.mpr ?_))
  rcases less with minute | ⟨same, nanos⟩
  · exact .inl minute
  · exact .inr ⟨same, Nat.lt_of_div_lt_div nanos⟩

theorem truncated_truncated {unit : Nat} (positive : 0 < unit) (time : DateTime)
    : (time.truncated unit).truncated unit = time.truncated unit := by
  refine DateTime.ext rfl ?_
  simp only [truncated]
  rw [Nat.mul_div_cancel _ positive]

/-- A whole unit that has started by some instant has started by the unit of the instant. -/
theorem truncated_le_truncated_iff {unit : Nat} (positive : 0 < unit) {first second : DateTime}
    : first.truncated unit ≤ second.truncated unit ↔ first.truncated unit ≤ second := by
  refine ⟨fun earlier => earlier.trans second.truncated_le, fun earlier => ?_⟩
  have kept := truncated_mono positive earlier
  rwa [truncated_truncated positive] at kept

-----------------------------------------------------------------------------------------
-- The years 0 to 9999
-----------------------------------------------------------------------------------------

open Calendar Timestamp

def yearZero : Int := -(daysBeforeYear 1970 * 1440 : Nat)

def yearTenThousand : Int := (daysBeforeYear 10000 * 1440 : Nat) + yearZero

/-- The instant lies in the years 0 to 9999. -/
def InYears (time : DateTime) : Prop :=
  yearZero ≤ time.minutes ∧ time.minutes < yearTenThousand

instance (time : DateTime) : Decidable time.InYears :=
  inferInstanceAs (Decidable (_ ∧ _))

/-- The milliseconds from the start of the year 0 to a minute. -/
def millisOfMinute (minutes : Int) : Nat := (minutes - yearZero).toNat * 60000

theorem InYears.millisOfMinute_lt {time : DateTime} (inYears : time.InYears)
    : millisOfMinute time.minutes < millisInRange := by
  obtain ⟨lower, upper⟩ := inYears
  rw [yearTenThousand] at upper
  rw [millisOfMinute, millisInRange, millisPerDay]
  omega

/-- The year, the month, the day, the hour and the minute. -/
def minuteFields (minutes : Int) : List Nat :=
  if inRange : millisOfMinute minutes < millisInRange then
    let start := ofMillis (millisOfMinute minutes) inRange
    [start.year, start.month, start.day, start.hour, start.minute]
  else
    []

/-- A minute starts with no seconds. -/
theorem ofMillis_millisOfMinute {minutes : Int}
    (inRange : millisOfMinute minutes < millisInRange)
    : (ofMillis (millisOfMinute minutes) inRange).second = 0
        ∧ (ofMillis (millisOfMinute minutes) inRange).millisecond = 0 := by
  have ofDay : (ofMillis (millisOfMinute minutes) inRange).second
        = millisOfMinute minutes % 86400000 / 1000 % 60
      ∧ (ofMillis (millisOfMinute minutes) inRange).millisecond
        = millisOfMinute minutes % 86400000 % 1000 :=
    ⟨rfl, rfl⟩
  rw [ofDay.1, ofDay.2, millisOfMinute]
  omega

/-- The start of a minute as a timestamp, which has no seconds. -/
theorem InYears.minuteFields_append {time : DateTime} (inYears : time.InYears)
    : ∃ start : Timestamp, start.fields = minuteFields time.minutes ++ [0, 0]
        ∧ (start.millis : Int) = (time.minutes - yearZero) * 60000 := by
  have inRange := inYears.millisOfMinute_lt
  refine ⟨ofMillis (millisOfMinute time.minutes) inRange, ?_, ?_⟩
  · rw [minuteFields, dif_pos inRange, fields, (ofMillis_millisOfMinute inRange).1,
      (ofMillis_millisOfMinute inRange).2]
    rfl
  · rw [millis_ofMillis, millisOfMinute]
    have := inYears.1
    omega

/-- Minutes are ordered as their fields. -/
theorem InYears.minuteFields_lt_iff {first second : DateTime} (firstInYears : first.InYears)
    (secondInYears : second.InYears)
    : minuteFields first.minutes < minuteFields second.minutes
      ↔ first.minutes < second.minutes := by
  obtain ⟨firstStart, firstFields, firstMillis⟩ := firstInYears.minuteFields_append
  obtain ⟨secondStart, secondFields, secondMillis⟩ := secondInYears.minuteFields_append
  have sameLength : (minuteFields first.minutes).length
      = (minuteFields second.minutes).length := by
    have lengths : firstStart.fields.length = secondStart.fields.length := rfl
    rw [firstFields, secondFields, List.length_append, List.length_append] at lengths
    exact Nat.add_right_cancel lengths
  have ordered := @fields_lt_fields firstStart secondStart
  rw [firstFields, secondFields, Decimals.append_lt_append_iff sameLength] at ordered
  simp only [List.lt_irrefl, and_false, or_false] at ordered
  rw [ordered]
  omega

theorem InYears.minuteFields_inj {first second : DateTime} (firstInYears : first.InYears)
    (secondInYears : second.InYears)
    : minuteFields first.minutes = minuteFields second.minutes
      ↔ first.minutes = second.minutes := by
  refine ⟨fun same => ?_, fun same => by rw [same]⟩
  have notLess := (firstInYears.minuteFields_lt_iff secondInYears).not
  have notGreater := (secondInYears.minuteFields_lt_iff firstInYears).not
  rw [same] at notLess notGreater
  have := notLess.mp (List.lt_irrefl _)
  have := notGreater.mp (List.lt_irrefl _)
  omega

-----------------------------------------------------------------------------------------
-- Texts
-----------------------------------------------------------------------------------------

def minuteLayout : List (Nat × Char) := [(4, '-'), (2, '-'), (2, 'T'), (2, ':'), (2, ':')]

/-- The text of the minute of an instant, up to the colon behind it. -/
def minuteText (time : DateTime) : List Char :=
  Decimals.layOut minuteLayout (minuteFields time.minutes)

/-- The text of an instant to the second, as in `2026-06-24T09:00:00Z`. -/
def secondsText (time : DateTime) : String :=
  String.ofList (time.minuteText
    ++ Decimals.layOut [(2, 'Z')] [time.nanos / 1000000000])

/-- The text of an instant to the millisecond, as in `2026-06-24T09:00:00.000Z`. -/
def millisText (time : DateTime) : String :=
  String.ofList (time.minuteText
    ++ Decimals.layOut [(2, '.'), (3, 'Z')]
      [time.nanos / 1000000000, time.nanos % 1000000000 / 1000000])

theorem InYears.minuteFields_fit {time : DateTime} (inYears : time.InYears)
    : Decimals.Fits minuteLayout (minuteFields time.minutes) := by
  have inRange := inYears.millisOfMinute_lt
  rw [minuteFields, dif_pos inRange]
  have fits := (ofMillis (millisOfMinute time.minutes) inRange).fields_fit
  simp only [Decimals.Fits, fields, layout, List.forall₂_cons] at fits
  simp only [Decimals.Fits, minuteLayout, List.forall₂_cons]
  exact ⟨fits.1, fits.2.1, fits.2.2.1, fits.2.2.2.1, fits.2.2.2.2.1, .nil⟩

/-- The text of an instant starts with a digit. -/
theorem InYears.minuteText_eq_cons {time : DateTime} (inYears : time.InYears)
    : ∃ value rest, time.minuteText = Decimals.digit value :: rest ∧ value < 10 := by
  have inRange := inYears.millisOfMinute_lt
  rw [minuteText, minuteFields, dif_pos inRange]
  exact ⟨_, _, rfl, Nat.mod_lt _ (by decide)⟩

/-- Behind the text of the minute, the texts are compared where the minutes are the same. -/
theorem InYears.minuteText_append_lt_iff {first second : DateTime}
    (firstInYears : first.InYears) (secondInYears : second.InYears)
    {firstRest secondRest : List Char}
    : String.ofList (first.minuteText ++ firstRest)
        < String.ofList (second.minuteText ++ secondRest)
      ↔ first.minutes < second.minutes
        ∨ first.minutes = second.minutes ∧ firstRest < secondRest := by
  have sameLength : first.minuteText.length = second.minuteText.length := by
    rw [minuteText, minuteText, Decimals.length_layOut firstInYears.minuteFields_fit,
      Decimals.length_layOut secondInYears.minuteFields_fit]
  rw [String.lt_iff, String.toList_ofList, String.toList_ofList,
    Decimals.append_lt_append_iff sameLength, minuteText, minuteText,
    Decimals.layOut_lt_layOut firstInYears.minuteFields_fit secondInYears.minuteFields_fit,
    Decimals.layOut_inj firstInYears.minuteFields_fit secondInYears.minuteFields_fit,
    firstInYears.minuteFields_lt_iff secondInYears, firstInYears.minuteFields_inj secondInYears]

theorem secondsText_lt_secondsText {first second : DateTime} (firstInYears : first.InYears)
    (secondInYears : second.InYears)
    : first.secondsText < second.secondsText ↔ first.wholeSecond < second.wholeSecond := by
  have fits (time : DateTime) : Decimals.Fits [(2, 'Z')] [time.nanos / 1000000000] := by
    have := time.nanos_lt
    refine .cons ?_ .nil
    dsimp only
    omega
  rw [secondsText, secondsText, firstInYears.minuteText_append_lt_iff secondInYears,
    Decimals.layOut_lt_layOut (fits first) (fits second), wholeSecond, wholeSecond,
    truncated_lt_truncated (by decide)]
  simp [List.cons_lt_cons_iff]

theorem millisText_lt_millisText {first second : DateTime} (firstInYears : first.InYears)
    (secondInYears : second.InYears)
    : first.millisText < second.millisText ↔ first.wholeMilli < second.wholeMilli := by
  have fits (time : DateTime) : Decimals.Fits [(2, '.'), (3, 'Z')]
      [time.nanos / 1000000000, time.nanos % 1000000000 / 1000000] := by
    have := time.nanos_lt
    refine .cons ?_ (.cons ?_ .nil)
    all_goals
      dsimp only
      omega
  rw [millisText, millisText, firstInYears.minuteText_append_lt_iff secondInYears,
    Decimals.layOut_lt_layOut (fits first) (fits second), wholeMilli, wholeMilli,
    truncated_lt_truncated (by decide)]
  simp only [List.cons_lt_cons_iff, List.lt_irrefl, and_false, or_false]
  omega

/-- An instant and its text to the millisecond are the same, in the years 0 to 9999. -/
structure WrittenAs (time : DateTime) (text : String) : Prop where
  inYears : time.InYears
  whole : time.wholeMilli = time
  millisText : time.millisText = text

theorem millisText_wholeMilli (time : DateTime)
    : time.wholeMilli.millisText = time.millisText := by
  have seconds : time.wholeMilli.nanos / 1000000000 = time.nanos / 1000000000 := by
    simp only [wholeMilli, truncated]
    omega
  have millis : time.wholeMilli.nanos % 1000000000 / 1000000
      = time.nanos % 1000000000 / 1000000 := by
    simp only [wholeMilli, truncated]
    omega
  rw [millisText, millisText, seconds, millis]
  rfl

theorem InYears.writtenAs {time : DateTime} (inYears : time.InYears)
    : time.wholeMilli.WrittenAs time.millisText :=
  ⟨inYears, truncated_truncated (by decide) time, millisText_wholeMilli time⟩

namespace WrittenAs

variable {first second : DateTime} {firstText secondText : String}

/-- Texts to the millisecond are ordered as their instants. -/
theorem lt_iff (firstWritten : first.WrittenAs firstText)
    (secondWritten : second.WrittenAs secondText)
    : firstText < secondText ↔ first < second := by
  rw [← firstWritten.millisText, ← secondWritten.millisText,
    millisText_lt_millisText firstWritten.inYears secondWritten.inYears, firstWritten.whole,
    secondWritten.whole]

theorem le_iff (firstWritten : first.WrittenAs firstText)
    (secondWritten : second.WrittenAs secondText)
    : firstText ≤ secondText ↔ first ≤ second := by
  rw [← String.not_lt, secondWritten.lt_iff firstWritten, not_lt]

end WrittenAs

/-- The instant of a text lies between the instants of two others, or is one of them. -/
def IsBetween (startText finishText text : String) : Prop :=
  ∃ start time finish, WrittenAs start startText ∧ WrittenAs time text
    ∧ WrittenAs finish finishText ∧ start ≤ time ∧ time ≤ finish

/-- Between two times are the texts that are between their texts. -/
theorem isBetween_iff {start time finish : DateTime} {startText text finishText : String}
    (startWritten : start.WrittenAs startText) (written : time.WrittenAs text)
    (finishWritten : finish.WrittenAs finishText)
    : IsBetween startText finishText text ↔ startText ≤ text ∧ text ≤ finishText := by
  constructor
  · intro between
    obtain ⟨_, _, _, startAlso, also, finishAlso, notBefore, notAfter⟩ := between
    exact ⟨(startAlso.le_iff also).mpr notBefore, (also.le_iff finishAlso).mpr notAfter⟩
  · intro between
    exact ⟨start, time, finish, startWritten, written, finishWritten,
      (startWritten.le_iff written).mp between.1, (written.le_iff finishWritten).mp between.2⟩

/-- A text that starts with a sign comes before the text of an instant. -/
theorem InYears.sign_lt {time : DateTime} (inYears : time.InYears) {sign : Char}
    (isSign : sign = '+' ∨ sign = '-') {rest : List Char} {text : String}
    (signed : text.toList = sign :: rest)
    : text < time.secondsText := by
  obtain ⟨value, later, starts, small⟩ := inYears.minuteText_eq_cons
  have below : ∀ value < 10, '+' < Decimals.digit value ∧ '-' < Decimals.digit value := by
    decide
  rw [String.lt_iff, signed, secondsText, String.toList_ofList, starts, List.cons_append,
    List.cons_lt_cons_iff]
  rcases isSign with rfl | rfl
  · exact .inl (below value small).1
  · exact .inl (below value small).2

end DateTime

end OpenCord.Library

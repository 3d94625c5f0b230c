import Mathlib.Data.List.Lex
import OpenCord.Library.Decimals

/-! The Gregorian calendar from the year 0 to the year 9999, and timestamps of its milliseconds
in UTC. The order of the texts of timestamps is the order in time.
-/

namespace OpenCord.Library

-----------------------------------------------------------------------------------------
-- Stretches that follow one another
-----------------------------------------------------------------------------------------

namespace Stretches

variable {start amount : Nat → Nat}

/-- A stretch ends before a later one starts, by induction on the distance. -/
theorem end_le_start (step : ∀ index, start (index + 1) = start index + amount index)
    {first second : Nat} (less : first < second)
    : start first + amount first ≤ start second := by
  induction second with
  | zero => cases less
  | succ second ih =>
      rcases Nat.lt_succ_iff_lt_or_eq.mp less with earlier | same
      · have := ih earlier
        have := step second
        omega
      · rw [same, step]

/-- The stretch that an offset falls into, from a stretch on, and the offset within it. -/
def locate (amount : Nat → Nat) : Nat → Nat → Nat → Nat × Nat
  | 0, index, offset => (index, offset)
  | fuel + 1, index, offset =>
      if offset < amount index then (index, offset)
      else locate amount fuel (index + 1) (offset - amount index)

/-- An offset before the last start is located in its stretch, by induction over the fuel. -/
theorem locate_spec (step : ∀ index, start (index + 1) = start index + amount index)
    (fuel index offset : Nat) (inRange : start index + offset < start (index + fuel))
    : start (locate amount fuel index offset).1 + (locate amount fuel index offset).2
          = start index + offset
        ∧ (locate amount fuel index offset).2 < amount (locate amount fuel index offset).1
        ∧ index ≤ (locate amount fuel index offset).1
        ∧ (locate amount fuel index offset).1 < index + fuel := by
  induction fuel generalizing index offset with
  | zero => rw [Nat.add_zero] at inRange; omega
  | succ fuel ih =>
      rw [locate]
      split
      · next fits => exact ⟨rfl, fits, Nat.le_refl _, by omega⟩
      · next later =>
          have next := step index
          have moved : start (index + 1) + (offset - amount index)
              < start (index + 1 + fuel) := by
            rw [Nat.add_right_comm index 1 fuel]
            rw [← Nat.add_assoc] at inRange
            omega
          obtain ⟨sum, fits, lower, upper⟩ := ih (index + 1) (offset - amount index) moved
          exact ⟨by omega, fits, by omega, by omega⟩

end Stretches

-----------------------------------------------------------------------------------------
-- Years and months
-----------------------------------------------------------------------------------------

namespace Calendar

def isLeapYear (year : Nat) : Bool :=
  year % 4 = 0 ∧ (year % 100 ≠ 0 ∨ year % 400 = 0)

def daysInYear (year : Nat) : Nat := if isLeapYear year then 366 else 365

def daysInMonth (year : Nat) : Nat → Nat
  | 1 | 3 | 5 | 7 | 8 | 10 | 12 => 31
  | 4 | 6 | 9 | 11 => 30
  | 2 => if isLeapYear year then 29 else 28
  | _ => 0

/-- The days from the start of the year 0 to the start of a year. -/
def daysBeforeYear (year : Nat) : Nat :=
  365 * year + (year + 3) / 4 - (year + 99) / 100 + (year + 399) / 400

/-- The days from the start of a year to the start of a month of it. -/
def daysBeforeMonth (year : Nat) : Nat → Nat
  | 0 => 0
  | month + 1 => daysBeforeMonth year month + daysInMonth year month

theorem daysBeforeYear_succ (year : Nat)
    : daysBeforeYear (year + 1) = daysBeforeYear year + daysInYear year := by
  -- a leap day is counted behind its year, so each count grows at a multiple of its period
  have quarters : (year + 1 + 3) / 4 = (year + 3) / 4 + if year % 4 = 0 then 1 else 0 := by
    split <;> omega
  have centuries
      : (year + 1 + 99) / 100 = (year + 99) / 100 + if year % 100 = 0 then 1 else 0 := by
    split <;> omega
  have cycles
      : (year + 1 + 399) / 400 = (year + 399) / 400 + if year % 400 = 0 then 1 else 0 := by
    split <;> omega
  have fewer : (year + 99) / 100 ≤ 365 * year := by omega
  have century : year % 100 = 0 → year % 4 = 0 := by omega
  have cycle : year % 400 = 0 → year % 100 = 0 := by omega
  simp only [daysInYear, isLeapYear, daysBeforeYear, quarters, centuries, cycles,
    decide_eq_true_eq]
  generalize (year + 3) / 4 = leaps, (year + 99) / 100 = hundreds,
    (year + 399) / 400 = fourHundreds at *
  split_ifs <;> omega

theorem daysBeforeMonth_succ (year month : Nat)
    : daysBeforeMonth year (month + 1) = daysBeforeMonth year month + daysInMonth year month :=
  rfl

theorem daysInMonth_le (year month : Nat) : daysInMonth year month ≤ 31 := by
  rw [daysInMonth.eq_def]
  split
  all_goals first | decide | split <;> decide

/-- Twelve months make a year. -/
theorem daysBeforeMonth_thirteen (year : Nat) : daysBeforeMonth year 13 = daysInYear year := by
  rw [daysInYear]
  simp only [daysBeforeMonth, daysInMonth]
  split <;> rfl

end Calendar

open Calendar

/-- A millisecond of the years 0 to 9999. -/
structure Timestamp where
  year : Nat
  month : Nat
  day : Nat
  hour : Nat
  minute : Nat
  second : Nat
  millisecond : Nat
  year_lt : year < 10000
  one_le_month : 1 ≤ month
  month_le : month ≤ 12
  one_le_day : 1 ≤ day
  day_le : day ≤ daysInMonth year month
  hour_lt : hour < 24
  minute_lt : minute < 60
  second_lt : second < 60
  millisecond_lt : millisecond < 1000

namespace Timestamp

/-- The days from the start of the year 0. -/
def dayNumber (timestamp : Timestamp) : Nat :=
  daysBeforeYear timestamp.year + daysBeforeMonth timestamp.year timestamp.month
    + (timestamp.day - 1)

def millisOfDay (timestamp : Timestamp) : Nat :=
  ((timestamp.hour * 60 + timestamp.minute) * 60 + timestamp.second) * 1000
    + timestamp.millisecond

def millisPerDay : Nat := 86400000

/-- The milliseconds from the start of the year 0. -/
def millis (timestamp : Timestamp) : Nat :=
  timestamp.dayNumber * millisPerDay + timestamp.millisOfDay

/-- The milliseconds from the start of the year 1970. -/
def epochMillis (timestamp : Timestamp) : Int :=
  (timestamp.millis : Int) - (daysBeforeYear 1970 * millisPerDay : Nat)

def fields (timestamp : Timestamp) : List Nat :=
  [timestamp.year, timestamp.month, timestamp.day, timestamp.hour, timestamp.minute,
    timestamp.second, timestamp.millisecond]

def layout : List (Nat × Char) :=
  [(4, '-'), (2, '-'), (2, 'T'), (2, ':'), (2, ':'), (2, '.'), (3, 'Z')]

/-- The text of a timestamp, as in `2026-06-24T09:00:00.000Z`. -/
protected def toString (timestamp : Timestamp) : String :=
  String.ofList (Decimals.layOut layout timestamp.fields)

-----------------------------------------------------------------------------------------
-- The order in time
-----------------------------------------------------------------------------------------

theorem millisOfDay_lt (timestamp : Timestamp) : timestamp.millisOfDay < millisPerDay := by
  have := timestamp.hour_lt
  have := timestamp.minute_lt
  have := timestamp.second_lt
  have := timestamp.millisecond_lt
  rw [millisOfDay, millisPerDay]
  omega

/-- A day lies in its month. -/
theorem dayOfYear_lt (timestamp : Timestamp)
    : daysBeforeMonth timestamp.year timestamp.month + (timestamp.day - 1)
        < daysBeforeMonth timestamp.year timestamp.month
          + daysInMonth timestamp.year timestamp.month := by
  have := timestamp.one_le_day
  have := timestamp.day_le
  omega

/-- A day lies in its year. -/
theorem dayNumber_lt (timestamp : Timestamp)
    : timestamp.dayNumber < daysBeforeYear timestamp.year + daysInYear timestamp.year := by
  have inMonth := timestamp.dayOfYear_lt
  have monthEnd := Stretches.end_le_start (daysBeforeMonth_succ timestamp.year)
    (Nat.lt_succ_of_le timestamp.month_le)
  rw [daysBeforeMonth_thirteen] at monthEnd
  rw [dayNumber]
  omega

theorem dayNumber_lt_of_year_lt {first second : Timestamp} (less : first.year < second.year)
    : first.dayNumber < second.dayNumber := by
  have inYear := first.dayNumber_lt
  have yearEnd := Stretches.end_le_start daysBeforeYear_succ less
  rw [dayNumber] at inYear
  rw [dayNumber, dayNumber]
  omega

theorem dayNumber_lt_of_month_lt {first second : Timestamp} (sameYear : first.year = second.year)
    (less : first.month < second.month)
    : first.dayNumber < second.dayNumber := by
  have inMonth := first.dayOfYear_lt
  have monthEnd := Stretches.end_le_start (daysBeforeMonth_succ first.year) less
  rw [dayNumber, dayNumber, ← sameYear]
  omega

theorem dayNumber_lt_of_day_lt {first second : Timestamp} (sameYear : first.year = second.year)
    (sameMonth : first.month = second.month) (less : first.day < second.day)
    : first.dayNumber < second.dayNumber := by
  have := first.one_le_day
  rw [dayNumber, dayNumber, sameYear, sameMonth]
  omega

theorem millis_lt_of_dayNumber_lt {first second : Timestamp}
    (less : first.dayNumber < second.dayNumber)
    : first.millis < second.millis := by
  have ofDay := first.millisOfDay_lt
  rw [millis, millis]
  rw [millisPerDay] at *
  omega

/-- A timestamp with smaller fields is earlier; by cases of the first field that is smaller. -/
theorem millis_lt_of_fields_lt {first second : Timestamp} (less : first.fields < second.fields)
    : first.millis < second.millis := by
  simp only [fields, List.cons_lt_cons_iff, List.lt_irrefl, and_false, or_false] at less
  rcases less with year | ⟨year, month | ⟨month, day | ⟨day, time⟩⟩⟩
  · exact millis_lt_of_dayNumber_lt (dayNumber_lt_of_year_lt year)
  · exact millis_lt_of_dayNumber_lt (dayNumber_lt_of_month_lt year month)
  · exact millis_lt_of_dayNumber_lt (dayNumber_lt_of_day_lt year month day)
  · have sameDay : first.dayNumber = second.dayNumber := by
      rw [dayNumber, dayNumber, year, month, day]
    have := first.minute_lt
    have := first.second_lt
    have := first.millisecond_lt
    rw [millis, millis, sameDay, millisOfDay, millisOfDay]
    omega

theorem fields_fit (timestamp : Timestamp) : Decimals.Fits layout timestamp.fields := by
  have day := Nat.le_trans timestamp.day_le (daysInMonth_le timestamp.year timestamp.month)
  have := timestamp.year_lt
  have := timestamp.month_le
  have := timestamp.hour_lt
  have := timestamp.minute_lt
  have := timestamp.second_lt
  have := timestamp.millisecond_lt
  refine .cons ?_ (.cons ?_ (.cons ?_ (.cons ?_ (.cons ?_ (.cons ?_ (.cons ?_ .nil))))))
  all_goals
    dsimp only
    omega

theorem fields_lt_fields {first second : Timestamp}
    : first.fields < second.fields ↔ first.millis < second.millis := by
  constructor
  · exact millis_lt_of_fields_lt
  · intro less
    rcases lt_trichotomy first.fields second.fields with smaller | same | greater
    · exact smaller
    · simp only [fields, List.cons.injEq, and_true] at same
      obtain ⟨year, month, day, hour, minute, second, millisecond⟩ := same
      rw [millis, millis, dayNumber, dayNumber, millisOfDay, millisOfDay, year, month, day, hour,
        minute, second, millisecond] at less
      exact absurd less (Nat.lt_irrefl _)
    · exact absurd (millis_lt_of_fields_lt greater) (Nat.lt_asymm less)

/-- The texts of timestamps are ordered as the timestamps are in time. -/
theorem toString_lt_toString {first second : Timestamp}
    : first.toString < second.toString ↔ first.epochMillis < second.epochMillis := by
  rw [Timestamp.toString, Timestamp.toString, String.lt_iff, String.toList_ofList,
    String.toList_ofList, Decimals.layOut_lt_layOut first.fields_fit second.fields_fit,
    fields_lt_fields, epochMillis, epochMillis]
  omega

-----------------------------------------------------------------------------------------
-- The timestamp of a millisecond
-----------------------------------------------------------------------------------------

/-- The milliseconds of the years 0 to 9999. -/
def millisInRange : Nat := daysBeforeYear 10000 * millisPerDay

/-- The year of a day, and the days since it started. -/
def yearAt (day : Nat) : Nat × Nat := Stretches.locate daysInYear 10000 0 day

/-- The month of a day of a year, and the days since it started. -/
def monthAt (year day : Nat) : Nat × Nat := Stretches.locate (daysInMonth year) 12 1 day

theorem yearAt_spec {day : Nat} (inRange : day < daysBeforeYear 10000)
    : daysBeforeYear (yearAt day).1 + (yearAt day).2 = day
        ∧ (yearAt day).2 < daysInYear (yearAt day).1 ∧ (yearAt day).1 < 10000 := by
  have start : daysBeforeYear 0 = 0 := rfl
  obtain ⟨sum, inYear, _, upper⟩ := Stretches.locate_spec daysBeforeYear_succ 10000 0 day
    (by rwa [start, Nat.zero_add, Nat.zero_add])
  rw [start, Nat.zero_add] at sum
  exact ⟨sum, inYear, Nat.zero_add 10000 ▸ upper⟩

theorem monthAt_spec {year day : Nat} (inYear : day < daysInYear year)
    : daysBeforeMonth year (monthAt year day).1 + (monthAt year day).2 = day
        ∧ (monthAt year day).2 < daysInMonth year (monthAt year day).1
        ∧ 1 ≤ (monthAt year day).1 ∧ (monthAt year day).1 ≤ 12 := by
  have start : daysBeforeMonth year 1 = 0 := rfl
  obtain ⟨sum, inMonth, lower, upper⟩ :=
    Stretches.locate_spec (daysBeforeMonth_succ year) 12 1 day
      (by rwa [start, Nat.zero_add, daysBeforeMonth_thirteen])
  rw [start, Nat.zero_add] at sum
  exact ⟨sum, inMonth, lower, Nat.lt_succ_iff.mp upper⟩

theorem day_lt_of_inRange {millis : Nat} (inRange : millis < millisInRange)
    : millis / millisPerDay < daysBeforeYear 10000 :=
  (Nat.div_lt_iff_lt_mul (by decide)).mpr inRange

/-- The timestamp of a millisecond, counted from the start of the year 0. -/
def ofMillis (millis : Nat) (inRange : millis < millisInRange) : Timestamp :=
  let year := yearAt (millis / millisPerDay)
  let month := monthAt year.1 year.2
  let ofDay := millis % millisPerDay
  have located := yearAt_spec (day_lt_of_inRange inRange)
  have inYear := monthAt_spec located.2.1
  have small : ofDay < millisPerDay := Nat.mod_lt _ (by decide)
  { year := year.1
    month := month.1
    day := month.2 + 1
    hour := ofDay / 3600000
    minute := ofDay / 60000 % 60
    second := ofDay / 1000 % 60
    millisecond := ofDay % 1000
    year_lt := located.2.2
    one_le_month := inYear.2.2.1
    month_le := inYear.2.2.2
    one_le_day := Nat.le_add_left 1 _
    day_le := inYear.2.1
    hour_lt := by rw [millisPerDay] at small; omega
    minute_lt := Nat.mod_lt _ (by decide)
    second_lt := Nat.mod_lt _ (by decide)
    millisecond_lt := Nat.mod_lt _ (by decide) }

theorem millis_ofMillis (millis : Nat) (inRange : millis < millisInRange)
    : (ofMillis millis inRange).millis = millis := by
  obtain ⟨yearSum, inYear, _⟩ := yearAt_spec (day_lt_of_inRange inRange)
  obtain ⟨monthSum, _⟩ := monthAt_spec inYear
  have days : (ofMillis millis inRange).dayNumber = millis / millisPerDay := by
    simp only [dayNumber, ofMillis]
    omega
  have ofDay : (ofMillis millis inRange).millisOfDay = millis % millisPerDay := by
    simp only [millisOfDay, ofMillis]
    omega
  rw [Timestamp.millis, days, ofDay, Nat.mul_comm]
  exact Nat.div_add_mod millis millisPerDay

/-- A millisecond of the epoch that has a timestamp. -/
def InRange (epochMillis : Int) : Prop :=
  0 ≤ epochMillis + (daysBeforeYear 1970 * millisPerDay : Nat)
    ∧ epochMillis + (daysBeforeYear 1970 * millisPerDay : Nat) < (millisInRange : Nat)

/-- Every millisecond of the years 0 to 9999 has its timestamp. -/
theorem exists_of_inRange {millis : Int} (inRange : InRange millis)
    : ∃ timestamp : Timestamp, timestamp.epochMillis = millis := by
  obtain ⟨lower, upper⟩ := inRange
  obtain ⟨count, same⟩ := Int.eq_ofNat_of_zero_le lower
  have small : count < millisInRange := by omega
  refine ⟨ofMillis count small, ?_⟩
  rw [epochMillis, millis_ofMillis]
  omega

-----------------------------------------------------------------------------------------
-- Printing
-----------------------------------------------------------------------------------------

theorem millis_lt_millisInRange (timestamp : Timestamp) : timestamp.millis < millisInRange := by
  have inYear := timestamp.dayNumber_lt
  have yearEnd := Stretches.end_le_start daysBeforeYear_succ timestamp.year_lt
  have ofDay := timestamp.millisOfDay_lt
  have fits : timestamp.dayNumber + 1 ≤ daysBeforeYear 10000 := by omega
  have days := Nat.mul_le_mul_right millisPerDay fits
  rw [Nat.succ_mul] at days
  rw [millis, millisInRange]
  omega

/-- A millisecond has one text. -/
theorem toString_eq_toString {first second : Timestamp}
    (same : first.epochMillis = second.epochMillis)
    : first.toString = second.toString := by
  refine String.le_antisymm (String.not_lt.mp fun less => ?_) (String.not_lt.mp fun less => ?_)
  · exact absurd (toString_lt_toString.mp less) (by omega)
  · exact absurd (toString_lt_toString.mp less) (by omega)

/-- The text of a millisecond of the epoch. -/
def print (epochMillis : Int) : String :=
  let millis := (epochMillis + (daysBeforeYear 1970 * millisPerDay : Nat)).toNat
  if inRange : millis < millisInRange then (ofMillis millis inRange).toString else ""

theorem print_epochMillis (timestamp : Timestamp)
    : print timestamp.epochMillis = timestamp.toString := by
  have same : (timestamp.epochMillis + (daysBeforeYear 1970 * millisPerDay : Nat)).toNat
      = timestamp.millis := by
    rw [epochMillis]
    omega
  rw [print]
  simp only [same]
  rw [dif_pos timestamp.millis_lt_millisInRange]
  refine toString_eq_toString ?_
  rw [epochMillis, millis_ofMillis, epochMillis]

end Timestamp

end OpenCord.Library

import Mathlib.Order.Lattice

/-! Instants as nanoseconds since the start of the year 1970, within the years that the calendar
library covers, and their forms in whole milliseconds.
-/

namespace OpenCord.Library

namespace Instant

/-- The first instant of the year -262143. -/
def earliest : Int := -8334601228800000000000

/-- The last instant of the year 262142. -/
def latest : Int := 8210266876799999999999

end Instant

@[ext] structure Instant where
  nanos : Int
  earliest_le : Instant.earliest ≤ nanos
  le_latest : nanos ≤ Instant.latest
  deriving DecidableEq

namespace Instant

theorem nanos_injective : Function.Injective nanos := fun _ _ same => Instant.ext same

/-- Instants are ordered in time. -/
instance : LinearOrder Instant := LinearOrder.lift' nanos nanos_injective

/-- The whole seconds from an earlier instant; from a later one they count down. -/
def secondsSince (time earlier : Instant) : Int :=
  (time.nanos - earlier.nanos).tdiv 1000000000

-----------------------------------------------------------------------------------------
-- Milliseconds
-----------------------------------------------------------------------------------------

def millis (time : Instant) : Int := time.nanos / 1000000

/-- The instant at some milliseconds, if the calendar covers it. -/
def ofMillis (millis : Int) : Option Instant :=
  if covered : earliest ≤ millis * 1000000 ∧ millis * 1000000 ≤ latest then
    some ⟨millis * 1000000, covered.1, covered.2⟩
  else
    none

theorem earliest_le_millis (time : Instant) : earliest ≤ time.millis * 1000000 := by
  have bound := time.earliest_le
  simp only [earliest, millis] at bound ⊢
  omega

theorem millis_le (time : Instant) : time.millis * 1000000 ≤ time.nanos := by
  simp only [millis]
  omega

/-- The instant without what is left of a millisecond. -/
def wholeMilli (time : Instant) : Instant :=
  ⟨time.millis * 1000000, time.earliest_le_millis, time.millis_le.trans time.le_latest⟩

theorem wholeMilli_le (time : Instant) : time.wholeMilli ≤ time := time.millis_le

/-- Milliseconds of an instant are read back as the instant without the rest. -/
theorem ofMillis_millis (time : Instant) : ofMillis time.millis = some time.wholeMilli :=
  dif_pos ⟨time.earliest_le_millis, time.millis_le.trans time.le_latest⟩

end Instant

end OpenCord.Library

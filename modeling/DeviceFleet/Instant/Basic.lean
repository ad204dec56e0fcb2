import DeviceFleet.Instant.Calendar

/-! Points in time, in UTC, to the nanosecond, in the years of the calendar. A leap
second is the second after the last of its minute: it has the number of that second and
a nanosecond count past a whole second. -/

namespace DeviceFleet

namespace Instant

/-- The first and the last year of the calendar of times. -/
def minYear : Int := -262143
def maxYear : Int := 262142

/-- The first second of the calendar, and the first after its end. -/
def firstSecond : Int := Calendar.yearStart minYear * 86400
def endSecond : Int := Calendar.yearStart (maxYear + 1) * 86400

end Instant

structure Instant where
  /-- Seconds since 1970. -/
  seconds : Int
  nanos : Nat
  wellFormed : nanos < 1000000000 ∨ seconds % 60 = 59 ∧ nanos < 2000000000
  inCalendar : Instant.firstSecond ≤ seconds ∧ seconds < Instant.endSecond
  deriving DecidableEq

namespace Instant

def of? (seconds : Int) (nanos : Nat) : Option Instant :=
  if h : nanos < 1000000000 ∨ seconds % 60 = 59 ∧ nanos < 2000000000 then
    if hc : firstSecond ≤ seconds ∧ seconds < endSecond then some ⟨seconds, nanos, h, hc⟩
    else none
  else none

/-- The second of the calendar that is nearest to the given one. -/
def nearest (s : Int) : Int := max firstSecond (min s (endSecond - 1))

theorem nearest_mem (s : Int) : firstSecond ≤ nearest s ∧ nearest s < endSecond := by
  have : firstSecond < endSecond := by decide
  simp only [nearest]
  omega

/-- The instant so many milliseconds after 1970, in the nearest second of the calendar. -/
def ofMillis (ms : Int) : Instant where
  seconds := nearest (ms / 1000)
  nanos := (ms % 1000).toNat * 1000000
  wellFormed := .inl (by omega)
  inCalendar := nearest_mem _

/-- The instant so many nanoseconds after 1970, in the nearest second of the calendar. -/
def ofNanos (ns : Int) : Instant where
  seconds := nearest (ns / 1000000000)
  nanos := (ns % 1000000000).toNat
  wellFormed := .inl (by omega)
  inCalendar := nearest_mem _

def day (t : Instant) : Int := t.seconds / 86400
def secondOfDay (t : Instant) : Int := t.seconds % 86400

def isLeapSecond (t : Instant) : Bool := 1000000000 ≤ t.nanos

def before (a b : Instant) : Bool :=
  a.seconds < b.seconds || (a.seconds = b.seconds && a.nanos < b.nanos)

/-- Nanoseconds from `a` to `b`. A leap second counts where it lies between the two in
the course of a day. -/
def since (b a : Instant) : Int :=
  let counted : Int :=
    if a.secondOfDay < b.secondOfDay then if a.isLeapSecond then 1 else 0
    else if b.secondOfDay < a.secondOfDay then if b.isLeapSecond then -1 else 0
    else 0
  (b.seconds - a.seconds + counted) * 1000000000 + ((b.nanos : Int) - a.nanos)

end Instant

end DeviceFleet

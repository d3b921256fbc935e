import LiveTemplate.Calendar.Date

/-!
# Moments

A moment is an instant of universal time together with the zone in which it is read. Nanoseconds of
a whole second and more belong to a leap second, which is read as a second that lasts longer.
-/

namespace LiveTemplate.Calendar

/-- Where a clock is read: in universal time by name, or at a fixed offset from it in seconds. -/
inductive Zone where
  | universal
  | fixed (offset : Int)
  deriving DecidableEq, Repr

/-- How many seconds the clocks of a zone are ahead of universal time. -/
def Zone.offset : Zone → Int
  | .universal => 0
  | .fixed offset => offset

/-- An instant and the zone in which it is read. -/
structure Moment where
  /-- Whole seconds of universal time since the first of January 1970. -/
  seconds : Int
  /-- The nanoseconds beyond them; a leap second has a thousand million and more. -/
  nanoseconds : Nat
  zone : Zone
  deriving DecidableEq, Repr

namespace Moment

/-- The moment that comes nanoseconds later on a clock without leap seconds. -/
def later (m : Moment) (nanoseconds : Nat) : Moment :=
  { m with
    seconds := m.seconds + ((m.nanoseconds + nanoseconds) / 1000000000 : Nat)
    nanoseconds := (m.nanoseconds + nanoseconds) % 1000000000 }

def universal (m : Moment) : Moment := { m with zone := .universal }

def offset (m : Moment) : Int := m.zone.offset

/-- Whole seconds of local time since the first of January 1970. -/
def localSeconds (m : Moment) : Int := m.seconds + m.offset

def date (m : Moment) : Date := Date.ofDays (m.localSeconds / 86400)

def secondOfDay (m : Moment) : Nat := (m.localSeconds % 86400).toNat

def hour (m : Moment) : Nat := m.secondOfDay / 3600

/-- The local hour on the dial of a twelve-hour clock. -/
def hourOnDial (m : Moment) : Nat := (m.hour + 11) % 12 + 1

def isAfternoon (m : Moment) : Bool := 12 ≤ m.hour

def minute (m : Moment) : Nat := m.secondOfDay / 60 % 60

def second (m : Moment) : Nat := m.secondOfDay % 60

/-- The nanoseconds of the second, those of a leap second starting again from zero. -/
def fraction (m : Moment) : Nat := m.nanoseconds % 1000000000

/-- The local second, where a leap second is counted as one more. -/
def countedSecond (m : Moment) : Nat := m.second + m.nanoseconds / 1000000000

end Moment

end LiveTemplate.Calendar

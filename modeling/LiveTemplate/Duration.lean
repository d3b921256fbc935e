import LiveTemplate.Number.Binary64

/-!
# Durations

A duration is a whole number of nanoseconds whose seconds fit into 64 bits. A number of seconds
becomes a duration when it is not negative and below `2 ^ 64`; it is rounded once, from its exact
value, to the nearest nanosecond, an exact half to the even one.
-/

namespace LiveTemplate

open Number

/-- A span of time, in nanoseconds. -/
structure Duration where
  nanoseconds : Nat
  deriving DecidableEq, Repr, Inhabited

namespace Duration

def perSecond : Nat := 1000000000

def perMillisecond : Nat := 1000000

/-- The least number of nanoseconds that is too long for a duration. -/
def limit : Nat := Nat.pow 2 64 * perSecond

def seconds (d : Duration) : Nat := d.nanoseconds / perSecond

/-- The nanoseconds beyond the whole seconds. -/
def subsecond (d : Duration) : Nat := d.nanoseconds % perSecond

def ofMilliseconds (n : Nat) : Duration := ⟨n * perMillisecond⟩

/-- The least whole number of milliseconds that is not shorter than a duration. -/
def ceilMilliseconds (d : Duration) : Nat := (d.nanoseconds + perMillisecond - 1) / perMillisecond

def max (a b : Duration) : Duration := ⟨Nat.max a.nanoseconds b.nanoseconds⟩

def ofSeconds? : Binary64 → Option Duration
  | .nan => none
  | .infinity _ => none
  | .finite negative m e =>
    if negative && m != 0 then none
    else
      let value := Binary64.ratio (m * perSecond) e
      let total := roundHalfEven value.1 value.2
      if total < limit then some ⟨total⟩ else none

end Duration

end LiveTemplate

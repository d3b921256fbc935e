import LiveTemplate.Number.Rounding

/-!
# Binary floating-point numbers of 64 bits

Numbers are exact: a finite one is a sign, a significand and an exponent, and arithmetic is
arithmetic of quotients followed by one rounding to the nearest representable number, an exact half
going to the even significand. Nothing depends on a machine's floating-point unit.
-/

namespace LiveTemplate.Number

/-- A number of the 64-bit binary format. The value of `finite negative m e` is `m * 2 ^ e` with its
sign. -/
inductive Binary64 where
  | nan
  | infinity (negative : Bool)
  | finite (negative : Bool) (significand : Nat) (exponent : Int)
  deriving DecidableEq, Repr, Inhabited

namespace Binary64

/-! ## The format -/

/-- The least exponent; significands below `2 ^ 52` occur with this exponent only. -/
def minExponent : Int := -1074

def maxExponent : Int := 971

def zero (negative : Bool) : Binary64 := .finite negative 0 minExponent

/-- The encoding in 64 bits; every number that is not a number is encoded as one quiet pattern. -/
def bits : Binary64 → Nat
  | .nan => 0x7FF8 * Nat.pow 2 48
  | .infinity negative => negative.toNat * Nat.pow 2 63 + 0x7FF * Nat.pow 2 52
  | .finite negative m e =>
    negative.toNat * Nat.pow 2 63 +
      if m < Nat.pow 2 52 then m else (e + 1075).toNat * Nat.pow 2 52 + (m - Nat.pow 2 52)

/-! ## Rounding -/

/-- Puts a rounded significand into the format, carrying into the exponent or overflowing. -/
def normalize (negative : Bool) (m : Nat) (e : Int) : Binary64 :=
  if m = Nat.pow 2 53 then
    if maxExponent < e + 1 then .infinity negative else .finite negative (Nat.pow 2 52) (e + 1)
  else if maxExponent < e then .infinity negative else .finite negative m e

/-- The exponent at which a positive quotient has its significand. -/
def exponentOf (num den : Nat) : Int := max (binaryOrder num den - 52) minExponent

/-- The number nearest to a quotient. -/
def ofRatio (negative : Bool) (num den : Nat) : Binary64 :=
  if num = 0 then zero negative
  else
    let e := exponentOf num den
    let scaled := dividedByPower 2 num den e
    normalize negative (roundHalfEven scaled.1 scaled.2) e

def ofNat (n : Nat) : Binary64 := ofRatio false n 1

/-! ## Arithmetic -/

def neg : Binary64 → Binary64
  | .nan => .nan
  | .infinity negative => .infinity !negative
  | .finite negative m e => .finite (!negative) m e

/-- The value of a significand and an exponent as a quotient. -/
def ratio (m : Nat) (e : Int) : Nat × Nat := dividedByPower 2 m 1 (-e)

/-- Product, rounded once. -/
def mul : Binary64 → Binary64 → Binary64
  | .finite s m e, .finite t n f =>
    let value := ratio (m * n) (e + f)
    ofRatio (s != t) value.1 value.2
  | .finite s m _, .infinity t => if m = 0 then .nan else .infinity (s != t)
  | .infinity s, .finite t n _ => if n = 0 then .nan else .infinity (s != t)
  | .infinity s, .infinity t => .infinity (s != t)
  | _, _ => .nan

/-- Quotient, rounded once. -/
def div : Binary64 → Binary64 → Binary64
  | .finite s m e, .finite t n f =>
    if n = 0 then if m = 0 then .nan else .infinity (s != t)
    else
      let value := dividedByPower 2 m n (f - e)
      ofRatio (s != t) value.1 value.2
  | .finite s _ _, .infinity t => zero (s != t)
  | .infinity s, .finite t _ _ => .infinity (s != t)
  | _, _ => .nan

def isInfinite : Binary64 → Bool
  | .infinity _ => true
  | _ => false

def isZero : Binary64 → Bool
  | .finite _ 0 _ => true
  | _ => false

end Binary64

end LiveTemplate.Number

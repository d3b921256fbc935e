import LiveTemplate.Number.Literal

/-!
# Numerals of documents

A numeral is a sign, digits without a leading zero, a fraction and an exponent. Its digits are
gathered into a significand of 64 bits; digits of the whole part that do not fit raise the exponent,
and digits of the fraction that do not fit are left out. The significand is rounded and then
multiplied or divided by one power of ten, so that the result is near the exact value but need not
be the nearest number.
-/

namespace LiveTemplate.Document

open Number

structure Numeral where
  negative : Bool
  whole : List Char
  fraction : List Char
  /-- The sign and the digits of the exponent. -/
  exponent? : Option (Bool × List Char)

/-! ## Reading -/

/-- A row of digits that is not empty, and what follows. -/
def takeDigits? (text : List Char) : Option (List Char × List Char) :=
  let digits := text.takeWhile isDigit
  if digits.isEmpty then none else some (digits, text.dropWhile isDigit)

/-- The whole part, which begins with a zero only if it is zero. -/
def takeWhole? (text : List Char) : Option (List Char × List Char) :=
  (takeDigits? text).filter fun taken ↦ taken.1.head? ≠ some '0' || taken.1.length = 1

def takeFraction? : List Char → Option (List Char × List Char)
  | '.' :: rest => takeDigits? rest
  | text => some ([], text)

def takeExponent? : List Char → Option (Option (Bool × List Char) × List Char)
  | c :: rest =>
    if c = 'e' ∨ c = 'E' then
      let (negative, digits) := takeSign rest
      (takeDigits? digits).map fun taken ↦ (some (negative, taken.1), taken.2)
    else some (none, c :: rest)
  | [] => some (none, [])

def takeNumeral? (text : List Char) : Option (Numeral × List Char) := do
  let (negative, text) :=
    match text with
    | '-' :: rest => (true, rest)
    | text => (false, text)
  let (whole, text) ← takeWhole? text
  let (fraction, text) ← takeFraction? text
  let (exponent?, text) ← takeExponent? text
  return (⟨negative, whole, fraction, exponent?⟩, text)

/-! ## Value -/

def maxSignificand : Nat := Nat.pow 2 64 - 1

/-- Appends digits to a number as long as it stays within the greatest significand, and counts those
that are left. -/
def gather : Nat → List Char → Nat × Nat
  | value, [] => (value, 0)
  | value, c :: rest =>
    let next := 10 * value + (digitValue? c).getD 0
    if maxSignificand < next then (value, rest.length + 1) else gather next rest

/-- The greatest power of ten by which a number is multiplied or divided at once. -/
def maxPower : Nat := 308

def powerOfTen (exponent : Nat) : Binary64 := ofDecimal false 1 1 exponent

/-- A number divided by a power of ten, in several steps if the power is too great for one. -/
def divideByPower (value : Binary64) (exponent : Nat) : Binary64 :=
  if exponent ≤ maxPower then value.div (powerOfTen exponent)
  else if value.isZero then value
  else divideByPower (value.div (powerOfTen maxPower)) (exponent - maxPower)
termination_by exponent
decreasing_by simp only [maxPower] at *; omega

/-- A number multiplied by a power of ten, unless the product is too large. -/
def multiplyByPower? (value : Binary64) (exponent : Nat) : Option Binary64 :=
  if value.isZero then some value
  else if exponent ≤ maxPower then
    (some (value.mul (powerOfTen exponent))).filter fun product ↦ !product.isInfinite
  else none

namespace Numeral

def writtenExponent (numeral : Numeral) : Int :=
  match numeral.exponent? with
  | none => 0
  | some (negative, digits) => if negative then -(ofDigits digits : Int) else ofDigits digits

/-- The number that a numeral denotes, unless it is too large. -/
def value? (numeral : Numeral) : Option Binary64 :=
  let (whole, left) := gather 0 numeral.whole
  let (significand, ignored) := gather whole numeral.fraction
  let places : Int := numeral.fraction.length - ignored
  let exponent := numeral.writtenExponent + left - places
  let magnitude :=
    if 0 ≤ exponent then multiplyByPower? (.ofNat significand) exponent.natAbs
    else some (divideByPower (.ofNat significand) exponent.natAbs)
  magnitude.map fun value ↦ if numeral.negative then value.neg else value

end Numeral

end LiveTemplate.Document

import LiveTemplate.Number.Binary64

/-!
# Shortest decimal text

A finite number is written with the fewest decimal digits that read back as the same number; among
those, the digits nearest to it, an exact tie going up. The text is positional: there is no exponent
and no point without digits behind it.
-/

namespace LiveTemplate.Number

/-! ## Digits -/

/-- The decimals that read back as `m * 2 ^ e`, as a range in quarters of `2 ^ e`, and whether its
ends belong to it. -/
structure ReadBack where
  low : Nat
  value : Nat
  high : Nat
  inclusive : Bool

/-- The range around a positive number. The gap below a power of two is half as wide, except at the
least exponent. -/
def ReadBack.of (m : Nat) (e : Int) : ReadBack where
  low := if m = Nat.pow 2 52 ∧ Binary64.minExponent < e then 4 * m - 1 else 4 * m - 2
  value := 4 * m
  high := 4 * m + 2
  inclusive := m % 2 = 0

/-- Whether a decimal lies in the range, both measured on one scale. -/
def ReadBack.holds (range : ReadBack) (unit decimal : Nat) : Bool :=
  if range.inclusive then range.low * unit ≤ decimal && decimal ≤ range.high * unit
  else range.low * unit < decimal && decimal < range.high * unit

/-- A decimal `coefficient * 10 ^ exponent`. -/
structure Decimal where
  coefficient : Nat
  exponent : Int

/-- The decimal with the given exponent that reads back and lies nearest, if there is one. -/
def nearestAt (m : Nat) (e : Int) (exponent : Int) : Option Decimal :=
  let range := ReadBack.of m e
  let binary := Binary64.ratio 1 (e - 2)
  let step := dividedByPower 10 binary.2 1 (-exponent)
  let unit := binary.1 * step.2
  let below := range.value * unit / step.1
  let hitBelow := range.holds unit (below * step.1)
  let hitAbove := range.holds unit ((below + 1) * step.1)
  let preferAbove := (range.value * unit - below * step.1) * 2 ≥ step.1
  if hitAbove && (preferAbove || !hitBelow) then some ⟨below + 1, exponent⟩
  else if hitBelow then some ⟨below, exponent⟩
  else none

/-- The shortest decimal that reads back as a positive number. Seventeen digits always suffice; the
place above the leading digit comes first, for a number just below a power of ten. -/
def shortest (m : Nat) (e : Int) : Decimal :=
  let value := Binary64.ratio m e
  let order := decimalOrder value.1 value.2
  ((List.range 18).findSome? fun (n : Nat) ↦ nearestAt m e (order + 1 - n)).getD ⟨0, 0⟩

/-! ## Text -/

def Decimal.positional (d : Decimal) : List Char :=
  let digits := Nat.toDigits 10 d.coefficient
  if 0 ≤ d.exponent then digits ++ List.replicate d.exponent.toNat '0'
  else
    let places := (-d.exponent).toNat
    if places < digits.length then
      digits.take (digits.length - places) ++ '.' :: digits.drop (digits.length - places)
    else '0' :: '.' :: List.replicate (places - digits.length) '0' ++ digits

def Binary64.text : Binary64 → String
  | .nan => "NaN"
  | .infinity negative => if negative then "-inf" else "inf"
  | .finite negative m e =>
    (if negative then "-" else "") ++
      if m = 0 then "0" else String.ofList (shortest m e).positional

end LiveTemplate.Number

/-!
# Rounding of quotients

A quotient of natural numbers is rounded to the nearest natural number. A quotient exactly between
two of them goes to the even one. The second definition gives the position of a quotient's leading
binary and decimal digit.
-/

namespace LiveTemplate.Number

/-- The natural number nearest to a quotient; an exact half goes to the even neighbour. -/
def roundHalfEven (num den : Nat) : Nat :=
  let quotient := num / den
  let twice := 2 * (num % den)
  if twice < den then quotient
  else if den < twice then quotient + 1
  else quotient + quotient % 2

/-- A quotient divided by an integral power of a base, again as a quotient. -/
def dividedByPower (base num den : Nat) (power : Int) : Nat × Nat :=
  if 0 ≤ power then (num, den * base.pow power.toNat) else (num * base.pow (-power).toNat, den)

/-- The greatest integer `k` with `base ^ k ≤ num / den`, given an upper estimate that exceeds it by
at most one. -/
def orderBelow (base num den : Nat) (estimate : Int) : Int :=
  let scaled := dividedByPower base num den estimate
  if scaled.2 ≤ scaled.1 then estimate else estimate - 1

/-- The exponent of the leading binary digit of a positive quotient. -/
def binaryOrder (num den : Nat) : Int :=
  orderBelow 2 num den ((Nat.log2 num : Int) - Nat.log2 den)

def decimalSize (n : Nat) : Nat := (Nat.toDigits 10 n).length

/-- The exponent of the leading decimal digit of a positive quotient. -/
def decimalOrder (num den : Nat) : Int :=
  orderBelow 10 num den ((decimalSize num : Int) - decimalSize den)

end LiveTemplate.Number

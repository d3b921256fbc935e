import LiveTemplate.Number.Binary64

/-!
# Literals of floating-point numbers

A literal is an optional sign followed by `inf`, `infinity` or `nan` in any case, or by decimal
digits with an optional point and an optional exponent; a digit must stand on at least one side of
the point. It denotes the representable number nearest to its exact value. Only the digits of ASCII
count, and nothing may precede or follow.
-/

namespace LiveTemplate.Number

/-! ## Digits -/

def digitValue? (c : Char) : Option Nat :=
  if '0' ≤ c ∧ c ≤ '9' then some (c.toNat - '0'.toNat) else none

def isDigit (c : Char) : Bool := (digitValue? c).isSome

def ofDigits (digits : List Char) : Nat :=
  digits.foldl (fun value c ↦ 10 * value + (digitValue? c).getD 0) 0

/-! ## Exact decimal values -/

/-- The number nearest to `coefficient * 10 ^ exponent`, where the coefficient has at most `size`
digits. Values far outside the format are decided by their size alone. -/
def ofDecimal (negative : Bool) (coefficient size : Nat) (exponent : Int) : Binary64 :=
  if coefficient = 0 then .zero negative
  else if 400 < exponent then .infinity negative
  else if exponent + size < -400 then .zero negative
  else
    let value := dividedByPower 10 coefficient 1 (-exponent)
    .ofRatio negative value.1 value.2

/-! ## The grammar -/

/-- Removes a sign; the result says whether it was a minus. -/
def takeSign : List Char → Bool × List Char
  | '-' :: rest => (true, rest)
  | '+' :: rest => (false, rest)
  | text => (false, text)

/-- The exponent that ends a literal: nothing, or a letter, an optional sign and digits. -/
def exponentPart? : List Char → Option Int
  | [] => some 0
  | c :: rest =>
    if c = 'e' ∨ c = 'E' then
      let (negative, digits) := takeSign rest
      if digits.isEmpty || !digits.all isDigit then none
      else if negative then some (-(ofDigits digits : Int)) else some (ofDigits digits)
    else none

def decimal? (negative : Bool) (text : List Char) : Option Binary64 :=
  let whole := text.takeWhile isDigit
  let afterWhole := text.dropWhile isDigit
  let (fraction, rest) :=
    match afterWhole with
    | '.' :: tail => (tail.takeWhile isDigit, tail.dropWhile isDigit)
    | tail => ([], tail)
  let digits := whole ++ fraction
  if digits.isEmpty then none
  else (exponentPart? rest).map fun exponent ↦
    ofDecimal negative (ofDigits digits) digits.length (exponent - fraction.length)

def lowerAscii (c : Char) : Char :=
  if 'A' ≤ c ∧ c ≤ 'Z' then Char.ofNat (c.toNat + 32) else c

def parse? (text : List Char) : Option Binary64 :=
  let (negative, body) := takeSign text
  let name := String.ofList (body.map lowerAscii)
  if name = "nan" then some .nan
  else if name = "inf" || name = "infinity" then some (.infinity negative)
  else decimal? negative body

end LiveTemplate.Number

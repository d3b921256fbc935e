/-!
# Numbers in decimal notation

Decimal digits, filled up to a width with zeros or spaces on the left. The sign of a negative number
stands before the zeros and counts towards the width.
-/

namespace LiveTemplate.Text

/-- How a short number is filled up to its width. -/
inductive Fill where
  | none
  | zero
  | space
  deriving DecidableEq, Repr

def decimal (n : Nat) : List Char := Nat.toDigits 10 n

def padLeft (filler : Char) (width : Nat) (text : List Char) : List Char :=
  List.replicate (width - text.length) filler ++ text

/-- A natural number of at least the given width, with zeros in front. -/
def zeroPadded (width n : Nat) : List Char := padLeft '0' width (decimal n)

/-- The sign that is written: a minus, or a plus where one is asked for. -/
def signOf (always : Bool) (n : Int) : List Char :=
  if n < 0 then ['-'] else if always then ['+'] else []

def paddedInt (fill : Fill) (width : Nat) (always : Bool) (n : Int) : List Char :=
  let sign := signOf always n
  match fill with
  | .none => sign ++ decimal n.natAbs
  | .zero => sign ++ zeroPadded (width - sign.length) n.natAbs
  | .space => padLeft ' ' width (sign ++ decimal n.natAbs)

end LiveTemplate.Text

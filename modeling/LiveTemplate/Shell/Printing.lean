import LiveTemplate.Number.Literal
import LiveTemplate.Shell.Arithmetic

/-!
# Printing of the shell

A format is a text with escapes and conversions. Each conversion takes an argument, or nothing when
there are no more; the format is used again as long as arguments are left and it takes any. An
argument that is not a number counts as far as it is one, with a complaint.
-/

namespace LiveTemplate.Shell

open Number (Binary64)

/-! ## Escapes -/

def escapeOf? : Char → Option Char
  | '\\' => some '\\'
  | 'a' => some '\x07'
  | 'b' => some '\x08'
  | 'e' => some '\x1b'
  | 'f' => some '\x0c'
  | 'n' => some '\n'
  | 'r' => some '\r'
  | 't' => some '\t'
  | 'v' => some '\x0b'
  | _ => none

def isOctal (c : Char) : Bool := '0' ≤ c && c ≤ '7'

def octalOctet (digits : List Char) : Char :=
  Char.ofNat (digits.foldl (fun value c ↦ 8 * value + (c.toNat - 48)) 0 % 256)

def octalPrefix (most : Nat) (text : List Char) : List Char := (text.take most).takeWhile isOctal

/-- The text of an argument whose escapes are read, and whether all output ends there. An octal
number may begin with a zero that does not count. The first argument bounds the number of steps. -/
def unescapeWithin : Nat → List Char → List Char × Bool
  | 0, _ => ([], false)
  | _, [] => ([], false)
  | _ + 1, '\\' :: 'c' :: _ => ([], true)
  | fuel + 1, '\\' :: c :: rest =>
    let rest := if c = '0' then rest else c :: rest
    let digits := octalPrefix 3 rest
    if c = '0' || !digits.isEmpty then
      let (text, stops) := unescapeWithin fuel (rest.drop digits.length)
      (octalOctet digits :: text, stops)
    else
      let (text, stops) := unescapeWithin fuel rest.tail
      match escapeOf? c with
      | some d => (d :: text, stops)
      | none => ('\\' :: c :: text, stops)
  | fuel + 1, c :: rest =>
    let (text, stops) := unescapeWithin fuel rest
    (c :: text, stops)

/-- The text of an argument whose escapes are read, and whether all output ends there. -/
def unescape (text : List Char) : List Char × Bool := unescapeWithin (text.length + 1) text

/-! ## Arguments as numbers -/

def decimalOf (digits : List Char) : Nat := (String.ofList digits).toNat?.getD 0

/-- The complaint about an argument of which so many characters count. -/
def numeralComplaint? (argument : List Char) (size : Nat) : Option String :=
  if size = argument.length then none
  else if size = 0 then some (String.ofList argument ++ ": expected numeric value")
  else some (String.ofList argument ++ ": not completely converted")

/-- The integer that an argument denotes, and what is wrong with it. -/
def integerOf (argument : List Char) : Int × Option String :=
  match argument with
  | '"' :: c :: _ | '\'' :: c :: _ => (c.toNat, none)
  | _ =>
    let body := match argument with
      | '-' :: body | '+' :: body => body
      | body => body
    let sizes := (List.range (body.length + 1)).reverse
    match sizes.findSome? fun size ↦ (literal? (body.take size)).map fun n ↦ (n, size) with
    | some (n, size) =>
      (if argument.head? = some '-' then -n else n,
        numeralComplaint? argument (argument.length - body.length + size))
    | none => (0, numeralComplaint? argument 0)

/-- The floating-point number that an argument denotes, and what is wrong with it. -/
def floatOf (argument : List Char) : Binary64 × Option String :=
  let sizes := (List.range (argument.length + 1)).reverse
  match sizes.findSome? fun size ↦
      (Number.parse? (argument.take size)).map fun value ↦ (value, size) with
  | some (value, size) => (value, numeralComplaint? argument size)
  | none => (.zero false, numeralComplaint? argument 0)

/-! ## Digits of floating-point numbers -/

def fixedText (places num den : Nat) : List Char :=
  let digits := Nat.toDigits 10 (Number.roundHalfEven (num * Nat.pow 10 places) den)
  let digits := List.replicate (places + 1 - digits.length) '0' ++ digits
  let whole := digits.take (digits.length - places)
  if places = 0 then whole else whole ++ '.' :: digits.drop (digits.length - places)

/-- The digits of a quotient, so many behind the first one, and the exponent of the first one. -/
def scientificDigits (places num den : Nat) : List Char × Int :=
  if num = 0 then (List.replicate (places + 1) '0', 0)
  else
    let order := Number.decimalOrder num den
    let scaled := Number.dividedByPower 10 num den (order - places)
    let n := Number.roundHalfEven scaled.1 scaled.2
    if n = Nat.pow 10 (places + 1) then (Nat.toDigits 10 (n / 10), order + 1)
    else (Nat.toDigits 10 n, order)

/-- Digits with a point behind the first one, and an exponent of at least two digits. -/
def scientificText (digits : List Char) (exponent : Int) : List Char :=
  let fraction := digits.tail
  let power := Nat.toDigits 10 exponent.natAbs
  digits.take 1 ++ (if fraction.isEmpty then [] else '.' :: fraction) ++
    ['e', if exponent < 0 then '-' else '+'] ++
    List.replicate (2 - power.length) '0' ++ power

/-- Digits without zeros at the end, and without a point that nothing follows. -/
def trimZeros (text : List Char) : List Char :=
  if text.contains '.' then
    ((text.reverse.dropWhile (· = '0')).dropWhile (· = '.')).reverse
  else text

/-- A quotient with so many digits in the shorter of both notations. -/
def generalText (precision num den : Nat) : List Char :=
  let precision := max precision 1
  let (digits, exponent) := scientificDigits (precision - 1) num den
  if -4 ≤ exponent && exponent < precision then
    trimZeros (fixedText ((precision : Int) - 1 - exponent).toNat num den)
  else
    let kept := ((digits.tail.reverse.dropWhile (· = '0')).reverse)
    scientificText (digits.take 1 ++ kept) exponent

/-! ## Conversions -/

/-- What stands between the percent sign and the letter of a conversion. -/
structure Layout where
  left : Bool := false
  zero : Bool := false
  plus : Bool := false
  space : Bool := false
  alternate : Bool := false
  width : Nat := 0
  precision? : Option Nat := none

def Layout.fill (layout : Layout) (text : List Char) : List Char :=
  let padding := List.replicate (layout.width - text.length) ' '
  if layout.left then text ++ padding else padding ++ text

def Layout.fillNumber (layout : Layout) (sign digits : List Char) : List Char :=
  let digits := List.replicate ((layout.precision?.getD 1) - digits.length) '0' ++ digits
  if layout.zero && !layout.left && layout.precision?.isNone then
    sign ++ List.replicate (layout.width - sign.length - digits.length) '0' ++ digits
  else layout.fill (sign ++ digits)

def Layout.sign (layout : Layout) (isNegative : Bool) : List Char :=
  if isNegative then ['-'] else if layout.plus then ['+'] else if layout.space then [' '] else []

def takeFlags (layout : Layout) : List Char → Layout × List Char
  | '-' :: rest => takeFlags { layout with left := true } rest
  | '0' :: rest => takeFlags { layout with zero := true } rest
  | '+' :: rest => takeFlags { layout with plus := true } rest
  | ' ' :: rest => takeFlags { layout with space := true } rest
  | '#' :: rest => takeFlags { layout with alternate := true } rest
  | rest => (layout, rest)

/-- A number of a layout, which an asterisk takes from the arguments. -/
def takeExtent (text : List Char) (arguments : List (List Char)) :
    Int × List Char × List (List Char) :=
  match text with
  | '*' :: rest => ((integerOf (arguments.headD [])).1, rest, arguments.tail)
  | text => (decimalOf (text.takeWhile Char.isDigit), text.dropWhile Char.isDigit, arguments)

def takeLayout (text : List Char) (arguments : List (List Char)) :
    Layout × List Char × List (List Char) :=
  let (layout, rest) := takeFlags {} text
  let (width, rest, arguments) := takeExtent rest arguments
  let layout := { layout with width := width.natAbs, left := layout.left || width < 0 }
  match rest with
  | '.' :: rest =>
    let (precision, rest, arguments) := takeExtent rest arguments
    ({ layout with precision? := some precision.toNat }, rest, arguments)
  | rest => (layout, rest, arguments)

/-- What has been printed, the arguments that are left, whether all output ends there, and what was
wrong. -/
structure Printed where
  text : List Char := []
  arguments : List (List Char) := []
  stops : Bool := false
  complaints : List String := []

def Printed.behind (printed : Printed) (text : List Char) (complaint? : Option String := none) :
    Printed :=
  { printed with
    text := text ++ printed.text
    complaints := complaint?.toList ++ printed.complaints }

def convertFloat (layout : Layout) (letter : Char) (value : Binary64) : List Char :=
  let precision := layout.precision?.getD 6
  let unbound := { layout with precision? := none }
  match value with
  | .nan => { unbound with zero := false }.fillNumber [] "nan".toList
  | .infinity negative =>
    { unbound with zero := false }.fillNumber (layout.sign negative) "inf".toList
  | .finite negative m e =>
    let (num, den) := Binary64.ratio m e
    let digits := match letter with
      | 'f' | 'F' => fixedText precision num den
      | 'e' | 'E' =>
        let (digits, exponent) := scientificDigits precision num den
        scientificText digits exponent
      | _ => generalText precision num den
    unbound.fillNumber (layout.sign negative)
      (if letter.isUpper then digits.map Char.toUpper else digits)

/-- The text of an argument under a conversion, whether all output ends there, and what was
wrong. -/
def convert? (layout : Layout) (letter : Char) (argument : List Char) :
    Option (List Char × Bool × Option String) :=
  let cut (text : List Char) : List Char :=
    match layout.precision? with
    | some most => text.take most
    | none => text
  let integer (write : Int → List Char × List Char) : Option (List Char × Bool × Option String) :=
    let (n, complaint?) := integerOf argument
    let (sign, digits) := write n
    some (layout.fillNumber sign digits, false, complaint?)
  match letter with
  | 's' => some (layout.fill (cut argument), false, none)
  | 'b' =>
    let (text, stops) := unescape argument
    some (layout.fill (cut text), stops, none)
  | 'c' => some (layout.fill (argument.take 1), false, none)
  | 'd' | 'i' => integer fun n ↦ (layout.sign (n < 0), Nat.toDigits 10 n.natAbs)
  | 'u' => integer fun n ↦ ([], Nat.toDigits 10 (bitsOf n))
  | 'o' => integer fun n ↦ (if layout.alternate then ['0'] else [], Nat.toDigits 8 (bitsOf n))
  | 'x' =>
    integer fun n ↦ (if layout.alternate then ['0', 'x'] else [], Nat.toDigits 16 (bitsOf n))
  | 'X' =>
    integer fun n ↦
      (if layout.alternate then ['0', 'X'] else [], (Nat.toDigits 16 (bitsOf n)).map Char.toUpper)
  | _ =>
    if ['e', 'f', 'g', 'E', 'F', 'G'].contains letter then
      let (value, complaint?) := floatOf argument
      some (convertFloat layout letter value, false, complaint?)
    else none

/-! ## Formats -/

/-- What a format prints once. The first argument bounds the number of steps. -/
def printOnce : Nat → List Char → List (List Char) → Printed
  | 0, _, arguments => { arguments := arguments, stops := true }
  | _, [], arguments => { arguments := arguments }
  | fuel + 1, '%' :: '%' :: rest, arguments => (printOnce fuel rest arguments).behind ['%']
  | fuel + 1, '%' :: start, arguments =>
    let (layout, rest, arguments) := takeLayout start arguments
    match rest with
    | [] => { arguments := arguments, stops := true, complaints := ["missing format character"] }
    | letter :: rest =>
      match convert? layout letter (arguments.headD []) with
      | none =>
        let directive := '%' :: start.take (start.length - rest.length)
        { arguments := arguments, stops := true,
          complaints := [String.ofList directive ++ ": invalid directive"] }
      | some (converted, stops, complaint?) =>
        if stops then { text := converted, stops := true }
        else (printOnce fuel rest arguments.tail).behind converted complaint?
  | fuel + 1, '\\' :: c :: rest, arguments =>
    let digits := octalPrefix 3 (c :: rest)
    if digits.isEmpty then
      (printOnce fuel rest arguments).behind
        (match escapeOf? c with
          | some d => [d]
          | none => ['\\', c])
    else
      (printOnce fuel ((c :: rest).drop digits.length) arguments).behind [octalOctet digits]
  | fuel + 1, c :: rest, arguments => (printOnce fuel rest arguments).behind [c]

/-- What a format prints when it is used as often as the arguments ask for. -/
def printWithin : Nat → List Char → List (List Char) → Printed
  | 0, _, _ => {}
  | fuel + 1, format, arguments =>
    let printed := printOnce (format.length + 1) format arguments
    if printed.stops || printed.arguments.isEmpty ||
        printed.arguments.length = arguments.length then printed
    else
      let others := printWithin fuel format printed.arguments
      { others with
        text := printed.text ++ others.text
        complaints := printed.complaints ++ others.complaints }

def printFormat (format : List Char) (arguments : List (List Char)) : Printed :=
  printWithin (arguments.length + 1) format arguments

end LiveTemplate.Shell

import LiveTemplate.Document.Quotation
import LiveTemplate.Shell.Token

/-!
# Arithmetic of the shell

Expressions over integers of 64 bits, with variables, comparisons and logical operators. An operand
is evaluated as soon as it has been read, if it counts.
-/

namespace LiveTemplate.Shell

inductive ArithmeticError where
  | divisionByZero
  /-- An operand is missing. -/
  | missingOperand
  /-- Something follows the expression. -/
  | surplus
  | missingParenthesis
  | missingColon
  /-- A variable does not stand for a number. -/
  | notNumber (text : List Char)
  deriving DecidableEq, Repr

def ArithmeticError.message (expression : List Char) (error : ArithmeticError) : String :=
  let about (what : String) : String :=
    "arithmetic expression: " ++ what ++ ": \"" ++ String.ofList expression ++ "\""
  match error with
  | .divisionByZero => about "division by zero"
  | .missingOperand => about "expecting primary"
  | .surplus => about "expecting EOF"
  | .missingParenthesis => about "expecting ')'"
  | .missingColon => about "expecting ':'"
  | .notNumber text => "Illegal number: " ++ String.ofList text

inductive Term where
  | number (n : Int)
  | name (text : List Char)
  | operator (symbol : String)
  deriving DecidableEq, Repr

/-- An integer brought into the range of 64 bits. -/
def wrapped (n : Int) : Int := Int.bmod n (Nat.pow 2 64)

/-! ## Reading -/

/-- The number that digits of a base denote, if they do. -/
def numberOf? (base : Nat) (digits : List Char) : Option Int :=
  if digits.isEmpty then none
  else
    (digits.foldlM (fun value c ↦
      (Document.hexValue? c).bind fun digit ↦
        if digit < base then some (value * base + digit) else none) 0).map fun n : Nat ↦ wrapped n

/-- The number that a text denotes: decimal, or octal behind a zero, or hexadecimal. -/
def literal? : List Char → Option Int
  | '0' :: 'x' :: digits | '0' :: 'X' :: digits => numberOf? 16 digits
  | '0' :: c :: digits => numberOf? 8 (c :: digits)
  | digits => numberOf? 10 digits

/-- How many characters in front of a text are a number. -/
def literalSize (text : List Char) : Nat :=
  ((List.range (text.length + 1)).reverse.find? fun n ↦ (literal? (text.take n)).isSome).getD 0

def longOperators : List String := ["||", "&&", "==", "!=", "<=", ">=", "<<", ">>"]

/-- The parts of an expression, where the first argument bounds their number. -/
def termsWithin : Nat → List Char → List Term
  | 0, _ => []
  | _, [] => []
  | fuel + 1, c :: rest =>
    if c = ' ' || c = '\t' || c = '\n' then termsWithin fuel rest
    else if c.isDigit then
      let run := (c :: rest).takeWhile isNameChar
      let size := max (literalSize run) 1
      .number ((literal? (run.take size)).getD 0) :: termsWithin fuel ((c :: rest).drop size)
    else if isNameChar c then
      .name ((c :: rest).takeWhile isNameChar) :: termsWithin fuel (rest.dropWhile isNameChar)
    else
      let long := String.ofList ((c :: rest).take 2)
      if longOperators.contains long then .operator long :: termsWithin fuel rest.tail
      else .operator (String.singleton c) :: termsWithin fuel rest

/-! ## Evaluation -/

def precedence? : String → Option Nat
  | "||" => some 1
  | "&&" => some 2
  | "|" => some 3
  | "^" => some 4
  | "&" => some 5
  | "==" | "!=" => some 6
  | "<" | "<=" | ">" | ">=" => some 7
  | "<<" | ">>" => some 8
  | "+" | "-" => some 9
  | "*" | "/" | "%" => some 10
  | _ => none

def ofTruth (truth : Bool) : Int := if truth then 1 else 0

def bitsOf (n : Int) : Nat := (n % Nat.pow 2 64).toNat

def applyBinary (symbol : String) (a b : Int) : Except ArithmeticError Int :=
  match symbol with
  | "||" => .ok (ofTruth (a ≠ 0 || b ≠ 0))
  | "&&" => .ok (ofTruth (a ≠ 0 && b ≠ 0))
  | "|" => .ok (wrapped (bitsOf a ||| bitsOf b : Nat))
  | "^" => .ok (wrapped (bitsOf a ^^^ bitsOf b : Nat))
  | "&" => .ok (wrapped (bitsOf a &&& bitsOf b : Nat))
  | "==" => .ok (ofTruth (a = b))
  | "!=" => .ok (ofTruth (a ≠ b))
  | "<" => .ok (ofTruth (a < b))
  | "<=" => .ok (ofTruth (a ≤ b))
  | ">" => .ok (ofTruth (b < a))
  | ">=" => .ok (ofTruth (b ≤ a))
  | "<<" => .ok (wrapped (a * Nat.pow 2 (b % 64).toNat))
  | ">>" => .ok (a / Nat.pow 2 (b % 64).toNat)
  | "+" => .ok (wrapped (a + b))
  | "-" => .ok (wrapped (a - b))
  | "*" => .ok (wrapped (a * b))
  | "/" => if b = 0 then .error .divisionByZero else .ok (wrapped (a.tdiv b))
  | "%" => if b = 0 then .error .divisionByZero else .ok (a.tmod b)
  | _ => .error .surplus

mutual

/-- The value of an operand, where the first argument bounds the depth. An operand that does not
count is read only. -/
def operand (valueOf : List Char → Except ArithmeticError Int) : Nat → Bool → List Term →
    Except ArithmeticError (Int × List Term)
  | 0, _, _ => .error .missingOperand
  | fuel + 1, counts, terms =>
    match terms with
    | .number n :: rest => .ok (n, rest)
    | .name text :: rest => do
      let n ← if counts then valueOf text else pure 0
      return (n, rest)
    | .operator "-" :: rest => do
      let (n, rest) ← operand valueOf fuel counts rest
      return (wrapped (-n), rest)
    | .operator "+" :: rest => operand valueOf fuel counts rest
    | .operator "!" :: rest => do
      let (n, rest) ← operand valueOf fuel counts rest
      return (ofTruth (n = 0), rest)
    | .operator "~" :: rest => do
      let (n, rest) ← operand valueOf fuel counts rest
      return (wrapped (-n - 1), rest)
    | .operator "(" :: rest => do
      let (n, rest) ← expression valueOf fuel counts rest
      match rest with
      | .operator ")" :: rest => return (n, rest)
      | _ => throw .missingParenthesis
    | _ => .error .missingOperand

/-- The value of an operand and the operators behind it that bind at least as tightly as given. The
second operand of a logical operator counts only if the first does not decide. -/
def climb (valueOf : List Char → Except ArithmeticError Int) : Nat → Bool → Nat → Int →
    List Term → Except ArithmeticError (Int × List Term)
  | 0, _, _, _, _ => .error .missingOperand
  | fuel + 1, counts, least, left, terms =>
    match terms with
    | .operator symbol :: rest =>
      match precedence? symbol with
      | none => .ok (left, terms)
      | some p =>
        if p < least then .ok (left, terms)
        else do
          let isDecided := (symbol = "&&" && left = 0) || (symbol = "||" && left ≠ 0)
          let (first, rest) ← operand valueOf fuel (counts && !isDecided) rest
          let (right, rest) ← climb valueOf fuel (counts && !isDecided) (p + 1) first rest
          let value ← if counts then applyBinary symbol left right else pure 0
          climb valueOf fuel counts least value rest
    | _ => .ok (left, terms)

def expression (valueOf : List Char → Except ArithmeticError Int) : Nat → Bool → List Term →
    Except ArithmeticError (Int × List Term)
  | 0, _, _ => .error .missingOperand
  | fuel + 1, counts, terms => do
    let (first, rest) ← operand valueOf fuel counts terms
    let (n, rest) ← climb valueOf fuel counts 1 first rest
    match rest with
    | .operator "?" :: rest =>
      let (yes, rest) ← expression valueOf fuel (counts && n ≠ 0) rest
      match rest with
      | .operator ":" :: rest =>
        let (no, rest) ← expression valueOf fuel (counts && n = 0) rest
        return (if n ≠ 0 then yes else no, rest)
      | _ => throw .missingColon
    | rest => return (n, rest)

end

def valueOfTerms (valueOf : List Char → Except ArithmeticError Int) (terms : List Term) :
    Except ArithmeticError Int := do
  let (n, rest) ← expression valueOf (4 * terms.length + 8) true terms
  if rest.isEmpty then return n else throw .surplus

/-- The value of an expression, and the variable that it is assigned to, if it is. -/
def evaluateArithmetic (valueOf : List Char → Except ArithmeticError Int) (text : List Char) :
    Except ArithmeticError (Int × Option (List Char)) :=
  match termsWithin (text.length + 1) text with
  | .name target :: .operator "=" :: terms => do
    return (← valueOfTerms valueOf terms, some target)
  | .name target :: .operator symbol :: .operator "=" :: terms => do
    return (← applyBinary symbol (← valueOf target) (← valueOfTerms valueOf terms), some target)
  | terms => do return (← valueOfTerms valueOf terms, none)

end LiveTemplate.Shell

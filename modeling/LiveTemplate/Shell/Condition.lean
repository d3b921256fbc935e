import LiveTemplate.Shell.Printing
import LiveTemplate.Shell.Session

/-!
# Conditions of the shell

A condition is a row of words: texts are compared, numbers are compared, files are asked for, and
conditions are negated and joined. A word counts as an operator by its place, so that a text may
look like one.
-/

namespace LiveTemplate.Shell

/-- What the words of a condition mean, or what is wrong with them. -/
abbrev Judgement (α : Type) := Except String α

def unaryOperators : List String :=
  ["-r", "-w", "-x", "-e", "-f", "-d", "-c", "-b", "-p", "-u", "-g", "-k", "-s", "-t", "-z", "-n",
    "-h", "-O", "-G", "-L", "-S"]

def binaryOperators : List String :=
  ["=", "!=", "<", ">", "-eq", "-ne", "-ge", "-gt", "-le", "-lt", "-nt", "-ot", "-ef"]

def isAmong (operators : List String) (word : List Char) : Bool :=
  operators.contains (String.ofList word)

def integer (word : List Char) : Judgement Int :=
  let trimmed := word.dropWhile (· = ' ')
  let digits := match trimmed with
    | '-' :: digits | '+' :: digits => digits
    | digits => digits
  if digits.isEmpty || !digits.all Char.isDigit then
    .error ("Illegal number: " ++ String.ofList word)
  else
    let n : Int := decimalOf digits
    .ok (if trimmed.head? = some '-' then -n else n)

def compare (a : List Char) (operator : String) (b : List Char) : Judgement Bool :=
  match operator with
  | "=" => .ok (a = b)
  | "!=" => .ok (a ≠ b)
  | "<" => .ok (a < b)
  | ">" => .ok (b < a)
  | "-eq" => return (← integer a) = (← integer b)
  | "-ne" => return (← integer a) ≠ (← integer b)
  | "-ge" => return (← integer b) ≤ (← integer a)
  | "-gt" => return (← integer b) < (← integer a)
  | "-le" => return (← integer a) ≤ (← integer b)
  | "-lt" => return (← integer a) < (← integer b)
  | _ => .ok false

def hasProperty (s : Session) (operator : String) (word : List Char) : Judgement Bool :=
  let place := s.placeOf word
  let isDirectory := Host.isDirectory place
  let exists? := !word.isEmpty && s.hasPlace place
  match operator with
  | "-z" => .ok word.isEmpty
  | "-n" => .ok !word.isEmpty
  | "-e" | "-r" | "-w" | "-O" | "-G" => .ok exists?
  | "-d" => .ok (!word.isEmpty && isDirectory)
  | "-f" => .ok (exists? && !isDirectory && place.head? ≠ some "dev")
  | "-s" =>
    match s.files.get? place with
    | some _ => .ok (match s.contentOf word with | .ok text => !text.isEmpty | .error _ => false)
    | none => .ok (exists? && place.head? ≠ some "dev")
  | "-c" => .ok (exists? && !isDirectory && place.head? = some "dev")
  | "-x" =>
    match Host.inhabitant? place with
    | some .directory | some (.program _) => .ok !word.isEmpty
    | _ => .ok false
  | "-t" => do
    let _ ← integer word
    return false
  | _ => .ok false

/-! ## Reading -/

/-- Whether the first word of a condition is an operator in front of another: it is not if it stands
alone or if it is itself compared. -/
def isUnary (words : List (List Char)) : Bool :=
  match words with
  | [_, _] => isAmong unaryOperators (words.headD [])
  | word :: second :: _ :: _ => isAmong unaryOperators word && !isAmong binaryOperators second
  | _ => false

mutual

/-- Whether one of some conditions holds, and the words behind them. -/
def anyHolds (s : Session) : Nat → List (List Char) → Judgement (Bool × List (List Char))
  | 0, words => .ok (false, words)
  | fuel + 1, words => do
    let (first, rest) ← allHold s fuel words
    match rest with
    | ['-', 'o'] :: rest =>
      let (second, rest) ← anyHolds s fuel rest
      return (first || second, rest)
    | rest => return (first, rest)

/-- Whether all of some conditions hold, and the words behind them. -/
def allHold (s : Session) : Nat → List (List Char) → Judgement (Bool × List (List Char))
  | 0, words => .ok (false, words)
  | fuel + 1, words => do
    let (first, rest) ← holds s fuel words
    match rest with
    | ['-', 'a'] :: rest =>
      let (second, rest) ← allHold s fuel rest
      return (first && second, rest)
    | rest => return (first, rest)

def holds (s : Session) : Nat → List (List Char) → Judgement (Bool × List (List Char))
  | 0, words => .ok (false, words)
  | fuel + 1, words =>
    match words with
    | [] => .ok (false, [])
    | ['!'] :: rest => do
      let (truth, rest) ← holds s fuel rest
      return (!truth, rest)
    | ['('] :: [')'] :: rest => .ok (false, rest)
    | ['('] :: next :: rest => do
      let (truth, rest) ← anyHolds s fuel (next :: rest)
      match rest with
      | [')'] :: rest => return (truth, rest)
      | _ => throw "closing paren expected"
    | word :: rest =>
      if isUnary words then do
        let truth ← hasProperty s (String.ofList word) (rest.headD [])
        return (truth, rest.tail)
      else
        match rest with
        | operator :: rest =>
          if isAmong binaryOperators operator then
            match rest with
            | other :: rest => do return (← compare word (String.ofList operator) other, rest)
            | [] => .error (String.ofList operator ++ ": argument expected")
          else .ok (!word.isEmpty, operator :: rest)
        | [] => .ok (!word.isEmpty, [])

end

/-- Whether all words together are a condition that holds. With few words, what stands in the middle
or in front decides how the others are read. -/
def judge (s : Session) (words : List (List Char)) : Judgement Bool := do
  let fuel := 3 * words.length + 3
  let whole (words : List (List Char)) : Judgement Bool := do
    let (truth, rest) ← anyHolds s fuel words
    match rest with
    | [] => return truth
    | word :: _ =>
      let shown := (words.drop (words.length - rest.length - 1)).headD word
      throw (String.ofList shown ++ ": unexpected operator")
  match words with
  | [] => return false
  | [a, operator, b] =>
    if isAmong binaryOperators operator then compare a (String.ofList operator) b
    else if a = ['('] && b = [')'] then whole [operator]
    else if a = ['!'] then return !(← whole [operator, b])
    else whole words
  | [['!'], a, operator, b] =>
    if isAmong binaryOperators operator then return !(← compare a (String.ofList operator) b)
    else return !(← whole [a, operator, b])
  | words => whole words

end LiveTemplate.Shell

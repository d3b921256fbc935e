import LiveTemplate.Keyed
import LiveTemplate.Text.Blank
import LiveTemplate.Text.Lines

/-!
# Environment files

A line of an environment file is blank, a comment, or a variable: an optional `export`, a name, an
equals sign and a value. A value may be quoted in parts; between single quotes everything stands for
itself, elsewhere a backslash introduces an escape and a dollar sign the value of another variable.
A variable that the environment has already is left alone. Reading stops at the first line that is
malformed.
-/

namespace LiveTemplate.CommandLine

open Text

/-! ## Values -/

/-- How a value is read at some point. -/
inductive ValueMode where
  | plain
  | single
  | double
  /-- Behind a backslash. -/
  | escaped (isDouble : Bool)
  /-- Behind a dollar sign, in a name that may stand between braces. -/
  | naming (isDouble inBraces : Bool) (name : List Char)
  /-- Behind the value, where only a comment may follow. -/
  | ended
  deriving DecidableEq, Repr

def ValueMode.outer (isDouble : Bool) : ValueMode := if isDouble then .double else .plain

def escaped? (c : Char) : Option Char :=
  if c = 'n' then some '\n'
  else if ['\\', '\'', '"', '$', ' '].contains c then some c
  else none

/-- The value of a text, where other variables have given values; `none` if it is malformed. -/
def readValue (valueOf : String → List Char) : ValueMode → List Char → Option (List Char)
  | .plain, [] | .ended, [] | .escaped false, [] => some []
  | .naming false false name, [] => some (valueOf (String.ofList name))
  | _, [] => none
  | .ended, c :: rest =>
    if c = ' ' || c = '\t' then readValue valueOf .ended rest
    else if c = '#' then some []
    else none
  | .escaped isDouble, c :: rest => do
    return (← escaped? c) :: (← readValue valueOf (.outer isDouble) rest)
  | .single, c :: rest =>
    if c = '\'' then readValue valueOf .plain rest
    else (readValue valueOf .single rest).map (c :: ·)
  | .naming isDouble true name, c :: rest =>
    if c = '\x7d' then
      (readValue valueOf (.outer isDouble) rest).map (valueOf (String.ofList name) ++ ·)
    else readValue valueOf (.naming isDouble true (name ++ [c])) rest
  | .naming isDouble false name, c :: rest =>
    if c.isAlphanum then readValue valueOf (.naming isDouble false (name ++ [c])) rest
    else if c = '\x7b' && name.isEmpty then readValue valueOf (.naming isDouble true []) rest
    else if c = '$' then
      (readValue valueOf (.naming isDouble false []) rest).map
        (valueOf (String.ofList name) ++ ·)
    else
      (readValue valueOf (.outer isDouble) rest).map
        (valueOf (String.ofList name) ++ c :: ·)
  | .double, c :: rest =>
    if c = '$' then readValue valueOf (.naming true false []) rest
    else if c = '"' then readValue valueOf .plain rest
    else if c = '\\' then readValue valueOf (.escaped true) rest
    else (readValue valueOf .double rest).map (c :: ·)
  | .plain, c :: rest =>
    if c = '$' then readValue valueOf (.naming false false []) rest
    else if c = '\'' then readValue valueOf .single rest
    else if c = '"' then readValue valueOf .double rest
    else if c = '\\' then readValue valueOf (.escaped false) rest
    else if c = ' ' || c = '\t' then readValue valueOf .ended rest
    else (readValue valueOf .plain rest).map (c :: ·)

/-! ## Lines -/

inductive EnvironmentLine where
  | nothing
  | entry (name : String) (value : List Char)
  | malformed
  deriving DecidableEq, Repr

def skipBlanks (text : List Char) : List Char := text.dropWhile isBlank

def isRemark (text : List Char) : Bool := text.isEmpty || text.head? = some '#'

def isKeyChar (c : Char) : Bool := c.isAlphanum || c = '_' || c = '.'

/-- The name at the beginning of a text, and what follows it and its blanks. -/
def takeKey? (text : List Char) : Option (List Char × List Char) :=
  match text with
  | c :: _ =>
    if c.isAlpha || c = '_' then
      some (text.takeWhile isKeyChar, skipBlanks (text.dropWhile isKeyChar))
    else none
  | [] => none

/-- The name of a variable and the text of its value. -/
def takeEntry? (text : List Char) : Option (List Char × List Char) :=
  match takeKey? text with
  | some (key, '=' :: value) => some (key, skipBlanks value)
  | some (key, rest) =>
    if key = "export".toList then
      match takeKey? rest with
      | some (key, '=' :: value) => some (key, skipBlanks value)
      | _ => none
    else none
  | none => none

def readLine (valueOf : String → List Char) (line : String) : EnvironmentLine :=
  let text := skipBlanks (trimEnd line.toList)
  if isRemark text then .nothing
  else
    match takeEntry? text with
    | none => .malformed
    | some (key, value) =>
      if isRemark value then .entry (String.ofList key) []
      else
        match readValue valueOf .plain value with
        | some characters => .entry (String.ofList key) characters
        | none => .malformed

/-- The environment with the variables of lines, up to the first one that is malformed. -/
def withLines (environment : String → Option String) : List String → String → Option String
  | [] => environment
  | line :: rest =>
    match readLine (fun name ↦ ((environment name).getD "").toList) line with
    | .nothing => withLines environment rest
    | .entry name value =>
      withLines (fun other ↦ if other = name then (environment name).or (some (String.ofList value))
        else environment other) rest
    | .malformed => environment

def withEnvironmentFile (environment : String → Option String) (text : String) :
    String → Option String :=
  withLines environment (linesOf text)

end LiveTemplate.CommandLine

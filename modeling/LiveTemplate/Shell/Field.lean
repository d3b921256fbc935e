/-!
# Fields and patterns of the shell

An expanded word is a sequence of marks: characters that stand for themselves, characters of a
substitution, at whose blanks the word is split, and places where a field begins or ends. In a
pattern, a character that is not quoted may stand for others.
-/

namespace LiveTemplate.Shell

/-- A part of an expanded word. -/
inductive Mark where
  /-- A character of the word itself. -/
  | plain (c : Char)
  /-- A character of a substitution. -/
  | split (c : Char)
  /-- A character that is quoted. -/
  | quoted (c : Char)
  /-- There is a field, even if it is empty. -/
  | hold
  /-- A field ends. -/
  | cut
  deriving DecidableEq, Repr

/-- Whether a character is a blank at which fields may be split. -/
def isBlankSeparator (separators : List Char) (c : Char) : Bool :=
  separators.contains c && (c = ' ' || c = '\t' || c = '\n')

/-- The fields of marks, given the characters of a field that has begun, in reverse, and whether
blanks have just ended one. Blanks around another separator belong to it; without them, separators
side by side stand around an empty field. -/
def fieldsFrom (separators : List Char) : Option (List Char) → Bool → List Mark → List (List Char)
  | field?, _, [] => (field?.map List.reverse).toList
  | field?, isEnded, .split c :: rest =>
    if isBlankSeparator separators c then
      (field?.map List.reverse).toList ++ fieldsFrom separators none (isEnded || field?.isSome) rest
    else if separators.contains c then
      if isEnded && field?.isNone then fieldsFrom separators none false rest
      else (field?.getD []).reverse :: fieldsFrom separators none false rest
    else fieldsFrom separators (some (c :: field?.getD [])) false rest
  | field?, _, .plain c :: rest | field?, _, .quoted c :: rest =>
    fieldsFrom separators (some (c :: field?.getD [])) false rest
  | field?, _, .hold :: rest => fieldsFrom separators (some (field?.getD [])) false rest
  | field?, _, .cut :: rest =>
    (field?.getD []).reverse :: fieldsFrom separators none false rest

def fieldsOf (separators : List Char) (marks : List Mark) : List (List Char) :=
  fieldsFrom separators none false marks

def textOf (marks : List Mark) : List Char :=
  marks.flatMap fun mark ↦
    match mark with
    | .plain c | .split c | .quoted c => [c]
    | .hold => []
    | .cut => [' ']

/-! ## Patterns -/

/-- A character of a pattern, and whether it stands for itself only. -/
abbrev PatternChar := Char × Bool

def patternOf (marks : List Mark) : List PatternChar :=
  marks.flatMap fun mark ↦
    match mark with
    | .plain c | .split c => [(c, false)]
    | .quoted c => [(c, true)]
    | .hold | .cut => []

def isMember (c : Char) : List PatternChar → Bool
  | (first, _) :: ('-', false) :: (last, _) :: rest =>
    (first ≤ c && c ≤ last) || isMember c rest
  | (member, _) :: rest => c = member || isMember c rest
  | [] => false

/-- The members of a bracket whose opening has been read, and what follows its closing. -/
def takeBracket? (pattern : List PatternChar) : Option (List PatternChar × List PatternChar) :=
  let members := pattern.take 1 ++ pattern.tail.takeWhile (· ≠ (']', false))
  match pattern.drop members.length with
  | _ :: rest => some (members, rest)
  | [] => none

/-- Whether a character is matched by a bracket with the given members. -/
def isMatched (c : Char) : List PatternChar → Bool
  | ('!', false) :: members => !isMember c members
  | members => isMember c members

/-- Whether a pattern matches a text, where the first argument bounds the number of steps. -/
def matchesWithin : Nat → List PatternChar → List Char → Bool
  | 0, _, _ => false
  | _, [], text => text.isEmpty
  | fuel + 1, ('*', false) :: rest, text =>
    matchesWithin fuel rest text ||
      match text with
      | [] => false
      | _ :: tail => matchesWithin fuel (('*', false) :: rest) tail
  | fuel + 1, ('?', false) :: rest, _ :: tail => matchesWithin fuel rest tail
  | fuel + 1, ('[', false) :: rest, c :: tail =>
    match takeBracket? rest with
    | some (members, rest) => isMatched c members && matchesWithin fuel rest tail
    | none => c = '[' && matchesWithin fuel rest tail
  | fuel + 1, (member, _) :: rest, c :: tail => c = member && matchesWithin fuel rest tail
  | _, _ :: _, [] => false

def isMatch (pattern : List PatternChar) (text : List Char) : Bool :=
  matchesWithin (pattern.length + text.length + 1) pattern text

/-- A text without its shortest or longest beginning that matches a pattern. -/
def dropBeginning (longest : Bool) (pattern : List PatternChar) (text : List Char) : List Char :=
  let sizes := List.range (text.length + 1)
  let sizes := if longest then sizes.reverse else sizes
  match sizes.find? fun n ↦ isMatch pattern (text.take n) with
  | some n => text.drop n
  | none => text

/-- A text without its shortest or longest end that matches a pattern. -/
def dropEnd (longest : Bool) (pattern : List PatternChar) (text : List Char) : List Char :=
  let sizes := List.range (text.length + 1)
  let sizes := if longest then sizes else sizes.reverse
  match sizes.find? fun n ↦ isMatch pattern (text.drop n) with
  | some n => text.take n
  | none => text

end LiveTemplate.Shell

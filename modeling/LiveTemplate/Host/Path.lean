/-!
# Paths

A path is a text whose components stand between slashes. Empty components and a dot that does not
come first say nothing; the rest are counted and compared.
-/

namespace LiveTemplate.Host

def splitAt (separator : Char) (text : List Char) : List (List Char) :=
  match text with
  | [] => [[]]
  | c :: rest =>
    match splitAt separator rest with
    | [] => [[c]]
    | part :: parts => if c = separator then [] :: part :: parts else (c :: part) :: parts

def splitString (separator : Char) (text : String) : List String :=
  (splitAt separator text.toList).map String.ofList

def isAbsolute (path : String) : Bool := path.toList.head? == some '/'

/-- The components of a relative path: a dot counts only in front. -/
def relativeComponents (path : String) : List String :=
  match splitString '/' path with
  | [] => []
  | first :: others =>
    [first].filter (· ≠ "") ++ others.filter fun part ↦ part ≠ "" && part ≠ "."

/-- Whether a path is a bare name: relative and of one component. -/
def isBareName (path : String) : Bool :=
  !isAbsolute path && (relativeComponents path).length == 1

def join (directory name : String) : String :=
  if directory.isEmpty then name
  else if directory.toList.getLast? = some '/' then directory ++ name
  else directory ++ "/" ++ name

/-- Takes one step along a path whose components so far are given in reverse. -/
def walk (trail : List String) (part : String) : List String :=
  if part = "" || part = "." then trail
  else if part = ".." then trail.tail
  else part :: trail

/-- The place that a path leads to, as the components from the root or the working directory. -/
def place (path : String) : List String :=
  ((splitString '/' path).foldl walk []).reverse

end LiveTemplate.Host

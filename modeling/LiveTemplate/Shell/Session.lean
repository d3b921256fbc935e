import LiveTemplate.Host.Failure
import LiveTemplate.Host.Places
import LiveTemplate.Keyed
import LiveTemplate.Shell.Syntax

/-!
# The state of a running script

A session holds the variables, arguments and functions of a script, what is left of its input, and
the outputs that it has written. An output is a sink; a descriptor leads to a sink, to nothing, or
to a place that is full, and substitutions, pipelines and files open further sinks. Octets are
characters with their codes.
-/

namespace LiveTemplate.Shell

inductive Flow where
  | running
  /-- So many loops are left. -/
  | breaking (levels : Nat)
  /-- So many loops are left, and the last of them goes on. -/
  | continuing (levels : Nat)
  | returning
  | exiting
  /-- The script has been stopped from outside. -/
  | killed
  deriving DecidableEq, Repr

/-- Where the output of a descriptor goes. -/
inductive Outlet where
  | sink (index : Nat)
  | nothing
  /-- Nothing can be written there. -/
  | full
  deriving DecidableEq, Repr

structure Session where
  /-- The name under which the shell runs. -/
  name : List Char
  /-- The line of the command that runs. -/
  line : Nat := 1
  /-- The command in whose name the shell complains, if it is not its own. -/
  speaker? : Option String := none
  /-- The working directory, and the one before it. -/
  directory : List String := []
  lastDirectory : List String := []
  bindings : Keyed (List Char) (List Char) :=
    [("HOME".toList, "/root".toList), ("IFS".toList, [' ', '\t', '\n'])]
  /-- The names of the variables that other programs see. -/
  exported : List (List Char) := ["HOME".toList]
  /-- The names of the variables that keep their values. -/
  constants : List (List Char) := []
  /-- What the variables of a function stood for before it was called. -/
  shadowed : List (List Char × Option (List Char)) := []
  arguments : List (List Char) := []
  functions : Keyed (List Char) Node := []
  status : Nat := 0
  /-- The status of the last command that ran in the background. -/
  backgroundStatus? : Option Nat := none
  input : List Char := []
  /-- What has been written to each sink, in reverse. -/
  sinks : Array (List Char) := #[[], []]
  /-- A descriptor that is absent is closed. -/
  outlets : Keyed Nat Outlet := [(1, .sink 0), (2, .sink 1)]
  /-- The sinks of the files that have been written. -/
  files : Keyed (List String) Nat := []
  flow : Flow := .running
  /-- How many loops and how many functions surround the command. -/
  loops : Nat := 0
  calls : Nat := 0
  /-- What runs at the end. -/
  farewell : List Char := []
  /-- What runs on signals. -/
  traps : Keyed Nat (List Char) := []
  /-- Whether the outcome of the command is looked at. -/
  isTested : Bool := false
  stopsOnFailure : Bool := false
  refusesUnset : Bool := false
  /-- How many commands may still be run. -/
  budget : Nat := 20000

namespace Session

/-! ## Output -/

def write (s : Session) (descriptor : Nat) (text : List Char) : Session :=
  match s.outlets.get? descriptor with
  | some (.sink index) => { s with sinks := s.sinks.modify index (text.reverse ++ ·) }
  | _ => s

def accepts (s : Session) (descriptor : Nat) : Bool :=
  match s.outlets.get? descriptor with
  | some (.sink _) | some .nothing => true
  | _ => false

def leave (s : Session) (status : Nat) : Session := { s with status := status }

def complain (s : Session) (message : String) (speaker? : Option String := s.speaker?) : Session :=
  let speaker := match speaker? with
    | some speaker => speaker ++ ": "
    | none => ""
  s.write 2 (s.name ++ (": " ++ toString s.line ++ ": " ++ speaker ++ message ++ "\n").toList)

def abort (s : Session) (message : String) (speaker? : Option String := s.speaker?) : Session :=
  { s.complain message speaker? with status := 2, flow := .exiting }

def isRunning (s : Session) : Bool := s.flow = .running && 0 < s.budget

/-- Opens a sink to which standard output leads. -/
def capture (s : Session) : Session :=
  { s with
    sinks := s.sinks.push []
    outlets := s.outlets.put 1 (.sink s.sinks.size) }

/-- What has been written to the sink that was opened next. -/
def captured (s inner : Session) : List Char := (inner.sinks[s.sinks.size]?.getD []).reverse

/-- A session of its own for a part of the script. -/
def child (s : Session) : Session := { s with farewell := [], traps := [] }

/-- The session behind a part that ran on its own: only what it has written and its status stay. -/
def absorb (s inner : Session) : Session :=
  { s with
    sinks := inner.sinks
    files := inner.files
    status := inner.status
    budget := inner.budget
    flow := if inner.flow = .killed then .killed else s.flow }

/-! ## Variables -/

def setVariable (s : Session) (name value : List Char) : Session :=
  if s.constants.contains name then s.abort (String.ofList name ++ ": is read only")
  else { s with bindings := s.bindings.put name value }

def removeVariable (s : Session) (name : List Char) : Session :=
  { s with bindings := s.bindings.filter fun entry ↦ entry.1 ≠ name }

/-- Sets or removes a variable, as it was. -/
def reset (s : Session) (name : List Char) (value? : Option (List Char)) : Session :=
  match value? with
  | some value => { s with bindings := s.bindings.put name value }
  | none => s.removeVariable name

def separators (s : Session) : List Char :=
  (s.bindings.get? "IFS".toList).getD [' ', '\t', '\n']

def processNumber : List Char := "4242".toList

def pathOf (place : List String) : List Char := ("/" ++ "/".intercalate place).toList

def joinedArguments (s : Session) : List Char :=
  (s.separators.take 1).intercalate s.arguments

/-- The value of a variable or of a special parameter, if it is set. -/
def parameter? (s : Session) (name : List Char) : Option (List Char) :=
  match name with
  | ['#'] => some (toString s.arguments.length).toList
  | ['?'] => some (toString s.status).toList
  | ['$'] => some processNumber
  | ['0'] => some s.name
  | ['@'] | ['*'] => if s.arguments.isEmpty then none else some s.joinedArguments
  | ['-'] => some []
  | ['!'] => s.backgroundStatus?.map fun _ ↦ "4243".toList
  | name =>
    if name.all Char.isDigit then
      s.arguments[((String.ofList name).toNat?.getD 0) - 1]?
    else if name = "PWD".toList then some (pathOf s.directory)
    else s.bindings.get? name

/-! ## Files -/

/-- The place that a path leads to from the working directory. -/
def placeOf (s : Session) (path : List Char) : List String :=
  let absolute := if path.head? = some '/' then path else pathOf s.directory ++ '/' :: path
  Host.place (String.ofList absolute)

def hasPlace (s : Session) (place : List String) : Bool :=
  (s.files.get? place).isSome || (Host.inhabitant? place).isSome

/-- What stands in a file. A source that never ends is cut. -/
def contentOf (s : Session) (path : List Char) : Except Host.Failure (List Char) :=
  let place := s.placeOf path
  match s.files.get? place with
  | some index => .ok (s.sinks[index]?.getD []).reverse
  | none =>
    if place = ["dev", "stdin"] then .ok s.input
    else if place = ["dev", "zero"] then .ok (List.replicate 200000 '\x00')
    else
      match Host.inhabitant? place with
      | some .directory => .error .isDirectory
      | some _ => .ok []
      | none => .error .notFound

end Session

end LiveTemplate.Shell

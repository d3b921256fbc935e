import LiveTemplate.Host.Places
import LiveTemplate.Shell.Evaluation
import LiveTemplate.Text.Utf8

/-!
# Programs of the host

A name without a slash is looked for among the programs; any other path is followed through the
directories. Starting a program that is not one fails with the host's reason.
-/

namespace LiveTemplate.Host

def passed (place : List String) : List (List String) :=
  (List.range place.length).map fun n ↦ place.take n

/-- The program of a path, or the reason for which it cannot be started. -/
def find (path : String) : Except Failure Program :=
  if path.toList.contains '/' then
    let place := Host.place path
    let isObstacle (place : List String) : Bool :=
      (inhabitant? place).isSome && !isDirectory place
    let endsInSlash := path.toList.getLast? = some '/'
    if (passed place).any isObstacle || (endsInSlash && isObstacle place) then .error .notDirectory
    else if !isAbsolute path then .error .notFound
    else
      match inhabitant? place with
      | some (.program p) => .ok p
      | some _ => .error .permissionDenied
      | none => .error .notFound
  else if path = "." || path = ".." then .error .permissionDenied
  else
    match program? path with
    | some p => .ok p
    | none => .error .notFound

def isPassable (text : String) : Bool := !text.toList.contains '\x00'

/-- Starts a program with a script as its command, and gives what it writes. -/
def runCommand (path script : String) : Except Failure Output := do
  if !isPassable path || !isPassable script then throw .nulByte
  match ← find path with
  | .shell => return Shell.runScript (Text.encode path) (Text.encode script)
  | .silent => return ⟨[], []⟩
  | .repeating => return ⟨Text.encode ("-c " ++ script ++ "\n"), []⟩

end LiveTemplate.Host

import LiveTemplate.CommandLine.EnvironmentFile
import LiveTemplate.Host.Programs
import LiveTemplate.Program.Run
import Std.Time.Zoned

/-!
# The command line

The program as it is run: it collects what it finds around it, hands it over, and shows what comes
back. While the program runs, its clock follows the real one, and every render is written as soon as
it is there. Shell commands run in the small host that comes with the program, since it starts no
processes.
-/

namespace LiveTemplate.Program

/-! ## Surroundings -/

def failureOf : IO.Error → Host.Failure
  | .noFileOrDirectory _ _ _ => .notFound
  | .permissionDenied _ _ _ => .permissionDenied
  | .inappropriateType _ _ _ => .isDirectory
  | error => .other (toString error)

def readFile (path : String) : IO (Except Host.Failure (List UInt8)) := do
  try return .ok (← IO.FS.readBinFile path).toList
  catch error => return .error (failureOf error)

def variableNames : List String :=
  ["HOME", "LIVETEXT_CONFIG", "LIVETEXT_SHELL", "PATH", "SHELL", "XDG_CONFIG_HOME"]

/-- The variables of the environment, as far as the program looks at them. -/
def readEnvironment : IO (String → Option String) := do
  let values ← variableNames.mapM fun name ↦ return (name, ← IO.getEnv name)
  return fun name ↦ (values.lookup name).join

def isHostProgram (path : String) : Bool :=
  match Host.find path with
  | .ok _ => true
  | .error _ => false

/-- Starts a program of the host. It leaves the world as it is. -/
def startProgram {σ : Type} (program command : String) (world : σ) :
    Except Host.Failure Host.Output × σ :=
  (Host.runCommand program command, world)

def homeIn (environment : String → Option String) : Option String :=
  (environment "HOME").filter (· ≠ "")

/-- The directory of the user's settings, as far as the environment tells. -/
def configDirectoryIn (environment : String → Option String) : Option String :=
  ((environment "XDG_CONFIG_HOME").filter Host.isAbsolute).or
    ((homeIn environment).map (Host.join · ".config"))

/-- The environment with the variables of a file, if it can be read. -/
def withFile (file : Except Host.Failure (List UInt8)) (environment : String → Option String) :
    String → Option String :=
  match file with
  | .ok octets => CommandLine.withEnvironmentFile environment (Text.decodeLossy octets)
  | .error _ => environment

def readFiles (paths : List String) : IO FileReader := do
  let contents ← paths.mapM fun path ↦ return (path, ← readFile path)
  return fun path ↦ (contents.lookup path).getD (.error .notFound)

/-- Whether a path leads to anything, as far as its reading tells. -/
def leadsAnywhere (files : FileReader) (path : String) : Bool :=
  match files path with
  | .error .notFound | .error .notDirectory | .error .nulByte => false
  | _ => true

/-- The file with further variables: the first one in the working directory and those above it. -/
def readVariables : IO (Except Host.Failure (List UInt8)) := do
  let parts := Host.place (← IO.currentDir).toString
  for depth in (List.range (parts.length + 1)).reverse do
    let directory := parts.take depth |>.foldl Host.join "/"
    match ← readFile (Host.join directory ".env") with
    | .error .notFound => continue
    | file => return file
  return .error .notFound

def readClock : IO Calendar.Moment := do
  let now ← Std.Time.DateTime.now
  let nanoseconds := now.toTimestamp.toNanosecondsSinceUnixEpoch.val
  return {
    seconds := nanoseconds / Duration.perSecond
    nanoseconds := (nanoseconds % Duration.perSecond).toNat
    zone := .fixed now.timezone.offset.second.val }

/-! ## Showing -/

/-- The running program, what its terminal remembers, and how much of its history has been shown. -/
structure Show where
  clock : Refresh.Clockwork Calendar.Moment
  terminal : Display.Terminal := {}
  shown : Nat := 0

def Show.report (s : Show) (stream : IO.FS.Stream) : IO Show := do
  let history := s.clock.state.history
  let mut terminal := s.terminal
  for call in rendersOf (history.take (history.length - s.shown)) do
    if let some line := terminal.written? call then
      stream.putStr line
      stream.flush
    terminal := terminal.display call
  return { s with terminal := terminal, shown := history.length }

/-- Lets the program's clock follow the real one, which is given in milliseconds since the start. -/
def Show.follow (s : Show) (elapsed : Nat) : IO Show := do
  let moment ← readClock
  let state := { s.clock.state with world := moment }
  let passed := state.now / Duration.perMillisecond
  let clock := { s.clock with state := state }
  return { s with clock := clock.advance (elapsed - passed) }

/-- Shows what is rendered until the time is over, if it is limited. -/
partial def Show.go (s : Show) (stream : IO.FS.Stream) (start : Nat) (limit? : Option Nat) :
    IO Unit := do
  let elapsed := (← IO.monoMsNow) - start
  let target := (limit?.map (min elapsed)).getD elapsed
  let s ← (← s.follow target).report stream
  if limit?.isSome && limit? = some target then return
  IO.sleep 1
  s.go stream start limit?

/-! ## Running -/

/-- Reports why the program ends without showing anything, and gives the exit code. -/
def finish (ending : Ending) : IO UInt32 := do
  for line in ending.lines do IO.print line
  if let some report := ending.report? then IO.eprintln report
  return ending.code.toUInt32

def runLive (arguments : List String) : IO UInt32 := do
  let environment ← readEnvironment
  let further ← readVariables
  let machine : Machine Calendar.Moment :=
    { environment := environment
      homeIn := homeIn
      isProgram := isHostProgram
      moment := id
      start := startProgram
      world := ← readClock
      drift := fun nanoseconds moment ↦ moment.later nanoseconds
      files := fun _ ↦ .error .notFound
      isThere := fun _ ↦ false
      withFiles := withFile further
      configDirectoryIn := configDirectoryIn
      complaint := fun _ ↦ "not a settings document"
      wording := fun _ ↦ "task panicked"
      interrupt? := none }
  let machine := machine.withVariables
  match CommandLine.parse machine.environment ("livetext" :: arguments) with
  | .error refusal => finish ⟨.refused refusal, []⟩
  | .ok parsed =>
    let paths := [parsed.file, parsed.config, machine.defaultPath?].filterMap id
    let files ← readFiles paths
    let machine := { machine with files := files, isThere := leadsAnywhere files }
    match prepare machine parsed with
    | .error error => finish ⟨.failed error, []⟩
    | .ok plan =>
      let s : Show := { clock := plan.start machine }
      let limit? := plan.duration?.map Duration.ceilMilliseconds
      s.go (← IO.getStdout) (← IO.monoMsNow) limit?
      return 0

end LiveTemplate.Program

def main (arguments : List String) : IO UInt32 := LiveTemplate.Program.runLive arguments

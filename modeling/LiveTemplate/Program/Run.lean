import LiveTemplate.Command.Builtin
import LiveTemplate.CommandLine.Arguments
import LiveTemplate.Display.Terminal
import LiveTemplate.Program.Templates
import LiveTemplate.Refresh.Clockwork

/-!
# The program

The program reads its command line, loads what it needs, shows its templates, and keeps them
refreshed until its time is over or it is interrupted; then it shuts down. It loads the templates
first, then the duration, the settings and the least interval; the first of these that fails ends it.
An error may also come later, when the templates have been shown.
-/

namespace LiveTemplate.Program

open Command (Outside Registry Surroundings)
open CommandLine (Arguments Refusal)
open Refresh (Clockwork)

variable {σ : Type}

/-! ## The machine -/

/-- An interrupt, and when it comes, in milliseconds since the start. The host may also fail to wait
for one. -/
structure Interrupt where
  time : Nat
  outcome : Except Host.Failure Unit := .ok ()

/-- What the program finds around it. -/
structure Machine (σ : Type) extends Surroundings, Outside σ where
  /-- The world of the commands at the start. -/
  world : σ
  /-- What becomes of it while nanoseconds pass. -/
  drift : Nat → σ → σ
  files : FileReader
  /-- Whether a path leads to anything. -/
  isThere : String → Bool
  /-- The environment with the variables of the files that hold further ones. -/
  withFiles : (String → Option String) → String → Option String
  /-- The directory of the user's settings, under an environment. -/
  configDirectoryIn : (String → Option String) → Option String
  /-- What the decoder says about a text that says no settings. -/
  complaint : String → String
  /-- How the host words the end of a task that a panic has taken along. -/
  wording : Refresh.TaskId → String
  interrupt? : Option Interrupt

namespace Machine

/-- The machine with all variables of the environment. -/
def withVariables (machine : Machine σ) : Machine σ :=
  { machine with environment := machine.withFiles machine.environment }

def defaultPath? (machine : Machine σ) : Option String :=
  (machine.configDirectoryIn machine.environment).map fun directory ↦
    Host.join (Host.join directory "livetext") "config.json"

end Machine

/-! ## Preparation -/

/-- What the program is going to do. -/
structure Plan (σ : Type) where
  templates : List String
  duration? : Option Duration
  registry : Registry σ
  floor : Duration

def prepare (machine : Machine σ) (arguments : Arguments) : Except Error (Plan σ) := do
  let templates ← loadTemplates machine.files arguments
  let duration? ← runDuration arguments
  let settings ← loadSettings machine.files machine.isThere machine.complaint arguments.config
    machine.defaultPath?
  let settings := settings.withArguments arguments
  let registry := Registry.builtin machine.toOutside machine.toSurroundings settings.commands
  return ⟨templates, duration?, registry, ← settings.floor⟩

/-! ## Showing -/

def rendersOf (history : List Refresh.Entry) : List Display.Call :=
  history.reverse.filterMap fun entry ↦
    match entry.event with
    | .rendered index text _ => some { element := index, text := text }
    | _ => none

def linesOf (history : List Refresh.Entry) : List String :=
  (Display.Terminal.displayAll {} (rendersOf history)).filterMap id

def Plan.start (plan : Plan σ) (machine : Machine σ) : Clockwork σ :=
  Clockwork.operate
    { state := .initial plan.registry plan.floor machine.world, drift := machine.drift }
    (.setTexts plan.templates)

/-- When the program stops showing its templates, and whether the host has failed by then. It never
stops if its time is not limited and nobody interrupts it. -/
def Plan.stop? (plan : Plan σ) (interrupt? : Option Interrupt) : Option Interrupt :=
  match plan.duration?.map fun duration ↦ duration.ceilMilliseconds, interrupt? with
  | some limit, some interrupt => some (if interrupt.time ≤ limit then interrupt else ⟨limit, .ok ()⟩)
  | some limit, none => some ⟨limit, .ok ()⟩
  | none, interrupt? => interrupt?

/-! ## Results -/

inductive Result where
  /-- The command line is not accepted. -/
  | refused (refusal : Refusal)
  | failed (error : Error)
  | over

/-- How a run of the program ends, and what has happened to its list of texts until then. -/
structure Ending where
  result : Result
  history : List Refresh.Entry

namespace Ending

def code (ending : Ending) : Nat :=
  match ending.result with
  | .refused .helpRequested | .refused .versionRequested => 0
  | .refused _ => 2
  | .failed _ => 1
  | .over => 0

def lines (ending : Ending) : List String :=
  match ending.result with
  | .refused .versionRequested => ["livetext 0.1.0\n"]
  | _ => linesOf ending.history

def report? (ending : Ending) : Option String :=
  match ending.result with
  | .failed error => some ("Error: " ++ error.message)
  | _ => none

end Ending

/-- Shuts the program down. A program whose tasks do not end does not end either. -/
def shutDown (machine : Machine σ) (clock : Clockwork σ) : Option Ending :=
  let (clock, returned?) := clock.shutdown machine.wording
  returned?.map fun
    | .ok () => ⟨.over, clock.state.history⟩
    | .error error => ⟨.failed (.refresh error), clock.state.history⟩

/-- Shows the templates of a plan until the program ends, if it does. A failure of the host leaves no
time to wait for tasks; they are told to stop. -/
def Plan.show? (plan : Plan σ) (machine : Machine σ) : Option Ending :=
  (plan.stop? machine.interrupt?).bind fun interrupt ↦
    let clock := (plan.start machine).advance interrupt.time
    match interrupt.outcome with
    | .error failure => some ⟨.failed (.host failure), (clock.operate .clear).state.history⟩
    | .ok () => shutDown machine clock

/-- Runs the program, and tells how it ends, if it does. -/
def run (machine : Machine σ) (commandLine : List String) : Option Ending :=
  let machine := machine.withVariables
  match CommandLine.parse machine.environment commandLine with
  | .error refusal => some ⟨.refused refusal, []⟩
  | .ok arguments =>
    match prepare machine arguments with
    | .error error => some ⟨.failed error, []⟩
    | .ok plan => plan.show? machine

end LiveTemplate.Program

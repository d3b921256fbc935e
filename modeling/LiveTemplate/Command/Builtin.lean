import LiveTemplate.Calendar.Format
import LiveTemplate.Command.Config
import LiveTemplate.Command.Registry
import LiveTemplate.Text.Utf8

/-!
# Built-in commands

Two commands are built in: one shows the time in a format, the other what a shell command writes.
How the time is read and how a program is started is given from outside; starting one may fail, and
what it does to the world is up to the program.
-/

namespace LiveTemplate.Command

variable {σ : Type}

/-- What the built-in commands reach outside. -/
structure Outside (σ : Type) where
  /-- The time on the local clock. -/
  moment : σ → Calendar.Moment
  /-- Starts a program with a command line, without input, and waits for what it writes. -/
  start : (program command : String) → σ → Except Host.Failure Host.Output × σ

/-! ## The time -/

/-- What a formatting comes to as the outcome of a command. -/
def Outcome.ofFormatted (pattern : String) : Calendar.Formatted → Outcome
  | .text characters => .text (String.ofList characters)
  | .invalid => .failure (.invalidFormat pattern)
  | .unwritable =>
    .panicked (.text "a Display implementation returned an error unexpectedly: Error")

def showMoment (m : Calendar.Moment) (pattern : String) : Outcome :=
  .ofFormatted pattern (Calendar.format m pattern.toList)

def clockHandler (outside : Outside σ) : Handler σ :=
  .plain "dt" fun pattern world ↦ (showMoment (outside.moment world) pattern, world)

/-! ## Shell commands -/

/-- The text of what a program writes: its standard output, or its standard error if there is no
standard output, without the blanks around it. -/
def textOfOutput (output : Host.Output) : String :=
  Text.trimString (Text.decodeLossy (if output.out.isEmpty then output.err else output.out))

/-- What comes of a program that is to run a shell command. -/
def Outcome.ofOutput (shell : String) : Except Host.Failure Host.Output → Outcome
  | .ok output => .text (textOfOutput output)
  | .error reason => .failure (.spawn shell reason)

/-- Shell commands run on a worker unless a directive says otherwise. -/
def shellHandler (outside : Outside σ) (shell : String) : Handler σ where
  name := "sh"
  defaultAsync := true
  run := fun command world ↦
    let (result, world) := outside.start shell command world
    (.ofOutput shell result, world)

/-! ## The registry -/

def Registry.builtin (outside : Outside σ) (surroundings : Surroundings) (config : Config) :
    Registry σ :=
  ((Registry.empty.register (clockHandler outside)).register
    (shellHandler outside (config.resolveShell surroundings))).setDefaults config.asyncDefaults

end LiveTemplate.Command

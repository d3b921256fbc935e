import LiveTemplate.Number.Literal

/-!
# Arguments

A command line consists of templates, options with a value, and flags. An option with a value is
written in full or as one letter, and its value follows as the next argument, behind an equals sign,
or behind the letter; letters of flags can be written together. After a double dash everything is a
template.

A value that follows as an argument of its own is examined only when something else comes: another
option that is known, a template, or the end. So an unknown option is reported even when the value
in front of it is bad. The first reason for refusing a command line is the one that is reported.
-/

namespace LiveTemplate.CommandLine

open Number (Binary64)

variable {α : Type}

/-! ## Options -/

/-- An option with a value. -/
inductive Setting where
  | file
  | config
  | shell
  | minInterval
  | duration
  deriving DecidableEq, Repr

/-- An option without a value. -/
inductive Flag where
  | verbose
  | help
  | version
  deriving DecidableEq, Repr

/-- What a word or a letter behind a dash stands for. -/
inductive Switch where
  | setting (s : Setting)
  | flag (f : Flag)
  deriving DecidableEq, Repr

def switchOfWord? (word : String) : Option Switch :=
  if word = "file" then some (.setting .file)
  else if word = "config" then some (.setting .config)
  else if word = "shell" then some (.setting .shell)
  else if word = "min-interval" then some (.setting .minInterval)
  else if word = "duration" then some (.setting .duration)
  else if word = "verbose" then some (.flag .verbose)
  else if word = "help" then some (.flag .help)
  else if word = "version" then some (.flag .version)
  else none

def switchOfLetter? : Char → Option Switch
  | 'f' => some (.setting .file)
  | 'c' => some (.setting .config)
  | 'd' => some (.setting .duration)
  | 'v' => some (.flag .verbose)
  | 'h' => some (.flag .help)
  | 'V' => some (.flag .version)
  | _ => none

structure Arguments where
  templates : List String := []
  file : Option String := none
  config : Option String := none
  shell : Option String := none
  minInterval : Option Binary64 := none
  duration : Option Binary64 := none
  /-- How often verbosity is asked for, up to 255 times. -/
  verbosity : Nat := 0

inductive Refusal where
  | unknownOption
  /-- A value is missing, or is an empty path. -/
  | missingValue
  /-- A value is not a number. -/
  | malformedNumber
  /-- A flag has a value. -/
  | valueOfFlag
  /-- An option is given twice. -/
  | repeated
  | helpRequested
  | versionRequested
  deriving DecidableEq, Repr

/-! ## Values -/

def readNumber (value : String) : Except Refusal Binary64 :=
  match Number.parse? value.toList with
  | some number => .ok number
  | none => .error .malformedNumber

def readPath (value : String) : Except Refusal String :=
  if value.isEmpty then .error .missingValue else .ok value

def assign (read : String → Except Refusal α) (old : Option α) (value : String) :
    Except Refusal (Option α) :=
  match old with
  | some _ => .error .repeated
  | none => (read value).map some

namespace Arguments

def set (arguments : Arguments) (setting : Setting) (value : String) :
    Except Refusal Arguments :=
  match setting with
  | .file => (assign readPath arguments.file value).map fun v ↦ { arguments with file := v }
  | .config => (assign readPath arguments.config value).map fun v ↦ { arguments with config := v }
  | .shell => (assign .ok arguments.shell value).map fun v ↦ { arguments with shell := v }
  | .minInterval =>
    (assign readNumber arguments.minInterval value).map fun v ↦
      { arguments with minInterval := v }
  | .duration =>
    (assign readNumber arguments.duration value).map fun v ↦ { arguments with duration := v }

def raise (arguments : Arguments) : Flag → Except Refusal Arguments
  | .verbose => .ok { arguments with verbosity := min (arguments.verbosity + 1) 255 }
  | .help => .error .helpRequested
  | .version => .error .versionRequested

end Arguments

/-! ## Reading -/

/-- What has been read, and an option whose value has not been examined. -/
structure Reading where
  arguments : Arguments := {}
  /-- The option, and its value if it has come. -/
  pending? : Option (Setting × Option String) := none
  /-- Whether everything else is a template. -/
  isPlain : Bool := false

namespace Reading

/-- Examines the value that has not been examined. -/
def settle (r : Reading) : Except Refusal Reading :=
  match r.pending? with
  | none => .ok r
  | some (_, none) => .error .missingValue
  | some (setting, some value) =>
    (r.arguments.set setting value).map fun arguments ↦
      { r with arguments := arguments, pending? := none }

/-- Reads an option with a value that may be attached to it. -/
def takeSetting (r : Reading) (setting : Setting) (attached? : Option String) :
    Except Refusal Reading := do
  let r ← r.settle
  match attached? with
  | some value => return { r with arguments := ← r.arguments.set setting value }
  | none => return { r with pending? := some (setting, none) }

def takeFlag (r : Reading) (flag : Flag) : Except Refusal Reading := do
  let r ← r.settle
  return { r with arguments := ← r.arguments.raise flag }

/-- Reads a word behind two dashes, with the value behind its equals sign. -/
def takeWord (r : Reading) (word : String) (attached? : Option String) : Except Refusal Reading :=
  match switchOfWord? word with
  | none => .error .unknownOption
  | some (.setting setting) => r.takeSetting setting attached?
  | some (.flag flag) => if attached?.isSome then .error .valueOfFlag else r.takeFlag flag

def attachedValue? : List Char → Option String
  | [] => none
  | '=' :: rest => some (String.ofList rest)
  | text => some (String.ofList text)

def takeLetters (r : Reading) : List Char → Except Refusal Reading
  | [] => .ok r
  | letter :: rest =>
    match switchOfLetter? letter with
    | none => .error .unknownOption
    | some (.setting setting) => r.takeSetting setting (attachedValue? rest)
    | some (.flag flag) => do takeLetters (← r.takeFlag flag) rest

def takeTemplate (r : Reading) (text : String) : Except Refusal Reading := do
  let r ← r.settle
  return { r with arguments := { r.arguments with templates := r.arguments.templates ++ [text] } }

/-- Reads an argument that is no option: the value of the option in front of it, or a template. -/
def takePlain (r : Reading) (text : String) : Except Refusal Reading :=
  match r.pending? with
  | some (setting, none) => .ok { r with pending? := some (setting, some text) }
  | _ => r.takeTemplate text

def splitWord (text : List Char) : String × Option String :=
  (String.ofList (text.takeWhile (· ≠ '=')),
    match text.dropWhile (· ≠ '=') with
    | [] => none
    | _ :: value => some (String.ofList value))

def take (r : Reading) (argument : String) : Except Refusal Reading :=
  if r.isPlain then r.takeTemplate argument
  else
    match argument.toList with
    | ['-', '-'] => .ok { r with isPlain := true }
    | '-' :: '-' :: text => r.takeWord (splitWord text).1 (splitWord text).2
    | '-' :: letter :: rest => r.takeLetters (letter :: rest)
    | _ => r.takePlain argument

end Reading

/-- The environment variable that stands for the settings file when the command line does not. -/
def configVariable : String := "LIVETEXT_CONFIG"

/-- Fills in what the environment says and the command line does not. -/
def Arguments.completed (environment : String → Option String) (arguments : Arguments) :
    Except Refusal Arguments :=
  match arguments.config, environment configVariable with
  | none, some value => arguments.set .config value
  | _, _ => .ok arguments

/-- Reads a command line, whose first argument is the name of the program. -/
def parse (environment : String → Option String) (commandLine : List String) :
    Except Refusal Arguments := do
  let reading ← commandLine.tail.foldlM Reading.take {}
  (← reading.settle).arguments.completed environment

/-- What is logged at a verbosity. -/
def Arguments.logFilter (arguments : Arguments) : String :=
  match arguments.verbosity with
  | 0 => "livetext=info"
  | 1 => "livetext=debug"
  | _ => "livetext=trace"

end LiveTemplate.CommandLine

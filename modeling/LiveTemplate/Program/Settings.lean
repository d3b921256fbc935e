import LiveTemplate.Command.Config
import LiveTemplate.CommandLine.Arguments
import LiveTemplate.Document.Value
import LiveTemplate.Program.Error
import LiveTemplate.Text.Utf8

/-!
# Settings

Settings are a table. One member is read by the settings themselves; all others are handed on to the
configuration of the commands, which knows two of them and ignores the rest. A member that is known
may be given once. Where the command line says something, it wins.
-/

namespace LiveTemplate.Program

open CommandLine (Arguments)
open Document (Value)
open Number (Binary64)

structure Settings where
  commands : Command.Config := {}
  minInterval : Option Binary64 := none

/-! ## Reading -/

def optionalText? : Value → Option (Option String)
  | .null => some none
  | .text characters => some (some characters)
  | _ => none

def optionalNumber? : Value → Option (Option Binary64)
  | .null => some none
  | .number x => some (some x)
  | _ => none

def mode? : String × Value → Option (String × Bool)
  | (name, .boolean truth) => some (name, truth)
  | _ => none

/-- The truth values of names, where a later one of a name replaces an earlier one. -/
def modes? : Value → Option (Keyed String Bool)
  | .table members => (members.mapM mode?).map Keyed.ofEntries
  | _ => none

/-- A member that has been read, unless there was one before. -/
def once? {α : Type} (read? : Value → Option α) (earlier? : Option α) (value : Value) :
    Option (Option α) :=
  match earlier? with
  | some _ => none
  | none => (read? value).map some

/-- The configuration of the commands while its members are read. -/
structure CommandMembers where
  shell? : Option (Option String) := none
  modes? : Option (Keyed String Bool) := none

/-- Reads a member of the configuration of the commands, and ignores one that is not known. -/
def CommandMembers.visit (found : CommandMembers) (member : String × Value) :
    Option CommandMembers :=
  if member.1 = "shell" then
    (once? optionalText? found.shell? member.2).map fun shell? ↦ { found with shell? := shell? }
  else if member.1 = "async_defaults" then
    (once? Program.modes? found.modes? member.2).map fun modes? ↦ { found with modes? := modes? }
  else some found

/-- The configuration of the commands that members say, where a missing member says nothing. -/
def configOf? (members : List (String × Value)) : Option Command.Config := do
  let found ← members.foldlM CommandMembers.visit {}
  return ⟨found.shell?.join, found.modes?.getD []⟩

/-- The settings while the members of their document are read. -/
structure SettingsMembers where
  minInterval? : Option (Option Binary64) := none
  /-- The members that are left to the configuration of the commands, in their order. -/
  others : List (String × Value) := []

/-- Reads a member of the settings, or puts it aside. -/
def SettingsMembers.visit (found : SettingsMembers) (member : String × Value) :
    Option SettingsMembers :=
  if member.1 = "min_interval_secs" then
    (once? optionalNumber? found.minInterval? member.2).map fun minInterval? ↦
      { found with minInterval? := minInterval? }
  else some { found with others := found.others ++ [member] }

/-- The settings that a document says. The configuration of the commands has no member of its own:
its members stand among those of the settings. -/
def Settings.ofDocument? : Value → Option Settings
  | .table members => do
    let found ← members.foldlM SettingsMembers.visit {}
    return ⟨← configOf? found.others, found.minInterval?.join⟩
  | _ => none

def Settings.keys : List String := ["async_defaults", "min_interval_secs", "shell"]

def readText (octets : List UInt8) : Except Error String :=
  match Text.decode? octets with
  | some text => .ok text
  | none => .error (.host .malformedText)

/-- The settings that a file says. The decoder says what is wrong with a text that says none. -/
def Settings.ofOctets (complaint : String → String) (octets : List UInt8) :
    Except Error Settings := do
  let text ← readText octets
  match (Document.parse? text.toList).bind Settings.ofDocument? with
  | some settings => return settings
  | none => throw (.malformedSettings (complaint text))

/-! ## Use -/

namespace Settings

def withArguments (settings : Settings) (arguments : Arguments) : Settings where
  commands := { settings.commands with shell := arguments.shell.or settings.commands.shell }
  minInterval := arguments.minInterval.or settings.minInterval

/-- The least interval between two ticks when the settings do not say. -/
def defaultFloor : Duration := .ofMilliseconds 10

/-- The least interval between two ticks. -/
def floor (settings : Settings) : Except Error Duration :=
  match settings.minInterval with
  | none => .ok defaultFloor
  | some seconds => durationOf "min_interval_secs" seconds

def isDefault (settings : Settings) : Bool :=
  settings.commands.shell.isNone && settings.commands.asyncDefaults.isEmpty &&
    settings.minInterval.isNone

end Settings

end LiveTemplate.Program

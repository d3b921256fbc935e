import LiveTemplate.CommandLine.Arguments
import LiveTemplate.Program.Settings
import LiveTemplate.Text.Blank
import LiveTemplate.Text.Lines

/-!
# Loading

The program shows the templates of the command line, followed by the lines of the template file that
are not blank. It runs for the duration of the command line, under the settings of a file: the one
that the command line names, which must exist, or else the default one, which need not.
-/

namespace LiveTemplate.Program

open CommandLine (Arguments)

/-- How a file is read: its octets, or the reason for which there are none. -/
abbrev FileReader := String → Except Host.Failure (List UInt8)

def readOctets (files : FileReader) (path : String) : Except Error (List UInt8) :=
  (files path).mapError .host

def templateLines (text : String) : List String :=
  (Text.linesOf text).filter fun line ↦ !Text.isBlankText line

def loadTemplates (files : FileReader) (arguments : Arguments) : Except Error (List String) := do
  let fromFile ←
    match arguments.file with
    | some path => pure (templateLines (← readText (← readOctets files path)))
    | none => pure []
  let templates := arguments.templates ++ fromFile
  if templates.isEmpty then throw .noTemplates else return templates

/-- The time for which the program runs, if it is limited. -/
def runDuration (arguments : Arguments) : Except Error (Option Duration) :=
  match arguments.duration with
  | none => .ok none
  | some seconds => (durationOf "duration" seconds).map some

/-- The settings of a file, or of the default file if there is one. Whether a path leads anywhere and
whether a file can be read are two questions to the host. -/
def loadSettings (files : FileReader) (isThere : String → Bool) (complaint : String → String)
    (path? defaultPath? : Option String) : Except Error Settings :=
  match path?, defaultPath? with
  | some path, _ => do Settings.ofOctets complaint (← readOctets files path)
  | none, some path =>
    if isThere path then do Settings.ofOctets complaint (← readOctets files path) else .ok {}
  | none, none => .ok {}

end LiveTemplate.Program

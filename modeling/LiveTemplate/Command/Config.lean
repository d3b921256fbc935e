import LiveTemplate.Host.Path
import LiveTemplate.Keyed
import LiveTemplate.Text.Blank

/-!
# Configuration of the built-in commands

The shell is the first of the configured one, two environment variables and a default that is not
blank. A program is then looked for: a tilde in front stands for the home directory, and a bare name
is searched on the path. A name that is not found is left as it is, so that the failure shows when
the program is run.
-/

namespace LiveTemplate.Command

open Host

structure Config where
  shell : Option String := none
  asyncDefaults : Keyed String Bool := []

structure Surroundings where
  /-- The value of an environment variable. -/
  environment : String → Option String
  /-- The home directory that the host knows of, under an environment. -/
  homeIn : (String → Option String) → Option String
  /-- Whether a path names a regular file that may be executed. -/
  isProgram : String → Bool

namespace Surroundings

def home? (surroundings : Surroundings) : Option String :=
  surroundings.homeIn surroundings.environment

/-- Replaces a leading tilde that is followed by a slash or by nothing. -/
def expandTilde (surroundings : Surroundings) (path : String) : String :=
  match path.toList with
  | '~' :: rest =>
    match surroundings.home? with
    | some home =>
      if rest.isEmpty || rest.head? = some '/' then home ++ String.ofList rest else path
    | none => path
  | _ => path

/-- A directory of the search path, of which a first component that is a tilde stands for the home
directory. -/
def searchDirectory (surroundings : Surroundings) (directory : String) : String :=
  match isAbsolute directory, relativeComponents directory with
  | false, "~" :: rest => rest.foldl join (surroundings.home?.getD "")
  | _, _ => directory

def search (surroundings : Surroundings) (name : String) : Option String :=
  (surroundings.environment "PATH").bind fun directories ↦
    ((splitString ':' directories).map fun directory ↦
      join (surroundings.searchDirectory directory) name).find? surroundings.isProgram

/-- The path of a program. A bare name that is written with a slash is looked for in the working
directory only. -/
def expandProgram (surroundings : Surroundings) (raw : String) : String :=
  let path := surroundings.expandTilde raw
  if isBareName path then
    if path.toList.contains '/' then path else (surroundings.search path).getD path
  else path

end Surroundings

def defaultShell : String := "/bin/sh"

def Config.resolveShell (config : Config) (surroundings : Surroundings) : String :=
  let choices := [config.shell, surroundings.environment "LIVETEXT_SHELL",
    surroundings.environment "SHELL"]
  let chosen := choices.findSome? fun choice ↦ choice.filter fun shell ↦ !Text.isBlankText shell
  surroundings.expandProgram (chosen.getD defaultShell)

end LiveTemplate.Command

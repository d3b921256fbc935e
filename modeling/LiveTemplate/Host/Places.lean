import LiveTemplate.Host.Path

/-!
# Places of the host

A small host with the usual directories, some files, and a few programs: shells, programs that write
nothing, and one that repeats its arguments.
-/

namespace LiveTemplate.Host

inductive Program where
  /-- Runs a script. -/
  | shell
  /-- Writes nothing. -/
  | silent
  /-- Writes its arguments. -/
  | repeating
  deriving DecidableEq, Repr

/-- What a path leads to. -/
inductive Inhabitant where
  | directory
  | file
  | program (p : Program)
  deriving DecidableEq, Repr

def program? (name : String) : Option Program :=
  if ["sh", "dash", "bash"].contains name then some .shell
  else if ["true", "false", "sleep"].contains name then some .silent
  else if name = "echo" then some .repeating
  else none

def programDirectories : List (List String) := [["bin"], ["usr", "bin"]]

def directories : List (List String) :=
  [[], ["tmp"], ["etc"], ["usr"], ["usr", "lib"], ["usr", "share"], ["usr", "local"], ["dev"],
    ["home"], ["root"], ["var"], ["var", "tmp"], ["var", "log"], ["lib"], ["opt"], ["proc"],
    ["sys"], ["run"], ["mnt"], ["srv"], ["boot"], ["media"], ["sbin"], ["usr", "sbin"]]

def files : List (List String) :=
  [["etc", "passwd"], ["etc", "hosts"], ["etc", "group"], ["etc", "hostname"], ["etc", "fstab"],
    ["etc", "profile"], ["dev", "null"], ["dev", "zero"], ["dev", "tty"]]

def inhabitant? (place : List String) : Option Inhabitant :=
  if directories.contains place || programDirectories.contains place then some .directory
  else if files.contains place then some .file
  else if programDirectories.contains place.dropLast then
    (place.getLast?.bind program?).map .program
  else none

def isDirectory (place : List String) : Bool := inhabitant? place = some .directory

end LiveTemplate.Host

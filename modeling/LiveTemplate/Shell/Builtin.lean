import LiveTemplate.Shell.Condition
import LiveTemplate.Shell.Field
import LiveTemplate.Shell.Filter

/-!
# Commands of the session

The commands that need nothing but a session: they print, test, read a line, change variables, or
leave.
-/

namespace LiveTemplate.Shell

/-! ## Complaints -/

def fail (program message : String) (s : Session) : Session :=
  (s.complain message (some program)).leave 2

def abortBy (program message : String) (s : Session) : Session :=
  s.abort message (some program)

def emit (program : String) (text : List Char) (s : Session) : Session :=
  if text.isEmpty || s.accepts 1 then (s.write 1 text).leave 0
  else (s.complain (program ++ ": I/O error") (some program)).leave 1

/-! ## Printing -/

/-- Prints the arguments, whose escapes are read, and ends the line unless it is told not to. -/
def echo : Builtin := fun arguments s ↦
  let isOpen := arguments.head? = some "-n".toList
  let (text, stops) :=
    unescape ([' '].intercalate (if isOpen then arguments.tail else arguments))
  emit "echo" (if isOpen || stops then text else text ++ ['\n']) s

def printf : Builtin := fun arguments s ↦
  let arguments := if arguments.head? = some ['-', '-'] then arguments.tail else arguments
  match arguments with
  | [] => fail "printf" "usage: printf format [arg ...]" s
  | format :: arguments =>
    let printed := printFormat format arguments
    let s := printed.complaints.foldl
      (fun (s : Session) message ↦ s.complain message (some "printf")) s
    let s := emit "printf" printed.text s
    if printed.complaints.isEmpty then s else s.leave (if printed.stops then 2 else 1)

/-! ## Input -/

/-- The characters of a line up to its end, whether each is quoted, what follows, and whether the
line is ended. A backslash quotes the next character, and joins lines. -/
def takeInputLine (isRaw : Bool) : List Char → List Mark × List Char × Bool
  | [] => ([], [], false)
  | '\n' :: rest => ([], rest, true)
  | '\\' :: c :: rest =>
    if isRaw then
      if c = '\n' then ([.split '\\'], rest, true)
      else
        let (marks, rest, isEnded) := takeInputLine isRaw (c :: rest)
        (.split '\\' :: marks, rest, isEnded)
    else
      let (marks, rest, isEnded) := takeInputLine isRaw rest
      (if c = '\n' then marks else .quoted c :: marks, rest, isEnded)
  | c :: rest =>
    let (marks, rest, isEnded) := takeInputLine isRaw rest
    (.split c :: marks, rest, isEnded)

def isBlankMark (separators : List Char) : Mark → Bool
  | .split c => isBlankSeparator separators c
  | _ => false

def isSeparatorMark (separators : List Char) : Mark → Bool
  | .split c => separators.contains c
  | _ => false

def skipSeparator (separators : List Char) (marks : List Mark) : List Mark :=
  match marks.dropWhile (isBlankMark separators) with
  | mark :: rest =>
    if isSeparatorMark separators mark then rest.dropWhile (isBlankMark separators)
    else mark :: rest
  | [] => []

/-- Gives the words of a line to variables; the last one takes what is left. -/
def assignWords (separators : List Char) (s : Session) : List (List Char) → List Mark → Session
  | [], _ => s
  | [name], marks =>
    let isBlank := isBlankMark separators
    let kept := ((marks.dropWhile isBlank).reverse.dropWhile isBlank).reverse
    s.setVariable name (textOf kept)
  | name :: names, marks =>
    let marks := marks.dropWhile (isBlankMark separators)
    let word := marks.takeWhile fun mark ↦ !isSeparatorMark separators mark
    assignWords separators (s.setVariable name (textOf word)) names
      (skipSeparator separators (marks.drop word.length))

def read : Builtin := fun arguments s ↦
  let isRaw := arguments.head? = some ['-', 'r']
  let names := if isRaw then arguments.tail else arguments
  if names.isEmpty then fail "read" "arg count" s
  else
    let (marks, rest, isEnded) := takeInputLine isRaw s.input
    let s := assignWords s.separators { s with input := rest } names marks
    if s.isRunning then s.leave (if isEnded then 0 else 1) else s

/-! ## Tests -/

def decideBy (program : String) (words : List (List Char)) (s : Session) : Session :=
  match judge s words with
  | .ok true => s.leave 0
  | .ok false => s.leave 1
  | .error message => fail program message s

def test : Builtin := decideBy "test"

def bracket : Builtin := fun arguments s ↦
  if arguments.getLast? = some [']'] then decideBy "[" arguments.dropLast s
  else fail "[" "missing ]" s

/-! ## Directories -/

def cd : Builtin := fun arguments s ↦
  let goesBack := arguments.head? = some ['-']
  let target := match arguments with
    | [] => (s.parameter? "HOME".toList).getD ['/']
    | path :: _ => path
  let place := if goesBack then s.lastDirectory else s.placeOf target
  if Host.isDirectory place then
    let s := if goesBack then s.write 1 (Session.pathOf place ++ ['\n']) else s
    { s with directory := place, lastDirectory := s.directory }.leave 0
  else fail "cd" ("can't cd to " ++ String.ofList target) s

def pwd : Builtin := fun _ s ↦ emit "pwd" (Session.pathOf s.directory ++ ['\n']) s

/-! ## Variables and arguments -/

/-- Does something with the names of some arguments, which may be assignments. -/
def withNames (program : String) (change : Session → List Char → Session) : Builtin :=
  fun arguments s ↦
    arguments.foldl (fun (s : Session) argument ↦
      let name := ((splitAssignment? argument).map Prod.fst).getD argument
      if !s.isRunning || argument = ['-', 'p'] then s
      else if !isName name then
        abortBy program (String.ofList name ++ ": bad variable name") s
      else
        let s := change s name
        match splitAssignment? argument with
        | some (name, value) => s.setVariable name value
        | none => s) (s.leave 0)

def «export» : Builtin :=
  withNames "export" fun s name ↦ { s with exported := name :: s.exported }

def «readonly» : Builtin := fun arguments s ↦
  let s := withNames "readonly" (fun s _ ↦ s) arguments s
  let names := arguments.map fun argument ↦ ((splitAssignment? argument).map Prod.fst).getD argument
  { s with constants := names ++ s.constants }

def «local» : Builtin := fun arguments s ↦
  if s.calls = 0 then abortBy "local" "not in a function" s
  else
    withNames "local" (fun s name ↦
      { s with shadowed := (name, s.bindings.get? name) :: s.shadowed }) arguments s

/-- Gives variables back the values that they had outside of a function. -/
def Session.restore (s : Session) (shadowed : List (List Char × Option (List Char))) : Session :=
  let added := s.shadowed.take (s.shadowed.length - shadowed.length)
  { added.foldl (fun (s : Session) (name, value?) ↦ s.reset name value?) s with
    shadowed := shadowed }

def unset : Builtin := fun arguments s ↦
  match arguments with
  | ['-', 'f'] :: names =>
    { s with functions := s.functions.filter fun entry ↦ !names.contains entry.1 }.leave 0
  | arguments =>
    (arguments.filter (· ≠ ['-', 'v'])).foldl (fun (s : Session) name ↦
      if !isName name then abortBy "unset" (String.ofList name ++ ": bad variable name") s
      else if s.constants.contains name then
        abortBy "unset" (String.ofList name ++ ": is read only") s
      else s.removeVariable name) (s.leave 0)

def setOption (isOn : Bool) (s : Session) (letter : Char) : Session :=
  match letter with
  | 'e' => { s with stopsOnFailure := isOn }
  | 'u' => { s with refusesUnset := isOn }
  | letter =>
    if "aCfmnvxbhEIV".toList.contains letter then s
    else
      abortBy "set" ("Illegal option -" ++ String.singleton letter) s

def set : Builtin := fun arguments s ↦
  match arguments with
  | ['-', '-'] :: rest => { s with arguments := rest }.leave 0
  | ['-', 'o'] :: _ | ['+', 'o'] :: _ => s.leave 0
  | ('-' :: letters) :: rest =>
    let s := letters.foldl (setOption true) (s.leave 0)
    if rest.isEmpty then s else { s with arguments := rest }
  | ('+' :: letters) :: _ => letters.foldl (setOption false) (s.leave 0)
  | [] => s.leave 0
  | rest => { s with arguments := rest }.leave 0

/-- Does something with a natural number that a command is given, or with another one. -/
def withNumber (program : String) (other : Nat) (arguments : List (List Char)) (s : Session)
    (use : Nat → Session) : Session :=
  match arguments with
  | [] => use other
  | word :: _ =>
    if word.isEmpty || !word.all Char.isDigit then
      abortBy program ("Illegal number: " ++ String.ofList word) s
    else use (decimalOf word)

def shift : Builtin := fun arguments s ↦
  withNumber "shift" 1 arguments s fun n ↦
    if s.arguments.length < n then abortBy "shift" "can't shift that many" s
    else { s with arguments := s.arguments.drop n }.leave 0

/-! ## Leaving -/

def exit : Builtin := fun arguments s ↦
  withNumber "exit" s.status arguments s fun n ↦ { s with status := n % 256, flow := .exiting }

def «return» : Builtin := fun arguments s ↦
  withNumber "return" s.status arguments s fun n ↦ { s with status := n % 256, flow := .returning }

/-- Leaves loops, or goes on with their next turn; outside of a loop nothing happens. -/
def leaveLoops (program : String) (flow : Nat → Flow) : Builtin := fun arguments s ↦
  withNumber program 1 arguments s fun n ↦
    if n = 0 then abortBy program "Illegal number: 0" s
    else if s.loops = 0 then s.leave 0
    else { s with status := 0, flow := flow (min n s.loops) }

def signals : List (String × Nat) :=
  [("EXIT", 0), ("HUP", 1), ("INT", 2), ("QUIT", 3), ("ABRT", 6), ("KILL", 9), ("USR1", 10),
    ("USR2", 12), ("PIPE", 13), ("ALRM", 14), ("TERM", 15)]

/-- The number of a signal that is given by its name or number. -/
def signalNumber (text : String) : Nat :=
  ((signals.find? fun (name, _) ↦ name = text).map Prod.snd).getD (decimalOf text.toList)

def trap : Builtin := fun arguments s ↦
  match arguments with
  | action :: names =>
    names.foldl (fun (s : Session) name ↦
      match signalNumber (String.ofList name) with
      | 0 => { s with farewell := if action = ['-'] then [] else action }
      | n =>
        if action = ['-'] then { s with traps := s.traps.filter fun entry ↦ entry.1 ≠ n }
        else { s with traps := s.traps.put n action }) (s.leave 0)
  | [] => s.leave 0

/-- Prints the mask of permissions that new files do not get. -/
def umask : Builtin := fun arguments s ↦
  if arguments.isEmpty then emit "umask" "0022\n".toList s else s.leave 0

/-! ## Names -/

def builtin? (name : String) : Option Builtin :=
  match name with
  | "echo" => some echo
  | "printf" => some printf
  | "read" => some read
  | "test" => some test
  | "[" => some bracket
  | "cd" => some cd
  | "pwd" => some pwd
  | "export" => some «export»
  | "readonly" => some «readonly»
  | "local" => some «local»
  | "unset" => some unset
  | "set" => some set
  | "shift" => some shift
  | "exit" => some exit
  | "return" => some «return»
  | "break" => some (leaveLoops "break" .breaking)
  | "continue" => some (leaveLoops "continue" .continuing)
  | "trap" => some trap
  | "umask" => some umask
  | ":" | "true" | "alias" | "hash" | "jobs" | "times" | "ulimit" => some fun _ s ↦ s.leave 0
  | "false" | "unalias" => some fun _ s ↦ s.leave 1
  | "wait" => some fun arguments s ↦
    s.leave (if arguments.isEmpty then 0 else s.backgroundStatus?.getD 0)
  | name => textProgram? name

def ownNames : List String :=
  specialNames ++ ["echo", "printf", "read", "test", "[", "cd", "pwd", "umask", "true", "alias",
    "hash", "jobs", "ulimit", "false", "unalias", "wait", "kill", "command", "type"]

end LiveTemplate.Shell

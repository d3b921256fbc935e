import LiveTemplate.Host.Failure
import LiveTemplate.Shell.Builtin

/-!
# Running scripts

A script runs line by line. Words are expanded when the command to which they belong is about to
run; substitutions, subshells and the commands of a pipeline run in a session of their own, of which
only the output and the status stay. A pipeline runs its commands one after the other, each on the
whole output of the one before, and so does a command in the background. The number of commands and
the depth of calls are bounded, so that a script that would run for ever is cut.
-/

namespace LiveTemplate.Shell

/-! ## Words -/

def substituted (isDouble : Bool) (text : List Char) : List Mark :=
  text.map fun c ↦ if isDouble then .quoted c else .split c

def literalMark (isDouble : Bool) (c : Char) : Mark := if isDouble then .quoted c else .plain c

def escapedMarks (isDouble : Bool) (c : Char) : List Mark :=
  if c = '\n' then []
  else if isDouble && !(['$', '"', '\\', '\x60'].contains c) then [.quoted '\\', .quoted c]
  else [.quoted c]

/-- A mark at which a word may be split. -/
def loosened : Mark → Mark
  | .plain c => .split c
  | mark => mark

/-- The marks of all arguments, each a field of its own if they are quoted. -/
def argumentMarks (isDouble : Bool) (arguments : List (List Char)) : List Mark :=
  if isDouble then
    [Mark.cut].intercalate (arguments.map fun argument ↦ Mark.hold :: argument.map .quoted)
  else [Mark.split ' '].intercalate (arguments.map fun argument ↦ argument.map .split)

/-- The script between backquotes, which may stand between double quotes. -/
def unescapeBackquoted (isDouble : Bool) : List Char → List Char
  | '\\' :: c :: rest =>
    if ['$', '\\', '\x60'].contains c || (isDouble && c = '"') then
      c :: unescapeBackquoted isDouble rest
    else '\\' :: c :: unescapeBackquoted isDouble rest
  | c :: rest => c :: unescapeBackquoted isDouble rest
  | [] => []

/-- A word of a modifier between double quotes, in which further double quotes have no effect. -/
def withoutQuotes : List Char → List Char
  | '\\' :: c :: rest => '\\' :: c :: withoutQuotes rest
  | c :: rest => if c = '"' then withoutQuotes rest else c :: withoutQuotes rest
  | [] => []

/-- A text without the line ends behind it and without null characters. -/
def trimOutput (text : List Char) : List Char :=
  (text.reverse.dropWhile (· = '\n')).reverse.filter (· ≠ '\x00')

def takeName (text : List Char) : List Char × List Char :=
  match text with
  | [] => ([], [])
  | c :: rest =>
    if ['@', '*', '#', '?', '$', '!', '-'].contains c then ([c], rest)
    else if c.isDigit then (text.takeWhile Char.isDigit, text.dropWhile Char.isDigit)
    else (text.takeWhile isNameChar, text.dropWhile isNameChar)

/-- What is done with the value of a parameter between braces. -/
inductive Modifier where
  | plain
  /-- Another word takes the place of no value, and perhaps of an empty one. -/
  | default (countsEmpty : Bool) (word : List Char)
  | assign (countsEmpty : Bool) (word : List Char)
  | demand (countsEmpty : Bool) (word : List Char)
  /-- A word takes the place of a value. -/
  | replace (countsEmpty : Bool) (word : List Char)
  /-- The beginning or the end that matches a pattern is left out. -/
  | trim (isEnd isLongest : Bool) (pattern : List Char)

def modifier? : List Char → Option Modifier
  | [] => some .plain
  | ':' :: '-' :: word => some (.default true word)
  | ':' :: '=' :: word => some (.assign true word)
  | ':' :: '?' :: word => some (.demand true word)
  | ':' :: '+' :: word => some (.replace true word)
  | '-' :: word => some (.default false word)
  | '=' :: word => some (.assign false word)
  | '?' :: word => some (.demand false word)
  | '+' :: word => some (.replace false word)
  | '%' :: '%' :: pattern => some (.trim true true pattern)
  | '%' :: pattern => some (.trim true false pattern)
  | '#' :: '#' :: pattern => some (.trim false true pattern)
  | '#' :: pattern => some (.trim false false pattern)
  | _ => none

/-- A value, where an empty one may count as none. -/
def presentValue (countsEmpty : Bool) (value? : Option (List Char)) : Option (List Char) :=
  if countsEmpty then value?.filter (· ≠ []) else value?

/-- Ends the script if a parameter has no value although all must have one. -/
def Session.demand (s : Session) (name : List Char) : Session :=
  if s.refusesUnset && name ≠ ['@'] && name ≠ ['*'] && (s.parameter? name).isNone then
    s.abort (String.ofList name ++ ": parameter not set")
  else s

def Session.numberOf (s : Session) (name : List Char) : Except ArithmeticError Int :=
  let value := (s.parameter? name).getD []
  match integerOf value with
  | (n, none) => .ok n
  | (_, some _) => .error (.notNumber value)

/-- The name of a program without the directory in which the usual ones lie. -/
def programName (name : List Char) : String :=
  match ["/bin/", "/usr/bin/"].find? fun directory ↦ directory.toList.isPrefixOf name with
  | some directory => String.ofList (name.drop directory.length)
  | none => String.ofList name

/-! ## Turns of a loop -/

/-- What becomes of a session at the end of a turn of a loop, and whether the loop goes on. -/
def Session.afterTurn (s : Session) : Session × Bool :=
  match s.flow with
  | .breaking levels =>
    (if 1 < levels then { s with flow := .breaking (levels - 1) } else { s with flow := .running },
      false)
  | .continuing levels =>
    if 1 < levels then ({ s with flow := .continuing (levels - 1) }, false)
    else ({ s with flow := .running }, true)
  | .running => (s, true)
  | _ => (s, false)

/-- Ends the script if a command has failed, nothing looks at its outcome, and failures count. -/
def Session.checked (s : Session) : Session :=
  if s.flow = .running && s.stopsOnFailure && !s.isTested && s.status ≠ 0 then
    { s with flow := .exiting }
  else s

/-! ## Redirections -/

/-- Lets a descriptor lead to a sink of its own, which is that of a file. -/
def Session.openFile (s : Session) (descriptor : Nat) (place : List String) (appends : Bool) :
    Session :=
  match if appends then s.files.get? place else none with
  | some index => { s with outlets := s.outlets.put descriptor (.sink index) }
  | none =>
    { s with
      sinks := s.sinks.push []
      files := s.files.put place s.sinks.size
      outlets := s.outlets.put descriptor (.sink s.sinks.size) }

def Session.close (s : Session) (descriptor : Nat) : Session :=
  { s with outlets := s.outlets.filter fun entry ↦ entry.1 ≠ descriptor }

/-- Lets a descriptor lead where another one does, or says why it cannot. -/
def Session.duplicate (s : Session) (descriptor : Nat) (target : List Char) :
    Except String Session :=
  if target = ['-'] then .ok (if descriptor = 0 then { s with input := [] } else s.close descriptor)
  else
    match s.outlets.get? (decimalOf target) with
    | some outlet => .ok { s with outlets := s.outlets.put descriptor outlet }
    | none =>
      if target = ['0'] then .ok s else .error (String.ofList target ++ ": Bad file descriptor")

/-- Lets a descriptor lead to a path, or says why it cannot. -/
def Session.openPath (s : Session) (descriptor : Nat) (path : List Char) (appends : Bool) :
    Except String Session :=
  let place := s.placeOf path
  let refuse (reason : String) : Except String Session :=
    .error ("cannot create " ++ String.ofList path ++ ": " ++ reason)
  match place with
  | ["dev", "null"] => .ok { s with outlets := s.outlets.put descriptor .nothing }
  | ["dev", "full"] => .ok { s with outlets := s.outlets.put descriptor .full }
  | ["dev", "stdout"] | ["dev", "fd", "1"] => s.duplicate descriptor ['1']
  | ["dev", "stderr"] | ["dev", "fd", "2"] => s.duplicate descriptor ['2']
  | ["dev", "tty"] => refuse "No such device or address"
  | place =>
    if path.isEmpty || !Host.isDirectory place.dropLast then refuse "Directory nonexistent"
    else if Host.isDirectory place then refuse "Is a directory"
    else .ok (s.openFile descriptor place appends)

/-! ## Names of commands -/

/-- What a name stands for, in words, if it is known. -/
def Session.describe? (s : Session) (name : List Char) : Option (List Char × String) :=
  let text := String.ofList name
  if specialNames.contains text then some (name, " is a special shell builtin")
  else if (s.functions.get? name).isSome then some (name, " is a shell function")
  else if ownNames.contains text then some (name, " is a shell builtin")
  else if (textProgram? text).isSome || (Host.program? text).isSome then
    some ("/usr/bin/".toList ++ name, " is /usr/bin/" ++ text)
  else none

/-- Says what names stand for. -/
def describeNames (isBrief : Bool) (names : List (List Char)) (s : Session) : Session :=
  names.foldl (fun (s : Session) name ↦
    match s.describe? name with
    | some (short, words) =>
      s.write 1 ((if isBrief then short else name ++ words.toList) ++ ['\n'])
    | none =>
      (if isBrief then s else s.write 1 (name ++ ": not found\n".toList)).leave 127) (s.leave 0)

def isSpecial (words : List (List Char)) : Bool :=
  (words.dropWhile isAssignment).head?.any fun name ↦ specialNames.contains (String.ofList name)

/-- The signal that a command asks for and the processes that are to get it. -/
def signalOf : List (List Char) → String × List (List Char)
  | ['-', 's'] :: signal :: processes => (String.ofList signal, processes)
  | ('-' :: signal) :: processes => (String.ofList signal, processes)
  | processes => ("TERM", processes)

/-! ## Evaluation -/

mutual

def expand : Nat → Bool → List Char → Session → List Mark × Session
  | 0, _, _, s => ([], s)
  | _, _, [], s => ([], s)
  | fuel + 1, isDouble, c :: rest, s =>
    if c = '\\' then
      let (others, s) := expand fuel isDouble rest.tail s
      ((rest.head?.map (escapedMarks isDouble)).getD [.quoted '\\'] ++ others, s)
    else if c = '\'' && !isDouble then
      let inside := rest.takeWhile (· ≠ '\'')
      let (others, s) := expand fuel isDouble (rest.drop (inside.length + 1)) s
      (.hold :: inside.map .quoted ++ others, s)
    else if c = '"' && !isDouble then
      match takeSpan true [.double] rest with
      | .error _ => ([], s)
      | .ok (inside, after) =>
        let (marks, s) := expand fuel true inside.dropLast s
        let isEmpty := inside = ['$', '@', '"'] && s.arguments.isEmpty
        let (others, s) := expand fuel isDouble after s
        ((if isEmpty then [] else [.hold]) ++ marks ++ others, s)
    else if c = '\x60' then
      match takeSpan true [.backquote] rest with
      | .error _ => ([], s)
      | .ok (inside, after) =>
        let (text, s) := substitute fuel (unescapeBackquoted isDouble inside.dropLast) s
        let (others, s) := expand fuel isDouble after s
        (substituted isDouble text ++ others, s)
    else if c = '$' then
      let (marks, after, s) := expandDollar fuel isDouble rest s
      let (others, s) := expand fuel isDouble after s
      (marks ++ others, s)
    else
      let (others, s) := expand fuel isDouble rest s
      (literalMark isDouble c :: others, s)

/-- Expands what follows a dollar sign, and gives what is left. -/
def expandDollar : Nat → Bool → List Char → Session → List Mark × List Char × Session
  | 0, _, rest, s => ([], rest, s)
  | fuel + 1, isDouble, '(' :: '(' :: rest, s =>
    match takeSpan true [.arithmetic] rest with
    | .error _ => ([], [], s)
    | .ok (inside, after) =>
      let (marks, s) := expand fuel true (inside.take (inside.length - 2)) s
      let expression := textOf marks
      match evaluateArithmetic s.numberOf expression with
      | .ok (n, target?) =>
        let text := (toString n).toList
        let s := match target? with
          | some target => s.setVariable target text
          | none => s
        (substituted isDouble text, after, s)
      | .error error => ([], [], s.abort (error.message expression))
  | fuel + 1, isDouble, '(' :: rest, s =>
    match takeSpan true [.parenthesis] rest with
    | .error _ => ([], [], s)
    | .ok (inside, after) =>
      let (text, s) := substitute fuel inside.dropLast s
      (substituted isDouble text, after, s)
  | fuel + 1, isDouble, '\x7b' :: rest, s =>
    match takeSpan true [.brace] rest with
    | .error _ => ([], [], s)
    | .ok (inside, after) =>
      let (marks, s) := expandParameter fuel isDouble inside.dropLast s
      (marks, after, s)
  | _ + 1, isDouble, rest, s =>
    match takeName rest with
    | ([], rest) => ([literalMark isDouble '$'], rest, s)
    | (['@'], rest) => (argumentMarks isDouble s.arguments, rest, s)
    | (name, rest) =>
      let size := if name.all Char.isDigit then 1 else name.length
      let name' := name.take size
      (substituted isDouble ((s.parameter? name').getD []), name.drop size ++ rest, s.demand name')

def expandParameter : Nat → Bool → List Char → Session → List Mark × Session
  | 0, _, _, s => ([], s)
  | fuel + 1, isDouble, inside, s =>
    let (name, rest) := takeName inside
    if name = ['#'] && !rest.isEmpty && (modifier? (takeName rest).2).isSome
        && (takeName rest).2.isEmpty then
      let size := ((s.parameter? rest).getD []).length
      (substituted isDouble (toString size).toList, s.demand rest)
    else
      let value? := s.parameter? name
      let whole (s : Session) : List Mark × Session :=
        if name = ['@'] then (argumentMarks isDouble s.arguments, s)
        else (substituted isDouble (value?.getD []), s)
      match if name.isEmpty then none else modifier? rest with
      | none => ([], s.abort "Bad substitution")
      | some .plain => whole (s.demand name)
      | some (.default countsEmpty word) =>
        if (presentValue countsEmpty value?).isSome then whole s
        else expandOther fuel isDouble word s
      | some (.assign countsEmpty word) =>
        if (presentValue countsEmpty value?).isSome then whole s
        else
          let (marks, s) := expandOther fuel isDouble word s
          (marks, s.setVariable name (textOf marks))
      | some (.demand countsEmpty word) =>
        if (presentValue countsEmpty value?).isSome then whole s
        else
          let (marks, s) := expandOther fuel isDouble word s
          let standard := if countsEmpty then "parameter not set or null" else "parameter not set"
          let reason := if word.isEmpty then standard else String.ofList (textOf marks)
          ([], s.abort (String.ofList name ++ ": " ++ reason))
      | some (.replace countsEmpty word) =>
        if (presentValue countsEmpty value?).isSome then expandOther fuel isDouble word s
        else ([], s)
      | some (.trim isEnd isLongest pattern) =>
        let (marks, s) := expand fuel false pattern (s.demand name)
        let drop := if isEnd then dropEnd else dropBeginning
        (substituted isDouble (drop isLongest (patternOf marks) (value?.getD [])), s)

def expandOther : Nat → Bool → List Char → Session → List Mark × Session
  | 0, _, _, s => ([], s)
  | fuel + 1, isDouble, word, s =>
    if isDouble then expand fuel true (withoutQuotes word) s
    else
      let (marks, s) := expandWord fuel word s
      (marks.map loosened, s)

/-- Expands a word, in front of which a tilde stands for the home directory. -/
def expandWord : Nat → List Char → Session → List Mark × Session
  | 0, _, s => ([], s)
  | fuel + 1, raw, s =>
    match raw, s.parameter? "HOME".toList with
    | '~' :: rest, some home =>
      if rest.isEmpty || rest.head? = some '/' then
        let (marks, s) := expand fuel false rest s
        (home.map .quoted ++ marks, s)
      else expand fuel false raw s
    | raw, _ => expand fuel false raw s

def substitute : Nat → List Char → Session → List Char × Session
  | 0, _, s => ([], s)
  | fuel + 1, script, s =>
    let inner := runLines fuel (tokensOf script) { s.child.capture with isTested := false }
    let inner := farewell fuel inner
    (trimOutput (s.captured inner), s.absorb inner)

def expandWords : Nat → List (List Char) → Session → List (List Char) × Session
  | 0, _, s => ([], s)
  | _, [], s => ([], s)
  | fuel + 1, raw :: rest, s =>
    let (marks, s) := expandWord fuel raw s
    let fields := fieldsOf s.separators marks
    if s.isRunning then
      let (others, s) := expandWords fuel rest s
      (fields ++ others, s)
    else (fields, s)

def assignAll : Nat → List (List Char) → Session → Session
  | 0, _, s => s
  | _, [], s => s
  | fuel + 1, raw :: rest, s =>
    match splitAssignment? raw with
    | some (name, value) =>
      let (marks, s) := expandWord fuel value s
      if s.isRunning then assignAll fuel rest (s.setVariable name (textOf marks)) else s
    | none => assignAll fuel rest s

def redirectAll : Nat → List Redirect → Session → Except (String × Session) Session
  | 0, _, s => .ok s
  | _, [], s => .ok s
  | fuel + 1, redirect :: rest, s =>
    let (marks, s) := match redirect.kind with
      | .document true => (redirect.target.map Mark.quoted, s)
      | .document false => expand fuel true redirect.target s
      | _ => expandWord fuel redirect.target s
    let target := textOf marks
    let opened : Except String Session := match redirect.kind with
      | .document _ => .ok { s with input := target }
      | .duplicate => s.duplicate redirect.descriptor target
      | .write => s.openPath redirect.descriptor target false
      | .append => s.openPath redirect.descriptor target true
      | .read =>
        match s.contentOf target with
        | .ok content => .ok { s with input := content }
        | .error .isDirectory => .ok { s with input := [] }
        | .error _ => .error ("cannot open " ++ String.ofList target ++ ": No such file")
    match opened with
    | .error reason => .error (reason, s)
    | .ok s => redirectAll fuel rest s

def callShell : Nat → List Char → List (List Char) → Session → Session
  | 0, _, _, s => s
  | fuel + 1, name, arguments, s =>
    let visible := s.bindings.filter fun entry ↦ s.exported.contains entry.1
    let start (name : List Char) (arguments : List (List Char)) (s : Session) : Session :=
      { name := name, arguments := arguments, exported := s.exported,
        bindings := Keyed.put visible "IFS".toList [' ', '\t', '\n'],
        directory := s.directory, input := s.input, sinks := s.sinks, outlets := s.outlets,
        files := s.files, budget := s.budget }
    let finish (inner : Session) : Session :=
      { s.absorb { farewell fuel inner with flow := .running } with input := inner.input }
    let rest := arguments.dropWhile fun argument ↦ isOption argument && !argument.contains 'c'
    let stop (message : String) : Session :=
      (s.write 2 (name ++ (": 0: " ++ message ++ "\n").toList)).leave 2
    match rest with
    | [] => finish (runLines fuel (tokensOf s.input) (start name [] { s with input := [] }))
    | first :: rest =>
      if isOption first then
        match rest with
        | [] => stop "-c requires an argument"
        | script :: rest =>
          finish (runLines fuel (tokensOf script) (start (rest.headD name) rest.tail s))
      else
        match s.contentOf first with
        | .ok script => finish (runLines fuel (tokensOf script) (start first rest s))
        | .error _ => stop ("cannot open " ++ String.ofList first ++ ": No such file")

def call : Nat → List (List Char) → Session → Session
  | 0, _, s => s
  | _, [], s => s.leave 0
  | fuel + 1, name :: arguments, s =>
    match s.functions.get? name with
    | some body =>
      let inner := run fuel body
        { s with arguments := arguments, loops := 0, calls := s.calls + 1 }
      let flow := if inner.flow = .returning then .running else inner.flow
      { inner.restore s.shadowed with
        arguments := s.arguments, loops := s.loops, calls := s.calls, flow := flow }
    | none =>
      match programName name with
      | "eval" =>
        let script := [' '].intercalate arguments
        let inner := runLines fuel (tokensOf script) { s.leave 0 with speaker? := some "eval" }
        { inner with speaker? := s.speaker? }
      | "." =>
        match s.contentOf (arguments.headD []) with
        | .ok script => runLines fuel (tokensOf script) (s.leave 0)
        | .error _ =>
          abortBy "." ("cannot open " ++ String.ofList (arguments.headD []) ++ ": No such file") s
      | "command" =>
        match arguments with
        | ['-', 'v'] :: names => describeNames true (names.take 1) s
        | ['-', 'V'] :: names => describeNames false (names.take 1) s
        | arguments =>
          { call fuel arguments { s with functions := [] } with functions := s.functions }
      | "type" => describeNames false arguments s
      | "which" => describeNames true arguments s
      | "exec" =>
        if arguments.isEmpty then s.leave 0
        else
          let inner := call fuel arguments { s with speaker? := some "exec" }
          { inner with flow := if inner.flow = .killed then .killed else .exiting, farewell := [] }
      | "env" =>
        let assignments := arguments.takeWhile isAssignment
        let inner := assignments.foldl (fun (s : Session) raw ↦
          match splitAssignment? raw with
          | some (name, value) =>
            { s with bindings := s.bindings.put name value, exported := name :: s.exported }
          | none => s) s
        s.absorb (call fuel (arguments.drop assignments.length) inner)
      | "kill" =>
        let (signal, processes) := signalOf arguments
        let number := signalNumber signal
        if number = 0 || processes.getLast? ≠ some Session.processNumber then s.leave 0
        else
          match if number = 9 then none else s.traps.get? number with
          | some script => runLines fuel (tokensOf script) (s.leave 0)
          | none => { s with status := 128 + number, flow := .killed }
      | program =>
        match builtin? program, Host.program? program with
        | some builtin, _ => builtin arguments s
        | none, some .shell => callShell fuel name arguments s
        | none, _ =>
          if name.isEmpty then (s.complain ": Permission denied").leave 127
          else if name.contains '/' && s.hasPlace (s.placeOf name) then
            (s.complain (String.ofList name ++ ": Permission denied")).leave 126
          else (s.complain (String.ofList name ++ ": not found")).leave 127

def run : Nat → Node → Session → Session
  | 0, _, s => s
  | fuel + 1, node, s =>
    if !s.isRunning then s
    else
      let tested (s : Session) : Session := { s with isTested := true }
      let untested (inner : Session) : Session := { inner with isTested := s.isTested }
      match node with
      | .nothing => s.leave 0
      | .simple line words =>
        let s := { s with budget := s.budget - 1, line := line }
        let assignments := words.takeWhile isAssignment
        let (fields, expanded) := expandWords fuel (words.drop assignments.length) s
        if !expanded.isRunning then expanded
        else if fields.isEmpty then
          let expanded := if words.length = assignments.length then expanded.leave 0 else expanded
          (assignAll fuel assignments expanded).checked
        else
          let assigned := assignAll fuel assignments expanded
          let names := assignments.filterMap fun raw ↦ (splitAssignment? raw).map Prod.fst
          let called := call fuel fields { assigned with exported := names ++ assigned.exported }
          let called :=
            if names.isEmpty || isSpecial fields then called
            else
              { names.foldl (fun (called : Session) name ↦
                  called.reset name (expanded.bindings.get? name)) called with
                exported := expanded.exported }
          called.checked
      | .redirected line body redirects =>
        let s := { s with line := line }
        match redirectAll fuel redirects s with
        | .error (reason, refused) =>
          let refused := { refused with outlets := s.outlets, input := s.input }
          match body with
          | .simple _ words =>
            if isSpecial words then refused.abort reason
            else ((refused.complain reason).leave 2).checked
          | _ => (refused.complain reason).leave 2
        | .ok redirected =>
          let inner := run fuel body redirected
          match body with
          | .simple _ [['e', 'x', 'e', 'c']] => inner
          | _ =>
            { inner with
              outlets := s.outlets
              input := if redirects.any fun r ↦ r.descriptor = 0 then s.input else inner.input }
      | .pipeline stages => (runStages fuel stages s).checked
      | .negated body =>
        let inner := untested (run fuel body (tested s))
        inner.leave (if inner.status = 0 then 1 else 0)
      | .both first second =>
        let inner := untested (run fuel first (tested s))
        if inner.status = 0 then run fuel second inner else inner
      | .either first second =>
        let inner := untested (run fuel first (tested s))
        if inner.status = 0 then inner else run fuel second inner
      | .sequence first second => run fuel second (run fuel first s)
      | .background body =>
        let inner := farewell fuel (run fuel body { s.child with input := [] })
        { s.absorb inner with backgroundStatus? := some inner.status }.leave 0
      | .subshell body =>
        let inner := farewell fuel (run fuel body s.child)
        { s.absorb inner with input := inner.input }.checked
      | .conditional test yes no =>
        let inner := untested (run fuel test (tested s))
        if inner.status = 0 then run fuel yes inner else run fuel no inner
      | .loop outcome test body =>
        { runLoop fuel outcome test body 0 { s with loops := s.loops + 1 } with loops := s.loops }
      | .each name words? body =>
        let (fields, s) :=
          match words? with
          | some words => expandWords fuel words s
          | none => (s.arguments, s)
        if s.isRunning then
          { runEach fuel name fields body { s.leave 0 with loops := s.loops + 1 } with
            loops := s.loops }
        else s
      | .select subject branches =>
        let (marks, s) := expandWord fuel subject s
        if s.isRunning then runBranches fuel (textOf marks) branches s else s
      | .function name body => { s with functions := s.functions.put name body }.leave 0

/-- Runs the commands of a pipeline. A command that never ends is cut so early that the others can
run. -/
def runStages : Nat → List Node → Session → Session
  | 0, _, s => s
  | _, [], s => s
  | fuel + 1, [stage], s => s.absorb (farewell fuel (run fuel stage s.child))
  | fuel + 1, stage :: stages, s =>
    let share := s.budget / 2
    let inner := farewell fuel (run fuel stage { s.child.capture with budget := share })
    let next := s.absorb inner
    let last := runStages fuel stages
      { next with input := s.captured inner, budget := s.budget - (share - inner.budget) }
    { last with input := s.input }

/-- Runs a loop; the status is that of the last turn. -/
def runLoop : Nat → Bool → Node → Node → Nat → Session → Session
  | 0, _, _, _, _, s => s
  | fuel + 1, outcome, test, body, last, s =>
    let tried := { run fuel test { s with isTested := true } with isTested := s.isTested }
    if !tried.isRunning then tried.afterTurn.1
    else if (tried.status = 0) = outcome then
      let (s, goesOn) := (run fuel body tried).afterTurn
      if goesOn then runLoop fuel outcome test body s.status s else s
    else tried.leave last

def runEach : Nat → List Char → List (List Char) → Node → Session → Session
  | 0, _, _, _, s => s
  | _, _, [], _, s => s
  | fuel + 1, name, field :: fields, body, s =>
    let (s, goesOn) := (run fuel body (s.setVariable name field)).afterTurn
    if goesOn then runEach fuel name fields body s else s

def runBranches : Nat → List Char → List (List (List Char) × Node) → Session → Session
  | 0, _, _, s => s
  | _, _, [], s => s.leave 0
  | fuel + 1, subject, (patterns, body) :: branches, s =>
    let (isFound, s) := findPattern fuel subject patterns s
    if isFound then run fuel body s else runBranches fuel subject branches s

def findPattern : Nat → List Char → List (List Char) → Session → Bool × Session
  | 0, _, _, s => (false, s)
  | _, _, [], s => (false, s)
  | fuel + 1, subject, raw :: rest, s =>
    let (marks, s) := expandWord fuel raw s
    if isMatch (patternOf marks) subject then (true, s) else findPattern fuel subject rest s

/-- Runs what has been asked for at the end of a script. -/
def farewell : Nat → Session → Session
  | 0, s => s
  | fuel + 1, s =>
    if s.farewell.isEmpty || s.flow = .killed then s
    else
      let inner := runLines fuel (tokensOf s.farewell) { s with farewell := [], flow := .running }
      if inner.flow = .exiting then inner
      else { inner with status := s.status, flow := .exiting }

def runLines : Nat → List Placed → Session → Session
  | 0, _, s => s
  | fuel + 1, tokens, s =>
    match skipNewlines tokens with
    | [] | ⟨.finish, _⟩ :: _ => s
    | tokens =>
      match takeLine tokens with
      | .ok (node, rest) =>
        let s := run fuel node s
        if s.isRunning then runLines fuel rest s else s
      | .error (message, line) => { s with line := line }.abort ("Syntax error: " ++ message)

end

/-! ## Scripts -/

def charactersOf (octets : List UInt8) : List Char := octets.map fun octet ↦ Char.ofNat octet.toNat

def octetsOf (characters : List Char) : List UInt8 := characters.map fun c ↦ c.toNat.toUInt8

def depthLimit : Nat := 100000

/-- Runs a script under the name of a shell, without input. -/
def runScript (name script : List UInt8) : Host.Output :=
  let s := runLines depthLimit (tokensOf (charactersOf script)) { name := charactersOf name }
  let s := farewell depthLimit s
  ⟨octetsOf (s.sinks[0]?.getD []).reverse, octetsOf (s.sinks[1]?.getD []).reverse⟩

end LiveTemplate.Shell

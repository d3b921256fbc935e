import LiveTemplate.Shell.Token

/-!
# Commands of the shell

A script is a sequence of lines, each of which is one list of commands. A list joins pipelines; a
pipeline joins commands; a command is simple or compound. Words that open, divide and close compound
commands count as such only where a command may begin. What does not fit is reported with its line
and, where only one thing could have followed, with that.
-/

namespace LiveTemplate.Shell

inductive RedirectKind where
  | read
  | write
  | append
  | duplicate
  /-- The descriptor reads the text itself, in which nothing is expanded or parameters are. -/
  | document (isLiteral : Bool)
  deriving DecidableEq, Repr

/-- A redirection of a descriptor to what a word stands for. -/
structure Redirect where
  descriptor : Nat
  kind : RedirectKind
  target : List Char

inductive Node where
  | nothing
  /-- Words, of which the first ones may be assignments. -/
  | simple (line : Nat) (words : List (List Char))
  | redirected (line : Nat) (body : Node) (redirects : List Redirect)
  | pipeline (stages : List Node)
  | negated (body : Node)
  | both (first second : Node)
  | either (first second : Node)
  | sequence (first second : Node)
  | background (body : Node)
  | subshell (body : Node)
  | conditional (test yes no : Node)
  /-- Repeats the body as long as the test has the given outcome. -/
  | loop (outcome : Bool) (test body : Node)
  | each (name : List Char) (words? : Option (List (List Char))) (body : Node)
  | select (subject : List Char) (branches : List (List (List Char) × Node))
  | function (name : List Char) (body : Node)

/-- A command with redirections, if there are any. -/
def Node.redirect (body : Node) (line : Nat) (redirects : List Redirect) : Node :=
  if redirects.isEmpty then body else .redirected line body redirects

/-- A command behind others, if there are any. -/
def Node.after (body : Node) : Option Node → Node
  | none => body
  | some others => .sequence others body

/-! ## Assignments -/

def splitAssignment? (text : List Char) : Option (List Char × List Char) :=
  let name := text.takeWhile isNameChar
  match text.drop name.length with
  | '=' :: value => if isName name then some (name, value) else none
  | _ => none

def isAssignment (raw : List Char) : Bool := (splitAssignment? raw).isSome

/-- The commands that belong to the language: an error in them ends the script, and no function has
their name. -/
def specialNames : List String :=
  [".", ":", "break", "continue", "eval", "exec", "exit", "export", "local", "readonly", "return",
    "set", "shift", "times", "trap", "unset"]

/-! ## Errors -/

/-- Something that is read, or what is wrong and on which line. -/
abbrev Attempt (α : Type) := Except (String × Nat) α

def reservedWords : List String :=
  ["then", "else", "elif", "fi", "do", "done", "esac", "in", "\x7d", "if", "while", "until", "for",
    "case", "\x7b", "!"]

/-- The kind of a redirection operator, and the descriptor that it redirects by default. -/
def redirectKind? : String → Option (RedirectKind × Nat)
  | ">" | ">|" => some (.write, 1)
  | ">>" => some (.append, 1)
  | ">&" => some (.duplicate, 1)
  | "<" | "<>" => some (.read, 0)
  | "<&" => some (.duplicate, 0)
  | "<<" | "<<-" => some (.document false, 0)
  | _ => none

def inQuotes (text : String) : String := "\"" ++ text ++ "\""

def Token.title : Token → String
  | .word raw =>
    if reservedWords.contains (String.ofList raw) then inQuotes (String.ofList raw) else "word"
  | .operator symbol =>
    if (redirectKind? symbol).isSome then "redirection" else inQuotes symbol
  | .descriptor _ | .document .. => "redirection"
  | .newline => "newline"
  | .finish | .unterminated _ => "end of file"

/-- What is wrong with a context that is never left. -/
def Context.complaint : Context → String
  | .single | .double => "Unterminated quoted string"
  | .backquote => "EOF in backquote substitution"
  | .parenthesis => "end of file unexpected (expecting \")\")"
  | .arithmetic => "Missing '))'"
  | .brace => "Missing '\x7d'"

/-- The error for the next token, where only the given thing could have followed. -/
def unexpected (tokens : List Placed) (expected : Option String := none) : String × Nat :=
  let suffix := match expected with
    | some title => " (expecting " ++ title ++ ")"
    | none => ""
  match tokens with
  | ⟨.unterminated context, line⟩ :: _ => (context.complaint, line)
  | ⟨.newline, line⟩ :: _ => (Token.newline.title ++ " unexpected" ++ suffix, line + 1)
  | ⟨token, line⟩ :: _ => (token.title ++ " unexpected" ++ suffix, line)
  | [] => (Token.finish.title ++ " unexpected" ++ suffix, 1)

/-! ## Single tokens -/

/-- Whether the tokens begin with a given word, as it is written. -/
def startsWithWord (tokens : List Placed) (text : String) : Bool :=
  tokens.head?.map Placed.token = some (.word text.toList)

def startsWithOperator (tokens : List Placed) (symbol : String) : Bool :=
  tokens.head?.map Placed.token = some (.operator symbol)

def expectWord (text : String) (tokens : List Placed) : Attempt (List Placed) :=
  if startsWithWord tokens text then .ok tokens.tail
  else .error (unexpected tokens (some (inQuotes text)))

def expectOperator (symbol : String) (tokens : List Placed) : Attempt (List Placed) :=
  if startsWithOperator tokens symbol then .ok tokens.tail
  else .error (unexpected tokens (some (inQuotes symbol)))

def skipNewlines (tokens : List Placed) : List Placed :=
  tokens.dropWhile fun placed ↦ placed.token = .newline

def lineOf (tokens : List Placed) : Nat := (tokens.head?.map Placed.line).getD 1

def isClosing (tokens : List Placed) : Bool :=
  startsWithOperator tokens ")" || startsWithOperator tokens ";;" ||
    ["then", "else", "elif", "fi", "do", "done", "esac", "\x7d"].any (startsWithWord tokens)

/-! ## Redirections and words -/

def takeRedirect? (tokens : List Placed) : Option (Attempt (Redirect × List Placed)) :=
  let (number?, tokens) := match tokens with
    | ⟨.descriptor number, _⟩ :: rest => (some number, rest)
    | tokens => (none, tokens)
  match tokens with
  | ⟨.operator symbol, _⟩ :: rest =>
    (redirectKind? symbol).map fun (kind, standard) ↦
      match rest with
      | ⟨.word target, line⟩ :: rest =>
        let isNumber := target = ['-'] || (target.all Char.isDigit && target.length = 1) ||
          target.contains '$'
        if kind = .duplicate && !isNumber then .error ("Bad fd number", line)
        else .ok (⟨number?.getD standard, kind, target⟩, rest)
      | ⟨.document isLiteral body, _⟩ :: rest =>
        .ok (⟨number?.getD standard, .document isLiteral, body⟩, rest)
      | rest => .error (unexpected rest)
  | _ => none

/-- Reads the redirections behind a compound command; their number is bounded by the first
argument. -/
def takeRedirects : Nat → List Placed → Attempt (List Redirect × List Placed)
  | 0, tokens => .ok ([], tokens)
  | fuel + 1, tokens =>
    match takeRedirect? tokens with
    | some attempt => do
      let (redirect, rest) ← attempt
      let (others, rest) ← takeRedirects fuel rest
      return (redirect :: others, rest)
    | none => .ok ([], tokens)

def takeSimple : Nat → List Placed → Attempt (List (List Char) × List Redirect × List Placed)
  | 0, tokens => .ok ([], [], tokens)
  | fuel + 1, tokens =>
    match takeRedirect? tokens with
    | some attempt => do
      let (redirect, rest) ← attempt
      let (words, redirects, rest) ← takeSimple fuel rest
      return (words, redirect :: redirects, rest)
    | none =>
      match tokens with
      | ⟨.word raw, _⟩ :: rest => do
        let (words, redirects, rest) ← takeSimple fuel rest
        return (raw :: words, redirects, rest)
      | ⟨.unterminated _, _⟩ :: _ => .error (unexpected tokens)
      | _ => .ok ([], [], tokens)

def takeWords : List Placed → List (List Char) × List Placed
  | ⟨.word raw, _⟩ :: rest =>
    let (words, rest) := takeWords rest
    (raw :: words, rest)
  | tokens => ([], tokens)

/-- Reads the patterns of a branch, up to the closing parenthesis. -/
def takePatterns : List Placed → Attempt (List (List Char) × List Placed)
  | ⟨.word raw, _⟩ :: ⟨.operator ")", _⟩ :: rest => .ok ([raw], rest)
  | ⟨.word raw, _⟩ :: ⟨.operator "|", _⟩ :: rest => do
    let (patterns, rest) ← takePatterns rest
    return (raw :: patterns, rest)
  | ⟨.finish, line⟩ :: _ => .error (unexpected [⟨.finish, line⟩] (some (inQuotes ")")))
  | _ :: rest => .error (unexpected rest (some (inQuotes ")")))
  | [] => .error (unexpected [] (some (inQuotes ")")))

/-- Reads the name of a function with its parentheses, if one is defined. -/
def takeFunctionName? (tokens : List Placed) : Option (Attempt (List Char × List Placed)) :=
  match tokens with
  | ⟨.word name, line⟩ :: ⟨.operator "(", _⟩ :: rest =>
    if isAssignment name then none
    else some do
      let rest ← expectOperator ")" rest
      if isName name && !specialNames.contains (String.ofList name) then return (name, rest)
      else throw ("Bad function name", line)
  | _ => none

/-! ## Commands -/

/-- Where a list of commands stands. -/
inductive Extent where
  /-- It is a line of a script. -/
  | line
  /-- It is a part of a compound command, and goes on over lines. -/
  | part
  /-- It is a branch, which may be empty. -/
  | branch
  deriving DecidableEq

mutual

/-- Reads a list of commands behind those that have been read. -/
def takeList (extent : Extent) : Nat → Option Node → List Placed → Attempt (Node × List Placed)
  | 0, _, tokens => .error (unexpected tokens)
  | fuel + 1, before?, tokens => do
    let tokens := if extent = Extent.line then tokens else skipNewlines tokens
    let ends := match tokens with
      | [] | ⟨.finish, _⟩ :: _ => true
      | ⟨.newline, _⟩ :: _ => extent = Extent.line
      | _ => extent ≠ Extent.line && (before?.isSome || extent = Extent.branch) && isClosing tokens
    if ends then return (before?.getD .nothing, tokens)
    else
      let (body, rest) ← takeAndOr fuel tokens
      if startsWithOperator rest "&" then
        takeList extent fuel (some (Node.after (.background body) before?)) rest.tail
      else if startsWithOperator rest ";" then
        takeList extent fuel (some (body.after before?)) rest.tail
      else
        match rest with
        | [] | ⟨.finish, _⟩ :: _ | ⟨.newline, _⟩ :: _ =>
          takeList extent fuel (some (body.after before?)) rest
        | _ =>
          if extent = Extent.line then throw (unexpected rest)
          else return (body.after before?, rest)

def takeAndOr : Nat → List Placed → Attempt (Node × List Placed)
  | 0, tokens => .error (unexpected tokens)
  | fuel + 1, tokens => do
    let (first, rest) ← takePipeline fuel tokens
    takeJoined fuel first rest

def takeJoined : Nat → Node → List Placed → Attempt (Node × List Placed)
  | 0, _, tokens => .error (unexpected tokens)
  | fuel + 1, first, tokens =>
    if startsWithOperator tokens "&&" then do
      let (second, rest) ← takePipeline fuel (skipNewlines tokens.tail)
      takeJoined fuel (.both first second) rest
    else if startsWithOperator tokens "||" then do
      let (second, rest) ← takePipeline fuel (skipNewlines tokens.tail)
      takeJoined fuel (.either first second) rest
    else .ok (first, tokens)

def takePipeline : Nat → List Placed → Attempt (Node × List Placed)
  | 0, tokens => .error (unexpected tokens)
  | fuel + 1, tokens => do
    let isNegated := startsWithWord tokens "!"
    let (stages, rest) ← takeStages fuel (if isNegated then tokens.tail else tokens)
    let body := match stages with
      | [stage] => stage
      | stages => .pipeline stages
    return (if isNegated then .negated body else body, rest)

def takeStages : Nat → List Placed → Attempt (List Node × List Placed)
  | 0, tokens => .error (unexpected tokens)
  | fuel + 1, tokens => do
    let (stage, rest) ← takeCommand fuel tokens
    if startsWithOperator rest "|" then
      let (stages, rest) ← takeStages fuel (skipNewlines rest.tail)
      return (stage :: stages, rest)
    else return ([stage], rest)

def takeCommand : Nat → List Placed → Attempt (Node × List Placed)
  | 0, tokens => .error (unexpected tokens)
  | fuel + 1, tokens => do
    let compound? ← takeCompound? fuel tokens
    match compound?, tokens with
    | some (body, rest), _ =>
      let (redirects, rest) ← takeRedirects rest.length rest
      return (body.redirect (lineOf tokens) redirects, rest)
    | none, tokens =>
      if reservedWords.any (startsWithWord tokens) then throw (unexpected tokens)
      match takeFunctionName? tokens with
      | some attempt =>
        let (name, rest) ← attempt
        let (body, rest) ← takeCommand fuel (skipNewlines rest)
        return (.function name body, rest)
      | none =>
        let (words, redirects, rest) ← takeSimple tokens.length tokens
        if words.isEmpty && redirects.isEmpty then throw (unexpected tokens)
        return ((Node.simple (lineOf tokens) words).redirect (lineOf tokens) redirects, rest)

def takeCompound? : Nat → List Placed → Attempt (Option (Node × List Placed))
  | 0, tokens => .error (unexpected tokens)
  | fuel + 1, tokens => do
    if startsWithOperator tokens "(" then
      let (body, rest) ← takeList .part fuel none tokens.tail
      return some (.subshell body, ← expectOperator ")" rest)
    else if startsWithWord tokens "\x7b" then
      let (body, rest) ← takeList .part fuel none tokens.tail
      return some (body, ← expectWord "\x7d" rest)
    else if startsWithWord tokens "if" then
      return some (← takeConditional fuel tokens.tail)
    else if startsWithWord tokens "while" || startsWithWord tokens "until" then
      let (test, rest) ← takeList .part fuel none tokens.tail
      let (body, rest) ← takeBody fuel rest
      return some (.loop (startsWithWord tokens "while") test body, rest)
    else if startsWithWord tokens "for" then
      return some (← takeEach fuel tokens.tail)
    else if startsWithWord tokens "case" then
      match tokens.tail with
      | ⟨.word subject, _⟩ :: rest =>
        let rest ← expectWord "in" (skipNewlines rest)
        let (branches, rest) ← takeBranches fuel (skipNewlines rest)
        return some (.select subject branches, rest)
      | rest => throw (unexpected rest (some "word"))
    else return none

def takeConditional : Nat → List Placed → Attempt (Node × List Placed)
  | 0, tokens => .error (unexpected tokens)
  | fuel + 1, tokens => do
    let (test, rest) ← takeList .part fuel none tokens
    let (yes, rest) ← takeList .part fuel none (← expectWord "then" rest)
    if startsWithWord rest "elif" then
      let (no, rest) ← takeConditional fuel rest.tail
      return (.conditional test yes no, rest)
    else if startsWithWord rest "else" then
      let (no, rest) ← takeList .part fuel none rest.tail
      return (.conditional test yes no, ← expectWord "fi" rest)
    else return (.conditional test yes .nothing, ← expectWord "fi" rest)

/-- Reads a loop over words whose opening word has been read. -/
def takeEach : Nat → List Placed → Attempt (Node × List Placed)
  | 0, tokens => .error (unexpected tokens)
  | fuel + 1, tokens => do
    match tokens with
    | ⟨.word name, line⟩ :: rest =>
      if !isName name then throw ("Bad for loop variable", line)
      let rest := skipNewlines rest
      if startsWithWord rest "in" then
        let (words, rest) := takeWords rest.tail
        let rest ←
          match rest with
          | ⟨.operator ";", _⟩ :: rest | ⟨.newline, _⟩ :: rest => pure rest
          | rest => throw (unexpected rest)
        let (body, rest) ← takeBody fuel (skipNewlines rest)
        return (.each name (some words) body, rest)
      else
        let rest := if startsWithOperator rest ";" then rest.tail else rest
        let (body, rest) ← takeBody fuel (skipNewlines rest)
        return (.each name none body, rest)
    | _ => throw ("Bad for loop variable", lineOf tokens)

def takeBody : Nat → List Placed → Attempt (Node × List Placed)
  | 0, tokens => .error (unexpected tokens)
  | fuel + 1, tokens => do
    let (body, rest) ← takeList .part fuel none (← expectWord "do" tokens)
    return (body, ← expectWord "done" rest)

/-- Reads the branches of a selection, up to its closing word. -/
def takeBranches : Nat → List Placed → Attempt (List (List (List Char) × Node) × List Placed)
  | 0, tokens => .error (unexpected tokens)
  | fuel + 1, tokens => do
    if startsWithWord tokens "esac" then return ([], tokens.tail)
    else
      let (patterns, rest) ←
        takePatterns (if startsWithOperator tokens "(" then tokens.tail else tokens)
      let (body, rest) ← takeList .branch fuel none rest
      let rest := skipNewlines rest
      if startsWithWord rest "esac" then return ([(patterns, body)], rest.tail)
      else
        let (branches, rest) ← takeBranches fuel (skipNewlines (← expectOperator ";;" rest))
        return ((patterns, body) :: branches, rest)

end

/-- Reads the commands of the next line. -/
def takeLine (tokens : List Placed) : Attempt (Node × List Placed) :=
  takeList .line (8 * tokens.length + 16) none tokens

end LiveTemplate.Shell

import LiveTemplate.Shell.Printing
import LiveTemplate.Shell.Session

/-!
# Programs over text

The programs that a script joins into pipelines: they read files or what is left of the input, and
write what becomes of its lines. None of them changes anything else. A program knows its most common
options only.
-/

namespace LiveTemplate.Shell

/-- A command that changes a session, given its arguments without its own name. -/
abbrev Builtin := List (List Char) → Session → Session

/-! ## Lines -/

/-- The lines of a text; a last line that is not ended counts. -/
def linesOf (text : List Char) : List (List Char) :=
  let parts := Host.splitAt '\n' text
  if parts.getLast? = some [] then parts.dropLast else parts

def ofLines (lines : List (List Char)) : List Char := lines.flatMap (· ++ ['\n'])

def isOption (argument : List Char) : Bool := argument.head? = some '-' && argument ≠ ['-']

/-- Whether one of some arguments is an option with a letter. -/
def hasOption (letter : Char) (arguments : List (List Char)) : Bool :=
  arguments.any fun argument ↦ isOption argument && argument.contains letter

def reasonFor (failure : Host.Failure) : String :=
  if failure = .isDirectory then "Is a directory" else "No such file or directory"

/-- How a program names a file that it cannot read. -/
def subjectOf (program : String) (file : List Char) : String :=
  if program = "head" || program = "tail" then
    "cannot open '" ++ String.ofList file ++ "' for reading"
  else if program = "sort" then "cannot read: " ++ String.ofList file
  else String.ofList file

/-- What a program reads: the given files, or what is left of the input. -/
def readAll (program : String) (files : List (List Char)) (s : Session) : List Char × Session :=
  if files.isEmpty then (s.input, { s with input := [] }.leave 0)
  else
    files.foldl (fun (text, (s : Session)) file ↦
      if file = ['-'] then (text ++ s.input, { s with input := [] })
      else
        match s.contentOf file with
        | .ok content => (text ++ content, s)
        | .error failure =>
          let complaint := program ++ ": " ++ subjectOf program file ++ ": " ++ reasonFor failure
          (text, (s.write 2 (complaint ++ "\n").toList).leave 1)) ([], s.leave 0)

/-- A program that changes the text of its files or of its input. -/
def filter (program : String) (change : List (List Char) → List Char → List Char) : Builtin :=
  fun arguments s ↦
    let (text, s) := readAll program (arguments.filter fun argument ↦ !isOption argument) s
    s.write 1 (change (arguments.filter isOption) text)

/-! ## Parts of a text -/

/-- How much of a text the options of a program ask for, and of what: octets or lines. The rest of
the arguments are files. -/
def takeAmount : List (List Char) → List Char × Bool × List (List Char)
  | ['-', 'n'] :: amount :: files => (amount, false, files)
  | ['-', 'c'] :: amount :: files => (amount, true, files)
  | ('-' :: 'n' :: amount) :: files => (amount, false, files)
  | ('-' :: 'c' :: amount) :: files => (amount, true, files)
  | ('-' :: amount) :: files => (amount, false, files)
  | files => (['1', '0'], false, files)

def head : Builtin := fun arguments s ↦
  let (amount, isOctets, files) := takeAmount arguments
  let (text, s) := readAll "head" files s
  let count := decimalOf amount
  if isOctets then s.write 1 (text.take count)
  else
    let kept := (Host.splitAt '\n' text).take count
    s.write 1 (text.take (kept.foldl (fun size line ↦ size + line.length + 1) 0))

/-- Copies the end of a text; an amount with a plus sign says where the end begins. -/
def tail : Builtin := fun arguments s ↦
  let (amount, isOctets, files) := takeAmount arguments
  let (text, s) := readAll "tail" files s
  match amount with
  | '+' :: start =>
    let dropped := decimalOf start - 1
    s.write 1 (if isOctets then text.drop dropped else ofLines ((linesOf text).drop dropped))
  | amount =>
    let count := decimalOf amount
    if isOctets then s.write 1 (text.drop (text.length - count))
    else
      let lines := linesOf text
      s.write 1 (ofLines (lines.drop (lines.length - count)))

def padded (width n : Nat) : List Char :=
  let digits := (toString n).toList
  List.replicate (width - digits.length) ' ' ++ digits

def countWords (text : List Char) : Nat :=
  let isBlank (c : Char) : Bool := c = ' ' || ('\t' ≤ c && c ≤ '\r')
  (text.zip (' ' :: text)).countP fun (c, before) ↦ !isBlank c && isBlank before

def wc : Builtin := filter "wc" fun options text ↦
  let isAll := options.isEmpty
  let counts :=
    (if isAll || hasOption 'l' options then [text.count '\n'] else []) ++
      (if isAll || hasOption 'w' options then [countWords text] else []) ++
      (if isAll || hasOption 'c' options then [text.length] else [])
  let width := if counts.length = 1 then 1 else 7
  [' '].intercalate (counts.map (padded width)) ++ ['\n']

/-! ## Changes of lines -/

def leadingInteger (line : List Char) : Int :=
  match line.dropWhile (· = ' ') with
  | '-' :: digits => -decimalOf (digits.takeWhile Char.isDigit)
  | digits => decimalOf (digits.takeWhile Char.isDigit)

/-- Removes lines that equal the one before, and says how often each occurred. -/
def groupLines : List (List Char) → List (Nat × List Char)
  | [] => []
  | line :: rest =>
    match groupLines rest with
    | (count, other) :: groups =>
      if line = other then (count + 1, line) :: groups else (1, line) :: (count, other) :: groups
    | [] => [(1, line)]

def sort : Builtin := filter "sort" fun options text ↦
  let isBefore (a b : List Char) : Bool :=
    if hasOption 'n' options && leadingInteger a ≠ leadingInteger b then
      leadingInteger a < leadingInteger b
    else !decide (b < a)
  let sorted := (linesOf text).mergeSort isBefore
  let sorted := if hasOption 'r' options then sorted.reverse else sorted
  ofLines (if hasOption 'u' options then (groupLines sorted).map Prod.snd else sorted)

def uniq : Builtin := filter "uniq" fun options text ↦
  ofLines ((groupLines (linesOf text)).map fun (count, line) ↦
    if hasOption 'c' options then padded 7 count ++ ' ' :: line else line)

def rev : Builtin := filter "rev" fun _ text ↦
  let parts := Host.splitAt '\n' text
  ['\n'].intercalate (parts.map List.reverse)

def tac : Builtin := filter "tac" fun _ text ↦ ofLines (linesOf text).reverse

/-- The positions of a selection, such as `2`, `2-3`, `-3` or `2-`, among so many. -/
def positionsOf (selection : List Char) (count : Nat) : List Nat :=
  (Host.splitAt ',' selection).flatMap fun range ↦
    match Host.splitAt '-' range with
    | [single] => [decimalOf single]
    | first :: last :: _ =>
      let start := if first.isEmpty then 1 else decimalOf first
      let stop := if last.isEmpty then count else decimalOf last
      (List.range (stop + 1 - start)).map (start + ·)
    | [] => []

def cut : Builtin := fun arguments s ↦
  let valueOf (letter : Char) : Option (List Char) :=
    (arguments.zip (arguments.tail ++ [[]])).findSome? fun (argument, next) ↦
      match argument with
      | '-' :: c :: value =>
        if c = letter then some (if value.isEmpty then next else value) else none
      | _ => none
  let (text, s) := readAll "cut" [] s
  let chosen (count : Nat) (selection : List Char) (position : Nat) : Bool :=
    position < count && (positionsOf selection count).contains (position + 1)
  let change (line : List Char) : List Char :=
    match (valueOf 'c').or (valueOf 'b'), valueOf 'f' with
    | some selection, _ =>
      (line.zipIdx.filter fun (_, i) ↦ chosen line.length selection i).map Prod.fst
    | none, some selection =>
      let delimiter := ((valueOf 'd').getD ['\t']).headD '\t'
      let fields := Host.splitAt delimiter line
      if fields.length = 1 then line
      else
        [delimiter].intercalate
          ((fields.zipIdx.filter fun (_, i) ↦ chosen fields.length selection i).map Prod.fst)
    | none, none => line
  s.write 1 (ofLines ((linesOf text).map change))

/-! ## Changes of characters -/

def rangeOf (first last : Char) : List Char :=
  (List.range (last.toNat + 1 - first.toNat)).map fun n ↦ Char.ofNat (first.toNat + n)

def classOf (name : String) : List Char :=
  match name with
  | "lower" => rangeOf 'a' 'z'
  | "upper" => rangeOf 'A' 'Z'
  | "digit" => rangeOf '0' '9'
  | "alpha" => rangeOf 'A' 'Z' ++ rangeOf 'a' 'z'
  | "alnum" => rangeOf '0' '9' ++ rangeOf 'A' 'Z' ++ rangeOf 'a' 'z'
  | "space" => rangeOf '\t' '\r' ++ [' ']
  | "blank" => ['\t', ' ']
  | "punct" => rangeOf '!' '/' ++ rangeOf ':' '@' ++ rangeOf '[' '\x60' ++ rangeOf '\x7b' '~'
  | _ => []

/-- The characters of a set whose escapes have been read. The first argument bounds the number of
steps. -/
def membersWithin : Nat → List Char → List Char
  | 0, _ => []
  | fuel + 1, '[' :: ':' :: rest =>
    let name := rest.takeWhile (· ≠ ':')
    classOf (String.ofList name) ++ membersWithin fuel (rest.drop (name.length + 2))
  | fuel + 1, first :: '-' :: last :: rest => rangeOf first last ++ membersWithin fuel rest
  | fuel + 1, c :: rest => c :: membersWithin fuel rest
  | _ + 1, [] => []

def membersOf (set : List Char) : List Char :=
  let text := (unescape set).1
  membersWithin (text.length + 1) text

/-- A text in which characters of a set do not follow themselves. -/
def squeeze (set : List Char) : List Char → List Char
  | a :: b :: rest =>
    if a = b && set.contains a then squeeze set (b :: rest) else a :: squeeze set (b :: rest)
  | text => text

def tr : Builtin := fun arguments s ↦
  let options := arguments.takeWhile isOption
  let (text, s) := readAll "tr" [] s
  let sets := (arguments.drop options.length).map membersOf
  let first := sets.headD []
  let second := sets.getLast?.getD []
  let isMember (c : Char) : Bool := first.contains c != hasOption 'c' options
  let replaced (c : Char) : Char :=
    if !isMember c then c
    else if hasOption 'c' options then second.getLast?.getD c
    else
      match first.idxOf? c with
      | some n => (second[n]?.or second.getLast?).getD c
      | none => c
  if hasOption 'd' options then s.write 1 (text.filter fun c ↦ !isMember c)
  else
    let text := if sets.length < 2 then text else text.map replaced
    s.write 1 (if hasOption 's' options then squeeze second text else text)

/-! ## Sources and names -/

def cat : Builtin := filter "cat" fun _ text ↦ text

/-- Copies the input to standard output, and to standard error if that is asked for. -/
def tee : Builtin := fun arguments s ↦
  let text := s.input
  let s := ({ s with input := [] }.write 1 text).leave 0
  if arguments.contains "/dev/stderr".toList then s.write 2 text else s

/-- Prints a text on so many lines that no reader asks for more. -/
def yes : Builtin := fun arguments s ↦
  let line := if arguments.isEmpty then ['y'] else [' '].intercalate arguments
  (s.write 1 (ofLines (List.replicate 10000 line))).leave 0

def seq : Builtin := fun arguments s ↦
  let separator := match arguments with
    | ('-' :: 's' :: separator) :: _ => separator
    | _ => ['\n']
  let numbers := (arguments.filter fun argument ↦ argument.take 2 ≠ ['-', 's']).map fun n ↦
    (integerOf n).1
  let (first, step, last) : Int × Int × Int :=
    match numbers with
    | [last] => (1, 1, last)
    | [first, last] => (first, 1, last)
    | [first, step, last] => (first, step, last)
    | _ => (1, 1, 0)
  let count : Nat := if step = 0 then 0 else (Int.fdiv (last - first) step + 1).toNat
  let written := (List.range (min count 100000)).map fun (k : Nat) ↦
    (toString (first + step * k)).toList
  (s.write 1 (if written.isEmpty then [] else separator.intercalate written ++ ['\n'])).leave 0

def trimSlashes (path : List Char) : List Char := (path.reverse.dropWhile (· = '/')).reverse

def basename : Builtin := fun arguments s ↦
  let path := trimSlashes (arguments.headD [])
  let last := (Host.splitAt '/' path).getLast?.getD []
  let ending := arguments.tail.headD []
  let shown :=
    if last.isEmpty then ['/']
    else if ending.isSuffixOf last && ending ≠ last then last.take (last.length - ending.length)
    else last
  (s.write 1 (shown ++ ['\n'])).leave 0

def dirname : Builtin := fun arguments s ↦
  let path := trimSlashes (arguments.headD [])
  let outer := path.take (path.length - ((Host.splitAt '/' path).getLast?.getD []).length)
  let shown :=
    if outer.isEmpty then if path.isEmpty && arguments.headD [] ≠ [] then ['/'] else ['.']
    else if (trimSlashes outer).isEmpty then ['/'] else trimSlashes outer
  (s.write 1 (shown ++ ['\n'])).leave 0

/-- Names the paths at which something is found, and complains about the others. -/
def ls : Builtin := fun arguments s ↦
  (arguments.filter fun argument ↦ !isOption argument).foldl (fun (s : Session) path ↦
    if s.hasPlace (s.placeOf path) then s.write 1 (path ++ ['\n'])
    else
      let complaint := "ls: cannot access '" ++ String.ofList path ++ "': " ++ reasonFor .notFound
      (s.write 2 (complaint ++ "\n").toList).leave 2) (s.leave 0)

/-- Prints the value of an operation on two integers, or whether two words compare; the status says
whether the value counts as true. -/
def expr : Builtin := fun arguments s ↦
  let value : Int := match arguments with
    | [a, operator, b] =>
      let (m, n) := ((integerOf a).1, (integerOf b).1)
      match String.ofList operator with
      | "+" => m + n
      | "-" => m - n
      | "*" => m * n
      | "/" => m.tdiv n
      | "%" => m.tmod n
      | "=" => ofTruth (a = b)
      | "!=" => ofTruth (a ≠ b)
      | "<" => ofTruth (m < n)
      | ">" => ofTruth (n < m)
      | "<=" => ofTruth (m ≤ n)
      | ">=" => ofTruth (n ≤ m)
      | _ => 0
    | [_, text] => text.length
    | _ => 0
  (s.write 1 ((toString value).toList ++ ['\n'])).leave (if value = 0 then 1 else 0)

/-- The program of a name, if there is one. -/
def textProgram? (name : String) : Option Builtin :=
  match name with
  | "cat" => some cat
  | "head" => some head
  | "tail" => some tail
  | "wc" => some wc
  | "sort" => some sort
  | "uniq" => some uniq
  | "rev" => some rev
  | "tac" => some tac
  | "cut" => some cut
  | "tr" => some tr
  | "tee" => some tee
  | "yes" => some yes
  | "seq" => some seq
  | "basename" => some basename
  | "dirname" => some dirname
  | "ls" => some ls
  | "expr" => some expr
  | "sleep" => some fun _ s ↦ s.leave 0
  | "uname" => some fun _ s ↦ (s.write 1 "Linux\n".toList).leave 0
  | _ => none

end LiveTemplate.Shell

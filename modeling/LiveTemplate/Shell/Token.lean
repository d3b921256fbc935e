/-!
# Words and operators of the shell

A script is a sequence of octets, each written as the character with its code. It is cut into words
and operators. Quotes, substitutions and braces nest inside a word, and a word is kept as it is
written; what it stands for is decided when it is expanded.
-/

namespace LiveTemplate.Shell

/-! ## Nesting -/

/-- What a position of a word lies within. -/
inductive Context where
  | single
  | double
  | parenthesis
  | arithmetic
  | brace
  | backquote
  deriving DecidableEq, Repr

/-- Enters a context, or leaves it if it is the innermost one. -/
def toggle (context : Context) (stack : List Context) : List Context :=
  if stack.head? = some context then stack.tail else context :: stack

def contextsAfter (stack : List Context) (c : Char) : List Context :=
  let top := stack.head?
  if c = '"' then toggle .double stack
  else if c = '\'' then if top = some .double then stack else .single :: stack
  else if c = '\x60' then toggle .backquote stack
  else if c = '(' then
    if top = some .parenthesis || top = some .arithmetic then .parenthesis :: stack else stack
  else if c = ')' then if top = some .parenthesis then stack.tail else stack
  else if c = '\x7d' then if top = some .brace then stack.tail else stack
  else stack

def isMeta (c : Char) : Bool := [' ', '\t', '\n', ';', '&', '|', '<', '>', '(', ')'].contains c

/-- The context that is to blame for a word that is never closed: the innermost one, but quotes
around braces count before them. -/
def unclosed (context : Context) : List Context → Context
  | outer :: rest =>
    if context ≠ .brace then context
    else if outer = .double || outer = .brace then unclosed outer rest
    else context
  | [] => context

/-- A span of a word and what follows, or the context that is never left. A span that is
to be closed ends behind the character that closes the outermost of its contexts; any other ends
before a character that ends the word. -/
def takeSpan (isClosed : Bool) : List Context → List Char → Except Context (List Char × List Char)
  | [], [] => .ok ([], [])
  | context :: outer, [] => .error (unclosed context outer)
  | .single :: outer, c :: rest =>
    if c = '\'' && isClosed && outer.isEmpty then .ok ([c], rest)
    else
      (takeSpan isClosed (if c = '\'' then outer else .single :: outer) rest).map fun taken ↦
        (c :: taken.1, taken.2)
  | stack, '\\' :: c :: rest =>
    (takeSpan isClosed stack rest).map fun taken ↦ ('\\' :: c :: taken.1, taken.2)
  | .arithmetic :: outer, ')' :: ')' :: rest =>
    if isClosed && outer.isEmpty then .ok ([')', ')'], rest)
    else (takeSpan isClosed outer rest).map fun taken ↦ (')' :: ')' :: taken.1, taken.2)
  | stack, '$' :: '(' :: '(' :: rest =>
    (takeSpan isClosed (.arithmetic :: stack) rest).map fun taken ↦
      ('$' :: '(' :: '(' :: taken.1, taken.2)
  | stack, '$' :: '(' :: rest =>
    (takeSpan isClosed (.parenthesis :: stack) rest).map fun taken ↦
      ('$' :: '(' :: taken.1, taken.2)
  | stack, '$' :: '\x7b' :: rest =>
    (takeSpan isClosed (.brace :: stack) rest).map fun taken ↦ ('$' :: '\x7b' :: taken.1, taken.2)
  | stack, c :: rest =>
    let inner := contextsAfter stack c
    if stack.isEmpty && isMeta c then .ok ([], c :: rest)
    else if isClosed && inner.isEmpty then .ok ([c], rest)
    else (takeSpan isClosed inner rest).map fun taken ↦ (c :: taken.1, taken.2)

def unquoted : List Char → List Char
  | '\\' :: c :: rest => c :: unquoted rest
  | c :: rest => if c = '\'' || c = '"' then unquoted rest else c :: unquoted rest
  | [] => []

/-! ## Names -/

def isNameChar (c : Char) : Bool := c.isAlphanum || c = '_'

def isName (text : List Char) : Bool :=
  match text with
  | [] => false
  | c :: _ => !c.isDigit && text.all isNameChar

/-! ## Tokens -/

inductive Token where
  | word (raw : List Char)
  | operator (symbol : String)
  /-- The number in front of a redirection. -/
  | descriptor (number : Nat)
  /-- Lines that stand behind the line on which they are announced, and whether nothing in them is
  expanded. -/
  | document (isLiteral : Bool) (body : List Char)
  | newline
  | finish
  /-- A text that is never closed. -/
  | unterminated (context : Context)
  deriving DecidableEq, Repr

/-- A token and the line on which it stands. -/
structure Placed where
  token : Token
  line : Nat

def takeOperator? : List Char → Option (String × List Char)
  | '&' :: '&' :: rest => some ("&&", rest)
  | '|' :: '|' :: rest => some ("||", rest)
  | ';' :: ';' :: rest => some (";;", rest)
  | '>' :: '>' :: rest => some (">>", rest)
  | '>' :: '&' :: rest => some (">&", rest)
  | '>' :: '|' :: rest => some (">|", rest)
  | '<' :: '&' :: rest => some ("<&", rest)
  | '<' :: '>' :: rest => some ("<>", rest)
  | '<' :: '<' :: '-' :: rest => some ("<<-", rest)
  | '<' :: '<' :: rest => some ("<<", rest)
  | c :: rest => if isMeta c then some (String.singleton c, rest) else none
  | [] => none

/-- Whether a word is the number of a descriptor in front of a redirection. -/
def isDescriptor (raw rest : List Char) : Bool :=
  raw.length = 1 && raw.all Char.isDigit && (rest.head? = some '<' || rest.head? = some '>')

/-! ## Documents -/

/-- A document that has been announced. -/
structure Announced where
  delimiter : List Char
  isLiteral : Bool
  /-- Whether tabs at the beginning of a line do not count. -/
  dropsTabs : Bool

/-- The document that a redirection operator announces with a word. -/
def announced? (operator : Token) (raw : List Char) : Option Announced :=
  let isLiteral := raw.any fun c ↦ ['\'', '"', '\\'].contains c
  match operator with
  | .operator "<<" => some ⟨unquoted raw, isLiteral, false⟩
  | .operator "<<-" => some ⟨unquoted raw, isLiteral, true⟩
  | _ => none

/-- The lines in front of the delimiter of a document, and what follows it. The first argument
bounds the number of lines. -/
def takeLines (document : Announced) : Nat → List Char → List Char × List Char
  | 0, text => ([], text)
  | _, [] => ([], [])
  | fuel + 1, text =>
    let line := text.takeWhile (· ≠ '\n')
    let rest := text.drop (line.length + 1)
    let line := if document.dropsTabs then line.dropWhile (· = '\t') else line
    if line = document.delimiter then ([], rest)
    else
      let (lines, rest) := takeLines document fuel rest
      (line ++ '\n' :: lines, rest)

/-- The documents that have been announced, from the next line on, with what follows them. -/
def takeDocuments : List Announced → List Char → List Token × List Char
  | [], text => ([], text)
  | document :: documents, text =>
    let (body, rest) := takeLines document (text.length + 1) text
    let (bodies, rest) := takeDocuments documents rest
    (.document document.isLiteral body :: bodies, rest)

/-- Puts documents in the place of the words that announce them. -/
def settleDocuments : List Token → List Placed → List Placed
  | _, [] => []
  | documents, operator :: placed :: rest =>
    match documents, placed.token with
    | document :: documents, .word raw =>
      if (announced? operator.token raw).isSome then
        operator :: ⟨document, placed.line⟩ :: settleDocuments documents rest
      else operator :: settleDocuments (document :: documents) (placed :: rest)
    | documents, _ => operator :: settleDocuments documents (placed :: rest)
  | _, [placed] => [placed]

/-! ## Reading -/

/-- The tokens of a text, given the token before, the line, and the documents that have been
announced on it. The first argument bounds their number. -/
def tokensWithin : Nat → Token → Nat → List Announced → List Char → List Placed
  | 0, _, line, _, _ => [⟨.finish, line⟩]
  | _, _, line, documents, [] =>
    ⟨.finish, line⟩ :: (takeDocuments documents []).1.map fun document ↦ ⟨document, line⟩
  | fuel + 1, before, line, documents, c :: rest =>
    if c = ' ' || c = '\t' then tokensWithin fuel before line documents rest
    else if c = '\n' then
      let (bodies, after) := takeDocuments documents rest
      let crossed := rest.length - after.length
      (⟨.newline, line⟩ :: bodies.map fun document ↦ ⟨document, line⟩) ++
        tokensWithin fuel .newline (line + 1 + (rest.take crossed).count '\n') [] after
    else if c = '#' then tokensWithin fuel before line documents (rest.dropWhile (· ≠ '\n'))
    else if c = '\\' && rest.head? = some '\n' then
      tokensWithin fuel before (line + 1) documents rest.tail
    else
      match takeOperator? (c :: rest) with
      | some (symbol, rest) =>
        ⟨.operator symbol, line⟩ :: tokensWithin fuel (.operator symbol) line documents rest
      | none =>
        match takeSpan false [] (c :: rest) with
        | .error context => [⟨.unterminated context, line + rest.count '\n'⟩]
        | .ok (raw, rest) =>
          let token : Token :=
            if isDescriptor raw rest then .descriptor ((String.ofList raw).toNat?.getD 0)
            else .word raw
          ⟨token, line⟩ ::
            tokensWithin fuel token (line + raw.count '\n')
              (documents ++ (announced? before raw).toList) rest

def Token.isDocument : Token → Bool
  | .document .. => true
  | _ => false

def tokensOf (script : List Char) : List Placed :=
  let tokens := tokensWithin (script.length + 1) .newline 1 [] script
  settleDocuments ((tokens.map Placed.token).filter Token.isDocument)
    (tokens.filter fun placed ↦ !placed.token.isDocument)

end LiveTemplate.Shell

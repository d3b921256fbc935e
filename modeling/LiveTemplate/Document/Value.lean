import LiveTemplate.Document.Quotation

/-!
# Documents

A document is one value: a constant, a number, a text, or a sequence or a table of values. Nothing
but blanks may surround it, and values may be nested to a limited depth only. A table keeps its
members in the order in which they are written, repeated names included.
-/

namespace LiveTemplate.Document

open Number (Binary64)

inductive Value where
  | null
  | boolean (truth : Bool)
  | number (x : Binary64)
  | text (characters : String)
  | sequence (items : List Value)
  | table (members : List (String × Value))

/-- Whether a character is a blank between the parts of a document. -/
def isSpace (c : Char) : Bool := c = ' ' || c = '\n' || c = '\t' || c = '\r'

def skipSpaces (text : List Char) : List Char := text.dropWhile isSpace

/-- How many sequences and tables may be nested, plus one. -/
def depthLimit : Nat := 128

/-! ## Reading

Every call reads at least one character before it makes another, so the length of the document
bounds the depth of calls; that bound comes first among the arguments, and the depth of nesting that
is left comes second. -/

mutual

def takeValue : Nat → Nat → List Char → Option (Value × List Char)
  | 0, _, _ => none
  | fuel + 1, depth, text =>
    match skipSpaces text with
    | 'n' :: 'u' :: 'l' :: 'l' :: rest => some (.null, rest)
    | 't' :: 'r' :: 'u' :: 'e' :: rest => some (.boolean true, rest)
    | 'f' :: 'a' :: 'l' :: 's' :: 'e' :: rest => some (.boolean false, rest)
    | '"' :: rest =>
      (takeQuotation? rest).map fun taken ↦ (.text (String.ofList taken.1), taken.2)
    | '[' :: rest => if depth ≤ 1 then none else takeSequence fuel (depth - 1) rest
    | '\x7b' :: rest => if depth ≤ 1 then none else takeTable fuel (depth - 1) rest
    | text => do
      let (numeral, rest) ← takeNumeral? text
      return (.number (← numeral.value?), rest)

def takeSequence : Nat → Nat → List Char → Option (Value × List Char)
  | 0, _, _ => none
  | fuel + 1, depth, text =>
    match skipSpaces text with
    | ']' :: rest => some (.sequence [], rest)
    | text => (takeItems fuel depth text).map fun taken ↦ (.sequence taken.1, taken.2)

/-- Reads the items of a sequence up to its closing bracket. -/
def takeItems : Nat → Nat → List Char → Option (List Value × List Char)
  | 0, _, _ => none
  | fuel + 1, depth, text => do
    let (item, rest) ← takeValue fuel depth text
    match skipSpaces rest with
    | ',' :: rest => (takeItems fuel depth rest).map fun taken ↦ (item :: taken.1, taken.2)
    | ']' :: rest => some ([item], rest)
    | _ => none

def takeTable : Nat → Nat → List Char → Option (Value × List Char)
  | 0, _, _ => none
  | fuel + 1, depth, text =>
    match skipSpaces text with
    | '\x7d' :: rest => some (.table [], rest)
    | text => (takeMembers fuel depth text).map fun taken ↦ (.table taken.1, taken.2)

/-- Reads the members of a table up to its closing brace. -/
def takeMembers : Nat → Nat → List Char → Option (List (String × Value) × List Char)
  | 0, _, _ => none
  | fuel + 1, depth, text =>
    match skipSpaces text with
    | '"' :: rest => do
      let (name, rest) ← takeQuotation? rest
      match skipSpaces rest with
      | ':' :: rest => do
        let (value, rest) ← takeValue fuel depth rest
        let member := (String.ofList name, value)
        match skipSpaces rest with
        | ',' :: rest => (takeMembers fuel depth rest).map fun taken ↦ (member :: taken.1, taken.2)
        | '\x7d' :: rest => some ([member], rest)
        | _ => none
      | _ => none
    | _ => none

end

def parse? (text : List Char) : Option Value := do
  let (value, rest) ← takeValue (2 * text.length + 2) depthLimit text
  if (skipSpaces rest).isEmpty then some value else none

end LiveTemplate.Document

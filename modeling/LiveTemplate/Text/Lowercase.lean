import LiveTemplate.Text.Casing

/-!
# Full lowercasing

Lowercasing maps each character by itself, with two exceptions. The capital I with a dot becomes
two characters, and a capital sigma becomes the final form when it ends a word: a cased character
precedes it and none follows it, case-ignorable characters being skipped on both sides.
-/

namespace LiveTemplate.Text

/-! ## Single characters -/

def lowercaseCode (code : Nat) : Nat :=
  match lowercaseRuns.find? (·.contains code) with
  | some run => ((code : Int) + run.shift).toNat
  | none => code

/-- The lowercase form of a character that stands alone. -/
def lowercaseChar (c : Char) : List Char :=
  if c = 'İ' then ['i', '\u0307'] else [Char.ofNat (lowercaseCode c.toNat)]

/-! ## The final sigma -/

/-- Whether the first character that is not case-ignorable is cased. -/
def startsCased (text : List Char) : Bool :=
  match text.dropWhile caseIgnorableTable.contains with
  | [] => false
  | c :: _ => casedTable.contains c

/-- The lowercase form of a capital sigma between the reversed text before it and the text after
it. -/
def lowercaseSigma (before after : List Char) : Char :=
  if startsCased before && !startsCased after then 'ς' else 'σ'

/-! ## Texts -/

/-- Lowercases a text that follows `before`, which is given in reverse. -/
def lowercaseFrom (before : List Char) : List Char → List Char
  | [] => []
  | c :: rest =>
    (if c = 'Σ' then [lowercaseSigma before rest] else lowercaseChar c) ++
      lowercaseFrom (c :: before) rest

def lowercase (text : String) : String := String.ofList (lowercaseFrom [] text.toList)

end LiveTemplate.Text

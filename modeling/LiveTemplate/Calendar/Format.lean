import LiveTemplate.Calendar.Custom
import LiveTemplate.Calendar.Specifier

/-!
# Formatting of moments

A pattern with a percent sign is a percent pattern. A pattern of one character names a standard
format, and the empty pattern names the general one; each standard format is a custom pattern, read
in local or in universal time. Every other pattern is a custom pattern.
-/

namespace LiveTemplate.Calendar

/-! ## Standard formats -/

/-- A custom pattern with a name of one letter. -/
structure StandardFormat where
  pattern : String
  /-- Whether the moment is read in universal time. -/
  universal : Bool := false
  deriving DecidableEq, Repr

def standardFormat? : Char → Option StandardFormat
  | 'd' => some ⟨"MM/dd/yyyy", false⟩
  | 'D' => some ⟨"dddd, dd MMMM yyyy", false⟩
  | 'f' => some ⟨"dddd, dd MMMM yyyy HH:mm", false⟩
  | 'F' => some ⟨"dddd, dd MMMM yyyy HH:mm:ss", false⟩
  | 'g' => some ⟨"MM/dd/yyyy HH:mm", false⟩
  | 'G' => some ⟨"MM/dd/yyyy HH:mm:ss", false⟩
  | 'M' | 'm' => some ⟨"MMMM dd", false⟩
  | 'o' | 'O' => some ⟨"yyyy-MM-ddTHH:mm:ss.fffffffzzz", false⟩
  | 'r' | 'R' => some ⟨"ddd, dd MMM yyyy HH:mm:ss 'GMT'", true⟩
  | 's' => some ⟨"yyyy-MM-ddTHH:mm:ss", false⟩
  | 't' => some ⟨"HH:mm", false⟩
  | 'T' => some ⟨"HH:mm:ss", false⟩
  | 'u' => some ⟨"yyyy-MM-dd HH:mm:ss'Z'", true⟩
  | 'U' => some ⟨"dddd, dd MMMM yyyy HH:mm:ss", true⟩
  | 'y' | 'Y' => some ⟨"yyyy MMMM", false⟩
  | _ => none

def StandardFormat.render (format : StandardFormat) (m : Moment) : List Char :=
  formatCustom (if format.universal then m.universal else m) format.pattern.toList

/-! ## Formatting -/

inductive Formatted where
  | text (characters : List Char)
  /-- The pattern is not a format. -/
  | invalid
  /-- The pattern is a format that cannot be written. -/
  | unwritable
  deriving DecidableEq, Repr

def formatPercent (m : Moment) (pattern : List Char) : Formatted :=
  match items? pattern with
  | none => .invalid
  | some items =>
    match items.mapM (Item.render? m) with
    | some texts => .text texts.flatten
    | none => .unwritable

/-- The text of a moment under the standard format of a letter. -/
def formatStandard (m : Moment) (letter : Char) : Formatted :=
  match standardFormat? letter with
  | some format => .text (format.render m)
  | none => .invalid

/-- The letter of the standard format that the empty pattern stands for. -/
def generalFormat : Char := 'G'

def format (m : Moment) (pattern : List Char) : Formatted :=
  if pattern.contains '%' then formatPercent m pattern
  else
    match pattern with
    | [] => formatStandard m generalFormat
    | [letter] => formatStandard m letter
    | _ => .text (formatCustom m pattern)

end LiveTemplate.Calendar

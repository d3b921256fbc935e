import LiveTemplate.Text.Printable

/-!
# Quoted text

The form in which a diagnostic shows a string: between double quotes, with a backslash before a
quote and a backslash, short escapes for the common controls, and the code point of every other
character that cannot be printed.
-/

namespace LiveTemplate.Text

/-- The hexadecimal digits of a code point, in lower case and without leading zeros. -/
def hexDigits (code : Nat) : List Char := Nat.toDigits 16 code

def quotedChar (c : Char) : List Char :=
  if c = '\x00' then ['\\', '0']
  else if c = '\t' then ['\\', 't']
  else if c = '\r' then ['\\', 'r']
  else if c = '\n' then ['\\', 'n']
  else if c = '\\' || c = '"' then ['\\', c]
  else if isPrintable c then [c]
  else ['\\', 'u', '\x7b'] ++ hexDigits c.toNat ++ ['\x7d']

def quoted (text : String) : String :=
  String.ofList ('"' :: text.toList.flatMap quotedChar ++ ['"'])

end LiveTemplate.Text

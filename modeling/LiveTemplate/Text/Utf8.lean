/-!
# Decoding of UTF-8

Octets are read one at a time. A character is pending while it still owes continuation octets; an
octet that the pending character cannot take ends it as malformed and is read again as the start of
a character. So each malformed stretch is the longest one that some character begins with, and a
lenient reader shows one replacement character for it.
-/

namespace LiveTemplate.Text

/-- A character whose first octets have been read. -/
structure PendingChar where
  /-- How many continuation octets are still owed. -/
  owed : Nat
  /-- The least value that the next octet may have. -/
  low : Nat
  /-- The greatest value that the next octet may have. -/
  high : Nat
  /-- The bits read so far. -/
  bits : Nat

/-- What an octet leads to. -/
inductive OctetStep where
  | complete (c : Char)
  | pending (p : PendingChar)
  | malformed

def firstOctet (octet : Nat) : OctetStep :=
  if octet < 0x80 then .complete (Char.ofNat octet)
  else if octet < 0xC2 then .malformed
  else if octet < 0xE0 then .pending ⟨1, 0x80, 0xBF, octet - 0xC0⟩
  else if octet < 0xF0 then
    .pending ⟨2, if octet = 0xE0 then 0xA0 else 0x80, if octet = 0xED then 0x9F else 0xBF,
      octet - 0xE0⟩
  else if octet < 0xF5 then
    .pending ⟨3, if octet = 0xF0 then 0x90 else 0x80, if octet = 0xF4 then 0x8F else 0xBF,
      octet - 0xF0⟩
  else .malformed

def PendingChar.next (p : PendingChar) (octet : Nat) : OctetStep :=
  if p.low ≤ octet && octet ≤ p.high then
    let bits := p.bits * 64 + (octet - 0x80)
    if p.owed ≤ 1 then .complete (Char.ofNat bits) else .pending ⟨p.owed - 1, 0x80, 0xBF, bits⟩
  else .malformed

/-- The characters of an octet sequence, with `none` for each malformed stretch. -/
def decodeFrom : Option PendingChar → List UInt8 → List (Option Char)
  | none, [] => []
  | some _, [] => [none]
  | none, octet :: rest =>
    match firstOctet octet.toNat with
    | .complete c => some c :: decodeFrom none rest
    | .pending p => decodeFrom (some p) rest
    | .malformed => none :: decodeFrom none rest
  | some p, octet :: rest =>
    match p.next octet.toNat with
    | .complete c => some c :: decodeFrom none rest
    | .pending q => decodeFrom (some q) rest
    | .malformed =>
      none :: match firstOctet octet.toNat with
        | .complete c => some c :: decodeFrom none rest
        | .pending q => decodeFrom (some q) rest
        | .malformed => none :: decodeFrom none rest

def decode? (octets : List UInt8) : Option String :=
  ((decodeFrom none octets).mapM id).map String.ofList

/-- The text of any octets, with a replacement character for each malformed stretch. -/
def decodeLossy (octets : List UInt8) : String :=
  String.ofList ((decodeFrom none octets).map (·.getD '\uFFFD'))

def encode (text : String) : List UInt8 := text.toUTF8.data.toList

def octetLength : List Char → Nat
  | [] => 0
  | c :: rest => c.utf8Size + octetLength rest

end LiveTemplate.Text

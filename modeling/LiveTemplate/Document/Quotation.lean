import LiveTemplate.Document.Numeral

/-!
# Quoted texts of documents

A text stands between double quotes and holds no control characters. A backslash introduces an
escape: a character that stands for itself or for a control character, or the number of a unit of
sixteen bits in four hexadecimal digits. Two units of a surrogate pair make one character; a
surrogate without its partner is refused.
-/

namespace LiveTemplate.Document

def hexValue? (c : Char) : Option Nat :=
  if '0' ≤ c ∧ c ≤ '9' then some (c.toNat - '0'.toNat)
  else if 'a' ≤ c ∧ c ≤ 'f' then some (c.toNat - 'a'.toNat + 10)
  else if 'A' ≤ c ∧ c ≤ 'F' then some (c.toNat - 'A'.toNat + 10)
  else none

def unit? (a b c d : Char) : Option Nat := do
  return (((← hexValue? a) * 16 + (← hexValue? b)) * 16 + (← hexValue? c)) * 16 + (← hexValue? d)

def shortEscape? : Char → Option Char
  | '"' => some '"'
  | '\\' => some '\\'
  | '/' => some '/'
  | 'b' => some '\x08'
  | 'f' => some '\x0c'
  | 'n' => some '\n'
  | 'r' => some '\r'
  | 't' => some '\t'
  | _ => none

def isLeading (unit : Nat) : Bool := 0xD800 ≤ unit && unit < 0xDC00

def isTrailing (unit : Nat) : Bool := 0xDC00 ≤ unit && unit < 0xE000

def paired (leading trailing : Nat) : Char :=
  Char.ofNat (0x10000 + (leading - 0xD800) * 0x400 + (trailing - 0xDC00))

/-- Reads an escape whose backslash has been read, and gives what follows. -/
def takeEscape? : List Char → Option (Char × List Char)
  | 'u' :: a :: b :: c :: d :: rest => do
    let unit ← unit? a b c d
    if isTrailing unit then none
    else if isLeading unit then
      match rest with
      | '\\' :: 'u' :: e :: f :: g :: h :: tail => do
        let second ← unit? e f g h
        if isTrailing second then some (paired unit second, tail) else none
      | _ => none
    else some (Char.ofNat unit, rest)
  | c :: rest => (shortEscape? c).map (·, rest)
  | [] => none

theorem length_lt_of_takeEscape {text rest : List Char} {c : Char}
    (h : takeEscape? text = some (c, rest)) : rest.length < text.length := by
  unfold takeEscape? at h
  split at h
  · simp only [Option.bind_eq_bind, Option.bind_eq_some_iff] at h
    obtain ⟨unit, _, h⟩ := h
    split at h
    · simp at h
    · split at h
      · split at h
        · simp only [Option.bind_eq_some_iff] at h
          obtain ⟨second, _, h⟩ := h
          split at h
          · simp only [Option.some.injEq, Prod.mk.injEq] at h
            obtain ⟨_, rfl⟩ := h
            simp only [List.length_cons]
            omega
          · simp at h
        · simp at h
      · simp only [Option.some.injEq, Prod.mk.injEq] at h
        grind
  · simp only [Option.map_eq_some_iff, Prod.mk.injEq] at h
    grind
  · simp at h

/-- Reads a text whose opening quote has been read, and gives what follows the closing one. -/
def takeQuotation? (text : List Char) : Option (List Char × List Char) :=
  match text with
  | [] => none
  | '"' :: rest => some ([], rest)
  | '\\' :: rest =>
    match h : takeEscape? rest with
    | some (c, tail) =>
      have := length_lt_of_takeEscape h
      (takeQuotation? tail).map fun taken ↦ (c :: taken.1, taken.2)
    | none => none
  | c :: rest =>
    if c.toNat < 0x20 then none
    else (takeQuotation? rest).map fun taken ↦ (c :: taken.1, taken.2)
termination_by text.length

end LiveTemplate.Document

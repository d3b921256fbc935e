import LiveTemplate.Document.Value
import LiveTemplate.Proofs.Directive.Grammar
import LiveTemplate.Proofs.Number.Decimal

/-!
# Numerals and quoted texts of documents

What is read of a document depends on the characters that are read and not on those behind them,
unless a numeral goes on there. A quoted text is closed by its quote, whatever follows. A numeral is
closed by any character that is neither a digit nor a point nor the letter of an exponent.
-/

namespace LiveTemplate.Document

open Directive (Ends IsRun ends_cons takeWhile_append_of_ends dropWhile_append_of_ends)
open Number (isDigit takeSign)

variable {α : Type} {text rest : List Char}

/-! ## Reading wherever it stands -/

/-- A reader takes a text for `a` wherever the text stands, unless what follows begins with one of
the characters that may go on with it. -/
def Reads (inner : Char → Bool) (take : List Char → Option (α × List Char)) (used : List Char)
    (a : α) : Prop :=
  ∀ rest, Ends inner rest → take (used ++ rest) = some (a, rest)

theorem ends_nil {inner : Char → Bool} : Ends inner [] := by simp [Ends]

theorem ends_append {inner : Char → Bool} {used : List Char} (hused : Ends inner used)
    (hrest : Ends inner rest) : Ends inner (used ++ rest) := by
  cases used with
  | nil => exact hrest
  | cons c used => exact ends_cons (hused c rfl) _

/-! ## Numerals -/

theorem ne_sign_of_isDigit {c : Char} (h : isDigit c = true) : c ≠ '-' ∧ c ≠ '+' := by
  constructor <;> rintro rfl <;> exact absurd h (by decide)

theorem exists_of_takeDigits? {digits : List Char} (h : takeDigits? text = some (digits, rest)) :
    IsRun isDigit digits ∧ text = digits ++ rest := by
  simp only [takeDigits?] at h
  split at h
  case isTrue => contradiction
  case isFalse hne =>
    obtain ⟨rfl, rfl⟩ := Prod.mk.inj (Option.some.inj h)
    exact ⟨⟨by simpa using hne, fun _ ↦ List.mem_takeWhile_imp⟩,
      List.takeWhile_append_dropWhile.symm⟩

theorem takeDigits?_append {digits : List Char} (h : IsRun isDigit digits)
    (hrest : Ends isDigit rest) : takeDigits? (digits ++ rest) = some (digits, rest) := by
  simp [takeDigits?, takeWhile_append_of_ends h.2 hrest, dropWhile_append_of_ends h.2 hrest, h.1]

def isFractional (c : Char) : Bool := isDigit c || c = '.'

def isExponential (c : Char) : Bool := isDigit c || c = 'e' || c = 'E'

def isInner (c : Char) : Bool := isFractional c || isExponential c

theorem exists_of_takeWhole? {digits : List Char} (h : takeWhole? text = some (digits, rest)) :
    text = digits ++ rest ∧ IsRun isDigit digits ∧ Reads isDigit takeWhole? digits digits := by
  obtain ⟨htaken, hzero⟩ := Option.filter_eq_some_iff.1 h
  obtain ⟨hdigits, htext⟩ := exists_of_takeDigits? htaken
  refine ⟨htext, hdigits, fun rest' hrest ↦ ?_⟩
  rw [takeWhole?, takeDigits?_append hdigits hrest]
  exact Option.filter_eq_some_iff.2 ⟨rfl, hzero⟩

theorem exists_of_takeFraction? {fraction : List Char}
    (h : takeFraction? text = some (fraction, rest)) :
    ∃ used, text = used ++ rest ∧ Ends isDigit used ∧
      Reads isFractional takeFraction? used fraction := by
  unfold takeFraction? at h
  split at h
  case h_1 tail =>
    obtain ⟨hdigits, rfl⟩ := exists_of_takeDigits? h
    refine ⟨'.' :: fraction, rfl, ends_cons (by decide) _, fun rest' hrest ↦ ?_⟩
    exact takeDigits?_append hdigits (hrest.mono fun c hc ↦ by simp [isFractional, hc])
  case h_2 =>
    obtain ⟨rfl, rfl⟩ := Prod.mk.inj (Option.some.inj h)
    refine ⟨[], rfl, ends_nil, fun rest' hrest ↦ ?_⟩
    rw [List.nil_append]
    unfold takeFraction?
    split
    case h_1 tail =>
      have hpoint := hrest '.' rfl
      contradiction
    case h_2 => rfl

theorem exists_sign (text : List Char) :
    ∃ sign, text = sign ++ (takeSign text).2 ∧ ∀ rest, Ends (fun c ↦ c = '-' || c = '+') rest →
      takeSign (sign ++ rest) = ((takeSign text).1, rest) := by
  unfold takeSign
  split
  case h_1 tail => exact ⟨['-'], rfl, fun _ _ ↦ rfl⟩
  case h_2 tail => exact ⟨['+'], rfl, fun _ _ ↦ rfl⟩
  case h_3 =>
    refine ⟨[], rfl, fun rest hrest ↦ ?_⟩
    rw [List.nil_append]
    split
    case h_1 tail =>
      have hminus := hrest '-' rfl
      contradiction
    case h_2 tail =>
      have hplus := hrest '+' rfl
      contradiction
    case h_3 => rfl

theorem takeExponent?_letter {c : Char} (h : c = 'e' ∨ c = 'E') (tail : List Char) :
    takeExponent? (c :: tail) = (takeDigits? (takeSign tail).2).map fun taken ↦
      (some ((takeSign tail).1, taken.1), taken.2) := by
  rw [takeExponent?, if_pos h]

theorem takeExponent?_none (h : Ends isExponential text) :
    takeExponent? text = some (none, text) := by
  cases text with
  | nil => rfl
  | cons c tail =>
    have hletter : ¬(c = 'e' ∨ c = 'E') := by
      have hother := h c rfl
      simp_all [isExponential]
    rw [takeExponent?, if_neg hletter]

theorem exists_of_takeExponent? {exponent? : Option (Bool × List Char)}
    (h : takeExponent? text = some (exponent?, rest)) :
    ∃ used, text = used ++ rest ∧ Ends isFractional used ∧
      Reads isExponential takeExponent? used exponent? := by
  by_cases hletter : ∃ c tail, text = c :: tail ∧ (c = 'e' ∨ c = 'E')
  · obtain ⟨c, tail, rfl, hc⟩ := hletter
    rw [takeExponent?_letter hc] at h
    obtain ⟨⟨digits, rest⟩, htaken, heq⟩ := Option.map_eq_some_iff.1 h
    obtain ⟨rfl, rfl⟩ := Prod.mk.inj heq
    obtain ⟨hdigits, hafter⟩ := exists_of_takeDigits? htaken
    obtain ⟨sign, hsign, hread⟩ := exists_sign tail
    refine ⟨c :: (sign ++ digits), ?_, ?_, fun rest' hrest ↦ ?_⟩
    · rw [hafter] at hsign
      rw [hsign, List.cons_append, List.append_assoc]
    · rcases hc with rfl | rfl <;> exact ends_cons (by decide) _
    · have hunsigned : Ends (fun c ↦ c = '-' || c = '+') (digits ++ rest') :=
        hdigits.ends_append (fun c hc ↦ by simp [ne_sign_of_isDigit hc]) rest'
      have hdigital : Ends isDigit rest' := hrest.mono fun c hc ↦ by simp [isExponential, hc]
      rw [List.cons_append, List.append_assoc, takeExponent?_letter hc, hread _ hunsigned,
        takeDigits?_append hdigits hdigital, Option.map_some]
  · have hnone : takeExponent? text = some (none, text) := by
      cases text with
      | nil => rfl
      | cons c tail => rw [takeExponent?, if_neg fun hc ↦ hletter ⟨c, tail, rfl, hc⟩]
    obtain ⟨rfl, rfl⟩ := Prod.mk.inj (Option.some.inj (hnone.symm.trans h))
    exact ⟨[], rfl, ends_nil, fun rest' hrest ↦ takeExponent?_none hrest⟩

def takeMinus : List Char → Bool × List Char
  | '-' :: rest => (true, rest)
  | text => (false, text)

theorem exists_minus (text : List Char) :
    ∃ minus, text = minus ++ (takeMinus text).2 ∧ (minus = [] ∨ minus = ['-']) ∧
      ∀ rest, Ends (· = '-') rest → takeMinus (minus ++ rest) = ((takeMinus text).1, rest) := by
  unfold takeMinus
  split
  case h_1 tail => exact ⟨['-'], rfl, .inr rfl, fun _ _ ↦ rfl⟩
  case h_2 =>
    refine ⟨[], rfl, .inl rfl, fun rest hrest ↦ ?_⟩
    rw [List.nil_append]
    split
    case h_1 tail =>
      have hminus := hrest '-' rfl
      contradiction
    case h_2 => rfl

/-- The parts of a numeral are read one behind the other. -/
theorem takeNumeral?_eq_some_iff {numeral : Numeral} :
    takeNumeral? text = some (numeral, rest) ↔ ∃ afterWhole afterFraction,
      (takeMinus text).1 = numeral.negative ∧
      takeWhole? (takeMinus text).2 = some (numeral.whole, afterWhole) ∧
      takeFraction? afterWhole = some (numeral.fraction, afterFraction) ∧
      takeExponent? afterFraction = some (numeral.exponent?, rest) := by
  have heq : takeNumeral? text =
      (takeWhole? (takeMinus text).2).bind fun whole ↦
        (takeFraction? whole.2).bind fun fraction ↦
          (takeExponent? fraction.2).bind fun exponent? ↦
            some (⟨(takeMinus text).1, whole.1, fraction.1, exponent?.1⟩, exponent?.2) := rfl
  rw [heq]
  constructor
  · intro h
    simp only [Option.bind_eq_some_iff] at h
    obtain ⟨⟨whole, afterWhole⟩, hwhole, ⟨fraction, afterFraction⟩, hfraction,
      ⟨exponent?, rest⟩, hexponent, h⟩ := h
    obtain ⟨rfl, rfl⟩ := Prod.mk.inj (Option.some.inj h)
    exact ⟨afterWhole, afterFraction, rfl, hwhole, hfraction, hexponent⟩
  · rintro ⟨afterWhole, afterFraction, hminus, hwhole, hfraction, hexponent⟩
    simp [hminus, hwhole, hfraction, hexponent]

theorem exists_of_takeNumeral? {numeral : Numeral} (h : takeNumeral? text = some (numeral, rest)) :
    ∃ used, text = used ++ rest ∧ (∃ c ∈ used.head?, c = '-' ∨ isDigit c = true) ∧
      Reads isInner takeNumeral? used numeral := by
  obtain ⟨afterWhole, afterFraction, hnegative, hwhole, hfraction, hexponent⟩ :=
    takeNumeral?_eq_some_iff.1 h
  obtain ⟨minus, htext, hsign, hreadMinus⟩ := exists_minus text
  obtain ⟨hafter, hdigits, hreadWhole⟩ := exists_of_takeWhole? hwhole
  obtain ⟨fraction, rfl, hfractionEnds, hreadFraction⟩ := exists_of_takeFraction? hfraction
  obtain ⟨exponent, rfl, hexponentEnds, hreadExponent⟩ := exists_of_takeExponent? hexponent
  refine ⟨minus ++ (numeral.whole ++ (fraction ++ exponent)), ?_, ?_, fun rest' hrest ↦ ?_⟩
  · rw [hafter] at htext
    simpa using htext
  · rcases hsign with rfl | rfl
    · obtain ⟨c, digits, hdigit⟩ := List.exists_cons_of_ne_nil hdigits.1
      exact ⟨c, by simp [hdigit], .inr (hdigits.2 c (by simp [hdigit]))⟩
    · exact ⟨'-', rfl, .inl rfl⟩
  · -- What follows a part cannot go on with it: the next part is empty or begins with its own mark.
    have hexponential : Ends isExponential rest' := hrest.mono fun c hc ↦ by simp [isInner, hc]
    have hfractional : Ends isFractional (exponent ++ rest') :=
      ends_append hexponentEnds (hrest.mono fun c hc ↦ by simp [isInner, hc])
    have hdigital : Ends isDigit (fraction ++ (exponent ++ rest')) :=
      ends_append hfractionEnds (hfractional.mono fun c hc ↦ by simp [isFractional, hc])
    have hunsigned : Ends (· = '-') (numeral.whole ++ (fraction ++ (exponent ++ rest'))) :=
      hdigits.ends_append (fun c hc ↦ decide_eq_false (ne_sign_of_isDigit hc).1) _
    have hminus := hreadMinus _ hunsigned
    rw [List.append_assoc, List.append_assoc, List.append_assoc]
    refine takeNumeral?_eq_some_iff.2 ⟨fraction ++ (exponent ++ rest'), exponent ++ rest', ?_, ?_,
      hreadFraction _ hfractional, hreadExponent _ hexponential⟩
    · rw [hminus, hnegative]
    · rw [hminus, hreadWhole _ hdigital]

/-! ## Quoted texts -/

theorem exists_of_takeEscape? {c : Char} (h : takeEscape? text = some (c, rest)) :
    ∃ used, text = used ++ rest ∧ ∀ rest', takeEscape? (used ++ rest') = some (c, rest') := by
  unfold takeEscape? at h
  split at h
  case h_1 x y z w tail =>
    obtain ⟨unit, hunit, h⟩ := Option.bind_eq_some_iff.1 h
    split at h
    case isTrue => contradiction
    case isFalse htrailing =>
      split at h
      case isTrue hleading =>
        split at h
        case h_1 x' y' z' w' tail _ =>
          obtain ⟨second, hsecond, h⟩ := Option.bind_eq_some_iff.1 h
          split at h
          case isTrue hpair =>
            obtain ⟨rfl, rfl⟩ := Prod.mk.inj (Option.some.inj h)
            refine ⟨['u', x, y, z, w, '\\', 'u', x', y', z', w'], rfl, fun rest' ↦ ?_⟩
            simp [takeEscape?, hunit, htrailing, hleading, hsecond, hpair]
          case isFalse => contradiction
        case h_2 => contradiction
      case isFalse hleading =>
        obtain ⟨rfl, rfl⟩ := Prod.mk.inj (Option.some.inj h)
        refine ⟨['u', x, y, z, w], rfl, fun rest' ↦ ?_⟩
        simp [takeEscape?, hunit, htrailing, hleading]
  case h_2 d tail hne =>
    obtain ⟨c, hc, heq⟩ := Option.map_eq_some_iff.1 h
    obtain ⟨rfl, rfl⟩ := Prod.mk.inj heq
    -- The letter of a unit is no short escape, so this is not a unit that has been cut off.
    have hunit : d ≠ 'u' := by
      rintro rfl
      have hnone : shortEscape? 'u' = none := rfl
      rw [hnone] at hc
      contradiction
    refine ⟨[d], rfl, fun rest' ↦ ?_⟩
    rw [List.singleton_append]
    unfold takeEscape?
    split
    case h_1 heq => exact absurd (List.cons.inj heq).1 hunit
    case h_2 heq =>
      obtain ⟨rfl, rfl⟩ := List.cons.inj heq
      rw [hc]
      rfl
    case h_3 heq => contradiction
  case h_3 => contradiction

theorem takeQuotation?_escaped (escaped : List Char) :
    takeQuotation? ('\\' :: escaped) = (takeEscape? escaped).bind fun taken ↦
      (takeQuotation? taken.2).map fun quoted ↦ (taken.1 :: quoted.1, quoted.2) := by
  rw [takeQuotation?]
  split
  next htaken => simp only [htaken, Option.bind_some]
  next htaken => rw [htaken, Option.bind_none]

theorem takeQuotation?_plain {c : Char} (hquote : c ≠ '"') (hbackslash : c ≠ '\\')
    (tail : List Char) :
    takeQuotation? (c :: tail) = if c.toNat < 0x20 then none
      else (takeQuotation? tail).map fun taken ↦ (c :: taken.1, taken.2) := by
  rw [takeQuotation?]
  · exact hquote
  · exact hbackslash

theorem exists_of_takeQuotation? {characters : List Char}
    (h : takeQuotation? text = some (characters, rest)) :
    ∃ used, text = used ++ rest ∧
      ∀ rest', takeQuotation? (used ++ rest') = some (characters, rest') := by
  induction text using takeQuotation?.induct generalizing characters with
  | case1 => simp [takeQuotation?] at h
  | case2 tail =>
    rw [takeQuotation?] at h
    obtain ⟨rfl, rfl⟩ := Prod.mk.inj (Option.some.inj h)
    exact ⟨['"'], rfl, fun rest' ↦ by rw [List.singleton_append, takeQuotation?]⟩
  | case3 escaped c tail htaken _ ih =>
    rw [takeQuotation?_escaped, htaken, Option.bind_some] at h
    obtain ⟨⟨characters, rest⟩, hquoted, heq⟩ := Option.map_eq_some_iff.1 h
    obtain ⟨rfl, rfl⟩ := Prod.mk.inj heq
    obtain ⟨used, rfl, hread⟩ := ih hquoted
    obtain ⟨escape, rfl, hescape⟩ := exists_of_takeEscape? htaken
    refine ⟨'\\' :: (escape ++ used), by simp, fun rest' ↦ ?_⟩
    rw [List.cons_append, List.append_assoc, takeQuotation?_escaped, hescape, Option.bind_some,
      hread, Option.map_some]
  | case4 escaped htaken =>
    rw [takeQuotation?_escaped, htaken] at h
    contradiction
  | case5 c tail hquote hbackslash hcontrol =>
    rw [takeQuotation?_plain hquote hbackslash, if_pos hcontrol] at h
    contradiction
  | case6 c tail hquote hbackslash hcontrol ih =>
    rw [takeQuotation?_plain hquote hbackslash, if_neg hcontrol] at h
    obtain ⟨⟨characters, rest⟩, hquoted, heq⟩ := Option.map_eq_some_iff.1 h
    obtain ⟨rfl, rfl⟩ := Prod.mk.inj heq
    obtain ⟨used, rfl, hread⟩ := ih hquoted
    refine ⟨c :: used, rfl, fun rest' ↦ ?_⟩
    rw [List.cons_append, takeQuotation?_plain hquote hbackslash, if_neg hcontrol, hread,
      Option.map_some]

end LiveTemplate.Document

import LiveTemplate.Number.Literal
import LiveTemplate.Proofs.Directive.Grammar
import LiveTemplate.Proofs.Number.Decimal

/-!
# Literals of numbers

A number in a directive is written with decimal digits of any script and at most one point. As a
literal it is read just when all its digits are of ASCII: then no sign, no name of a number and no
exponent is found in it, and the number nearest to its value is read.
-/

namespace LiveTemplate.Number

open Directive (IsNumber IsRun isNumeral Ends ends_cons takeWhile_append_of_ends
  dropWhile_append_of_ends)
open Text

variable {literal digits whole fraction : List Char} {c : Char}

def capitals : CodeTable := [(0x0041, 0x005A)]

theorem lowerAscii_of_isNumeral (h : isNumeral c = true) : lowerAscii c = c := by
  have hdigits : digitTable.disjoint capitals = true := by decide +kernel
  have hcapital : capitals.contains c = false := by
    rcases Bool.or_eq_true_iff.1 h with hdigit | hpoint
    · exact CodeTable.contains_eq_false_of_disjoint hdigits hdigit
    · obtain rfl : c = '.' := of_decide_eq_true hpoint
      decide
  rw [lowerAscii, if_neg]
  rintro ⟨hlow, hhigh⟩
  have hfound : capitals.contains c = true :=
    CodeTable.contains_iff.2 ⟨_, List.mem_singleton_self _, hlow, hhigh⟩
  exact Bool.eq_false_iff.1 hcapital hfound

/-- A literal is written with digits of ASCII. -/
def IsAscii (literal : List Char) : Prop := ∀ c ∈ literal, isDecimalDigit c = true → isDigit c = true

instance (literal : List Char) : Decidable (IsAscii literal) :=
  List.decidableBAll (fun c ↦ isDecimalDigit c = true → isDigit c = true) literal

/-- The value of digits with at most one point. -/
def exactValue (literal : List Char) : ℚ :=
  let fraction := (literal.dropWhile isDigit).tail
  ofDigits (literal.takeWhile isDigit) + ofDigits fraction / 10 ^ fraction.length

theorem isNumeral_of_isNumber (h : IsNumber literal) : ∀ c ∈ literal, isNumeral c = true := by
  have hrun {digits : List Char} (h : IsRun isDecimalDigit digits) :
      ∀ c ∈ digits, isNumeral c = true := fun c hc ↦ by simp [isNumeral, h.2 c hc]
  have hpoint : isNumeral '.' = true := by decide
  cases h with
  | whole hdigits => exact hrun hdigits
  | pointed hwhole hfraction =>
    exact List.forall_mem_append.2 ⟨hrun hwhole, List.forall_mem_cons.2 ⟨hpoint, hrun hfraction⟩⟩
  | fraction hfraction => exact List.forall_mem_cons.2 ⟨hpoint, hrun hfraction⟩

/-- In a text of numerals there are no signs, no names of numbers and no exponents. -/
theorem not_mem_of_isNumeral (h : ∀ c ∈ literal, isNumeral c = true) {mark : Char}
    (hmark : isNumeral mark = false) : mark ∉ literal := by
  intro hmem
  rw [h mark hmem] at hmark
  contradiction

theorem parse?_of_isNumeral (h : ∀ c ∈ literal, isNumeral c = true) :
    parse? literal = decimal? false literal := by
  have hsign : takeSign literal = (false, literal) := by
    unfold takeSign
    split
    · exact absurd List.mem_cons_self (not_mem_of_isNumeral h (by decide))
    · exact absurd List.mem_cons_self (not_mem_of_isNumeral h (by decide))
    · rfl
  have hlower : literal.map lowerAscii = literal := by
    rw [List.map_congr_left fun c hc ↦ lowerAscii_of_isNumeral (h c hc), List.map_id']
  have hname {name : String} (hn : 'n' ∈ name.toList) : String.ofList literal ≠ name := by
    rintro rfl
    rw [String.toList_ofList] at hn
    exact not_mem_of_isNumeral h (by decide) hn
  simp only [parse?, hsign, hlower]
  rw [if_neg (hname (by decide)), if_neg]
  simp only [Bool.or_eq_true, decide_eq_true_eq, not_or]
  exact ⟨hname (by decide), hname (by decide)⟩

theorem eq_nil_of_exponentPart? {rest : List Char} {exponent : Int}
    (h : ∀ c ∈ rest, isNumeral c = true) (hread : exponentPart? rest = some exponent) :
    rest = [] := by
  cases rest with
  | nil => rfl
  | cons c rest =>
    have hc : ¬ (c = 'e' ∨ c = 'E') := by
      rintro (rfl | rfl)
      · exact not_mem_of_isNumeral h (by decide) List.mem_cons_self
      · exact not_mem_of_isNumeral h (by decide) List.mem_cons_self
    rw [exponentPart?, if_neg hc] at hread
    contradiction

/-- What is read to its end is written with digits of ASCII. -/
theorem isAscii_of_decimal? {number : Binary64} (h : ∀ c ∈ literal, isNumeral c = true)
    (hread : decimal? false literal = some number) : IsAscii literal := by
  have hcut : literal.takeWhile isDigit ++ literal.dropWhile isDigit = literal :=
    List.takeWhile_append_dropWhile
  have hwhole : ∀ c ∈ literal.takeWhile isDigit, isDigit c = true :=
    fun _ ↦ List.mem_takeWhile_imp
  have hend {rest : List Char} {exponent : Int} (hrest : rest <:+ literal)
      (hexponent : exponentPart? rest = some exponent) : rest = [] :=
    eq_nil_of_exponentPart? (fun c hc ↦ h c (hrest.mem hc)) hexponent
  have hbehind : literal.dropWhile isDigit <:+ literal := List.dropWhile_suffix isDigit
  simp only [decimal?] at hread
  split at hread
  case h_1 tail hpoint =>
    simp only [Option.ite_none_left_eq_some, Option.map_eq_some_iff] at hread
    obtain ⟨-, exponent, hexponent, -⟩ := hread
    rw [hpoint] at hbehind
    have hsuffix : tail.dropWhile isDigit <:+ literal :=
      (List.dropWhile_suffix isDigit).trans ((List.suffix_cons '.' tail).trans hbehind)
    have hfraction := List.dropWhile_eq_nil_iff.1 (hend hsuffix hexponent)
    intro c hc hdigit
    rw [← hcut, hpoint, List.mem_append, List.mem_cons] at hc
    rcases hc with hc | rfl | hc
    · exact hwhole c hc
    · contradiction
    · exact hfraction c hc
  case h_2 =>
    simp only [Option.ite_none_left_eq_some, Option.map_eq_some_iff] at hread
    obtain ⟨-, exponent, hexponent, -⟩ := hread
    intro c hc _
    rw [← hcut, hend hbehind hexponent, List.append_nil] at hc
    exact hwhole c hc

theorem decimal?_pointed (hwhole : ∀ c ∈ whole, isDigit c = true)
    (hfraction : IsRun isDigit fraction) :
    decimal? false (whole ++ '.' :: fraction) =
      some (ofDecimal false (ofDigits (whole ++ fraction)) (whole ++ fraction).length
        (-fraction.length)) := by
  have hpoint : Ends isDigit ('.' :: fraction) := ends_cons (by decide) _
  have hfull : fraction.takeWhile isDigit = fraction :=
    List.takeWhile_eq_self_iff.2 hfraction.2
  have hend : fraction.dropWhile isDigit = [] := List.dropWhile_eq_nil_iff.2 hfraction.2
  simp only [decimal?, takeWhile_append_of_ends hwhole hpoint,
    dropWhile_append_of_ends hwhole hpoint, hfull, hend]
  simp [hfraction.1, exponentPart?]

theorem decimal?_whole (hdigits : IsRun isDigit digits) :
    decimal? false digits = some (ofDecimal false (ofDigits digits) digits.length 0) := by
  have hfull : digits.takeWhile isDigit = digits := List.takeWhile_eq_self_iff.2 hdigits.2
  have hend : digits.dropWhile isDigit = [] := List.dropWhile_eq_nil_iff.2 hdigits.2
  simp only [decimal?, hfull, hend]
  simp [hdigits.1, exponentPart?]

theorem exactValue_pointed (hwhole : ∀ c ∈ whole, isDigit c = true) (fraction : List Char) :
    exactValue (whole ++ '.' :: fraction) =
      ofDigits (whole ++ fraction) * 10 ^ (-(fraction.length : Int)) := by
  have hpoint : Ends isDigit ('.' :: fraction) := ends_cons (by decide) _
  have hten : (10 : ℚ) ^ fraction.length ≠ 0 := by positivity
  simp only [exactValue, takeWhile_append_of_ends hwhole hpoint,
    dropWhile_append_of_ends hwhole hpoint, List.tail_cons, ofDigits_append, zpow_neg,
    zpow_natCast]
  push_cast
  field_simp

theorem exactValue_whole (hdigits : ∀ c ∈ digits, isDigit c = true) :
    exactValue digits = ofDigits digits := by
  have hfull : digits.takeWhile isDigit = digits := List.takeWhile_eq_self_iff.2 hdigits
  have hend : digits.dropWhile isDigit = [] := List.dropWhile_eq_nil_iff.2 hdigits
  simp [exactValue, hfull, hend, ofDigits]

/-- How many digits stand behind the point. -/
def places (literal : List Char) : Nat := (literal.dropWhile isDigit).tail.length

theorem places_pointed (hwhole : ∀ c ∈ whole, isDigit c = true) (fraction : List Char) :
    places (whole ++ '.' :: fraction) = fraction.length := by
  rw [places, dropWhile_append_of_ends hwhole (ends_cons (by decide) _), List.tail_cons]

theorem places_whole (hdigits : ∀ c ∈ digits, isDigit c = true) : places digits = 0 := by
  rw [places, List.dropWhile_eq_nil_iff.2 hdigits]
  rfl

/-- A number in digits of ASCII is read as its digits with an exponent of ten. -/
theorem exists_ofDecimal_of_isAscii (h : IsNumber literal) (hascii : IsAscii literal) :
    ∃ coefficient size, coefficient < 10 ^ size ∧
      parse? literal = some (ofDecimal false coefficient size (-places literal)) ∧
      exactValue literal = coefficient * 10 ^ (-places literal : Int) := by
  have hrun {digits : List Char} (hrun : IsRun isDecimalDigit digits)
      (hsub : ∀ c ∈ digits, c ∈ literal) : IsRun isDigit digits :=
    ⟨hrun.1, fun c hc ↦ hascii c (hsub c hc) (hrun.2 c hc)⟩
  rw [parse?_of_isNumeral (isNumeral_of_isNumber h)]
  cases h with
  | whole hdigits =>
    have hdigits := hrun hdigits fun c hc ↦ hc
    refine ⟨_, _, ofDigits_lt literal, ?_, ?_⟩
    · rw [decimal?_whole hdigits, places_whole hdigits.2]
      rfl
    · rw [exactValue_whole hdigits.2, places_whole hdigits.2]
      simp
  | @pointed whole fraction hwhole hfraction =>
    have hwhole := hrun hwhole fun c hc ↦ List.mem_append_left _ hc
    have hfraction := hrun hfraction fun c hc ↦
      List.mem_append_right _ (List.mem_cons_of_mem _ hc)
    rw [places_pointed hwhole.2]
    exact ⟨_, _, ofDigits_lt _, decimal?_pointed hwhole.2 hfraction,
      exactValue_pointed hwhole.2 fraction⟩
  | @fraction fraction hfraction =>
    have hfraction := hrun hfraction fun c hc ↦ List.mem_cons_of_mem _ hc
    have hnone : ∀ c ∈ ([] : List Char), isDigit c = true := fun c hc ↦ absurd hc List.not_mem_nil
    rw [← List.nil_append ('.' :: fraction), places_pointed hnone]
    exact ⟨_, _, ofDigits_lt _, decimal?_pointed hnone hfraction, exactValue_pointed hnone fraction⟩

/-- A number in digits of ASCII is read, and as the number nearest to its value. -/
theorem exists_parse?_of_isAscii (h : IsNumber literal) (hascii : IsAscii literal) :
    ∃ number, parse? literal = some number ∧ number.IsMagnitude ∧
      ∀ power, Binary64.minExponent + 54 ≤ power → power ≤ Binary64.maxExponent + 53 →
        (number.Reaches (2 ^ power) ↔ Binary64.threshold power ≤ exactValue literal) := by
  obtain ⟨coefficient, size, hsize, hread, hvalue⟩ := exists_ofDecimal_of_isAscii h hascii
  refine ⟨_, hread, isMagnitude_ofDecimal _ _ _, fun power hlow hhigh ↦ ?_⟩
  rw [hvalue, reaches_ofDecimal_iff hlow hhigh hsize]

/-- A number with another digit is not read. -/
theorem parse?_eq_none (h : IsNumber literal) (hascii : ¬ IsAscii literal) :
    parse? literal = none := by
  rw [parse?_of_isNumeral (isNumeral_of_isNumber h)]
  by_contra hread
  obtain ⟨number, hnumber⟩ := Option.ne_none_iff_exists'.1 hread
  exact hascii (isAscii_of_decimal? (isNumeral_of_isNumber h) hnumber)

/-- A number of digits is kept by trimming. -/
theorem trim_of_isNumber (h : IsNumber literal) : trim literal = literal := by
  have hblank : ∀ c ∈ literal, isBlank c = false := by
    intro c hc
    rcases Bool.or_eq_true_iff.1 (isNumeral_of_isNumber h c hc) with hdigit | hpoint
    · exact Directive.isBlank_eq_false_of_isDecimalDigit hdigit
    · obtain rfl : c = '.' := of_decide_eq_true hpoint
      decide
  have hkept {text : List Char} (htext : ∀ c ∈ text, c ∈ literal) :
      text.dropWhile isBlank = text := by
    cases text with
    | nil => rfl
    | cons c text =>
      have hc := hblank c (htext c List.mem_cons_self)
      exact List.dropWhile_cons_of_neg (by simp [hc])
  rw [trim, hkept fun _ ↦ id, trimEnd, hkept fun _ ↦ List.mem_reverse.1, List.reverse_reverse]

end LiveTemplate.Number

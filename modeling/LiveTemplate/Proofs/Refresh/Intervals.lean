import LiveTemplate.Proofs.Directive.Outermost
import LiveTemplate.Proofs.Number.Literal
import LiveTemplate.Proofs.Refresh.Pacing

/-!
# Intervals of directives

The digits of an interval may belong to any script where a directive is read, but where the interval
is made a duration only the digits of ASCII count. So a directive whose interval has a digit of
another script runs once. An interval in ASCII digits is always read, and repeats unless its number
of seconds is `2 ^ 64` or more, which is the case from `2 ^ 64 - 2 ^ 10` seconds on, where numbers of
the binary format are rounded to that power.
-/

namespace LiveTemplate

/-! ## Durations -/

namespace Duration

open Number

/-- A number of the format below `2 ^ 64` is at least one below it. -/
theorem le_of_lt_two_pow {m : Nat} {e : Int} (hm : m < 2 ^ 53) (h : (m : ℚ) * 2 ^ e < 2 ^ 64) :
    (m : ℚ) * 2 ^ e ≤ 2 ^ 64 - 1 := by
  rcases Int.le_total 0 e with hwhole | hpart
  · obtain ⟨n, rfl⟩ := Int.eq_ofNat_of_zero_le hwhole
    rw [zpow_natCast] at h ⊢
    have hnat : m * 2 ^ n < 2 ^ 64 := by exact_mod_cast h
    have hpred : m * 2 ^ n + 1 ≤ 2 ^ 64 := hnat
    rw [le_sub_iff_add_le]
    exact_mod_cast hpred
  · have hunit : (2 : ℚ) ^ e ≤ 1 := zpow_le_one_of_nonpos₀ one_le_two hpart
    have hsignificand : (m : ℚ) ≤ 2 ^ 53 := by exact_mod_cast hm.le
    calc
      (m : ℚ) * 2 ^ e ≤ 2 ^ 53 * 1 := by gcongr
      _ ≤ 2 ^ 64 - 1 := by norm_num

/-- A number of seconds that is not negative is too long for a duration from `2 ^ 64` on. -/
theorem ofSeconds?_eq_none_iff {number : Binary64} (h : number.IsMagnitude) :
    ofSeconds? number = none ↔ number.Reaches (2 ^ 64) := by
  cases h with
  | infinity => exact iff_of_true rfl rfl
  | @finite m e hm =>
    obtain ⟨hpositive, hvalue⟩ := Binary64.ratio_spec (m * perSecond) e
    have hread : ofSeconds? (.finite false m e) = none ↔ limit ≤ roundHalfEven
        (Binary64.ratio (m * perSecond) e).1 (Binary64.ratio (m * perSecond) e).2 := by
      simp [ofSeconds?]
    have hreaches : (Binary64.finite false m e).Reaches (2 ^ 64) ↔ (2 : ℚ) ^ 64 ≤ m * 2 ^ e := by
      simp [Binary64.Reaches]
    rw [hread, hreaches]
    generalize Binary64.ratio (m * perSecond) e = value at hpositive hvalue
    have hexact : (value.1 : ℚ) / value.2 = (m * 2 ^ e) * perSecond := by
      rw [hvalue, Nat.cast_mul]
      ring
    constructor
    · intro hlong
      by_contra hshort
      have hbelow := le_of_lt_two_pow hm (lt_of_not_ge hshort)
      have hfits : roundHalfEven value.1 value.2 ≤ (2 ^ 64 - 1) * perSecond := by
        apply roundHalfEven_le hpositive
        calc
          (value.1 : ℚ) / value.2 = (m * 2 ^ e) * perSecond := hexact
          _ ≤ (2 ^ 64 - 1) * perSecond := by gcongr
          _ = ((2 ^ 64 - 1) * perSecond : Nat) := by norm_num
      have hless : (2 ^ 64 - 1) * perSecond < limit := by decide
      omega
    · intro hlong
      apply le_roundHalfEven hpositive
      calc
        (limit : ℚ) = 2 ^ 64 * perSecond := by norm_num [limit]
        _ ≤ (m * 2 ^ e) * perSecond := by gcongr
        _ = value.1 / value.2 := hexact.symm

end Duration

/-! ## Directives -/

theorem Directive.IsTail.isNumber {interval : Option (List Char)} {isAsync : Option Bool}
    {tail number : List Char} (h : IsTail interval isAsync tail) (hnumber : interval = some number) :
    IsNumber number := by
  cases h with
  | none => contradiction
  | interval h => exact Option.some.inj hnumber ▸ h
  | mode => contradiction
  | intervalMode h => exact Option.some.inj hnumber ▸ h
  | modeInterval h => exact Option.some.inj hnumber ▸ h

namespace Refresh

open Directive (Descriptor IsNumber parse exists_occurs_of_mem_parse)
open Command (Registry)
open Number (Binary64 IsAscii exactValue)

variable {σ : Type}

/-- The interval of a directive is written as a number. -/
theorem isNumber_of_mem_parse {template : String} {d : Descriptor} {literal : String}
    (hd : d ∈ parse template) (hliteral : d.interval = some literal) :
    IsNumber literal.toList := by
  obtain ⟨fields, ⟨before, source, after, -, hderives, -⟩, hdescribed⟩ :=
    exists_occurs_of_mem_parse hd
  rw [hdescribed] at hliteral
  obtain ⟨number, hnumber, rfl⟩ := Option.map_eq_some_iff.1 hliteral
  rw [String.toList_ofList]
  cases hderives with
  | intro _ _ _ htail _ => exact htail.isNumber hnumber

/-- The interval of a directive repeats it just when it is written with digits of ASCII and is
shorter than `2 ^ 64` seconds. What is written so is always read, and reaches that number of seconds
from `2 ^ 10` seconds below it on. -/
theorem runs_once_iff (registry : Registry σ) (floor : Duration) {template : String}
    {d : Descriptor} {literal : String} (hd : d ∈ parse template)
    (hliteral : d.interval = some literal) :
    (IsAscii literal.toList →
      ∃ number, Number.parse? literal.toList = some number ∧
        ((resolve registry floor d).interval = none ↔ number.Reaches (2 ^ 64)) ∧
        (number.Reaches (2 ^ 64) ↔ 2 ^ 64 - 2 ^ 10 ≤ exactValue literal.toList)) ∧
      (¬ IsAscii literal.toList →
        Number.parse? literal.toList = none ∧ (resolve registry floor d).interval = none) ∧
      ∀ interval, (resolve registry floor d).interval = some interval →
        floor.nanoseconds ≤ interval.nanoseconds := by
  have hnumber : IsNumber literal.toList := isNumber_of_mem_parse hd hliteral
  have hresolved : (resolve registry floor d).interval =
      (Number.parse? literal.toList).bind fun number ↦
        (Duration.ofSeconds? number).map (·.max floor) := by
    simp only [resolve, resolveInterval, hliteral, Option.bind_eq_bind, Option.bind_some,
      Option.map_eq_bind, Number.trim_of_isNumber hnumber]
    rfl
  have hthreshold : Binary64.threshold 64 = 2 ^ 64 - 2 ^ 10 := by
    norm_num [Binary64.threshold]
  refine ⟨fun hascii ↦ ?_, fun hforeign ↦ ?_, fun interval ↦ floor_le_of_resolveInterval⟩
  · obtain ⟨number, hread, hmagnitude, hreaches⟩ :=
      Number.exists_parse?_of_isAscii hnumber hascii
    refine ⟨number, hread, ?_, hthreshold ▸ hreaches 64 (by decide) (by decide)⟩
    rw [← Duration.ofSeconds?_eq_none_iff hmagnitude, hresolved, hread, Option.bind_some,
      Option.map_eq_none_iff]
  · have hunread := Number.parse?_eq_none hnumber hforeign
    exact ⟨hunread, by rw [hresolved, hunread]; rfl⟩

/-- The least whole number of seconds that is rounded to `2 ^ 64`. -/
def overlong : Descriptor := ⟨0, 0, 40, "dt", "HH", some "18446744073709550592", none⟩

/-- An interval of that many seconds is read, and runs its directive once. -/
theorem overlong_runs_once :
    overlong ∈ parse "\x7bdt(HH), interval: 18446744073709550592\x7d" ∧
      overlong.interval = some "18446744073709550592" ∧
      IsAscii "18446744073709550592".toList ∧
      (resolve (Registry.empty : Registry Unit) ⟨100000000⟩ overlong).interval = none := by
  have hfound : overlong ∈ parse "\x7bdt(HH), interval: 18446744073709550592\x7d" := by
    decide +kernel
  have hascii : IsAscii "18446744073709550592".toList := by decide +kernel
  have hvalue : exactValue "18446744073709550592".toList = 18446744073709550592 := by
    have hdigits : Number.ofDigits "18446744073709550592".toList = 18446744073709550592 := by
      decide +kernel
    rw [Number.exactValue_whole (List.all_eq_true.1 (by decide +kernel)), hdigits]
    norm_num
  obtain ⟨number, -, honce, hreaches⟩ :=
    (runs_once_iff (Registry.empty : Registry Unit) ⟨100000000⟩ hfound rfl).1 hascii
  refine ⟨hfound, rfl, hascii, honce.2 (hreaches.2 ?_)⟩
  rw [hvalue]
  norm_num

/-- An interval of five seconds, in a digit that is not of ASCII. -/
def foreignFive : Descriptor := ⟨0, 0, 22, "dt", "HH", some "\u0665", none⟩

/-- The interval is found but not read as a number of seconds, and its directive runs once. -/
theorem foreignFive_runs_once :
    parse "\x7bdt(HH), interval: \u0665\x7d" = [foreignFive] ∧
      foreignFive.interval = some "\u0665" ∧
      (resolve (Registry.empty : Registry Unit) ⟨100000000⟩ foreignFive).interval = none ∧
      ¬ ∃ number, Number.parse? "\u0665".toList = some number ∧ number.Reaches (2 ^ 64) := by
  have hunread : Number.parse? "\u0665".toList = none := by decide +kernel
  refine ⟨by decide +kernel, rfl, by decide +kernel, ?_⟩
  rintro ⟨number, hread, -⟩
  rw [hunread] at hread
  contradiction

end Refresh

end LiveTemplate

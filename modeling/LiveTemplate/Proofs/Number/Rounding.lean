import Mathlib.Algebra.Order.Field.Power
import Mathlib.Data.Rat.Cast.Order
import Mathlib.Tactic.FieldSimp
import Mathlib.Tactic.Linarith
import Mathlib.Tactic.Ring
import LiveTemplate.Number.Binary64

/-!
# Rounding to the nearest number

A quotient is brought to the exponent of its leading binary digit and rounded there to a significand,
an exact half going to the even one. The rounded number reaches a power of two as soon as the quotient
comes within half a unit of the last place below it, since the significand of the power is even.
-/

namespace LiveTemplate.Number

variable {num den : Nat}

/-! ## Quotients -/

/-- The rational number that a quotient stands for, after a division by a power. -/
theorem dividedByPower_spec {base : Nat} (hbase : 0 < base) (num : Nat) (hden : 0 < den)
    (power : Int) :
    0 < (dividedByPower base num den power).2 ∧
      ((dividedByPower base num den power).1 : ℚ) / (dividedByPower base num den power).2 =
        num / den / (base : ℚ) ^ power := by
  have hpositive : (0 : ℚ) < base := Nat.cast_pos.2 hbase
  unfold dividedByPower
  split
  case isTrue h =>
    obtain ⟨n, rfl⟩ : ∃ n : Nat, power = n := ⟨power.toNat, by omega⟩
    refine ⟨Nat.mul_pos hden (Nat.pow_pos hbase), ?_⟩
    simp [div_div]
  case isFalse h =>
    obtain ⟨n, rfl⟩ : ∃ n : Nat, power = -n := ⟨(-power).toNat, by omega⟩
    refine ⟨hden, ?_⟩
    simp [div_mul_eq_mul_div]

/-- The binary order is the exponent of the leading binary digit. -/
theorem binaryOrder_spec (hnum : 0 < num) (hden : 0 < den) :
    (2 : ℚ) ^ binaryOrder num den ≤ (num : ℚ) / den ∧
      (num : ℚ) / den < 2 ^ (binaryOrder num den + 1) := by
  have hnum' : (0 : ℚ) < num := Nat.cast_pos.2 hnum
  have hden' : (0 : ℚ) < den := Nat.cast_pos.2 hden
  have htwo : (2 : ℚ) ≠ 0 := two_ne_zero
  let estimate : Int := (Nat.log2 num : Int) - Nat.log2 den
  have hnumLow : (2 : ℚ) ^ (Nat.log2 num : Int) ≤ num := by
    exact_mod_cast Nat.log2_self_le hnum.ne'
  have hnumHigh : (num : ℚ) < 2 ^ ((Nat.log2 num : Int) + 1) := by
    exact_mod_cast Nat.lt_log2_self (n := num)
  have hdenLow : (2 : ℚ) ^ (Nat.log2 den : Int) ≤ den := by
    exact_mod_cast Nat.log2_self_le hden.ne'
  have hdenHigh : (den : ℚ) < 2 ^ ((Nat.log2 den : Int) + 1) := by
    exact_mod_cast Nat.lt_log2_self (n := den)
  have hlow : (2 : ℚ) ^ (estimate - 1) ≤ num / den := by
    rw [le_div_iff₀ hden']
    calc
      (2 : ℚ) ^ (estimate - 1) * den ≤ 2 ^ (estimate - 1) * 2 ^ ((Nat.log2 den : Int) + 1) := by
        gcongr
      _ = 2 ^ (Nat.log2 num : Int) := by
        rw [← zpow_add₀ htwo]
        congr 1
        omega
      _ ≤ num := hnumLow
  have hhigh : (num : ℚ) / den < 2 ^ (estimate + 1) := by
    rw [div_lt_iff₀ hden']
    calc
      (num : ℚ) < 2 ^ ((Nat.log2 num : Int) + 1) := hnumHigh
      _ = 2 ^ (estimate + 1) * 2 ^ (Nat.log2 den : Int) := by
        rw [← zpow_add₀ htwo]
        congr 1
        omega
      _ ≤ 2 ^ (estimate + 1) * den := by gcongr
  obtain ⟨hpositive, hscaled⟩ := dividedByPower_spec Nat.two_pos num hden estimate
  have hestimate : (dividedByPower 2 num den estimate).2 ≤ (dividedByPower 2 num den estimate).1 ↔
      (2 : ℚ) ^ estimate ≤ num / den := by
    have hunit : (0 : ℚ) < 2 ^ estimate := zpow_pos two_pos _
    rw [← Nat.cast_le (α := ℚ), ← one_le_div₀ (Nat.cast_pos.2 hpositive), hscaled,
      Nat.cast_ofNat, one_le_div₀ hunit]
  simp only [binaryOrder, orderBelow]
  split
  case isTrue h => exact ⟨hestimate.1 h, hhigh⟩
  case isFalse h =>
    rw [sub_add_cancel]
    exact ⟨hlow, lt_of_not_ge (hestimate.not.1 h)⟩

/-! ## Whole numbers -/

/-- A quotient that is not below a whole number is not rounded below it. -/
theorem le_roundHalfEven {n : Nat} (hden : 0 < den) (h : (n : ℚ) ≤ num / den) :
    n ≤ roundHalfEven num den := by
  have hwhole : n * den ≤ num := by
    rw [le_div_iff₀ (Nat.cast_pos.2 hden)] at h
    exact_mod_cast h
  have hquotient : n ≤ num / den := (Nat.le_div_iff_mul_le hden).2 hwhole
  unfold roundHalfEven
  grind

/-- A quotient that is not above a whole number is not rounded above it. -/
theorem roundHalfEven_le {n : Nat} (hden : 0 < den) (h : (num : ℚ) / den ≤ n) :
    roundHalfEven num den ≤ n := by
  have hwhole : num ≤ n * den := by
    rw [div_le_iff₀ (Nat.cast_pos.2 hden)] at h
    exact_mod_cast h
  have hparts := Nat.div_add_mod num den
  have hquotient : num / den ≤ n := Nat.div_le_of_le_mul (by rwa [Nat.mul_comm])
  unfold roundHalfEven
  rcases Nat.lt_or_eq_of_le hquotient with hlt | heq
  · grind
  · have hnothing : num % den = 0 := by
      rw [heq, Nat.mul_comm] at hparts
      omega
    simp [hnothing, hden, heq]

/-- A quotient is rounded to zero if it is a half or less. -/
theorem roundHalfEven_eq_zero_iff (hden : 0 < den) : roundHalfEven num den = 0 ↔ 2 * num ≤ den := by
  by_cases hlt : num < den
  · simp only [roundHalfEven, Nat.div_eq_of_lt hlt, Nat.mod_eq_of_lt hlt]
    grind
  · have hquotient : 0 < num / den := Nat.div_pos (Nat.le_of_not_lt hlt) hden
    have hrounded : num / den ≤ roundHalfEven num den := by
      unfold roundHalfEven
      grind
    constructor <;> omega

/-- A quotient is rounded to an even number or beyond it from half a unit below it on. -/
theorem le_roundHalfEven_iff {n : Nat} (hden : 0 < den) (heven : n % 2 = 0) (hn : 0 < n) :
    n ≤ roundHalfEven num den ↔ (n : ℚ) - 1 / 2 ≤ num / den := by
  have hdouble : (n : ℚ) - 1 / 2 ≤ num / den ↔ (2 * n - 1) * den ≤ 2 * num := by
    rw [le_div_iff₀ (Nat.cast_pos.2 hden), ← Nat.cast_le (α := ℚ)]
    push_cast [Nat.cast_sub (show 1 ≤ 2 * n by omega)]
    constructor <;> intro h <;> linarith
  have hparts := Nat.div_add_mod num den
  have hrest := Nat.mod_lt num hden
  rw [hdouble]
  rcases Nat.lt_trichotomy (num / den + 1) n with hbelow | hat | habove
  · have hrounded : roundHalfEven num den ≤ num / den + 1 := by
      unfold roundHalfEven
      grind
    have hfar : (2 * (num / den) + 2) * den ≤ (2 * n - 1) * den :=
      Nat.mul_le_mul_right den (by omega)
    have hexpand : (2 * (num / den) + 2) * den = 2 * (den * (num / den)) + 2 * den := by ring
    constructor <;> omega
  · have hhalf : (2 * n - 1) * den = 2 * (den * (num / den)) + den := by
      rw [← hat, show 2 * (num / den + 1) - 1 = 2 * (num / den) + 1 by omega]
      ring
    rw [hhalf]
    unfold roundHalfEven
    grind
  · have hrounded : num / den ≤ roundHalfEven num den := by
      unfold roundHalfEven
      grind
    have hwhole : n * den ≤ num := (Nat.le_div_iff_mul_le hden).1 (by omega)
    have hnear : (2 * n - 1) * den ≤ 2 * (n * den) := by
      rw [← Nat.mul_assoc]
      exact Nat.mul_le_mul_right den (by omega)
    constructor <;> omega

/-! ## Numbers -/

namespace Binary64

variable {m : Nat} {e : Int} {bound : ℚ}

/-- The quotient of a significand and an exponent has their value. -/
theorem ratio_spec (m : Nat) (e : Int) :
    0 < (ratio m e).2 ∧ ((ratio m e).1 : ℚ) / (ratio m e).2 = m * 2 ^ e := by
  obtain ⟨hpositive, hvalue⟩ := dividedByPower_spec Nat.two_pos m Nat.one_pos (-e)
  refine ⟨hpositive, hvalue.trans ?_⟩
  simp

/-- A number is not below a bound. -/
def Reaches (bound : ℚ) : Binary64 → Prop
  | .nan => False
  | .infinity negative => negative = false
  | .finite negative m e => bound ≤ (if negative then -1 else 1) * ((m : ℚ) * 2 ^ e)

/-- A number without a minus, with a significand of the format if it is finite. -/
inductive IsMagnitude : Binary64 → Prop
  | infinity : IsMagnitude (.infinity false)
  | finite {m : Nat} (e : Int) (hm : m < 2 ^ 53) : IsMagnitude (.finite false m e)

theorem isMagnitude_normalize (hm : m ≤ 2 ^ 53) (e : Int) : (normalize false m e).IsMagnitude := by
  unfold normalize
  split
  · split
    · exact .infinity
    · exact .finite _ (by decide)
  · next hne =>
    split
    · exact .infinity
    · exact .finite e (lt_of_le_of_ne hm hne)

/-- Putting a significand into the format keeps its value, up to where the numbers end. -/
theorem reaches_normalize_iff (hbound : bound ≤ 2 ^ (maxExponent + 53))
    (hfull : maxExponent < e → 2 ^ 52 ≤ m) :
    (normalize false m e).Reaches bound ↔ bound ≤ m * 2 ^ e := by
  have hlast {n : Nat} {k : Int} (hn : 2 ^ 52 ≤ n) (hk : maxExponent < k) :
      bound ≤ n * 2 ^ k := by
    have hexponent : maxExponent + 1 ≤ k := hk
    calc
      bound ≤ 2 ^ (maxExponent + 53) := hbound
      _ = ((2 ^ 52 : Nat) : ℚ) * 2 ^ (maxExponent + 1) := by
        rw [show maxExponent + 53 = 52 + (maxExponent + 1) by ring, zpow_add₀ two_ne_zero]
        norm_num
      _ ≤ n * 2 ^ k :=
        mul_le_mul (Nat.cast_le.2 hn) (zpow_le_zpow_right₀ one_le_two hexponent)
          (zpow_nonneg zero_le_two _) (Nat.cast_nonneg n)
  unfold normalize
  split
  case isTrue hm =>
    have hcarry : (m : ℚ) * 2 ^ e = (Nat.pow 2 52 : Nat) * 2 ^ (e + 1) := by
      rw [hm, zpow_add₀ two_ne_zero]
      norm_num
      ring
    rw [hcarry]
    split
    case isTrue hlarge => exact iff_of_true rfl (hlast (Nat.le_refl (2 ^ 52)) hlarge)
    case isFalse => simp [Reaches]
  case isFalse hne =>
    split
    case isTrue hlarge => exact iff_of_true rfl (hlast (hfull hlarge) hlarge)
    case isFalse => simp [Reaches]

/-- The significand that a quotient is rounded to. -/
def significandOf (num den : Nat) : Nat :=
  let scaled := dividedByPower 2 num den (exponentOf num den)
  roundHalfEven scaled.1 scaled.2

theorem ofRatio_eq (hnum : 0 < num) (den : Nat) :
    ofRatio false num den = normalize false (significandOf num den) (exponentOf num den) := by
  rw [ofRatio, if_neg hnum.ne']
  rfl

theorem significandOf_le (hnum : 0 < num) (hden : 0 < den) : significandOf num den ≤ 2 ^ 53 := by
  obtain ⟨hpositive, hscaled⟩ := dividedByPower_spec Nat.two_pos num hden (exponentOf num den)
  apply roundHalfEven_le hpositive
  have hunit : (0 : ℚ) < 2 ^ exponentOf num den := zpow_pos two_pos _
  have horder : binaryOrder num den + 1 ≤ 53 + exponentOf num den := by
    unfold exponentOf
    omega
  rw [hscaled, Nat.cast_ofNat, div_le_iff₀ hunit]
  calc
    (num : ℚ) / den ≤ 2 ^ (binaryOrder num den + 1) := (binaryOrder_spec hnum hden).2.le
    _ ≤ 2 ^ (53 + exponentOf num den) := zpow_le_zpow_right₀ one_le_two horder
    _ = ((2 ^ 53 : Nat) : ℚ) * 2 ^ exponentOf num den := by
      rw [zpow_add₀ two_ne_zero]
      norm_num

/-- Above the least exponent a significand has all its digits. -/
theorem le_significandOf (hnum : 0 < num) (hden : 0 < den)
    (h : minExponent < exponentOf num den) : 2 ^ 52 ≤ significandOf num den := by
  obtain ⟨hpositive, hscaled⟩ := dividedByPower_spec Nat.two_pos num hden (exponentOf num den)
  apply le_roundHalfEven hpositive
  have hunit : (0 : ℚ) < 2 ^ exponentOf num den := zpow_pos two_pos _
  have horder : binaryOrder num den = 52 + exponentOf num den := by
    unfold exponentOf at h ⊢
    omega
  rw [hscaled, Nat.cast_ofNat, le_div_iff₀ hunit]
  calc
    ((2 ^ 52 : Nat) : ℚ) * 2 ^ exponentOf num den = 2 ^ (52 + exponentOf num den) := by
      rw [zpow_add₀ two_ne_zero]
      norm_num
    _ ≤ num / den := horder ▸ (binaryOrder_spec hnum hden).1

theorem isMagnitude_ofRatio (num : Nat) (hden : 0 < den) : (ofRatio false num den).IsMagnitude := by
  rcases Nat.eq_zero_or_pos num with rfl | hnum
  · exact .finite _ (by decide)
  · rw [ofRatio_eq hnum]
    exact isMagnitude_normalize (significandOf_le hnum hden) _

theorem reaches_ofRatio (hnum : 0 < num) (hden : 0 < den) (hbound : bound ≤ 2 ^ (maxExponent + 53)) :
    (ofRatio false num den).Reaches bound ↔
      bound ≤ significandOf num den * 2 ^ exponentOf num den := by
  rw [ofRatio_eq hnum]
  apply reaches_normalize_iff hbound
  intro hlarge
  apply le_significandOf hnum hden
  simp only [maxExponent, minExponent] at hlarge ⊢
  omega

/-- The least value that is rounded to a power of two or beyond it, half a unit of the last place
below the power. -/
def threshold (power : Int) : ℚ := 2 ^ power - 2 ^ (power - 54)

theorem threshold_bounds (power : Int) :
    (0 : ℚ) < 2 ^ (power - 1) ∧ 2 ^ (power - 1) < threshold power ∧ threshold power < 2 ^ power := by
  have hhalf : (0 : ℚ) < 2 ^ (power - 1) := zpow_pos two_pos _
  have hdouble : (2 : ℚ) ^ power = 2 ^ (power - 1) + 2 ^ (power - 1) := by
    rw [← two_mul, ← zpow_one_add₀ two_ne_zero, add_sub_cancel]
  have hunit : (2 : ℚ) ^ (power - 54) < 2 ^ (power - 1) :=
    zpow_lt_zpow_right₀ one_lt_two (by omega)
  have hrest : (0 : ℚ) < 2 ^ (power - 54) := zpow_pos two_pos _
  unfold threshold
  exact ⟨hhalf, by linarith, by linarith⟩

theorem two_zpow_le {a b : Int} (h : a ≤ b) : (2 : ℚ) ^ a ≤ 2 ^ b :=
  zpow_le_zpow_right₀ one_le_two h

theorem natCast_two_pow_mul (digits : Nat) (e : Int) :
    ((2 ^ digits : Nat) : ℚ) * 2 ^ e = 2 ^ (digits + e) := by
  rw [zpow_add₀ two_ne_zero]
  norm_num

/-- A quotient of a lower order is not rounded beyond the power below the next one. -/
theorem significandOf_mul_le {power : Int} (hlow : minExponent + 54 ≤ power) (hnum : 0 < num)
    (hden : 0 < den) (horder : binaryOrder num den + 1 < power) :
    (significandOf num den : ℚ) * 2 ^ exponentOf num den ≤ 2 ^ (power - 1) := by
  have hexponent : exponentOf num den ≤ power - 54 := by
    unfold exponentOf
    omega
  calc
    (significandOf num den : ℚ) * 2 ^ exponentOf num den ≤
        ((2 ^ 53 : Nat) : ℚ) * 2 ^ (power - 54) := by
      gcongr
      · exact significandOf_le hnum hden
      · exact one_le_two
    _ = 2 ^ (power - 1) := by
      rw [natCast_two_pow_mul]
      congr 1
      push_cast
      ring

/-- A quotient that has reached a power is not rounded below it. -/
theorem le_significandOf_mul {power : Int} (hlow : minExponent + 54 ≤ power) (hnum : 0 < num)
    (hden : 0 < den) (horder : power ≤ binaryOrder num den) :
    (2 : ℚ) ^ power ≤ significandOf num den * 2 ^ exponentOf num den := by
  have hexponent : exponentOf num den = binaryOrder num den - 52 := by
    unfold exponentOf
    omega
  calc
    (2 : ℚ) ^ power ≤ 2 ^ binaryOrder num den := two_zpow_le horder
    _ = ((2 ^ 52 : Nat) : ℚ) * 2 ^ exponentOf num den := by
      rw [natCast_two_pow_mul, hexponent]
      congr 1
      push_cast
      ring
    _ ≤ significandOf num den * 2 ^ exponentOf num den := by
      gcongr
      exact le_significandOf hnum hden (by omega)

/-- The power has the significand that comes after the last one of the order below it. -/
theorem le_significandOf_mul_iff {power : Int} (hlow : minExponent + 54 ≤ power) (hden : 0 < den)
    (horder : binaryOrder num den + 1 = power) :
    (2 : ℚ) ^ power ≤ significandOf num den * 2 ^ exponentOf num den ↔
      threshold power ≤ num / den := by
  have hexponent : exponentOf num den = power - 53 := by
    unfold exponentOf
    omega
  have hplace : (0 : ℚ) < 2 ^ (power - 53) := zpow_pos two_pos _
  obtain ⟨hpositive, hscaled⟩ := dividedByPower_spec Nat.two_pos num hden (power - 53)
  have hpower : (2 : ℚ) ^ power = ((2 ^ 53 : Nat) : ℚ) * 2 ^ (power - 53) := by
    rw [natCast_two_pow_mul]
    congr 1
    push_cast
    ring
  have hless : (2 : ℚ) ^ (power - 54) = 1 / 2 * 2 ^ (power - 53) := by
    rw [show power - 54 = power - 53 - 1 by ring, zpow_sub_one₀ two_ne_zero]
    ring
  calc
    (2 : ℚ) ^ power ≤ significandOf num den * 2 ^ exponentOf num den ↔
        2 ^ 53 ≤ significandOf num den := by
      rw [hexponent, hpower, mul_le_mul_iff_left₀ hplace, Nat.cast_le]
    _ ↔ ((2 ^ 53 : Nat) : ℚ) - 1 / 2 ≤ num / den / 2 ^ (power - 53) := by
      rw [Nat.cast_ofNat] at hscaled
      rw [← hscaled, ← le_roundHalfEven_iff hpositive (by decide) (by decide), significandOf,
        hexponent]
    _ ↔ threshold power ≤ num / den := by
      rw [le_div_iff₀ hplace, sub_mul, ← hpower, ← hless, threshold]

/-- A power of two is reached from half a unit of the last place below it on. -/
theorem reaches_two_pow_iff {power : Int} (hlow : minExponent + 54 ≤ power)
    (hhigh : power ≤ maxExponent + 53) (num : Nat) (hden : 0 < den) :
    (ofRatio false num den).Reaches (2 ^ power) ↔ threshold power ≤ num / den := by
  obtain ⟨hhalf, hover, hunder⟩ := threshold_bounds power
  rcases Nat.eq_zero_or_pos num with rfl | hnum
  · have hzero : ofRatio false 0 den = .finite false 0 minExponent := rfl
    rw [hzero]
    simp only [Reaches, Nat.cast_zero, zero_mul, mul_zero, zero_div]
    constructor <;> intro h <;> linarith
  rw [reaches_ofRatio hnum hden (two_zpow_le hhigh)]
  obtain ⟨hfrom, hbelow⟩ := binaryOrder_spec hnum hden
  rcases lt_trichotomy (binaryOrder num den + 1) power with horder | horder | horder
  · have hsmall := significandOf_mul_le hlow hnum hden horder
    have hquotient := two_zpow_le (show binaryOrder num den + 1 ≤ power - 1 by omega)
    constructor <;> intro h <;> linarith
  · exact le_significandOf_mul_iff hlow hden horder
  · have hlarge := le_significandOf_mul hlow hnum hden (by omega)
    have hquotient := two_zpow_le (show power ≤ binaryOrder num den by omega)
    constructor <;> intro h <;> linarith

end Binary64

end LiveTemplate.Number

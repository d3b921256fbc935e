import Mathlib.Data.List.Induction
import LiveTemplate.Number.Literal
import LiveTemplate.Proofs.Number.Rounding

/-!
# Decimal values

Digits denote a natural number, and with an exponent of ten a rational one. A number is read from
them as the one nearest to that value. Values far outside the format are decided by their size alone,
and this makes no difference: they lie beyond all numbers, or closer to zero than any other.
-/

namespace LiveTemplate.Number

/-! ## Digits -/

variable {digits : List Char} {c : Char}

theorem digitValue?_getD_lt (c : Char) : (digitValue? c).getD 0 < 10 := by
  unfold digitValue?
  split
  · next h =>
    have hlast : c.toNat ≤ '9'.toNat := h.2
    have hten : '9'.toNat - '0'.toNat < 10 := by decide
    rw [Option.getD_some]
    omega
  · decide

/-- Reading digits behind a number moves it to the left of them. -/
theorem foldl_ofDigits (value : Nat) (digits : List Char) :
    digits.foldl (fun value c ↦ 10 * value + (digitValue? c).getD 0) value =
      value * 10 ^ digits.length + ofDigits digits := by
  induction digits generalizing value with
  | nil => simp [ofDigits]
  | cons c digits ih =>
    have hread : ofDigits (c :: digits) =
        (digitValue? c).getD 0 * 10 ^ digits.length + ofDigits digits := by
      simpa [ofDigits] using ih ((digitValue? c).getD 0)
    rw [List.foldl_cons, ih, hread, List.length_cons]
    ring

theorem ofDigits_append (digits more : List Char) :
    ofDigits (digits ++ more) = ofDigits digits * 10 ^ more.length + ofDigits more := by
  rw [ofDigits, List.foldl_append, foldl_ofDigits]
  rfl

theorem ofDigits_lt (digits : List Char) : ofDigits digits < 10 ^ digits.length := by
  induction digits using List.reverseRecOn with
  | nil => decide
  | append_singleton digits c ih =>
    have hlast : ofDigits [c] < 10 := by simpa [ofDigits] using digitValue?_getD_lt c
    rw [ofDigits_append, List.length_append, List.length_singleton, pow_succ]
    omega

/-! ## Numbers with an exponent -/

open Binary64

variable {coefficient size : Nat} {exponent : Int}

theorem isMagnitude_ofDecimal (coefficient size : Nat) (exponent : Int) :
    (ofDecimal false coefficient size exponent).IsMagnitude := by
  unfold ofDecimal
  split
  · exact .finite _ (by decide)
  split
  · exact .infinity
  split
  · exact .finite _ (by decide)
  · have hpositive := (dividedByPower_spec (show 0 < 10 by decide) coefficient Nat.one_pos
      (-exponent)).1
    exact isMagnitude_ofRatio _ hpositive

/-- The powers of ten that end the range lie outside the format. -/
theorem ten_pow_outside :
    (2 : ℚ) ^ (maxExponent + 53) ≤ 10 ^ (401 : Int) ∧
      (10 : ℚ) ^ (-401 : Int) ≤ 2 ^ (minExponent + 53) := by
  have hlarge : (2 : ℚ) ^ (maxExponent + 53) ≤ 10 ^ (401 : Int) := by
    calc
      (2 : ℚ) ^ (maxExponent + 53) = (2 ^ 64) ^ 16 := by
        rw [← pow_mul]
        rfl
      _ ≤ (10 ^ 25) ^ 16 := by
        gcongr
        norm_num
      _ ≤ 10 ^ (401 : Int) := by
        rw [← pow_mul]
        exact_mod_cast pow_le_pow_right₀ (show (1 : ℚ) ≤ 10 by norm_num) (show 25 * 16 ≤ 401 by decide)
  refine ⟨hlarge, ?_⟩
  calc
    (10 : ℚ) ^ (-401 : Int) = (10 ^ (401 : Int))⁻¹ := zpow_neg 10 401
    _ ≤ (2 ^ (maxExponent + 53))⁻¹ := inv_anti₀ (zpow_pos two_pos _) hlarge
    _ = 2 ^ (-(maxExponent + 53)) := (zpow_neg 2 _).symm
    _ ≤ 2 ^ (minExponent + 53) := two_zpow_le (by decide)

/-- A power of two is reached from half a unit of the last place below it on. -/
theorem reaches_ofDecimal_iff {power : Int} (hlow : minExponent + 54 ≤ power)
    (hhigh : power ≤ maxExponent + 53) (hsize : coefficient < 10 ^ size) :
    (ofDecimal false coefficient size exponent).Reaches (2 ^ power) ↔
      threshold power ≤ coefficient * 10 ^ exponent := by
  obtain ⟨hhalf, hover, hunder⟩ := threshold_bounds power
  have hzero : ¬ (zero false).Reaches (2 ^ power) := by
    simp only [zero, Reaches, Nat.cast_zero, zero_mul, mul_zero, not_le]
    linarith
  unfold ofDecimal
  split
  case isTrue hnothing =>
    rw [hnothing, Nat.cast_zero, zero_mul]
    exact iff_of_false hzero (by linarith)
  case isFalse hsome =>
  have hone : (1 : ℚ) ≤ coefficient := Nat.one_le_cast.2 (Nat.pos_of_ne_zero hsome)
  split
  case isTrue hlarge =>
    have hvalue : (2 : ℚ) ^ power ≤ coefficient * 10 ^ exponent := by
      calc
        (2 : ℚ) ^ power ≤ 2 ^ (maxExponent + 53) := two_zpow_le hhigh
        _ ≤ 10 ^ (401 : Int) := ten_pow_outside.1
        _ ≤ 10 ^ exponent := zpow_le_zpow_right₀ (by norm_num) hlarge
        _ ≤ coefficient * 10 ^ exponent := le_mul_of_one_le_left (zpow_nonneg (by norm_num) _) hone
    exact iff_of_true rfl (by linarith)
  case isFalse =>
  split
  case isTrue hsmall =>
    have hvalue : (coefficient : ℚ) * 10 ^ exponent < 2 ^ (power - 1) := by
      calc
        (coefficient : ℚ) * 10 ^ exponent < 10 ^ (size : Int) * 10 ^ exponent := by
          gcongr
          exact_mod_cast hsize
        _ = 10 ^ (size + exponent) := (zpow_add₀ (by norm_num) _ _).symm
        _ ≤ 10 ^ (-401 : Int) := zpow_le_zpow_right₀ (by norm_num) (by omega)
        _ ≤ 2 ^ (minExponent + 53) := ten_pow_outside.2
        _ ≤ 2 ^ (power - 1) := two_zpow_le (by omega)
    exact iff_of_false hzero (by linarith)
  case isFalse =>
    obtain ⟨hpositive, hvalue⟩ :=
      dividedByPower_spec (show 0 < 10 by decide) coefficient Nat.one_pos (-exponent)
    rw [reaches_two_pow_iff hlow hhigh _ hpositive, hvalue]
    simp [div_eq_mul_inv]

end LiveTemplate.Number

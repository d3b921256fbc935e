import Mathlib.Algebra.Order.Field.Basic
import LiveTemplate.Proofs.Number.Decimal

/-!
# Nearness and order

A quotient is rounded to a whole number at a distance of at most a half, and an exact half to an even
one. Therefore rounding keeps the order: numbers that it turned around would both be that half, and two
neighbours are not both even. The same holds of the numbers of the binary format, where quotients with
a greater leading digit have a greater exponent and cannot be rounded below those with a lesser one.
-/

namespace LiveTemplate.Number

variable {num den num' den' n : Nat}

/-! ## Whole numbers -/

/-- Twice a quotient and twice the number it is rounded to differ by at most one, and if they do then
the number is even. -/
theorem roundHalfEven_spec (num : Nat) (hden : 0 < den) :
    2 * (roundHalfEven num den * den) ≤ 2 * num + den ∧
      2 * num ≤ 2 * (roundHalfEven num den * den) + den ∧
      (2 * (roundHalfEven num den * den) = 2 * num + den ∨
        2 * num = 2 * (roundHalfEven num den * den) + den → roundHalfEven num den % 2 = 0) := by
  have hparts := Nat.div_add_mod num den
  have hrest := Nat.mod_lt num hden
  have hcomm := Nat.mul_comm den (num / den)
  simp only [roundHalfEven]
  generalize num / den = quotient at *
  generalize num % den = rest at *
  split
  · omega
  split
  · rw [Nat.add_mul, Nat.one_mul]
    omega
  · rcases Nat.mod_two_eq_zero_or_one quotient with heven | hodd
    · rw [heven, Nat.add_zero]
      omega
    · rw [hodd, Nat.add_mul, Nat.one_mul]
      omega

/-- A quotient is rounded by at most a half. -/
theorem abs_roundHalfEven_sub_le (num : Nat) (hden : 0 < den) :
    |(roundHalfEven num den : ℚ) - num / den| ≤ 1 / 2 := by
  obtain ⟨hover, hunder, -⟩ := roundHalfEven_spec num hden
  have hden' : (0 : ℚ) < den := Nat.cast_pos.2 hden
  have hdistance : (roundHalfEven num den : ℚ) - num / den =
      (roundHalfEven num den * den - num) / den := by
    field_simp
  rw [hdistance, abs_div, abs_of_pos hden', div_le_iff₀ hden', abs_le]
  constructor
  · have hcast : (2 * num : ℚ) ≤ 2 * (roundHalfEven num den * den) + den := by exact_mod_cast hunder
    linarith
  · have hcast : (2 * (roundHalfEven num den * den) : ℚ) ≤ 2 * num + den := by exact_mod_cast hover
    linarith

/-- A quotient halfway between two whole numbers is rounded to an even one. -/
theorem even_roundHalfEven (hden : 0 < den)
    (h : (num : ℚ) / den + 1 / 2 = roundHalfEven num den ∨
      (num : ℚ) / den = roundHalfEven num den + 1 / 2) : roundHalfEven num den % 2 = 0 := by
  have hden' : (den : ℚ) ≠ 0 := Nat.cast_ne_zero.2 hden.ne'
  apply (roundHalfEven_spec num hden).2.2
  refine h.imp (fun hover ↦ ?_) (fun hunder ↦ ?_)
  · field_simp at hover
    have hcast : (2 * (roundHalfEven num den * den) : ℚ) = 2 * num + den := by linarith
    exact_mod_cast hcast
  · field_simp at hunder
    have hcast : (2 * num : ℚ) = 2 * (roundHalfEven num den * den) + den := by linarith
    exact_mod_cast hcast

/-- A quotient is rounded to the whole number from which it is less than a half away. -/
theorem roundHalfEven_eq_of_near (hden : 0 < den) (h : |(num : ℚ) / den - n| < 1 / 2) :
    roundHalfEven num den = n := by
  have hnear := abs_le.1 (abs_roundHalfEven_sub_le num hden)
  have hn := abs_lt.1 h
  have hbelow : (roundHalfEven num den : ℚ) < n + 1 := by linarith
  have habove : (n : ℚ) < roundHalfEven num den + 1 := by linarith
  exact Nat.le_antisymm (Nat.lt_succ_iff.1 (by exact_mod_cast hbelow))
    (Nat.lt_succ_iff.1 (by exact_mod_cast habove))

/-- Rounding to a whole number keeps the order. -/
theorem roundHalfEven_mono (hden : 0 < den) (hden' : 0 < den')
    (h : (num : ℚ) / den ≤ num' / den') : roundHalfEven num den ≤ roundHalfEven num' den' := by
  by_contra hturned
  have hnear := abs_le.1 (abs_roundHalfEven_sub_le num hden)
  have hnear' := abs_le.1 (abs_roundHalfEven_sub_le num' hden')
  have hnext : roundHalfEven num' den' + 1 ≤ roundHalfEven num den := Nat.lt_of_not_le hturned
  have hcast : (roundHalfEven num' den' : ℚ) + 1 ≤ roundHalfEven num den := by exact_mod_cast hnext
  -- Both quotients are halfway between the same two neighbours.
  have heven : roundHalfEven num den % 2 = 0 := even_roundHalfEven hden (.inl (by linarith))
  have heven' : roundHalfEven num' den' % 2 = 0 := even_roundHalfEven hden' (.inr (by linarith))
  have hbelow : (roundHalfEven num den : ℚ) ≤ roundHalfEven num' den' + 1 := by linarith
  have hneighbours : roundHalfEven num den ≤ roundHalfEven num' den' + 1 := by exact_mod_cast hbelow
  omega

/-! ## Numbers of the binary format -/

namespace Binary64

/-- The value of the number that a positive quotient is rounded to. -/
def rounded (num den : Nat) : ℚ := significandOf num den * 2 ^ exponentOf num den

theorem significandOf_eq (num den : Nat) :
    significandOf num den = roundHalfEven (dividedByPower 2 num den (exponentOf num den)).1
      (dividedByPower 2 num den (exponentOf num den)).2 := rfl

/-- A quotient is rounded by at most half a unit of its last place. -/
theorem abs_rounded_sub_le (num : Nat) (hden : 0 < den) :
    |rounded num den - num / den| ≤ 2 ^ exponentOf num den / 2 := by
  obtain ⟨hpositive, hscaled⟩ := dividedByPower_spec Nat.two_pos num hden (exponentOf num den)
  have hunit : (0 : ℚ) < 2 ^ exponentOf num den := zpow_pos two_pos _
  have hnear := abs_roundHalfEven_sub_le (dividedByPower 2 num den (exponentOf num den)).1 hpositive
  rw [← significandOf_eq, hscaled, Nat.cast_ofNat] at hnear
  have hdistance : rounded num den - num / den =
      (significandOf num den - num / den / 2 ^ exponentOf num den) * 2 ^ exponentOf num den := by
    rw [sub_mul, div_mul_cancel₀ _ hunit.ne']
    rfl
  rw [hdistance, abs_mul, abs_of_pos hunit]
  calc
    |(significandOf num den : ℚ) - num / den / 2 ^ exponentOf num den| * 2 ^ exponentOf num den ≤
        1 / 2 * 2 ^ exponentOf num den := by gcongr
    _ = 2 ^ exponentOf num den / 2 := by ring

/-- A greater quotient has its leading digit no further behind. -/
theorem binaryOrder_mono (hnum : 0 < num) (hden : 0 < den) (hnum' : 0 < num') (hden' : 0 < den')
    (h : (num : ℚ) / den ≤ num' / den') : binaryOrder num den ≤ binaryOrder num' den' := by
  have hpower : (2 : ℚ) ^ binaryOrder num den < 2 ^ (binaryOrder num' den' + 1) := by
    calc
      (2 : ℚ) ^ binaryOrder num den ≤ num / den := (binaryOrder_spec hnum hden).1
      _ ≤ num' / den' := h
      _ < 2 ^ (binaryOrder num' den' + 1) := (binaryOrder_spec hnum' hden').2
  exact Int.lt_add_one_iff.1 ((zpow_lt_zpow_iff_right₀ one_lt_two).1 hpower)

/-- Rounding to a number of the format keeps the order. -/
theorem rounded_mono (hnum : 0 < num) (hden : 0 < den) (hnum' : 0 < num') (hden' : 0 < den')
    (h : (num : ℚ) / den ≤ num' / den') : rounded num den ≤ rounded num' den' := by
  have horder := binaryOrder_mono hnum hden hnum' hden' h
  have hexponent : exponentOf num den ≤ exponentOf num' den' := by
    unfold exponentOf
    omega
  rcases Int.lt_or_eq_of_le hexponent with hlt | heq
  · have hleast : minExponent < exponentOf num' den' := by
      unfold exponentOf at hlt ⊢
      omega
    calc
      rounded num den ≤ ((2 ^ 53 : Nat) : ℚ) * 2 ^ exponentOf num den := by
        unfold rounded
        gcongr
        exact significandOf_le hnum hden
      _ = ((2 ^ 52 : Nat) : ℚ) * 2 ^ (exponentOf num den + 1) := by
        rw [natCast_two_pow_mul, natCast_two_pow_mul]
        congr 1
        push_cast
        ring
      _ ≤ ((2 ^ 52 : Nat) : ℚ) * 2 ^ exponentOf num' den' := by
        gcongr
        · exact one_le_two
        · exact hlt
      _ ≤ rounded num' den' := by
        unfold rounded
        gcongr
        exact le_significandOf hnum' hden' hleast
  · have hscaled := dividedByPower_spec Nat.two_pos num hden (exponentOf num den)
    have hscaled' := dividedByPower_spec Nat.two_pos num' hden' (exponentOf num den)
    have hsignificand : significandOf num den ≤ significandOf num' den' := by
      rw [significandOf_eq, significandOf_eq, ← heq]
      apply roundHalfEven_mono hscaled.1 hscaled'.1
      rw [hscaled.2, hscaled'.2]
      gcongr
    unfold rounded
    rw [← heq]
    gcongr

/-- No number without a minus lies below zero. -/
theorem IsMagnitude.reaches_of_nonpos {number : Binary64} (h : number.IsMagnitude) {bound : ℚ}
    (hbound : bound ≤ 0) : number.Reaches bound := by
  cases h with
  | infinity => rfl
  | @finite m e hm =>
    have hvalue : (0 : ℚ) ≤ m * 2 ^ e := mul_nonneg (Nat.cast_nonneg m) (zpow_nonneg two_pos.le e)
    simpa [Reaches] using hbound.trans hvalue

/-- What the lesser quotient is rounded to, the greater one is not rounded below. -/
theorem reaches_ofRatio_mono {bound : ℚ} (hden : 0 < den) (hden' : 0 < den')
    (h : (num : ℚ) / den ≤ num' / den') (hbound : bound ≤ 2 ^ (maxExponent + 53))
    (hreaches : (ofRatio false num den).Reaches bound) :
    (ofRatio false num' den').Reaches bound := by
  rcases Nat.eq_zero_or_pos num with rfl | hnum
  · have hnothing : bound ≤ 0 := by simpa [ofRatio, zero, Reaches] using hreaches
    exact (isMagnitude_ofRatio num' hden').reaches_of_nonpos hnothing
  · have hpositive : (0 : ℚ) < num' / den' := by
      calc
        (0 : ℚ) < num / den := div_pos (Nat.cast_pos.2 hnum) (Nat.cast_pos.2 hden)
        _ ≤ num' / den' := h
    have hnum' : 0 < num' := by
      rw [div_pos_iff_of_pos_right (Nat.cast_pos.2 hden')] at hpositive
      exact_mod_cast hpositive
    rw [reaches_ofRatio hnum hden hbound] at hreaches
    rw [reaches_ofRatio hnum' hden' hbound]
    exact hreaches.trans (rounded_mono hnum hden hnum' hden' h)

/-- A quotient of at most half the least positive number is rounded to zero. -/
theorem ofRatio_eq_zero (hden : 0 < den) (h : (num : ℚ) / den ≤ 2 ^ (minExponent - 1)) :
    ofRatio false num den = zero false := by
  rcases Nat.eq_zero_or_pos num with rfl | hnum
  · rfl
  have horder : binaryOrder num den ≤ minExponent - 1 := by
    have hpower := (binaryOrder_spec hnum hden).1.trans h
    exact (zpow_le_zpow_iff_right₀ one_lt_two).1 hpower
  have hexponent : exponentOf num den = minExponent := by
    unfold exponentOf
    omega
  obtain ⟨hpositive, hscaled⟩ := dividedByPower_spec Nat.two_pos num hden minExponent
  have hnothing : significandOf num den = 0 := by
    rw [significandOf_eq, hexponent, roundHalfEven_eq_zero_iff hpositive]
    have hhalf : ((dividedByPower 2 num den minExponent).1 : ℚ) /
        (dividedByPower 2 num den minExponent).2 ≤ 1 / 2 := by
      rw [hscaled, Nat.cast_ofNat, div_le_iff₀ (zpow_pos two_pos _)]
      calc
        (num : ℚ) / den ≤ 2 ^ (minExponent - 1) := h
        _ = 1 / 2 * 2 ^ minExponent := by
          rw [zpow_sub_one₀ two_ne_zero]
          ring
    rw [div_le_iff₀ (Nat.cast_pos.2 hpositive)] at hhalf
    have hcast : (2 * (dividedByPower 2 num den minExponent).1 : ℚ) ≤
        (dividedByPower 2 num den minExponent).2 := by linarith
    exact_mod_cast hcast
  rw [ofRatio_eq hnum, hnothing, hexponent]
  rfl

/-- A quotient whose leading digit is not too far in front is rounded to a finite number. -/
theorem exists_ofRatio_eq_finite (hnum : 0 < num)
    (h : exponentOf num den < maxExponent) :
    ∃ m e, ofRatio false num den = .finite false m e ∧ (m : ℚ) * 2 ^ e = rounded num den := by
  rw [ofRatio_eq hnum, normalize]
  split
  case isTrue hcarry =>
    rw [if_neg (by omega)]
    refine ⟨_, _, rfl, ?_⟩
    rw [rounded, hcarry, zpow_add_one₀ two_ne_zero]
    norm_num
    ring
  case isFalse =>
    rw [if_neg (by omega)]
    exact ⟨_, _, rfl, rfl⟩

end Binary64

/-! ## Decimal values -/

open Binary64

variable {coefficient coefficient' size size' : Nat} {exponent exponent' : Int}

/-- The quotient that a coefficient and an exponent of ten stand for. -/
def decimalRatio (coefficient : Nat) (exponent : Int) : Nat × Nat :=
  dividedByPower 10 coefficient 1 (-exponent)

theorem decimalRatio_spec (coefficient : Nat) (exponent : Int) :
    0 < (decimalRatio coefficient exponent).2 ∧
      ((decimalRatio coefficient exponent).1 : ℚ) / (decimalRatio coefficient exponent).2 =
        coefficient * 10 ^ exponent := by
  obtain ⟨hpositive, hvalue⟩ :=
    dividedByPower_spec (show 0 < 10 by decide) coefficient Nat.one_pos (-exponent)
  refine ⟨hpositive, hvalue.trans ?_⟩
  simp

/-- The power of ten below which decimals are decided by their size is at most half the least positive
number. -/
theorem ten_pow_below : (10 : ℚ) ^ (-401 : Int) ≤ 2 ^ (minExponent - 1) := by
  calc
    (10 : ℚ) ^ (-401 : Int) = ((10 : ℚ) ^ 401)⁻¹ := zpow_neg_coe_of_pos 10 (by decide)
    _ ≤ ((2 ^ 3 : ℚ) ^ 401)⁻¹ := by
      apply inv_anti₀ (by positivity)
      gcongr
      norm_num
    _ = 2 ^ (-1203 : Int) := by
      rw [← pow_mul, ← zpow_natCast, ← zpow_neg]
      rfl
    _ ≤ 2 ^ (minExponent - 1) := two_zpow_le (by decide)

/-- Decimals whose size alone decides that they are zero are rounded to zero as well. -/
theorem ofDecimal_eq_ofRatio (hsize : coefficient < 10 ^ size) (hexponent : exponent ≤ 400) :
    ofDecimal false coefficient size exponent =
      ofRatio false (decimalRatio coefficient exponent).1 (decimalRatio coefficient exponent).2 := by
  obtain ⟨hpositive, hvalue⟩ := decimalRatio_spec coefficient exponent
  unfold ofDecimal
  split
  case isTrue hnothing =>
    rw [ofRatio_eq_zero hpositive]
    rw [hvalue, hnothing, Nat.cast_zero, zero_mul]
    exact zpow_nonneg two_pos.le _
  case isFalse hsome =>
  rw [if_neg (by omega)]
  split
  case isTrue hsmall =>
    rw [ofRatio_eq_zero hpositive]
    calc
      ((decimalRatio coefficient exponent).1 : ℚ) / (decimalRatio coefficient exponent).2 =
          coefficient * 10 ^ exponent := hvalue
      _ ≤ 10 ^ (size : Int) * 10 ^ exponent := by
        gcongr
        exact_mod_cast hsize.le
      _ = 10 ^ (size + exponent) := (zpow_add₀ (by norm_num) _ _).symm
      _ ≤ 10 ^ (-401 : Int) := zpow_le_zpow_right₀ (by norm_num) (by omega)
      _ ≤ 2 ^ (minExponent - 1) := ten_pow_below
  case isFalse => rfl

/-- What the lesser decimal is rounded to, the greater one is not rounded below. -/
theorem reaches_ofDecimal_mono {bound : ℚ} (hsize : coefficient < 10 ^ size)
    (hsize' : coefficient' < 10 ^ size') (hexponent : exponent ≤ 400) (hexponent' : exponent' ≤ 400)
    (h : (coefficient : ℚ) * 10 ^ exponent ≤ coefficient' * 10 ^ exponent')
    (hbound : bound ≤ 2 ^ (maxExponent + 53))
    (hreaches : (ofDecimal false coefficient size exponent).Reaches bound) :
    (ofDecimal false coefficient' size' exponent').Reaches bound := by
  obtain ⟨hpositive, hvalue⟩ := decimalRatio_spec coefficient exponent
  obtain ⟨hpositive', hvalue'⟩ := decimalRatio_spec coefficient' exponent'
  rw [ofDecimal_eq_ofRatio hsize hexponent] at hreaches
  rw [ofDecimal_eq_ofRatio hsize' hexponent']
  refine reaches_ofRatio_mono hpositive hpositive' ?_ hbound hreaches
  rw [hvalue, hvalue']
  exact h

end LiveTemplate.Number

import LiveTemplate.Proofs.Number.Nearest
import LiveTemplate.Proofs.Refresh.Intervals

/-!
# Exact intervals

An interval in digits of ASCII is rounded twice, to a number of the binary format and to a whole number
of nanoseconds. Up to four million seconds the first rounding is off by less than a quarter of a
nanosecond, so an interval with at most nine digits behind the point is met exactly. Longer intervals
and finer ones are still in order, since both roundings keep it.
-/

namespace LiveTemplate

open Number Binary64

/-! ## Durations -/

namespace Duration

variable {m n : Nat} {e : Int}

theorem ofSeconds?_finite (m : Nat) (e : Int) :
    ofSeconds? (.finite false m e) =
      if roundHalfEven (ratio (m * perSecond) e).1 (ratio (m * perSecond) e).2 < limit then
        some ⟨roundHalfEven (ratio (m * perSecond) e).1 (ratio (m * perSecond) e).2⟩
      else none := rfl

/-- A number of seconds that is less than half a nanosecond away from a whole number of nanoseconds
becomes that duration. -/
theorem ofSeconds?_eq_of_near (h : |(m : ℚ) * 2 ^ e * perSecond - n| < 1 / 2) (hn : n < limit) :
    ofSeconds? (.finite false m e) = some ⟨n⟩ := by
  obtain ⟨hpositive, hvalue⟩ := ratio_spec (m * perSecond) e
  have hrounded : roundHalfEven (ratio (m * perSecond) e).1 (ratio (m * perSecond) e).2 = n := by
    apply roundHalfEven_eq_of_near hpositive
    rw [hvalue, Nat.cast_mul, mul_right_comm]
    exact h
  rw [ofSeconds?_finite, hrounded, if_pos hn]

theorem ofSeconds?_finite_mono {m' : Nat} {e' : Int} {d d' : Duration}
    (h : (m : ℚ) * 2 ^ e ≤ m' * 2 ^ e') (hd : ofSeconds? (.finite false m e) = some d)
    (hd' : ofSeconds? (.finite false m' e') = some d') : d.nanoseconds ≤ d'.nanoseconds := by
  obtain ⟨hpositive, hvalue⟩ := ratio_spec (m * perSecond) e
  obtain ⟨hpositive', hvalue'⟩ := ratio_spec (m' * perSecond) e'
  rw [ofSeconds?_finite, Option.ite_none_right_eq_some, Option.some_inj] at hd hd'
  obtain ⟨-, rfl⟩ := hd
  obtain ⟨-, rfl⟩ := hd'
  apply roundHalfEven_mono hpositive hpositive'
  rw [hvalue, hvalue', Nat.cast_mul, Nat.cast_mul, mul_right_comm, mul_right_comm (m' : ℚ)]
  gcongr

/-- Of two numbers of seconds that are not negative, the lesser one becomes a duration that is not
longer. -/
theorem ofSeconds?_mono {lesser greater : Binary64} {d : Duration} (hlesser : lesser.IsMagnitude)
    (hgreater : greater.IsMagnitude)
    (h : ∀ bound, bound ≤ 2 ^ (maxExponent + 53) → lesser.Reaches bound → greater.Reaches bound)
    (hd : ofSeconds? greater = some d) :
    ∃ d', ofSeconds? lesser = some d' ∧ d'.nanoseconds ≤ d.nanoseconds := by
  have hinside : (2 : ℚ) ^ 64 ≤ 2 ^ (maxExponent + 53) := by
    rw [← zpow_natCast]
    exact two_zpow_le (by decide)
  have hshort : ¬ lesser.Reaches (2 ^ 64) := by
    intro hlong
    have hnone := (ofSeconds?_eq_none_iff hgreater).2 (h _ hinside hlong)
    rw [hd] at hnone
    cases hnone
  obtain ⟨d', hd'⟩ := Option.ne_none_iff_exists'.1 ((ofSeconds?_eq_none_iff hlesser).not.2 hshort)
  refine ⟨d', hd', ?_⟩
  cases hlesser with
  | infinity => exact absurd rfl hshort
  | @finite m e hm =>
    cases hgreater with
    | infinity => cases hd
    | @finite m' e' hm' =>
      have hown : (Binary64.finite false m e).Reaches (m * 2 ^ e) := by simp [Reaches]
      have hbelow : (m : ℚ) * 2 ^ e < 2 ^ 64 := by simpa [Reaches] using hshort
      have hreaches := h _ (hbelow.le.trans hinside) hown
      exact ofSeconds?_finite_mono (by simpa [Reaches] using hreaches) hd' hd

/-- Up to four million seconds a unit of the last place is at most `2 ^ (-31)` seconds. -/
theorem exponentOf_le {num den : Nat} (hnum : 0 < num) (hden : 0 < den)
    (h : (num : ℚ) / den ≤ 4000000) : exponentOf num den ≤ -31 := by
  have hpower : (2 : ℚ) ^ binaryOrder num den < 2 ^ (22 : Int) := by
    calc
      (2 : ℚ) ^ binaryOrder num den ≤ num / den := (binaryOrder_spec hnum hden).1
      _ ≤ 4000000 := h
      _ < 2 ^ (22 : Int) := by norm_num
  have horder := (zpow_lt_zpow_iff_right₀ one_lt_two).1 hpower
  unfold exponentOf minExponent
  omega

/-- A quotient of at most four million seconds that is a whole number of nanoseconds becomes that
duration, although it need not be a number of the format. -/
theorem ofSeconds?_ofRatio {num den : Nat} (hden : 0 < den) (hvalue : (num : ℚ) / den ≤ 4000000)
    (hn : (n : ℚ) = num / den * perSecond) : ofSeconds? (ofRatio false num den) = some ⟨n⟩ := by
  have hshort : n < limit := by
    have hcast : (n : ℚ) ≤ (4000000 * perSecond : Nat) := by
      rw [hn, Nat.cast_mul]
      gcongr
      exact hvalue
    have hless : 4000000 * perSecond < limit := by decide
    exact Nat.lt_of_le_of_lt (by exact_mod_cast hcast) hless
  rcases Nat.eq_zero_or_pos num with rfl | hnum
  · refine ofSeconds?_eq_of_near ?_ hshort
    rw [hn]
    norm_num
  have hexponent := exponentOf_le hnum hden hvalue
  obtain ⟨m, e, hfinite, hrounded⟩ := exists_ofRatio_eq_finite hnum
    (Int.lt_of_le_of_lt hexponent (by decide))
  rw [hfinite]
  refine ofSeconds?_eq_of_near ?_ hshort
  have hsecond : (0 : ℚ) < perSecond := by norm_num [perSecond]
  rw [hrounded, hn, ← sub_mul, abs_mul, abs_of_pos hsecond]
  calc
    |rounded num den - num / den| * perSecond ≤ 2 ^ exponentOf num den / 2 * perSecond := by
      gcongr
      exact abs_rounded_sub_le num hden
    _ ≤ 2 ^ (-31 : Int) / 2 * perSecond := by
      gcongr
      exact one_le_two
    _ < 1 / 2 := by norm_num [perSecond]

end Duration

/-! ## Literals -/

namespace Refresh

open Directive (IsNumber)

variable {literal lesser : String} {floor : Duration}

/-- A number in digits of ASCII is made a duration, if it is not too long, and raised to the floor. -/
theorem resolveInterval_eq {number : Binary64} (h : IsNumber literal.toList)
    (hread : Number.parse? literal.toList = some number) :
    resolveInterval (some literal) floor = (Duration.ofSeconds? number).map (·.max floor) := by
  simp only [resolveInterval, Option.bind_eq_bind, Option.bind_some, Number.trim_of_isNumber h, hread,
    Option.map_eq_bind]
  rfl

/-- A decimal of at most four million seconds and nine digits behind the point becomes exactly that
duration. -/
theorem ofSeconds?_ofDecimal {coefficient size places : Nat} (hsize : coefficient < 10 ^ size)
    (hplaces : places ≤ 9) (hvalue : (coefficient : ℚ) * 10 ^ (-places : Int) ≤ 4000000) :
    ∃ exact : Duration, (exact.nanoseconds : ℚ) = coefficient * 10 ^ (-places : Int) * 10 ^ 9 ∧
      Duration.ofSeconds? (ofDecimal false coefficient size (-places)) = some exact := by
  obtain ⟨hpositive, hratio⟩ := decimalRatio_spec coefficient (-places)
  have hwhole : ((coefficient * 10 ^ (9 - places) : Nat) : ℚ) =
      coefficient * 10 ^ (-places : Int) * 10 ^ 9 := by
    have hpower : (10 : ℚ) ^ (9 - places) = 10 ^ (-places : Int) * 10 ^ 9 := by
      rw [← zpow_natCast, ← zpow_natCast, ← zpow_add₀ (by norm_num)]
      congr 1
      omega
    rw [Nat.cast_mul, Nat.cast_pow, Nat.cast_ofNat, hpower, mul_assoc]
  refine ⟨⟨coefficient * 10 ^ (9 - places)⟩, hwhole, ?_⟩
  rw [ofDecimal_eq_ofRatio hsize (by omega)]
  apply Duration.ofSeconds?_ofRatio hpositive
  · rwa [hratio]
  · rw [hratio, hwhole]
    norm_num [Duration.perSecond]

/-- An interval of at most four million seconds that has at most nine digits behind the point is met to
the nanosecond. Of two intervals the lesser one is resolved if the other one is, and to a duration that
is not longer. An interval is too long just when it is rounded to `2 ^ 64` seconds. -/
theorem intervals_exact_and_ordered (floor : Duration) (h : IsNumber literal.toList)
    (hascii : IsAscii literal.toList) :
    (places literal.toList ≤ 9 → exactValue literal.toList ≤ 4000000 →
      ∃ exact : Duration, (exact.nanoseconds : ℚ) = exactValue literal.toList * 10 ^ 9 ∧
        resolveInterval (some literal) floor = some (exact.max floor)) ∧
    (∀ lesser : String, IsNumber lesser.toList → IsAscii lesser.toList →
      exactValue lesser.toList ≤ exactValue literal.toList →
      ∀ interval, resolveInterval (some literal) floor = some interval →
        ∃ shorter, resolveInterval (some lesser) floor = some shorter ∧
          floor.nanoseconds ≤ shorter.nanoseconds ∧ shorter.nanoseconds ≤ interval.nanoseconds) ∧
    (resolveInterval (some literal) floor = none ↔ 2 ^ 64 - 1024 ≤ exactValue literal.toList) := by
  obtain ⟨coefficient, size, hsize, hread, hvalue⟩ := exists_ofDecimal_of_isAscii h hascii
  refine ⟨fun hplaces hshort ↦ ?_, fun lesser hlesser hascii' hle interval hinterval ↦ ?_, ?_⟩
  · rw [hvalue] at hshort ⊢
    obtain ⟨exact, hexact, hduration⟩ := ofSeconds?_ofDecimal hsize hplaces hshort
    exact ⟨exact, hexact, by rw [resolveInterval_eq h hread, hduration, Option.map_some]⟩
  · obtain ⟨coefficient', size', hsize', hread', hvalue'⟩ :=
      exists_ofDecimal_of_isAscii hlesser hascii'
    rw [resolveInterval_eq h hread, Option.map_eq_some_iff] at hinterval
    obtain ⟨d, hd, rfl⟩ := hinterval
    rw [hvalue, hvalue'] at hle
    obtain ⟨d', hd', hshorter⟩ := Duration.ofSeconds?_mono (isMagnitude_ofDecimal _ _ _)
      (isMagnitude_ofDecimal _ _ _)
      (fun bound ↦ reaches_ofDecimal_mono hsize' hsize (by omega) (by omega) hle) hd
    refine ⟨d'.max floor, by rw [resolveInterval_eq hlesser hread', hd', Option.map_some], ?_, ?_⟩
    · exact Nat.le_max_right _ _
    · exact max_le_max hshorter (Nat.le_refl _)
  · have hthreshold : threshold 64 = 2 ^ 64 - 1024 := by norm_num [threshold]
    rw [resolveInterval_eq h hread, Option.map_eq_none_iff,
      Duration.ofSeconds?_eq_none_iff (isMagnitude_ofDecimal _ _ _), hvalue, ← hthreshold]
    exact @reaches_ofDecimal_iff coefficient size _ 64 (by decide) (by decide) hsize

/-- The longest interval below four million seconds with nine digits behind the point, which is no
number of the binary format, an interval that is less by a fraction of a nanosecond, and the least whole
number of seconds that is too long. -/
theorem intervals_at_their_limits :
    let long := "3999999.999999999"
    let less := "3999999.99999999875"
    let overlong := "18446744073709550592"
    let floor : Duration := ⟨10000000⟩
    (IsNumber long.toList ∧ IsAscii long.toList ∧ places long.toList ≤ 9 ∧
      exactValue long.toList ≤ 4000000 ∧
      resolveInterval (some long) floor = some ⟨3999999999999999⟩) ∧
    (IsNumber less.toList ∧ IsAscii less.toList ∧ exactValue less.toList ≤ exactValue long.toList ∧
      ∃ shorter, resolveInterval (some less) floor = some shorter ∧
        floor.nanoseconds ≤ shorter.nanoseconds ∧ shorter.nanoseconds ≤ 3999999999999999) ∧
    IsNumber overlong.toList ∧ IsAscii overlong.toList ∧
      resolveInterval (some overlong) floor = none := by
  intro long less overlong floor
  have hlongText : long.toList = "3999999".toList ++ '.' :: "999999999".toList := by decide
  have hlessText : less.toList = "3999999".toList ++ '.' :: "99999999875".toList := by decide
  have hlong : IsNumber long.toList := hlongText ▸ .pointed (by decide +kernel) (by decide +kernel)
  have hless : IsNumber less.toList := hlessText ▸ .pointed (by decide +kernel) (by decide +kernel)
  have hoverlong : IsNumber overlong.toList := .whole (by decide +kernel)
  have hlongAscii : IsAscii long.toList := by decide +kernel
  have hlessAscii : IsAscii less.toList := by decide +kernel
  have hoverlongAscii : IsAscii overlong.toList := by decide +kernel
  have hplaces : places long.toList ≤ 9 := by decide +kernel
  have hlongValue : exactValue long.toList = 3999999999999999 / 10 ^ 9 := by
    have hdigits : ofDigits ("3999999".toList ++ "999999999".toList) = 3999999999999999 := by
      decide +kernel
    rw [hlongText, exactValue_pointed (List.all_eq_true.1 (by decide +kernel)), hdigits]
    rfl
  have hlessValue : exactValue less.toList = 399999999999999875 / 10 ^ 11 := by
    have hdigits : ofDigits ("3999999".toList ++ "99999999875".toList) = 399999999999999875 := by
      decide +kernel
    rw [hlessText, exactValue_pointed (List.all_eq_true.1 (by decide +kernel)), hdigits]
    rfl
  have hoverlongValue : exactValue overlong.toList = 18446744073709550592 := by
    have hdigits : ofDigits overlong.toList = 18446744073709550592 := by decide +kernel
    rw [exactValue_whole (List.all_eq_true.1 (by decide +kernel)), hdigits]
    rfl
  have hshort : exactValue long.toList ≤ 4000000 := by
    rw [hlongValue]
    norm_num
  have hle : exactValue less.toList ≤ exactValue long.toList := by
    rw [hlongValue, hlessValue]
    norm_num
  obtain ⟨hexact, hordered, -⟩ := intervals_exact_and_ordered floor hlong hlongAscii
  obtain ⟨exact, hnanoseconds, hresolved⟩ := hexact hplaces hshort
  have hnanoseconds : exact.nanoseconds = 3999999999999999 := by
    rw [hlongValue] at hnanoseconds
    norm_num at hnanoseconds
    exact_mod_cast hnanoseconds
  have hmet : resolveInterval (some long) floor = some ⟨3999999999999999⟩ := by
    rw [hresolved, Duration.max, hnanoseconds]
    rfl
  obtain ⟨-, -, htoo⟩ := intervals_exact_and_ordered floor hoverlong hoverlongAscii
  refine ⟨⟨hlong, hlongAscii, hplaces, hshort, hmet⟩,
    ⟨hless, hlessAscii, hle, hordered less hless hlessAscii hle _ hmet⟩, hoverlong, hoverlongAscii,
    htoo.2 ?_⟩
  rw [hoverlongValue]
  norm_num

end Refresh

end LiveTemplate

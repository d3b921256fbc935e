import LiveTemplate.Proofs.Calendar.Scanning
import LiveTemplate.Proofs.Text.Numerals

/-!
# Fractions of a second

A run of the letter for the fraction shows as many digits as it is long, and at most nine. All runs
show the beginning of the same nine digits, so that a longer run goes on where a shorter one ends: no
digit is rounded, and zeros in front are digits like any other. In a leap second the fraction starts
again from zero.
-/

namespace LiveTemplate.Calendar

open Text

variable {nanoseconds run longer : Nat}

/-- The nanoseconds that the last digit of a run counts. -/
def lastPlace (run : Nat) : Nat := 10 ^ (9 - min run 9)

theorem lastPlace_pos (run : Nat) : 0 < lastPlace run := Nat.pow_pos (by decide)

theorem fractionField_eq (nanoseconds run : Nat) :
    fractionField nanoseconds run = zeroPadded (min run 9) (nanoseconds / lastPlace run) := rfl

/-- What is left of a fraction after the last place of a run has as many digits as the run shows. -/
theorem div_lastPlace_lt (h : nanoseconds < 10 ^ 9) :
    nanoseconds / lastPlace run < 10 ^ min run 9 := by
  rw [Nat.div_lt_iff_lt_mul (lastPlace_pos run), lastPlace, ← Nat.pow_add]
  have hplaces : min run 9 + (9 - min run 9) = 9 := by omega
  rw [hplaces]
  exact h

theorem length_fractionField (hrun : 0 < run) (h : nanoseconds < 10 ^ 9) :
    (fractionField nanoseconds run).length = min run 9 := by
  rw [fractionField_eq]
  exact length_zeroPadded (by omega) (div_lastPlace_lt h)

theorem ofDigitChars_fractionField (nanoseconds run : Nat) :
    Nat.ofDigitChars 10 (fractionField nanoseconds run) 0 = nanoseconds / lastPlace run := by
  rw [fractionField_eq, ofDigitChars_zeroPadded]

/-- A longer run goes on where a shorter one ends. -/
theorem fractionField_prefix (hrun : 0 < run) (hlonger : run ≤ longer) (nanoseconds : Nat) :
    fractionField nanoseconds run <+: fractionField nanoseconds longer := by
  obtain ⟨width, hwidth⟩ : ∃ width, min run 9 = width + 1 := ⟨min run 9 - 1, by omega⟩
  obtain ⟨dropped, hdropped⟩ : ∃ dropped, min longer 9 = width + 1 + dropped :=
    ⟨min longer 9 - (width + 1), by omega⟩
  have hplace : lastPlace run = lastPlace longer * 10 ^ dropped := by
    rw [lastPlace, lastPlace, ← Nat.pow_add]
    congr 1
    omega
  rw [fractionField_eq, fractionField_eq, hwidth, hdropped, hplace, ← Nat.div_div_eq_div_mul]
  exact zeroPadded_prefix width dropped _

/-- More than nine letters show what nine of them do. -/
theorem fractionField_min (nanoseconds run : Nat) :
    fractionField nanoseconds (min run 9) = fractionField nanoseconds run := by
  rw [fractionField_eq, fractionField_eq, lastPlace, lastPlace, Nat.min_assoc, Nat.min_self]

/-- Every run shows the beginning of what nine letters show. -/
theorem fractionField_eq_take (hrun : 0 < run) (h : nanoseconds < 10 ^ 9) :
    fractionField nanoseconds run = (fractionField nanoseconds 9).take (min run 9) := by
  have hbeginning : fractionField nanoseconds run <+: fractionField nanoseconds 9 := by
    rw [← fractionField_min]
    exact fractionField_prefix (by omega) (Nat.min_le_right run 9) nanoseconds
  rw [← length_fractionField hrun h]
  exact List.prefix_iff_eq_take.1 hbeginning

/-- Wherever a run of the letter for the fraction stands in a pattern, it shows as many digits as it is
long, and at most nine. Nine letters show the nanoseconds of the second in nine digits, and every run
shows the beginning of these, so that a longer run goes on where a shorter one ends. The digits of a
run say how often its last place fits into the nanoseconds: what is beyond them is cut off and never
rounded. -/
theorem fraction_digits_consistent (m : Moment) (run : Nat) (hrun : 0 < run) :
    let shown (run : Nat) : List Char := (Token.run 'f' run).render m
    (∀ front back, IsClosed front → IsParted front ['f'] → back.head? ≠ some 'f' →
      formatCustom m (front ++ (List.replicate run 'f' ++ back)) =
        formatCustom m front ++ (shown run ++ formatCustom m back)) ∧
    (shown run).length = min run 9 ∧ (∀ c ∈ shown run, c.isDigit = true) ∧
    shown run = (shown 9).take (min run 9) ∧
    (shown 9).length = 9 ∧ Nat.ofDigitChars 10 (shown 9) 0 = m.nanoseconds % 10 ^ 9 ∧
    (∀ longer, run ≤ longer → shown run <+: shown longer) ∧
    Nat.ofDigitChars 10 (shown run) 0 * lastPlace run ≤ m.nanoseconds % 10 ^ 9 ∧
    m.nanoseconds % 10 ^ 9 < (Nat.ofDigitChars 10 (shown run) 0 + 1) * lastPlace run := by
  intro shown
  have hfraction : m.fraction < 10 ^ 9 := Nat.mod_lt _ (by decide)
  have hvalue (run : Nat) : Nat.ofDigitChars 10 (shown run) 0 = m.fraction / lastPlace run :=
    ofDigitChars_fractionField m.fraction run
  refine ⟨fun front back hclosed hparted hback ↦ ?_, length_fractionField hrun hfraction,
    fun c hc ↦ isDigit_of_mem_zeroPadded hc, fractionField_eq_take hrun hfraction,
    length_fractionField (by decide) hfraction, (hvalue 9).trans (Nat.div_one _),
    fun longer hlonger ↦ fractionField_prefix hrun hlonger m.fraction, ?_, ?_⟩
  · obtain ⟨others, rfl⟩ := Nat.exists_eq_add_one_of_ne_zero hrun.ne'
    have hletter : IsRunning 'f' := by decide
    have hbehind : IsParted front (List.replicate (others + 1) 'f' ++ back) := hparted
    rw [formatCustom_append m hclosed hbehind, formatCustom_run m hletter others hback]
  · rw [hvalue]
    exact Nat.div_mul_le_self m.fraction (lastPlace run)
  · rw [hvalue, ← Nat.div_lt_iff_lt_mul (lastPlace_pos run)]
    exact Nat.lt_succ_self _

/-- A leap second of five milliseconds beyond the second, of which four letters behind the seconds
show the zeros. -/
theorem leap_fraction_cut :
    let m : Moment := ⟨1483228799, 1005999999, .universal⟩
    0 < 4 ∧ IsClosed "ss.".toList ∧ IsParted "ss.".toList ['f'] ∧ "'s'".toList.head? ≠ some 'f' ∧
      formatCustom m "ss.ffff's'".toList = "59.0059s".toList ∧
      (Token.run 'f' 4).render m <+: (Token.run 'f' 7).render m := by
  intro m
  have hclosed : IsClosed "ss.".toList := by decide +kernel
  have hlast : (tokens "ss.".toList).getLast? = some (.run '.' 1) := by decide +kernel
  have hparted : IsParted "ss.".toList ['f'] := by
    intro c n hc
    obtain rfl : 'f' = c := Option.some.inj hc
    rw [hlast]
    simp
  have hback : "'s'".toList.head? ≠ some 'f' := by decide
  obtain ⟨hplaced, -, -, -, -, -, hlonger, -⟩ := fraction_digits_consistent m 4 (by decide)
  have hseconds : formatCustom m "ss.".toList = "59.".toList := by decide +kernel
  have hunit : formatCustom m "'s'".toList = "s".toList := by decide +kernel
  refine ⟨by decide, hclosed, hparted, hback, ?_, hlonger 7 (by decide)⟩
  have hpattern := hplaced "ss.".toList "'s'".toList hclosed hparted hback
  rw [hseconds, hunit] at hpattern
  have hshown : (Token.run 'f' 4).render m = "0059".toList := by decide +kernel
  calc
    formatCustom m "ss.ffff's'".toList = "59.".toList ++ ((Token.run 'f' 4).render m ++ "s".toList) :=
      hpattern
    _ = "59.0059s".toList := by rw [hshown]; decide

end LiveTemplate.Calendar

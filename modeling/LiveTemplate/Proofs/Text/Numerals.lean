import LiveTemplate.Proofs.Text.Padded

/-!
# Numbers read back

The digits of a number denote it, whatever zeros are put in front of them. So from a text in which
numbers stand between single characters that are no digits, all of them are read back, without knowing
their widths.
-/

namespace LiveTemplate.Text

variable {c mark : Char} {width n : Nat}

theorem isDigit_of_mem_decimal (h : c ∈ decimal n) : c.isDigit = true :=
  Nat.isDigit_of_mem_toDigits (by decide) (by decide) h

theorem isDigit_of_mem_zeroPadded (h : c ∈ zeroPadded width n) : c.isDigit = true := by
  rcases List.mem_append.1 h with hzero | hdigit
  · rw [List.eq_of_mem_replicate hzero]
    rfl
  · exact isDigit_of_mem_decimal hdigit

theorem zeroPadded_ne_nil (width n : Nat) : zeroPadded width n ≠ [] :=
  List.append_ne_nil_of_right_ne_nil _ Nat.toDigits_ne_nil

/-- The digits of a padded number denote it. -/
theorem ofDigitChars_zeroPadded (width n : Nat) : Nat.ofDigitChars 10 (zeroPadded width n) 0 = n := by
  rw [zeroPadded, padLeft, Nat.ofDigitChars_append, Nat.ofDigitChars_replicate_zero, Nat.mul_zero,
    decimal, Nat.ofDigitChars_ten_toDigits]

/-- Whether a character stands between numbers. -/
def isBoundary (c : Char) : Bool := !c.isDigit

/-- The numbers that stand between the characters of a text that are no digits. -/
def numerals (text : List Char) : List Nat :=
  (text.splitOnP isBoundary).map (Nat.ofDigitChars 10 · 0)

theorem isBoundary_of_mem_zeroPadded (h : c ∈ zeroPadded width n) : isBoundary c = false := by
  rw [isBoundary, isDigit_of_mem_zeroPadded h, Bool.not_true]

theorem numerals_zeroPadded (width n : Nat) : numerals (zeroPadded width n) = [n] := by
  rw [numerals, List.splitOnP_eq_singleton fun _ ↦ isBoundary_of_mem_zeroPadded,
    List.map_singleton, ofDigitChars_zeroPadded]

theorem numerals_zeroPadded_append (hmark : isBoundary mark = true) (width n : Nat)
    (rest : List Char) : numerals (zeroPadded width n ++ mark :: rest) = n :: numerals rest := by
  rw [numerals, List.splitOnP_append_cons_of_forall_mem (fun _ ↦ isBoundary_of_mem_zeroPadded) mark
    hmark, List.map_cons, ofDigitChars_zeroPadded, numerals]

/-! ## Rows -/

variable {layout : List (Nat × List Char)} {value : Nat} {values : List Nat}

theorem numerals_row_singleton (width value : Nat) : numerals (row [(width, [])] [value]) = [value] := by
  rw [row, row, List.append_nil, List.append_nil, numerals_zeroPadded]
  · exact fun _ _ _ _ _ h _ ↦ List.cons_ne_nil _ _ h.symm

theorem numerals_row_cons (hmark : isBoundary mark = true) (width value : Nat)
    (layout : List (Nat × List Char)) (values : List Nat) :
    numerals (row ((width, [mark]) :: layout) (value :: values)) =
      value :: numerals (row layout values) := by
  rw [row, List.singleton_append, numerals_zeroPadded_append hmark]

/-- The characters between the numbers of a row are those that its layout puts there. -/
theorem mem_row_cons_iff (hc : isBoundary c = true) (width value : Nat) (behind : List Char)
    (layout : List (Nat × List Char)) (values : List Nat) :
    c ∈ row ((width, behind) :: layout) (value :: values) ↔ c ∈ behind ∨ c ∈ row layout values := by
  have hdigit : c ∉ zeroPadded width value := fun h ↦ by
    rw [isBoundary_of_mem_zeroPadded h] at hc
    contradiction
  rw [row, List.mem_append, List.mem_append]
  exact or_iff_right hdigit

end LiveTemplate.Text

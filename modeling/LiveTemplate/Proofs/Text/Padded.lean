import Mathlib.Algebra.Order.Ring.Nat
import Mathlib.Data.List.Forall2
import LiveTemplate.Text.Padded

/-!
# Numbers of a fixed width in order

Numbers that are filled up with zeros to one width are in the same order as texts and as numbers. So
are rows of them, where the fields have their widths and the same texts stand between them: they are
in the order of their first fields that differ.
-/

namespace LiveTemplate.Text

variable {width m n : Nat} {first second : List Char}

/-! ## Fields -/

theorem zeroPadded_one (h : n < 10) : zeroPadded 1 n = [n.digitChar] := by
  simp [zeroPadded, padLeft, decimal, Nat.toDigits_of_lt_base h]

/-- The last digit of a wider field stands behind the field of the others. -/
theorem zeroPadded_succ (width n : Nat) :
    zeroPadded (width + 2) n = zeroPadded (width + 1) (n / 10) ++ [(n % 10).digitChar] := by
  rcases Nat.lt_or_ge n 10 with hn | hn
  · have hdigit : decimal n = [n.digitChar] := Nat.toDigits_of_lt_base hn
    have hzero : decimal 0 = ['0'] := Nat.toDigits_zero 10
    simp [zeroPadded, padLeft, hdigit, hzero, Nat.div_eq_of_lt hn, Nat.mod_eq_of_lt hn,
      List.replicate_succ']
  · have hdigits : decimal n = decimal (n / 10) ++ [(n % 10).digitChar] := by
      rw [decimal, Nat.toDigits_eq_if (by decide), if_neg (Nat.not_lt.2 hn), decimal]
    simp [zeroPadded, padLeft, hdigits]

/-- A field goes on where the field of the number without its last digits ends. -/
theorem zeroPadded_prefix (width dropped n : Nat) :
    zeroPadded (width + 1) (n / 10 ^ dropped) <+: zeroPadded (width + 1 + dropped) n := by
  induction dropped generalizing n with
  | zero => simp only [Nat.add_zero, Nat.pow_zero, Nat.div_one, List.prefix_rfl]
  | succ dropped ih =>
    have hsplit : zeroPadded (width + 1 + (dropped + 1)) n =
        zeroPadded (width + 1 + dropped) (n / 10) ++ [(n % 10).digitChar] := by
      have hwide : width + 1 + (dropped + 1) = width + dropped + 2 := by omega
      have hfront : width + 1 + dropped = width + dropped + 1 := by omega
      rw [hwide, hfront, zeroPadded_succ]
    rw [hsplit, Nat.pow_succ', ← Nat.div_div_eq_div_mul]
    exact (ih (n / 10)).trans (List.prefix_append _ _)

theorem length_zeroPadded (hwidth : 0 < width) (h : n < 10 ^ width) :
    (zeroPadded width n).length = width := by
  have hlength : (decimal n).length ≤ width := (Nat.length_toDigits_le_iff (by decide) hwidth).2 h
  simp only [zeroPadded, padLeft, List.length_append, List.length_replicate]
  omega

/-- Texts of one length keep their order, whatever stands behind them. -/
theorem append_lt_append (h : first < second) (hlength : first.length = second.length)
    (behind other : List Char) : first ++ behind < second ++ other := by
  induction first generalizing second with
  | nil =>
    obtain rfl := List.eq_nil_of_length_eq_zero hlength.symm
    exact absurd h (List.not_lt_nil [])
  | cons c first ih =>
    obtain ⟨d, second, rfl⟩ := List.exists_cons_of_length_eq_add_one hlength.symm
    rw [List.cons_append, List.cons_append, List.cons_lt_cons_iff]
    rcases List.cons_lt_cons_iff.1 h with hlt | ⟨rfl, hlt⟩
    · exact .inl hlt
    · exact .inr ⟨rfl, ih hlt (Nat.succ.inj hlength)⟩

theorem digitChar_lt (h : m < n) (hn : n < 10) : m.digitChar < n.digitChar := by
  have hdigits : ∀ n < 10, ∀ m < n, m.digitChar < n.digitChar := by decide
  exact hdigits n hn m h

/-- The lesser of two numbers that fit is the lesser text. -/
theorem zeroPadded_lt (h : m < n) (hn : n < 10 ^ width) :
    zeroPadded width m < zeroPadded width n := by
  induction width generalizing m n with
  | zero => omega
  | succ width ih =>
    cases width with
    | zero =>
      rw [zeroPadded_one (by omega), zeroPadded_one (by omega)]
      exact List.cons_lt_cons_iff.2 (.inl (digitChar_lt h (by omega)))
    | succ width =>
      rw [zeroPadded_succ, zeroPadded_succ]
      have hfront : n / 10 < 10 ^ (width + 1) := by
        rw [Nat.pow_succ] at hn
        omega
      rcases Nat.lt_or_ge (m / 10) (n / 10) with hlt | hge
      · apply append_lt_append (ih hlt hfront)
        rw [length_zeroPadded (Nat.succ_pos _) hfront,
          length_zeroPadded (Nat.succ_pos _) (Nat.lt_trans hlt hfront)]
      · have hsame : m / 10 = n / 10 := by omega
        rw [hsame]
        exact List.append_left_lt
          (List.cons_lt_cons_iff.2 (.inl (digitChar_lt (by omega) (by omega))))

/-! ## Rows -/

/-- Fields of given widths, each with a text behind it. -/
def row : List (Nat × List Char) → List Nat → List Char
  | (width, behind) :: layout, value :: values =>
    zeroPadded width value ++ (behind ++ row layout values)
  | _, _ => []

/-- Numbers fit into the widths of their fields. -/
def Fits (layout : List (Nat × List Char)) (values : List Nat) : Prop :=
  List.Forall₂ (fun field value ↦ 0 < field.1 ∧ value < 10 ^ field.1) layout values

/-- The lesser of two rows of numbers is the lesser text. -/
theorem row_lt {layout : List (Nat × List Char)} {values others : List Nat}
    (hvalues : Fits layout values) (hothers : Fits layout others) (h : values < others) :
    row layout values < row layout others := by
  induction hvalues generalizing others with
  | nil =>
    cases hothers
    exact absurd h (List.not_lt_nil [])
  | @cons field value layout values hvalue hvalues ih =>
    obtain ⟨width, behind⟩ := field
    cases hothers with
    | @cons _ other _ others hother hothers =>
      rcases List.cons_lt_cons_iff.1 h with hlt | ⟨rfl, hlt⟩
      · apply append_lt_append (zeroPadded_lt hlt hother.2)
        rw [length_zeroPadded hvalue.1 hvalue.2, length_zeroPadded hother.1 hother.2]
      · exact List.append_left_lt (List.append_left_lt (ih hothers hlt))

end LiveTemplate.Text

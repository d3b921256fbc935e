import LiveTemplate.Calendar.Format
import LiveTemplate.Number.Literal
import LiveTemplate.Proofs.Calendar.Moment
import LiveTemplate.Proofs.Text.Numerals

/-!
# The round-trip format

One of the standard formats writes all that there is to a moment: the local date and time of day, the
fraction of the second to seven digits, and the offset. The year has as many digits as it needs and a
minus if it is negative, so the fields behind it have no fixed places. They are read back all the same,
since exactly one character stands between two numbers. With the date the day is known again, and with
the offset the instant.
-/

namespace LiveTemplate.Calendar

open Text

/-! ## Stamps -/

/-- A local date and time of day to a ten-millionth of a second, and an offset. -/
structure Stamp where
  year : Int
  month : Nat
  day : Nat
  hour : Nat
  minute : Nat
  second : Nat
  /-- The fraction of the second in units of a hundred nanoseconds. -/
  fraction : Nat
  /-- The offset in seconds. -/
  offset : Int
  deriving DecidableEq, Repr

def Moment.stamp (m : Moment) : Stamp :=
  ⟨m.date.year, m.date.month, m.date.day, m.hour, m.minute, m.second, m.fraction / 100, m.offset⟩

namespace Stamp

def seconds (s : Stamp) : Int :=
  86400 * civilDay s.year s.month s.day + (3600 * s.hour + 60 * s.minute + s.second : Nat) - s.offset

theorem seconds_stamp (m : Moment) : m.stamp.seconds = m.seconds := by
  have hlocal := m.localSeconds_eq
  simp only [seconds, Moment.stamp, ← hlocal, Moment.localSeconds, Int.add_sub_cancel]

/-! ## Writing and reading -/

def numbers (s : Stamp) : List Nat :=
  [s.year.natAbs, s.month, s.day, s.hour, s.minute, s.second, s.fraction, s.offset.natAbs / 3600,
    s.offset.natAbs % 3600 / 60]

/-- The fields of a stamp, with a year of some width and an offset with some sign. -/
def layout (width : Nat) (sign : Char) : List (Nat × List Char) :=
  [(width, ['-']), (2, ['-']), (2, ['T']), (2, [':']), (2, [':']), (2, ['.']), (7, [sign]),
    (2, [':']), (2, [])]

def text (s : Stamp) : List Char :=
  let minus := signOf false s.year
  minus ++ row (layout (4 - minus.length) (offsetSign s.offset)) s.numbers

def ofText? (text : List Char) : Option Stamp :=
  let (negative, body) := Number.takeSign text
  match numerals body with
  | [year, month, day, hour, minute, second, fraction, hours, minutes] =>
    let offset : Int := (3600 * hours + 60 * minutes : Nat)
    some {
      year := if negative then -year else year
      month, day, hour, minute, second, fraction
      offset := if '+' ∈ body then offset else -offset }
  | _ => none

variable {s : Stamp}

theorem isBoundary_offsetSign (offset : Int) : isBoundary (offsetSign offset) = true := by
  unfold offsetSign
  split <;> rfl

/-- All the numbers of a stamp are found in its text. -/
theorem numerals_row (width : Nat) (s : Stamp) :
    numerals (row (layout width (offsetSign s.offset)) s.numbers) = s.numbers := by
  have hsign := isBoundary_offsetSign s.offset
  simp only [layout, numbers, numerals_row_cons, numerals_row_singleton, hsign,
    show isBoundary '-' = true from rfl, show isBoundary 'T' = true from rfl,
    show isBoundary ':' = true from rfl, show isBoundary '.' = true from rfl]

/-- There is a plus in the text of a stamp just when its offset is not negative. -/
theorem plus_mem_row_iff (width : Nat) (s : Stamp) :
    '+' ∈ row (layout width (offsetSign s.offset)) s.numbers ↔ 0 ≤ s.offset := by
  have hplus : isBoundary '+' = true := rfl
  have hsign : '+' = offsetSign s.offset ↔ 0 ≤ s.offset := by
    unfold offsetSign
    split <;> simp <;> omega
  simp only [layout, numbers, mem_row_cons_iff hplus, List.mem_singleton, hsign]
  simp [row]

/-- A row of numbers has no sign of its own. -/
theorem takeSign_row (width value : Nat) (behind : List Char) (fields : List (Nat × List Char))
    (values : List Nat) :
    Number.takeSign (row ((width, behind) :: fields) (value :: values)) =
      (false, row ((width, behind) :: fields) (value :: values)) := by
  obtain ⟨c, digits, hdigits⟩ := List.exists_cons_of_ne_nil (zeroPadded_ne_nil width value)
  have hmem : c ∈ zeroPadded width value := hdigits ▸ List.mem_cons_self
  have hc : c.isDigit = true := isDigit_of_mem_zeroPadded hmem
  rw [row, hdigits, List.cons_append]
  unfold Number.takeSign
  split
  · next h => obtain ⟨rfl, -⟩ := List.cons.inj h; contradiction
  · next h => obtain ⟨rfl, -⟩ := List.cons.inj h; contradiction
  · rfl

theorem takeSign_text (s : Stamp) :
    Number.takeSign s.text = (decide (s.year < 0),
      row (layout (4 - (signOf false s.year).length) (offsetSign s.offset)) s.numbers) := by
  by_cases h : s.year < 0
  · simp [text, signOf, h, Number.takeSign]
  · rw [text, signOf, if_neg h, decide_eq_false h]
    exact takeSign_row _ _ _ _ _

/-- What is written is read back, if the offset is of whole minutes. -/
theorem ofText?_text (h : s.offset % 60 = 0) : ofText? s.text = some s := by
  have hyear : (if decide (s.year < 0) = true then -(s.year.natAbs : Int) else s.year.natAbs) =
      s.year := by
    simp only [decide_eq_true_eq]
    omega
  have hoffset : (if 0 ≤ s.offset
      then ((3600 * (s.offset.natAbs / 3600) + 60 * (s.offset.natAbs % 3600 / 60) : Nat) : Int)
      else -(3600 * (s.offset.natAbs / 3600) + 60 * (s.offset.natAbs % 3600 / 60) : Nat)) =
      s.offset := by
    omega
  simp only [ofText?, takeSign_text, numerals_row, plus_mem_row_iff]
  simp only [numbers, hyear, hoffset]

end Stamp

/-- The round-trip format writes the stamp of a moment. -/
theorem format_roundTrip (m : Moment) : format m ['o'] = .text m.stamp.text := by
  have htokens : tokens "yyyy-MM-ddTHH:mm:ss.fffffffzzz".toList =
      [.run 'y' 4, .run '-' 1, .run 'M' 2, .run '-' 1, .run 'd' 2, .run 'T' 1, .run 'H' 2,
        .run ':' 1, .run 'm' 2, .run ':' 1, .run 's' 2, .run '.' 1, .run 'f' 7, .run 'z' 3] := by
    decide +kernel
  have hformat : format m ['o'] = .text (formatCustom m "yyyy-MM-ddTHH:mm:ss.fffffffzzz".toList) :=
    rfl
  have hsign : (if m.offset < 0 then '-' else '+') = offsetSign m.offset := rfl
  rw [hformat, formatCustom, htokens]
  simp [Token.render, yearField, monthField, dayField, field, fractionField, offsetField, hsign,
    paddedInt, Stamp.text, Stamp.layout, Stamp.numbers, Moment.stamp, row]

/-- The round-trip format is read back to the local date, the time of day, the fraction and the
offset, and so moments with one text are the same instant, up to less than a hundred nanoseconds, at
the same offset. -/
theorem round_trip_keeps_instant :
    (∀ m : Moment, m.offset % 60 = 0 →
      ∃ text, format m ['o'] = .text text ∧ Stamp.ofText? text = some m.stamp) ∧
    ∀ a b : Moment, a.IsRegular → b.IsRegular → format a ['o'] = format b ['o'] →
      a.offset = b.offset ∧ a.seconds = b.seconds ∧ a.nanoseconds / 100 = b.nanoseconds / 100 := by
  constructor
  · intro m hoffset
    exact ⟨m.stamp.text, format_roundTrip m, Stamp.ofText?_text hoffset⟩
  · intro a b ha hb hsame
    rw [format_roundTrip, format_roundTrip] at hsame
    have hread : Stamp.ofText? a.stamp.text = Stamp.ofText? b.stamp.text :=
      congrArg Stamp.ofText? (Formatted.text.inj hsame)
    rw [Stamp.ofText?_text ha.2, Stamp.ofText?_text hb.2, Option.some_inj] at hread
    refine ⟨congrArg Stamp.offset hread, ?_, ?_⟩
    · rw [← Stamp.seconds_stamp, hread, Stamp.seconds_stamp]
    · rw [← Moment.fraction_eq ha, ← Moment.fraction_eq hb]
      exact congrArg Stamp.fraction hread

/-- Two moments before the year 0, apart by less than a hundred nanoseconds, the one in universal time
by name and the other at no offset from it. -/
theorem ancient_instant_kept :
    let a : Moment := ⟨-99999999999, 123456789, .universal⟩
    let b : Moment := ⟨-99999999999, 123456700, .fixed 0⟩
    a.offset % 60 = 0 ∧
      (∃ text, format a ['o'] = .text text ∧
        Stamp.ofText? text = some ⟨-1199, 2, 15, 14, 13, 21, 1234567, 0⟩) ∧
      a.IsRegular ∧ b.IsRegular ∧ format a ['o'] = format b ['o'] ∧
      a.offset = b.offset ∧ a.seconds = b.seconds ∧ a.nanoseconds / 100 = b.nanoseconds / 100 := by
  intro a b
  obtain ⟨hread, hkept⟩ := round_trip_keeps_instant
  have hoffset : a.offset % 60 = 0 := by decide
  have hstamp : a.stamp = ⟨-1199, 2, 15, 14, 13, 21, 1234567, 0⟩ := by decide +kernel
  have ha : a.IsRegular := by decide
  have hb : b.IsRegular := by decide
  have hsame : format a ['o'] = format b ['o'] := by decide +kernel
  exact ⟨hoffset, hstamp ▸ hread a hoffset, ha, hb, hsame, hkept a b ha hb hsame⟩

end LiveTemplate.Calendar

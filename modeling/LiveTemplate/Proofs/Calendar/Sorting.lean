import Mathlib.Data.String.Basic
import LiveTemplate.Calendar.Format
import LiveTemplate.Proofs.Calendar.Moment
import LiveTemplate.Proofs.Text.Padded

/-!
# Formats that sort

Two of the standard formats write the year, the month, the day and the time of day in fields of fixed
widths. Their texts are in the order of the seconds they show: of universal time for the one, of local
time for the other. A year of at most four digits fits into its field.
-/

namespace LiveTemplate.Calendar

open Text

/-! ## Numbers of a moment -/

namespace Moment

variable {m a b : Moment}

/-- The date and the time of day, the longer units first. -/
def numbers (m : Moment) : List Nat :=
  [m.date.year.toNat, m.date.month, m.date.day, m.hour, m.minute, m.second]

/-- The year has at most four digits and no sign. -/
def HasPlainYear (m : Moment) : Prop := 0 ≤ m.date.year ∧ m.date.year ≤ 9999

instance (m : Moment) : Decidable m.HasPlainYear := inferInstanceAs (Decidable (_ ∧ _))

/-- Of two moments the one with fewer seconds has the lesser numbers. -/
theorem numbers_lt (hyear : 0 ≤ a.date.year) (h : a.localSeconds < b.localSeconds) :
    a.numbers < b.numbers := by
  simp only [numbers, List.cons_lt_cons_iff, List.not_lt_nil, and_false, or_false]
  -- The days differ, or the times of one day.
  rcases Int.lt_or_le (a.localSeconds / 86400) (b.localSeconds / 86400) with hdays | hdays
  · have hdate := Date.ofDays_lt hdays
    unfold date at hyear ⊢
    omega
  · have hsame : a.localSeconds / 86400 = b.localSeconds / 86400 := by omega
    have hdate : a.date = b.date := congrArg Date.ofDays hsame
    have hclock : a.hour < b.hour ∨ a.hour = b.hour ∧
        (a.minute < b.minute ∨ a.minute = b.minute ∧ a.second < b.second) := by
      unfold hour minute second secondOfDay
      omega
    rw [hdate]
    exact .inr ⟨rfl, .inr ⟨rfl, .inr ⟨rfl, hclock⟩⟩⟩

theorem numbers_eq (h : a.localSeconds = b.localSeconds) : a.numbers = b.numbers := by
  simp only [numbers, date, hour, minute, second, secondOfDay, h]

end Moment

/-! ## Layouts -/

/-- The fields of a date and a time of day, with a text between the two and one at the end. -/
def sortable (middle ending : List Char) : List (Nat × List Char) :=
  [(4, ['-']), (2, ['-']), (2, middle), (2, [':']), (2, [':']), (2, ending)]

variable {m a b : Moment}

theorem fits_numbers (h : m.HasPlainYear) (middle ending : List Char) :
    Fits (sortable middle ending) m.numbers := by
  obtain ⟨hlow, hhigh⟩ := h
  have hmonth := m.month_le
  have hday := m.day_le
  have hhour := m.hour_lt
  have hminute := m.minute_lt
  have hsecond := m.second_lt
  refine .cons ?_ (.cons ?_ (.cons ?_ (.cons ?_ (.cons ?_ (.cons ?_ .nil)))))
  all_goals
    dsimp only
    omega

/-- The tokens of a date and a time of day, with a character between the two. -/
def sortableTokens (middle : Char) : List Token :=
  [.run 'y' 4, .run '-' 1, .run 'M' 2, .run '-' 1, .run 'd' 2, .run middle 1, .run 'H' 2,
    .run ':' 1, .run 'm' 2, .run ':' 1, .run 's' 2]

theorem yearField_eq {year : Int} (h : 0 ≤ year) : yearField year 4 = zeroPadded 4 year.toNat := by
  have hsign : ¬ year < 0 := by omega
  have hdigits : year.natAbs = year.toNat := by omega
  simp [yearField, paddedInt, signOf, hsign, hdigits]

/-- These tokens are written as a row of the moment's numbers. -/
theorem flatMap_sortableTokens (h : 0 ≤ m.date.year) (separator : Char)
    (hseparator : (Token.run separator 1).render m = [separator]) (more : List Token) :
    (sortableTokens separator ++ more).flatMap (Token.render m) =
      row (sortable [separator] (more.flatMap (Token.render m))) m.numbers := by
  simp only [sortableTokens, List.cons_append, List.nil_append, List.flatMap_cons, hseparator]
  simp [Token.render, yearField_eq h, monthField, dayField, field, row, sortable, Moment.numbers]

/-- The texts of two moments compare as their seconds do. -/
theorem compare_rows (ha : a.HasPlainYear) (hb : b.HasPlainYear) (middle ending : List Char) :
    compare (String.ofList (row (sortable middle ending) a.numbers))
        (String.ofList (row (sortable middle ending) b.numbers)) =
      compare a.localSeconds b.localSeconds := by
  have hlt {a b : Moment} (ha : a.HasPlainYear) (hb : b.HasPlainYear)
      (h : a.localSeconds < b.localSeconds) :
      String.ofList (row (sortable middle ending) a.numbers) <
        String.ofList (row (sortable middle ending) b.numbers) := by
    rw [String.lt_iff_toList_lt, String.toList_ofList, String.toList_ofList]
    exact row_lt (fits_numbers ha _ _) (fits_numbers hb _ _) (Moment.numbers_lt ha.1 h)
  rcases lt_trichotomy a.localSeconds b.localSeconds with h | h | h
  · rw [compare_lt_iff_lt.2 h, compare_lt_iff_lt.2 (hlt ha hb h)]
  · rw [compare_eq_iff_eq.2 h, compare_eq_iff_eq.2 (by rw [Moment.numbers_eq h])]
  · rw [compare_gt_iff_gt.2 h, compare_gt_iff_gt.2 (hlt hb ha h)]

/-! ## The two formats -/

theorem format_universal (h : a.universal.HasPlainYear) :
    format a ['u'] = .text (row (sortable [' '] ['Z']) a.universal.numbers) := by
  have htokens : tokens "yyyy-MM-dd HH:mm:ss'Z'".toList =
      sortableTokens ' ' ++ [.verbatim ['Z']] := by
    decide +kernel
  have htext := flatMap_sortableTokens h.1 ' ' rfl [.verbatim ['Z']]
  rw [← htokens] at htext
  exact congrArg Formatted.text htext

theorem format_local (h : a.HasPlainYear) :
    format a ['s'] = .text (row (sortable ['T'] []) a.numbers) := by
  have htokens : tokens "yyyy-MM-ddTHH:mm:ss".toList = sortableTokens 'T' ++ [] := by
    decide +kernel
  have htext := flatMap_sortableTokens h.1 'T' rfl []
  rw [← htokens] at htext
  exact congrArg Formatted.text htext

/-- The text of the one format is in the order of the seconds of universal time, whatever the offsets
are, and that of the other in the order of the seconds of local time. -/
theorem sortable_formats_sort (a b : Moment) :
    (a.universal.HasPlainYear → b.universal.HasPlainYear →
      ∃ s t, format a ['u'] = .text s ∧ format b ['u'] = .text t ∧
        compare (String.ofList s) (String.ofList t) = compare a.seconds b.seconds) ∧
    (a.HasPlainYear → b.HasPlainYear →
      ∃ s t, format a ['s'] = .text s ∧ format b ['s'] = .text t ∧
        compare (String.ofList s) (String.ofList t) =
          compare (a.seconds + a.offset) (b.seconds + b.offset)) := by
  constructor
  · intro ha hb
    refine ⟨_, _, format_universal ha, format_universal hb, ?_⟩
    have hseconds (m : Moment) : m.universal.localSeconds = m.seconds := Int.add_zero m.seconds
    rw [compare_rows ha hb, hseconds, hseconds]
  · intro ha hb
    exact ⟨_, _, format_local ha, format_local hb, compare_rows ha hb _ _⟩

/-- The leap second before the year 2017, where the new year has begun already, comes before the first
second of the year, where the old one has not ended, in universal time and behind it in local time. -/
theorem new_year_sorted :
    let before : Moment := ⟨1483228799, 1500000000, .fixed 18000⟩
    let behind : Moment := ⟨1483228800, 0, .fixed (-18000)⟩
    (before.universal.HasPlainYear ∧ behind.universal.HasPlainYear ∧
      ∃ s t, format before ['u'] = .text s ∧ format behind ['u'] = .text t ∧
        compare (String.ofList s) (String.ofList t) = .lt) ∧
    (before.HasPlainYear ∧ behind.HasPlainYear ∧
      ∃ s t, format before ['s'] = .text s ∧ format behind ['s'] = .text t ∧
        compare (String.ofList s) (String.ofList t) = .gt) := by
  intro before behind
  obtain ⟨huniversal, hlocal⟩ := sortable_formats_sort before behind
  have hplain : before.universal.HasPlainYear ∧ behind.universal.HasPlainYear ∧
      before.HasPlainYear ∧ behind.HasPlainYear := by
    decide +kernel
  obtain ⟨hbefore, hbehind, hbefore', hbehind'⟩ := hplain
  obtain ⟨s, t, hs, ht, hsorted⟩ := huniversal hbefore hbehind
  obtain ⟨s', t', hs', ht', hsorted'⟩ := hlocal hbefore' hbehind'
  exact ⟨⟨hbefore, hbehind, s, t, hs, ht, hsorted⟩, hbefore', hbehind', s', t', hs', ht', hsorted'⟩

end LiveTemplate.Calendar

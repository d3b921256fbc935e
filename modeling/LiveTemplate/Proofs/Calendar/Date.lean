import Mathlib.Algebra.Order.Ring.Nat
import LiveTemplate.Calendar.Date

/-!
# Dates in order

The first days of the years follow each other at the sums of the lengths of their months, and the
year of a day is the one whose days include it. So a date comes before another one in year, month and
day of the month just when its day is counted earlier.
-/

namespace LiveTemplate.Calendar

variable {days later : Int} {lengths : List Nat} {day other : Nat}

/-! ## Years -/

theorem isLeap_iff (year : Int) :
    isLeap year = true ↔ year % 4 = 0 ∧ (year % 100 ≠ 0 ∨ year % 400 = 0) := by
  simp [isLeap]

/-- A year takes as many days as its months. -/
theorem daysBefore_succ (year : Int) :
    daysBefore (year + 1) = daysBefore year + (monthLengths year).sum := by
  have hleap := isLeap_iff year
  unfold daysBefore
  by_cases h : isLeap year = true
  · have hsum : (monthLengths year).sum = 366 := by simp [monthLengths, h]
    rw [hleap] at h
    omega
  · have hsum : (monthLengths year).sum = 365 := by simp [monthLengths, h]
    rw [hleap] at h
    omega

theorem daysBefore_le {year next : Int} (h : year ≤ next) : daysBefore year ≤ daysBefore next := by
  unfold daysBefore
  omega

/-- The year of a day is the one that begins with the day or before it and ends behind it. -/
theorem yearOf_spec (day : Int) :
    daysBefore (yearOf day) ≤ day ∧ day < daysBefore (yearOf day + 1) := by
  simp only [yearOf]
  split
  case isTrue =>
    unfold daysBefore at *
    constructor <;> omega
  case isFalse =>
    split
    case isTrue =>
      unfold daysBefore at *
      constructor <;> omega
    case isFalse => omega

theorem yearOf_le {day later : Int} (h : day ≤ later) : yearOf day ≤ yearOf later := by
  refine Int.not_lt.1 fun hyears ↦ ?_
  have hbetween : daysBefore (yearOf later + 1) ≤ daysBefore (yearOf day) := daysBefore_le hyears
  have hfrom := (yearOf_spec day).1
  have hbelow := (yearOf_spec later).2
  omega

/-! ## Months -/

theorem monthAndDay_cons (length : Nat) (others : List Nat) (day : Nat) :
    monthAndDay (length :: others) day =
      if day < length then (0, day)
      else ((monthAndDay others (day - length)).1 + 1, (monthAndDay others (day - length)).2) :=
  rfl

/-- A day lies as far behind the first day of its month as the lengths of the months before leave. -/
theorem monthAndDay_spec (h : day < lengths.sum) :
    ∃ hmonth : (monthAndDay lengths day).1 < lengths.length,
      (monthAndDay lengths day).2 < lengths[(monthAndDay lengths day).1] ∧
      day = (lengths.take (monthAndDay lengths day).1).sum + (monthAndDay lengths day).2 := by
  induction lengths generalizing day with
  | nil => contradiction
  | cons length others ih =>
    rw [List.sum_cons] at h
    rw [monthAndDay_cons]
    split
    case isTrue hfirst => simpa using hfirst
    case isFalse hbehind =>
      obtain ⟨hmonth, hday, hplace⟩ := ih (show day - length < others.sum by omega)
      refine ⟨by simpa using hmonth, by simpa using hday, ?_⟩
      rw [List.take_succ_cons, List.sum_cons]
      omega

/-- Of two days the later one lies in a later month or further behind in the same one. -/
theorem monthAndDay_lt (lengths : List Nat) (h : day < other) :
    (monthAndDay lengths day).1 < (monthAndDay lengths other).1 ∨
      (monthAndDay lengths day).1 = (monthAndDay lengths other).1 ∧
        (monthAndDay lengths day).2 < (monthAndDay lengths other).2 := by
  induction lengths generalizing day other with
  | nil => exact .inr ⟨rfl, h⟩
  | cons length others ih =>
    rw [monthAndDay_cons, monthAndDay_cons]
    by_cases hother : other < length
    · rw [if_pos hother, if_pos (Nat.lt_trans h hother)]
      exact .inr ⟨rfl, h⟩
    · rw [if_neg hother]
      split
      case isTrue => exact .inl (Nat.succ_pos _)
      case isFalse hday =>
        have hrest := ih (show day - length < other - length by omega)
        simpa using hrest

theorem le_of_mem_monthLengths {year : Int} {length : Nat} (h : length ∈ monthLengths year) :
    length ≤ 31 := by
  unfold monthLengths at h
  generalize isLeap year = leap at h
  revert length
  cases leap <;> decide

/-! ## Dates -/

namespace Date

/-- A date lies in its year. -/
theorem dayOfYear_lt (days : Int) :
    (ofDays days).dayOfYear < (monthLengths (ofDays days).year).sum := by
  obtain ⟨hfrom, hbelow⟩ := yearOf_spec (days + epochDays)
  rw [daysBefore_succ] at hbelow
  simp only [ofDays]
  omega

theorem month_le (days : Int) : (ofDays days).month ≤ 12 := by
  obtain ⟨hmonth, -⟩ := monthAndDay_spec (dayOfYear_lt days)
  exact hmonth

theorem day_le (days : Int) : (ofDays days).day ≤ 31 := by
  obtain ⟨hmonth, hday, -⟩ := monthAndDay_spec (dayOfYear_lt days)
  exact Nat.lt_of_lt_of_le hday (le_of_mem_monthLengths (List.getElem_mem hmonth))

/-- The date of a day leads back to it. -/
theorem toDays_ofDays (days : Int) : (ofDays days).toDays = days := by
  have hfrom := (yearOf_spec (days + epochDays)).1
  simp only [toDays, ofDays]
  omega

/-- Of two days the later one has the later date. -/
theorem ofDays_lt (h : days < later) :
    (ofDays days).year < (ofDays later).year ∨ (ofDays days).year = (ofDays later).year ∧
      ((ofDays days).month < (ofDays later).month ∨ (ofDays days).month = (ofDays later).month ∧
        (ofDays days).day < (ofDays later).day) := by
  have hyears := yearOf_le (show days + epochDays ≤ later + epochDays by omega)
  rcases Int.lt_or_eq_of_le hyears with hlt | heq
  · exact .inl hlt
  · have hfrom := (yearOf_spec (days + epochDays)).1
    have hwithin : (ofDays days).dayOfYear < (ofDays later).dayOfYear := by
      simp only [ofDays, ← heq]
      omega
    have hmonths := monthAndDay_lt (monthLengths (ofDays days).year) hwithin
    refine .inr ⟨heq, ?_⟩
    simp only [month, day]
    rw [show (ofDays later).year = (ofDays days).year from heq.symm]
    omega

end Date

/-- The day with a given year, month and day of the month. -/
def civilDay (year : Int) (month day : Nat) : Int :=
  (Date.mk year (((monthLengths year).take (month - 1)).sum + (day - 1))).toDays

theorem civilDay_ofDays (days : Int) :
    civilDay (Date.ofDays days).year (Date.ofDays days).month (Date.ofDays days).day = days := by
  obtain ⟨-, -, hplace⟩ := monthAndDay_spec (Date.dayOfYear_lt days)
  calc
    civilDay (Date.ofDays days).year (Date.ofDays days).month (Date.ofDays days).day =
        (Date.ofDays days).toDays := by
      rw [civilDay, Date.month, Date.day, Nat.add_sub_cancel, Nat.add_sub_cancel, ← hplace]
    _ = days := Date.toDays_ofDays days

end LiveTemplate.Calendar

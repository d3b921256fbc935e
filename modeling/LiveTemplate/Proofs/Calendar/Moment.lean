import LiveTemplate.Calendar.Moment
import LiveTemplate.Proofs.Calendar.Date

/-!
# Moments on the clock

A moment is read as a date, an hour, a minute and a second, each within its bounds, and these determine
the local seconds again.
-/

namespace LiveTemplate.Calendar.Moment

/-- Not in a leap second, and read at an offset of whole minutes. -/
def IsRegular (m : Moment) : Prop := m.nanoseconds < 1000000000 ∧ m.offset % 60 = 0

instance (m : Moment) : Decidable m.IsRegular := inferInstanceAs (Decidable (_ ∧ _))

theorem secondOfDay_lt (m : Moment) : m.secondOfDay < 86400 := by
  unfold secondOfDay
  omega

theorem hour_lt (m : Moment) : m.hour < 24 := by
  have := m.secondOfDay_lt
  unfold hour
  omega

theorem hourOnDial_le (m : Moment) : m.hourOnDial ≤ 12 := by
  unfold hourOnDial
  omega

theorem minute_lt (m : Moment) : m.minute < 60 := Nat.mod_lt _ (by decide)

theorem second_lt (m : Moment) : m.second < 60 := Nat.mod_lt _ (by decide)

theorem month_le (m : Moment) : m.date.month ≤ 12 := Date.month_le _

theorem day_le (m : Moment) : m.date.day ≤ 31 := Date.day_le _

/-- The date and the time of day determine the local seconds. -/
theorem localSeconds_eq (m : Moment) :
    m.localSeconds = 86400 * civilDay m.date.year m.date.month m.date.day +
      (3600 * m.hour + 60 * m.minute + m.second : Nat) := by
  have hday : civilDay m.date.year m.date.month m.date.day = m.localSeconds / 86400 :=
    civilDay_ofDays _
  rw [hday]
  unfold hour minute second secondOfDay
  omega

theorem fraction_eq {m : Moment} (h : m.IsRegular) : m.fraction = m.nanoseconds :=
  Nat.mod_eq_of_lt h.1

theorem countedSecond_eq {m : Moment} (h : m.IsRegular) : m.countedSecond = m.second := by
  rw [countedSecond, Nat.div_eq_of_lt h.1, Nat.add_zero]

end LiveTemplate.Calendar.Moment

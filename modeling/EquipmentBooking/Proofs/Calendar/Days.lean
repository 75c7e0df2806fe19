import EquipmentBooking.Calendar.Date

namespace EquipmentBooking

theorem daysInMonth_le (year : Int) (month : Nat) : daysInMonth year month ≤ 31 := by
  unfold daysInMonth
  split
  · split <;> decide
  · split <;> decide

namespace Weekday

theorem index_ofIndex {n : Nat} (h : n < 7) : (ofIndex n).index = n := by
  match n, h with
  | 0, _ | 1, _ | 2, _ | 3, _ | 4, _ | 5, _ | 6, _ => simp [ofIndex, index]

end Weekday

namespace Date

theorem of?_self (d : Date) : of? d.year d.month d.day = some d :=
  dif_pos ⟨d.firstYear_le, d.le_lastYear, d.month_pos, d.month_le, d.day_pos, d.day_le⟩

theorem of?_eq_some {year : Int} {month day : Nat} {d : Date} (h : of? year month day = some d) :
    d.year = year ∧ d.month = month ∧ d.day = day := by
  rw [of?] at h
  split at h
  · cases h
    exact ⟨rfl, rfl, rfl⟩
  · cases h

/-- Years are small enough for any reader. -/
theorem natAbs_year_lt (d : Date) : d.year.natAbs < 1000000 := by
  have hFirst := d.firstYear_le
  have hLast := d.le_lastYear
  rw [firstYear] at hFirst
  rw [lastYear] at hLast
  omega

section Numbers

variable {d e : Date}

theorem daysBeforeMonth_succ (year : Int) (month : Nat) :
    daysBeforeMonth year (month + 2) =
      daysBeforeMonth year (month + 1) + daysInMonth year (month + 1) := by
  have hSum (l : List Nat) : l.foldr (· + ·) 0 = l.sum := rfl
  simp [daysBeforeMonth, hSum, List.range_succ]

theorem daysBeforeMonth_december (year : Int) :
    daysBeforeMonth year 12 = 334 + (if isLeapYear year then 1 else 0) := by
  cases hLeap : isLeapYear year <;> simp [daysBeforeMonth, daysInMonth, hLeap, List.range_succ]

/-- A leap day is counted in the year that it belongs to. The count is right before year one, too. -/
theorem daysBeforeYear_succ (year : Int) :
    daysBeforeYear (year + 1) = daysBeforeYear year + 365 + (if isLeapYear year then 1 else 0) := by
  unfold daysBeforeYear
  cases hLeap : isLeapYear year with
  | false =>
      simp only [isLeapYear, Bool.and_eq_false_iff, Bool.or_eq_false_iff, beq_eq_false_iff_ne,
        bne_eq_false_iff_eq] at hLeap
      simp only [Bool.false_eq_true, ↓reduceIte]
      omega
  | true =>
      simp only [isLeapYear, Bool.and_eq_true, Bool.or_eq_true, beq_iff_eq, bne_iff_ne] at hLeap
      simp only [↓reduceIte]
      omega

/-- The day before has the number before. -/
theorem dayNumber_prev? (h : d.prev? = some e) : e.dayNumber = d.dayNumber - 1 := by
  have hDayPos := d.day_pos
  have hMonthPos := d.month_pos
  rw [prev?] at h
  split at h
  · obtain ⟨hYear, hMonth, hDay⟩ := of?_eq_some h
    simp only [dayNumber, hYear, hMonth, hDay]
    omega
  · split at h
    · obtain ⟨hYear, hMonth, hDay⟩ := of?_eq_some h
      obtain ⟨month, hPlace⟩ := Nat.exists_eq_add_of_le' (show 2 ≤ d.month by omega)
      have hSum := daysBeforeMonth_succ d.year month
      simp only [dayNumber, hYear, hMonth, hDay, hPlace, Nat.add_succ_sub_one, hSum]
      omega
    · obtain ⟨hYear, hMonth, hDay⟩ := of?_eq_some h
      have hJanuary : d.month = 1 := by omega
      have hFirst : daysBeforeMonth d.year 1 = 0 := rfl
      have hDecember := daysBeforeMonth_december (d.year - 1)
      have hSum := daysBeforeYear_succ (d.year - 1)
      rw [Int.sub_add_cancel] at hSum
      simp only [dayNumber, hYear, hMonth, hDay, hJanuary, hFirst, hDecember, hSum]
      split <;> omega

theorem dayNumber_before? {n : Nat} (h : d.before? n = some e) : e.dayNumber = d.dayNumber - n := by
  induction n generalizing d with
  | zero =>
      cases h
      simp
  | succ n ih =>
      obtain ⟨p, hPrev, hBefore⟩ := Option.bind_eq_some_iff.mp h
      have hStep := dayNumber_prev? hPrev
      have hRest := ih hBefore
      omega

theorem index_weekday (d : Date) : (d.weekday.index : Int) = (d.dayNumber - 1) % 7 := by
  rw [weekday, Weekday.index_ofIndex (by omega)]
  omega

end Numbers

end Date

end EquipmentBooking

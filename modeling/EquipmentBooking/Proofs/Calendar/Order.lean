import EquipmentBooking.Calendar.Week
import EquipmentBooking.Proofs.Calendar.Days

/-! The number of a date is its place among all days: dates pass in the order of their numbers, every
number between the two ends belongs to a date, and a step is possible exactly as long as it stays
between the ends. -/
namespace EquipmentBooking.Date

variable {d e : Date} {n : Nat}

theorem eq_of_numbers (hYear : d.year = e.year) (hMonth : d.month = e.month)
    (hDay : d.day = e.day) : d = e := by
  have hSelf := of?_self d
  rw [hYear, hMonth, hDay, of?_self e] at hSelf
  exact (Option.some.inj hSelf).symm

theorem lt_iff : d < e ↔ d.year < e.year ∨
    d.year = e.year ∧ (d.month < e.month ∨ d.month = e.month ∧ d.day < e.day) :=
  Iff.rfl

section Numbers

theorem daysInMonth_pos (year : Int) (month : Nat) : 0 < daysInMonth year month := by
  unfold daysInMonth
  split
  · split <;> decide
  · split <;> decide

/-- A month is over before a later one of the year begins. -/
theorem daysBeforeMonth_add_le (year : Int) {month later : Nat} (hMonth : 1 ≤ month)
    (h : month < later) :
    daysBeforeMonth year month + daysInMonth year month ≤ daysBeforeMonth year later := by
  obtain ⟨m, rfl⟩ := Nat.exists_eq_add_of_le' hMonth
  obtain ⟨k, rfl⟩ : ∃ k, later = m + k + 2 := ⟨later - m - 2, by omega⟩
  clear hMonth h
  induction k with
  | zero => exact Nat.le_of_eq (daysBeforeMonth_succ year m).symm
  | succ k ih =>
      have hNext : daysBeforeMonth year (m + (k + 1) + 2) = _ := daysBeforeMonth_succ year (m + k + 1)
      exact Nat.le_trans (Nat.le_trans ih (Nat.le_add_right _ _)) (Nat.le_of_eq hNext.symm)

/-- A year is over with its last day. -/
theorem dayNumber_le_yearEnd (d : Date) : d.dayNumber ≤ daysBeforeYear (d.year + 1) := by
  have hDay := d.day_le
  have hDecember := daysBeforeMonth_december d.year
  have hSum := daysBeforeYear_succ d.year
  rw [dayNumber, hSum]
  rcases Nat.lt_or_eq_of_le d.month_le with hMonth | hMonth
  · have hOver := daysBeforeMonth_add_le d.year d.month_pos hMonth
    split at hDecember <;> omega
  · have hLength : daysInMonth d.year 12 = 31 := rfl
    rw [hMonth, hLength] at hDay
    rw [hMonth, hDecember]
    split <;> omega

theorem daysBeforeYear_mono {year later : Int} (h : year ≤ later) :
    daysBeforeYear year ≤ daysBeforeYear later := by
  simp only [daysBeforeYear]
  omega

theorem dayNumber_lt_of_lt (h : d < e) : d.dayNumber < e.dayNumber := by
  have hFirst := e.day_pos
  have hLast := d.day_le
  rcases lt_iff.mp h with hYear | ⟨hYear, hMonth | ⟨hMonth, hDay⟩⟩
  · have hEnd := dayNumber_le_yearEnd d
    have hMono := daysBeforeYear_mono (Int.add_one_le_of_lt hYear)
    rw [dayNumber.eq_def e]
    omega
  · have hOver := daysBeforeMonth_add_le d.year d.month_pos hMonth
    rw [dayNumber, dayNumber, ← hYear]
    omega
  · rw [dayNumber, dayNumber, ← hYear, ← hMonth]
    omega

theorem lt_trichotomy (d e : Date) : d < e ∨ d = e ∨ e < d := by
  rw [lt_iff, lt_iff]
  by_cases hSame : d.year = e.year ∧ d.month = e.month ∧ d.day = e.day
  · exact .inr (.inl (eq_of_numbers hSame.1 hSame.2.1 hSame.2.2))
  · omega

theorem dayNumber_lt_iff : d.dayNumber < e.dayNumber ↔ d < e := by
  refine ⟨fun h => ?_, dayNumber_lt_of_lt⟩
  rcases lt_trichotomy d e with hLt | rfl | hGt
  · exact hLt
  · exact absurd h (Int.lt_irrefl _)
  · exact absurd (Int.lt_trans h (dayNumber_lt_of_lt hGt)) (Int.lt_irrefl _)

/-- No two dates have one number. -/
theorem dayNumber_inj : d.dayNumber = e.dayNumber ↔ d = e := by
  refine ⟨fun h => ?_, congrArg dayNumber⟩
  rcases lt_trichotomy d e with hLt | hEq | hGt
  · exact absurd h (Int.ne_of_lt (dayNumber_lt_of_lt hLt))
  · exact hEq
  · exact absurd h.symm (Int.ne_of_lt (dayNumber_lt_of_lt hGt))

theorem dayNumber_le_iff : d.dayNumber ≤ e.dayNumber ↔ d ≤ e := by
  rw [Int.le_iff_lt_or_eq, dayNumber_lt_iff, dayNumber_inj]
  rfl

end Numbers

section Ends

theorem first_le (d : Date) : first.dayNumber ≤ d.dayNumber := by
  have hYear := d.firstYear_le
  have hMonth := d.month_pos
  have hDay := d.day_pos
  rw [dayNumber_le_iff]
  rcases lt_trichotomy first d with hLt | hEq | hGt
  · exact .inl hLt
  · exact .inr hEq
  · change d.year < firstYear ∨ d.year = firstYear ∧ (d.month < 1 ∨ d.month = 1 ∧ d.day < 1) at hGt
    omega

theorem le_last (d : Date) : d.dayNumber ≤ last.dayNumber := by
  have hYear := d.le_lastYear
  have hMonth := d.month_le
  have hDay := Nat.le_trans d.day_le (daysInMonth_le d.year d.month)
  rw [dayNumber_le_iff]
  rcases lt_trichotomy last d with hLt | hEq | hGt
  · change lastYear < d.year ∨
      lastYear = d.year ∧ (12 < d.month ∨ 12 = d.month ∧ 31 < d.day) at hLt
    omega
  · exact .inr hEq.symm
  · exact .inl hGt

theorem dayNumber_first : first.dayNumber = -95746129 := by decide

theorem dayNumber_last : last.dayNumber = 95745399 := by decide

theorem of?_ne_none {year : Int} {month day : Nat} (hFirst : firstYear ≤ year)
    (hLast : year ≤ lastYear) (hMonthPos : 1 ≤ month) (hMonth : month ≤ 12) (hDayPos : 1 ≤ day)
    (hDay : day ≤ daysInMonth year month) : of? year month day ≠ none := by
  rw [of?, dif_pos ⟨hFirst, hLast, hMonthPos, hMonth, hDayPos, hDay⟩]
  exact Option.some_ne_none _

/-- Only the last day has none after it. -/
theorem eq_last_of_next? (h : d.next? = none) : d = last := by
  have hFirst := d.firstYear_le
  have hLast := d.le_lastYear
  have hMonth := d.month_le
  rw [next?] at h
  split at h
  · next hInside =>
    exact absurd h (of?_ne_none hFirst hLast d.month_pos hMonth (Nat.le_add_left 1 _) hInside)
  · next hOver =>
    split at h
    · next hInside =>
      exact absurd h (of?_ne_none hFirst hLast (Nat.le_add_left 1 _) hInside (Nat.le_refl 1)
        (daysInMonth_pos _ _))
    · next hYearOver =>
      have hDecember : d.month = 12 := by omega
      have hDay : d.day = daysInMonth d.year d.month :=
        Nat.le_antisymm d.day_le (Nat.le_of_not_lt hOver)
      have hYear : d.year = lastYear := by
        rcases Int.lt_or_eq_of_le hLast with hLess | hYear
        · exact absurd h (of?_ne_none (by omega) hLess (Nat.le_refl 1) (by decide) (Nat.le_refl 1)
            (daysInMonth_pos _ _))
        · exact hYear
      rw [hDecember] at hDay
      exact eq_of_numbers hYear hDecember hDay

/-- Only the first day has none before it. -/
theorem eq_first_of_prev? (h : d.prev? = none) : d = first := by
  have hFirst := d.firstYear_le
  have hLast := d.le_lastYear
  have hMonth := d.month_le
  have hMonthPos := d.month_pos
  have hDay := d.day_le
  have hDayPos := d.day_pos
  rw [prev?] at h
  split at h
  · exact absurd h (of?_ne_none hFirst hLast hMonthPos hMonth (by omega) (by omega))
  · next hOver =>
    split at h
    · exact absurd h (of?_ne_none hFirst hLast (by omega) (by omega) (daysInMonth_pos _ _)
        (Nat.le_refl _))
    · next hYearOver =>
      have hYear : d.year = firstYear := by
        rcases Int.lt_or_eq_of_le hFirst with hMore | hYear
        · exact absurd h (of?_ne_none (by omega) (by omega) (by decide) (by decide) (by decide)
            (Nat.le_refl 31))
        · exact hYear.symm
      exact eq_of_numbers hYear (Nat.le_antisymm (Nat.le_of_not_lt hYearOver) hMonthPos)
        (Nat.le_antisymm (Nat.le_of_not_lt hOver) hDayPos)

end Ends

section Steps

/-- The day after has the number after. -/
theorem dayNumber_next? (h : d.next? = some e) : e.dayNumber = d.dayNumber + 1 := by
  rw [next?] at h
  split at h
  · obtain ⟨hYear, hMonth, hDay⟩ := of?_eq_some h
    simp only [dayNumber, hYear, hMonth, hDay]
    omega
  · have hLength : d.day = daysInMonth d.year d.month := by
      have hDay := d.day_le
      omega
    split at h
    · obtain ⟨hYear, hMonth, hDay⟩ := of?_eq_some h
      obtain ⟨month, hPlace⟩ := Nat.exists_eq_add_of_le' d.month_pos
      have hSum := daysBeforeMonth_succ d.year month
      simp only [dayNumber, hYear, hMonth, hDay, hLength, hPlace, hSum]
      omega
    · obtain ⟨hYear, hMonth, hDay⟩ := of?_eq_some h
      have hDecember : d.month = 12 := by
        have hMonthLe := d.month_le
        omega
      have hThirtyOne : daysInMonth d.year 12 = 31 := rfl
      have hFirst : daysBeforeMonth (d.year + 1) 1 = 0 := rfl
      simp only [dayNumber, hYear, hMonth, hDay, hLength, hDecember, hFirst, hThirtyOne,
        daysBeforeMonth_december, daysBeforeYear_succ]
      split <;> omega

theorem dayNumber_after? (h : d.after? n = some e) : e.dayNumber = d.dayNumber + n := by
  induction n generalizing d with
  | zero =>
      cases h
      simp
  | succ n ih =>
      obtain ⟨p, hNext, hAfter⟩ := Option.bind_eq_some_iff.mp h
      have hStep := dayNumber_next? hNext
      have hRest := ih hAfter
      omega

/-- Steps forward are possible up to the last day. -/
theorem isSome_after?_iff : (d.after? n).isSome ↔ d.dayNumber + n ≤ last.dayNumber := by
  constructor
  · intro h
    obtain ⟨e, hAfter⟩ := Option.isSome_iff_exists.mp h
    have hNumber := dayNumber_after? hAfter
    have hLast := e.le_last
    omega
  · intro h
    induction n generalizing d with
    | zero => rfl
    | succ n ih =>
        cases hNext : d.next? with
        | none =>
            rw [eq_last_of_next? hNext] at h
            omega
        | some p =>
            have hStep := dayNumber_next? hNext
            rw [after?, hNext]
            exact ih (by omega)

/-- Steps back are possible down to the first day. -/
theorem isSome_before?_iff : (d.before? n).isSome ↔ first.dayNumber ≤ d.dayNumber - n := by
  constructor
  · intro h
    obtain ⟨e, hBefore⟩ := Option.isSome_iff_exists.mp h
    have hNumber := dayNumber_before? hBefore
    have hFirst := e.first_le
    omega
  · intro h
    induction n generalizing d with
    | zero => rfl
    | succ n ih =>
        cases hPrev : d.prev? with
        | none =>
            rw [eq_first_of_prev? hPrev] at h
            omega
        | some p =>
            have hStep := dayNumber_prev? hPrev
            rw [before?, hPrev]
            exact ih (by omega)

/-- Steps forward lead to the date with the number as much higher. -/
theorem after?_eq_some_iff : d.after? n = some e ↔ e.dayNumber = d.dayNumber + n := by
  refine ⟨dayNumber_after?, fun h => ?_⟩
  have hLast := e.le_last
  rw [h] at hLast
  obtain ⟨p, hAfter⟩ := Option.isSome_iff_exists.mp (isSome_after?_iff.mpr hLast)
  have hNumber := dayNumber_after? hAfter
  rw [hAfter, dayNumber_inj.mp (hNumber.trans h.symm)]

/-- Steps back lead to the date with the number as much lower. -/
theorem before?_eq_some_iff : d.before? n = some e ↔ e.dayNumber = d.dayNumber - n := by
  refine ⟨dayNumber_before?, fun h => ?_⟩
  have hFirst := e.first_le
  rw [h] at hFirst
  obtain ⟨p, hBefore⟩ := Option.isSome_iff_exists.mp (isSome_before?_iff.mpr hFirst)
  have hNumber := dayNumber_before? hBefore
  rw [hBefore, dayNumber_inj.mp (hNumber.trans h.symm)]

end Steps

end EquipmentBooking.Date

import EquipmentBooking.Proofs.Calendar.Order

/-! Weeks in terms of day numbers. The Monday of a date is the one Monday in whose week the date lies,
and a whole week has each day once. -/
namespace EquipmentBooking

namespace Weekday

theorem index_inj {day other : Weekday} : day.index = other.index ↔ day = other := by
  cases day <;> cases other <;> decide

theorem index_next (day : Weekday) : day.next.index = (day.index + 1) % 7 := by
  cases day <;> rfl

end Weekday

namespace Date

variable {d e monday : Date} {day : Weekday}

theorem weekday_eq_iff : d.weekday = day ↔ (d.dayNumber - 1) % 7 = day.index := by
  rw [← index_weekday, Int.natCast_inj, Weekday.index_inj]

theorem weekday_eq_monday_iff : d.weekday = .monday ↔ (d.dayNumber - 1) % 7 = 0 :=
  weekday_eq_iff

/-- The days of the week follow each other from date to date, across months and years. -/
theorem weekday_next? (h : d.next? = some e) : e.weekday = d.weekday.next := by
  have hNumber := dayNumber_next? h
  have hIndex := index_weekday d
  rw [weekday_eq_iff, Weekday.index_next]
  omega

theorem mem_week_iff :
    e ∈ d.week ↔ d.dayNumber ≤ e.dayNumber ∧ e.dayNumber < d.dayNumber + 7 := by
  simp only [week, List.mem_filterMap, List.mem_range, after?_eq_some_iff]
  constructor
  · rintro ⟨n, hSeven, hNumber⟩
    omega
  · rintro ⟨hFrom, hTo⟩
    exact ⟨(e.dayNumber - d.dayNumber).toNat, by omega, by omega⟩

/-- A week is whole if its seventh day is not beyond the end. -/
theorem length_week_eq_iff : d.week.length = 7 ↔ d.dayNumber + 6 ≤ last.dayNumber := by
  have hLength := List.filterMap_length_eq_length (f := d.after?) (l := List.range 7)
  rw [List.length_range] at hLength
  rw [week, hLength]
  simp only [List.mem_range, isSome_after?_iff]
  constructor
  · intro hAll
    exact hAll 6 (by decide)
  · intro hSeventh n hSeven
    omega

/-- The Monday of a date is the Monday in whose week it lies. If the calendar has that Monday, it
is found. -/
theorem weekCommencing?_eq_some_iff :
    d.weekCommencing? = some monday ↔ monday.weekday = .monday ∧ d ∈ monday.week := by
  have hIndex := index_weekday d
  rw [weekCommencing?, before?_eq_some_iff, weekday_eq_monday_iff, mem_week_iff]
  omega

/-- A Monday is the Monday of its own week. -/
theorem weekCommencing?_of_monday (h : monday.weekday = .monday) :
    monday.weekCommencing? = some monday := by
  rw [weekCommencing?_eq_some_iff, mem_week_iff]
  exact ⟨h, Int.le_refl _, by omega⟩

theorem weekday_last : last.weekday = .monday := by
  rw [weekday_eq_monday_iff, dayNumber_last]
  decide

theorem dayNumber_firstMonday : firstMonday.dayNumber = -95746125 := by decide

/-- Only the dates before the first Monday have none. -/
theorem weekCommencing?_eq_none_iff : d.weekCommencing? = none ↔ d < firstMonday := by
  have hIndex := index_weekday d
  have hFirst := d.first_le
  rw [← Option.not_isSome_iff_eq_none, weekCommencing?, isSome_before?_iff, ← dayNumber_lt_iff,
    dayNumber_firstMonday]
  rw [dayNumber_first] at hFirst ⊢
  omega

theorem SameWeek.symm (h : d.SameWeek e) : e.SameWeek d := by
  obtain ⟨monday, hMonday, hFirst, hSecond⟩ := h
  exact ⟨monday, hMonday, hSecond, hFirst⟩

/-- Dates of one week have one Monday. -/
theorem sameWeek_iff (h : d.weekCommencing? = some monday) :
    d.SameWeek e ↔ e.weekCommencing? = some monday := by
  rw [weekCommencing?_eq_some_iff]
  constructor
  · rintro ⟨other, hOther, hFirst, hSecond⟩
    rw [weekCommencing?_eq_some_iff.mpr ⟨hOther, hFirst⟩] at h
    cases h
    exact ⟨hOther, hSecond⟩
  · rintro ⟨hMonday, hSecond⟩
    exact ⟨monday, hMonday, (weekCommencing?_eq_some_iff.mp h).2, hSecond⟩

theorem weekCommencing?_mono {first second : Date} (hFirst : d.weekCommencing? = some first)
    (hSecond : e.weekCommencing? = some second) (h : d ≤ e) : first ≤ second := by
  rw [weekCommencing?_eq_some_iff, weekday_eq_monday_iff, mem_week_iff] at hFirst hSecond
  rw [← dayNumber_le_iff] at h ⊢
  omega

/-- So many days after a Monday it is the day of that index, the only one of its name in the week. -/
theorem after?_index_iff (hMonday : monday.weekday = .monday) :
    monday.after? day.index = some d ↔ d ∈ monday.week ∧ d.weekday = day := by
  have hSeven := day.index_lt
  rw [weekday_eq_monday_iff] at hMonday
  rw [after?_eq_some_iff, mem_week_iff, weekday_eq_iff]
  omega

/-- A whole week has every day. -/
theorem exists_after?_index (hWhole : monday.week.length = 7) (day : Weekday) :
    ∃ d, monday.after? day.index = some d := by
  have hSeven := day.index_lt
  rw [length_week_eq_iff] at hWhole
  exact Option.isSome_iff_exists.mp (isSome_after?_iff.mpr (by omega))

/-- The calendar ends on a Monday, so only the other days of that week are beyond its end. -/
theorem after?_index_eq_none_iff (hMonday : monday.weekday = .monday) :
    monday.after? day.index = none ↔ monday = last ∧ day ≠ .monday := by
  have hSeven := day.index_lt
  have hLast := monday.le_last
  have hFirstDay : Weekday.monday.index = 0 := rfl
  rw [weekday_eq_monday_iff] at hMonday
  rw [← Option.not_isSome_iff_eq_none, isSome_after?_iff, ← dayNumber_inj, ne_eq,
    ← Weekday.index_inj, hFirstDay]
  rw [dayNumber_last] at hLast ⊢
  omega

end Date

end EquipmentBooking

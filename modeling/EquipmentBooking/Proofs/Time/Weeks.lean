import EquipmentBooking.Proofs.Calendar.Week
import EquipmentBooking.Proofs.Time.Forms

/-! Weeks of dates and the dates of slots. A slot falls on the one date of its week that has its day, so
it does not matter by which date of the week it was given. -/
namespace EquipmentBooking

namespace Date

variable {d e given monday : Date}

/-- The Monday of a date comes at most six days before it. -/
theorem weekCommencing?_bounds (h : d.weekCommencing? = some monday) :
    monday ≤ d ∧ d.dayNumber ≤ monday.dayNumber + 6 := by
  rw [weekCommencing?_eq_some_iff, mem_week_iff] at h
  rw [← dayNumber_le_iff]
  omega

theorem weekCommencing?_eq_iff {first second : Date} (hFirst : d.weekCommencing? = some first)
    (hSecond : e.weekCommencing? = some second) : first = second ↔ d.SameWeek e := by
  rw [sameWeek_iff hFirst, hSecond, Option.some_inj, eq_comm]

/-- In a whole week there is one date for each day. -/
theorem exists_of_inWholeWeek (h : given.InWholeWeek) (day : Weekday) :
    ∃ monday date, given.weekCommencing? = some monday ∧ monday.after? day.index = some date ∧
      date.SameWeek given ∧ date.weekday = day ∧
      ∀ other : Date, other.SameWeek given → other.weekday = day → other = date := by
  obtain ⟨monday, hMonday, hGiven, hWhole⟩ := h
  have hWeek := weekCommencing?_eq_some_iff.mpr ⟨hMonday, hGiven⟩
  obtain ⟨date, hDate⟩ := exists_after?_index hWhole day
  obtain ⟨hMem, hDay⟩ := (after?_index_iff hMonday).mp hDate
  refine ⟨monday, date, hWeek, hDate, ⟨monday, hMonday, hMem, hGiven⟩, hDay, ?_⟩
  intro other hOther hOtherDay
  obtain ⟨-, hOtherMem⟩ :=
    weekCommencing?_eq_some_iff.mp ((sameWeek_iff hWeek).mp hOther.symm)
  have hSame := (after?_index_iff hMonday).mpr ⟨hOtherMem, hOtherDay⟩
  rw [hDate] at hSame
  exact (Option.some.inj hSame).symm

end Date

/-- A slot that is stated by a date of a week resolves to the Monday of that week, and its date is so
many days later as its day says. -/
theorem TypedTime.resolve_of_slot {t : TypedTime} {given monday date : Date} {day : Weekday}
    {start finish : TimeOfDay} (hForm : t.form? = some .slot)
    (hStates : t.States (.slot given day start finish)) (hWeek : given.weekCommencing? = some monday)
    (hDate : monday.after? day.index = some date) :
    ∃ booked, t.resolve = .ok (.ok booked) ∧ booked.date = .ok date := by
  have hChosen := readChosen_eq_ok_iff.mpr ⟨hForm, hStates⟩
  refine ⟨.slot monday day start finish, resolve_eq_ok_iff.mpr ⟨_, hChosen, ?_⟩, ?_⟩
  · rw [BookedTime.onMonday?, hWeek, Option.map_some]
  · simp only [BookedTime.date, hDate]

/-- Days follow each other, and every date belongs to the week that began with the last Monday, if the
calendar has that Monday. That Monday is found for every date, the same for the dates of one week and
no earlier one for later dates. A slot in a week that the calendar has whole falls on the one date of
the week with its day, by whichever date of the week it was given. -/
theorem weeks_from_monday_to_sunday :
    (∀ d e : Date, d.next? = some e → e.weekday = d.weekday.next) ∧
    (∀ d monday : Date,
      d.weekCommencing? = some monday ↔ monday.weekday = .monday ∧ d ∈ monday.week) ∧
    (∀ d monday : Date, d.weekCommencing? = some monday →
      (monday ≤ d ∧ d.dayNumber ≤ monday.dayNumber + 6) ∧
        monday.weekCommencing? = some monday) ∧
    (∀ d e first second : Date,
      d.weekCommencing? = some first → e.weekCommencing? = some second →
        (d ≤ e → first ≤ second) ∧ (first = second ↔ d.SameWeek e)) ∧
    ∀ (t : TypedTime) (given : Date) (day : Weekday) (start finish : TimeOfDay),
      t.form? = some .slot → t.States (.slot given day start finish) → given.InWholeWeek →
        ∃ booked date, t.resolve = .ok (.ok booked) ∧ booked.date = .ok date ∧
          date.SameWeek given ∧ date.weekday = day ∧
          (∀ other : Date, other.SameWeek given → other.weekday = day → other = date) ∧
          ∀ (u : TypedTime) (other : Date) (start finish : TimeOfDay), u.form? = some .slot →
            u.States (.slot other day start finish) → given.SameWeek other →
              ∃ booked, u.resolve = .ok (.ok booked) ∧ booked.date = .ok date := by
  refine ⟨fun d e => Date.weekday_next?, fun d monday => Date.weekCommencing?_eq_some_iff, ?_, ?_,
    ?_⟩
  · intro d monday hWeek
    obtain ⟨hMonday, -⟩ := Date.weekCommencing?_eq_some_iff.mp hWeek
    exact ⟨Date.weekCommencing?_bounds hWeek, Date.weekCommencing?_of_monday hMonday⟩
  · intro d e first second hFirst hSecond
    exact ⟨Date.weekCommencing?_mono hFirst hSecond, Date.weekCommencing?_eq_iff hFirst hSecond⟩
  · intro t given day start finish hForm hStates hWhole
    obtain ⟨monday, date, hWeek, hDate, hSame, hDay, hOnly⟩ :=
      Date.exists_of_inWholeWeek hWhole day
    obtain ⟨booked, hResolve, hBooked⟩ := TypedTime.resolve_of_slot hForm hStates hWeek hDate
    refine ⟨booked, date, hResolve, hBooked, hSame, hDay, hOnly, ?_⟩
    intro u other otherStart otherFinish hOtherForm hOtherStates hOther
    exact TypedTime.resolve_of_slot hOtherForm hOtherStates ((Date.sameWeek_iff hWeek).mp hOther)
      hDate

def tuesdayBeforeYearZero : Date :=
  (Date.of? (-1) 12 28).get rfl

def saturdayOfYearZero : Date :=
  (Date.of? 0 1 1).get rfl

def sundayOfYearZero : Date :=
  (Date.of? 0 1 2).get rfl

/-- Slots for that Sunday, given by dates of its week that lie in two years. -/
theorem weeks_from_monday_to_sunday_across_years :
    ∃ booked other,
      (TypedTime.ofSlot "-0001-12-28" "Sunday" "09:00" "10:00").resolve = .ok (.ok booked) ∧
      (TypedTime.ofSlot "0-1-1" "sunday" "23:00" "23:59").resolve = .ok (.ok other) ∧
      booked.date = .ok sundayOfYearZero ∧ other.date = .ok sundayOfYearZero := by
  let monday : Date := (Date.of? (-1) 12 27).get rfl
  have hMonday : monday.weekday = .monday := Date.weekday_eq_monday_iff.mpr (by decide)
  have hTuesday : tuesdayBeforeYearZero ∈ monday.week := Date.mem_week_iff.mpr (by decide)
  have hSaturday : saturdayOfYearZero ∈ monday.week := Date.mem_week_iff.mpr (by decide)
  have hSunday : sundayOfYearZero ∈ monday.week := Date.mem_week_iff.mpr (by decide)
  have hWhole : monday.week.length = 7 := by
    rw [Date.length_week_eq_iff, Date.dayNumber_last]
    decide
  obtain ⟨-, -, -, -, hSlots⟩ := weeks_from_monday_to_sunday
  obtain ⟨booked, date, hBooked, hDate, -, -, hOnly, hOther⟩ :=
    hSlots (.ofSlot "-0001-12-28" "Sunday" "09:00" "10:00") tuesdayBeforeYearZero .sunday ⟨9, 0⟩
      ⟨10, 0⟩ rfl ⟨rfl, rfl, rfl, rfl, by decide⟩ ⟨monday, hMonday, hTuesday, hWhole⟩
  obtain ⟨other, hResolve, hSame⟩ :=
    hOther (.ofSlot "0-1-1" "sunday" "23:00" "23:59") saturdayOfYearZero ⟨23, 0⟩ ⟨23, 59⟩ rfl
      ⟨rfl, rfl, rfl, rfl, by decide⟩ ⟨monday, hMonday, hTuesday, hSaturday⟩
  have hDay : sundayOfYearZero.weekday = .sunday := Date.weekday_eq_iff.mpr (by decide)
  have hIs : sundayOfYearZero = date :=
    hOnly sundayOfYearZero ⟨monday, hMonday, hSunday, hTuesday⟩ hDay
  rw [← hIs] at hDate hSame
  exact ⟨booked, other, hBooked, hResolve, hDate, hSame⟩

end EquipmentBooking

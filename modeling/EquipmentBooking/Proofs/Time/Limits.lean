import EquipmentBooking.Proofs.Calendar.Week
import EquipmentBooking.Proofs.Time.Forms

/-! Where typed times have no answer. Both computations with days leave the calendar at one of its
ends: the step back to the Monday of a week at its beginning, and the step on to the day of a slot
at its end. -/
namespace EquipmentBooking

namespace BookedTime

theorem onMonday?_eq_none_iff {stated : BookedTime} :
    stated.onMonday? = none ↔
      ∃ given day start finish, stated = .slot given day start finish ∧ given < Date.firstMonday := by
  cases stated with
  | window => simp [onMonday?]
  | slot given day start finish => simp [onMonday?, Date.weekCommencing?_eq_none_iff]

theorem date_eq_error_iff {booked : BookedTime} {fault : Fault} :
    booked.date = .error fault ↔
      fault = .calendarEnds ∧ ∃ monday day start finish,
        booked = .slot monday day start finish ∧ monday.after? day.index = none := by
  cases booked with
  | window => simp [date]
  | slot monday day start finish =>
      cases hAfter : monday.after? day.index <;> simp [date, hAfter, eq_comm]

/-- The week of a slot is given by a Monday. -/
theorem weekday_of_onMonday? {stated : BookedTime} {monday : Date} {day : Weekday}
    {start finish : TimeOfDay} (h : stated.onMonday? = some (.slot monday day start finish)) :
    monday.weekday = .monday := by
  cases stated with
  | window => cases h
  | slot given =>
      obtain ⟨found, hWeek, hSame⟩ := Option.map_eq_some_iff.mp h
      cases hSame
      exact (Date.weekCommencing?_eq_some_iff.mp hWeek).1

end BookedTime

namespace TypedTime

/-- Typed times have no answer in two cases only. A slot is given by a date before the first Monday of
the calendar, or it lies in the week that begins with the last day and not on that day. -/
theorem faults_only_at_calendar_ends (t : TypedTime) :
    (∀ fault, t.resolve = .error fault ↔ fault = .calendarEnds ∧ t.form? = some .slot ∧
      ∃ given day start finish, t.States (.slot given day start finish) ∧
        given < Date.firstMonday) ∧
    ∀ booked, t.resolve = .ok (.ok booked) → ∀ fault, booked.date = .error fault ↔
      fault = .calendarEnds ∧ ∃ day start finish,
        booked = .slot Date.last day start finish ∧ day ≠ .monday := by
  constructor
  · intro fault
    simp only [resolve_eq_fault_iff, readChosen_eq_ok_iff, BookedTime.onMonday?_eq_none_iff]
    apply and_congr_right
    intro _
    constructor
    · rintro ⟨stated, ⟨hForm, hStates⟩, given, day, start, finish, rfl, hEarly⟩
      exact ⟨hForm, given, day, start, finish, hStates, hEarly⟩
    · rintro ⟨hForm, given, day, start, finish, hStates, hEarly⟩
      exact ⟨.slot given day start finish, ⟨hForm, hStates⟩, given, day, start, finish, rfl, hEarly⟩
  · intro booked hResolve fault
    obtain ⟨stated, -, hMonday⟩ := resolve_eq_ok_iff.mp hResolve
    rw [BookedTime.date_eq_error_iff]
    apply and_congr_right
    intro _
    constructor
    · rintro ⟨monday, day, start, finish, rfl, hBeyond⟩
      have hWeekday := BookedTime.weekday_of_onMonday? hMonday
      obtain ⟨rfl, hLater⟩ := (Date.after?_index_eq_none_iff hWeekday).mp hBeyond
      exact ⟨day, start, finish, rfl, hLater⟩
    · rintro ⟨day, start, finish, rfl, hLater⟩
      have hWeekday := BookedTime.weekday_of_onMonday? hMonday
      exact ⟨Date.last, day, start, finish, rfl,
        (Date.after?_index_eq_none_iff hWeekday).mpr ⟨rfl, hLater⟩⟩

/-- A slot in the week before the first Monday, given by its Sunday. -/
def slotBeforeFirstMonday : TypedTime :=
  .ofSlot "-262143-01-04" "monday" "09:15" "10:00"

def slotAfterLastDay : TypedTime :=
  .ofSlot "+262142-12-31" "tuesday" "09:15" "10:00"

/-- Neither slot is turned away as a time that cannot be, so not all typed times have an answer. -/
theorem no_answer_at_calendar_ends :
    slotBeforeFirstMonday.resolve = .error .calendarEnds ∧
      (∃ booked, slotAfterLastDay.resolve = .ok (.ok booked) ∧
        booked.date = .error .calendarEnds) ∧
      ¬ ∀ t : TypedTime, ∃ result, t.resolve = .ok result ∧
        ∀ booked, result = .ok booked → ∃ date, booked.date = .ok date := by
  have hEarly : slotBeforeFirstMonday.resolve = .error .calendarEnds := by
    have hChosen : slotBeforeFirstMonday.readChosen = .ok (.slot _ _ _ _) := rfl
    rw [resolve_eq_fault_iff]
    refine ⟨rfl, _, hChosen, ?_⟩
    rw [BookedTime.onMonday?_eq_none_iff]
    exact ⟨_, _, _, _, rfl, .inr ⟨rfl, .inr ⟨rfl, by decide⟩⟩⟩
  have hLate : slotAfterLastDay.resolve =
      .ok (.ok (.slot Date.last .tuesday ⟨9, 15⟩ ⟨10, 0⟩)) := by
    have hChosen : slotAfterLastDay.readChosen =
      .ok (.slot Date.last .tuesday ⟨9, 15⟩ ⟨10, 0⟩) := rfl
    rw [resolve_eq_ok_iff]
    refine ⟨_, hChosen, ?_⟩
    rw [BookedTime.onMonday?, Date.weekCommencing?_of_monday Date.weekday_last, Option.map_some]
  have hBeyond : Date.last.after? Weekday.tuesday.index = none :=
    (Date.after?_index_eq_none_iff Date.weekday_last).mpr ⟨rfl, by decide⟩
  refine ⟨hEarly, ⟨_, hLate, BookedTime.date_eq_error_iff.mpr ⟨rfl, _, _, _, _, rfl, hBeyond⟩⟩, ?_⟩
  intro hAnswers
  obtain ⟨result, hResult, -⟩ := hAnswers slotBeforeFirstMonday
  rw [hEarly] at hResult
  cases hResult

end TypedTime

end EquipmentBooking

import EquipmentBooking.Proofs.Calendar.Days
import EquipmentBooking.Proofs.Except
import EquipmentBooking.Proofs.Text.Trim
import EquipmentBooking.Time.Fields

/-! Reading typed times, form by form: when a form can be read and what it states then, and that nothing
but the text between the blanks of its own fields has an influence. -/
namespace EquipmentBooking

section Parts

variable {raw first second : String} {start finish : TimeOfDay}

theorem readTypedDate_eq_ok_iff {date : Date} :
    readTypedDate raw = .ok date ↔ Calendar.readDate raw.toList = .ok date :=
  mapError_eq_ok

theorem readTypedTime_eq_ok_iff {time : TimeOfDay} :
    readTypedTime raw = .ok time ↔ Calendar.readTimeOfDay raw.toList = .ok time :=
  mapError_eq_ok

theorem readDay_eq_ok_iff {day : Weekday} : readDay raw = .ok day ↔ Weekday.ofName? raw = some day := by
  rw [readDay]
  cases Weekday.ofName? raw <;> simp

/-- Two times are a span only if the second is the later one. -/
theorem readTypedSpan_eq_ok_iff :
    readTypedSpan first second = .ok (start, finish) ↔
      Calendar.readTimeOfDay first.toList = .ok start ∧
        Calendar.readTimeOfDay second.toList = .ok finish ∧ start.minutes < finish.minutes := by
  rw [readTypedSpan, bind_eq_ok]
  simp only [bind_eq_ok, readTypedTime_eq_ok_iff]
  constructor
  · rintro ⟨s, hStart, f, hFinish, hSpan⟩
    split at hSpan
    · cases hSpan
    · next hLater =>
      cases hSpan
      exact ⟨hStart, hFinish, Nat.lt_of_not_le hLater⟩
  · rintro ⟨hStart, hFinish, hLater⟩
    exact ⟨start, hStart, finish, hFinish, if_neg (Nat.not_le.mpr hLater)⟩

end Parts

namespace TypedTime

variable {t u : TypedTime} {booked : BookedTime} {form : TimeForm}

section Fields

/-- A field is filled in exactly when something is left of it without the blanks. -/
theorem isPresent_iff_content (field : Option String) :
    isPresent field = true ↔ content field ≠ "" := by
  cases field with
  | none => simp [isPresent, content, Text.trim_eq_empty_iff, Text.IsBlankText]
  | some text => simp [isPresent, content, Text.trim_eq_empty_iff]

theorem content_map_surround {front back : String} (hFront : Text.IsBlankText front)
    (hBack : Text.IsBlankText back) (field : Option String) :
    content (field.map fun text => front ++ text ++ back) = content field := by
  cases field with
  | none => rfl
  | some text => exact Text.trim_surround hFront hBack text

theorem field_mapTexts (t : TypedTime) (change : TimeField → String → String) (f : TimeField) :
    (t.mapTexts change).field f = (t.field f).map (change f) := by
  cases f <;> rfl

theorem fills_congr (h : t.AgreesOn u form) : t.Fills form ↔ u.Fills form := by
  unfold Fills
  refine forall₂_congr fun f hf => ?_
  rw [isPresent_iff_content, isPresent_iff_content, h f hf]

theorem hasWindow_iff (t : TypedTime) : t.hasWindow = true ↔ t.Fills .window := by
  simp [hasWindow, Fills, TimeForm.fields, field, and_assoc]

theorem hasSlot_iff (t : TypedTime) : t.hasSlot = true ↔ t.Fills .slot := by
  simp [hasSlot, Fills, TimeForm.fields, field, and_assoc]

end Fields

section Forms

/-- Reading the fields of a window gives what they state, and succeeds whenever they state anything. -/
theorem readWindow_eq_ok_iff :
    t.readWindow = .ok booked ↔ booked.form = .window ∧ t.States booked := by
  simp only [readWindow, bind_eq_ok, readTypedDate_eq_ok_iff]
  constructor
  · rintro ⟨date, hDate, ⟨start, finish⟩, hSpan, hBooked⟩
    cases hBooked
    exact ⟨rfl, hDate, readTypedSpan_eq_ok_iff.mp hSpan⟩
  · rintro ⟨hForm, hStates⟩
    cases booked with
    | window date start finish =>
        exact ⟨date, hStates.1, (start, finish), readTypedSpan_eq_ok_iff.mpr hStates.2, rfl⟩
    | slot => cases hForm

/-- The same for the fields of a slot. The date is still the one that was typed. -/
theorem readSlot_eq_ok_iff :
    t.readSlot = .ok booked ↔ booked.form = .slot ∧ t.States booked := by
  simp only [readSlot, bind_eq_ok, readTypedDate_eq_ok_iff, readDay_eq_ok_iff]
  constructor
  · rintro ⟨given, hGiven, day, hDay, ⟨start, finish⟩, hSpan, hBooked⟩
    cases hBooked
    exact ⟨rfl, hGiven, hDay, readTypedSpan_eq_ok_iff.mp hSpan⟩
  · rintro ⟨hForm, hStates⟩
    cases booked with
    | window => cases hForm
    | slot given day start finish =>
        obtain ⟨hGiven, hDay, hSpan⟩ := hStates
        exact ⟨given, hGiven, day, hDay, (start, finish), readTypedSpan_eq_ok_iff.mpr hSpan, rfl⟩

theorem readWindow_congr (h : t.AgreesOn u .window) : t.readWindow = u.readWindow := by
  simp only [AgreesOn, TimeForm.fields, field, List.forall_mem_cons] at h
  obtain ⟨hDate, hStart, hFinish, -⟩ := h
  rw [readWindow, readWindow, hDate, hStart, hFinish]

theorem readSlot_congr (h : t.AgreesOn u .slot) : t.readSlot = u.readSlot := by
  simp only [AgreesOn, TimeForm.fields, field, List.forall_mem_cons] at h
  obtain ⟨hWeek, hDay, hStart, hFinish, -⟩ := h
  rw [readSlot, readSlot, hWeek, hDay, hStart, hFinish]

/-- The fields are read by the form that they fill in. -/
theorem readChosen_eq (t : TypedTime) :
    t.readChosen =
      match t.form? with
      | none => .error (if t.manual then .manualIncomplete else .nothingComplete)
      | some .window => t.readWindow
      | some .slot => t.readSlot := by
  simp only [readChosen, form?, hasWindow_iff, hasSlot_iff]
  split_ifs <;> rfl

theorem readChosen_eq_ok_iff :
    t.readChosen = .ok booked ↔ t.form? = some booked.form ∧ t.States booked := by
  rw [readChosen_eq]
  cases hForm : t.form? with
  | none => simp
  | some form =>
      cases form with
      | window => rw [readWindow_eq_ok_iff, Option.some_inj, eq_comm]
      | slot => rw [readSlot_eq_ok_iff, Option.some_inj, eq_comm]

/-- Only the fields of the form that is read have an influence. -/
theorem readChosen_congr (hManual : t.manual = u.manual) (hForm : t.form? = u.form?)
    (hAgree : ∀ form, t.form? = some form → t.AgreesOn u form) : t.readChosen = u.readChosen := by
  rw [readChosen_eq, readChosen_eq, ← hForm, hManual]
  cases hCase : t.form? with
  | none => rfl
  | some form =>
      cases form with
      | window => exact readWindow_congr (hAgree .window hCase)
      | slot => exact readSlot_congr (hAgree .slot hCase)

end Forms

section Resolving

/-- What is read resolves once it has been moved to the Monday of its week. -/
theorem resolve_eq (t : TypedTime) :
    t.resolve =
      match t.readChosen with
      | .error issue => .ok (.error issue)
      | .ok stated =>
        match stated.onMonday? with
        | some booked => .ok (.ok booked)
        | none => .error .calendarEnds := by
  rw [resolve]
  rcases t.readChosen with issue | (⟨date, start, finish⟩ | ⟨given, day, start, finish⟩)
  · rfl
  · rfl
  · cases hMonday : given.weekCommencing? <;> simp [BookedTime.onMonday?, hMonday]

theorem resolve_eq_ok_iff :
    t.resolve = .ok (.ok booked) ↔
      ∃ stated, t.readChosen = .ok stated ∧ stated.onMonday? = some booked := by
  rw [resolve_eq]
  rcases t.readChosen with issue | stated
  · simp
  · cases hMonday : stated.onMonday? <;> simp [hMonday]

theorem resolve_eq_issue_iff {issue : TimeIssue} :
    t.resolve = .ok (.error issue) ↔ t.readChosen = .error issue := by
  rw [resolve_eq]
  rcases t.readChosen with other | stated
  · simp
  · cases hMonday : stated.onMonday? <;> simp [hMonday]

/-- There is no answer only for a time whose Monday the calendar does not have. -/
theorem resolve_eq_fault_iff {fault : Fault} :
    t.resolve = .error fault ↔
      fault = .calendarEnds ∧ ∃ stated, t.readChosen = .ok stated ∧ stated.onMonday? = none := by
  rw [resolve_eq]
  rcases t.readChosen with issue | stated
  · simp
  · cases hMonday : stated.onMonday? <;> simp [hMonday, eq_comm]

theorem resolve_congr (hManual : t.manual = u.manual) (hForm : t.form? = u.form?)
    (hAgree : ∀ form, t.form? = some form → t.AgreesOn u form) : t.resolve = u.resolve := by
  rw [resolve_eq, resolve_eq, readChosen_congr hManual hForm hAgree]

end Resolving

end TypedTime

end EquipmentBooking

import EquipmentBooking.Proofs.Calendar.Reading
import EquipmentBooking.Proofs.Calendar.Week
import EquipmentBooking.Proofs.Time.Forms

/-! What typed times resolve to can be typed itself: the fields that state a booked time in full resolve
to that very time. A slot has the Monday of its week then, which is the Monday of its own week. -/
namespace EquipmentBooking

open Calendar Text Text.Numeral

section Texts

theorem Date.isSolid_text (d : Date) : IsSolid d.text := by
  have hDigit (width n : Nat) (c : Char) (hc : c ∈ padded width n) : isBlank c = false :=
    isBlank_of_isDigit (isDigits_padded width n c hc)
  have hYear : ∀ c ∈ yearChars d.year, isBlank c = false := by
    intro c hc
    unfold yearChars at hc
    split at hc
    · rcases List.mem_cons.mp hc with rfl | hc
      · rfl
      · exact hDigit _ _ c hc
    · split at hc
      · rcases List.mem_cons.mp hc with rfl | hc
        · rfl
        · exact hDigit _ _ c hc
      · exact hDigit _ _ c hc
  constructor
  · intro hEmpty
    have hChars := congrArg String.toList hEmpty
    simp [text, chars] at hChars
  · intro c hc
    simp only [text, chars, String.toList_ofList, List.mem_append, List.mem_cons] at hc
    rcases hc with hc | rfl | hc | rfl | hc
    · exact hYear c hc
    · rfl
    · exact hDigit _ _ c hc
    · rfl
    · exact hDigit _ _ c hc

theorem TimeOfDay.isSolid_text (t : TimeOfDay) : IsSolid t.text := by
  constructor
  · intro hEmpty
    have hChars := congrArg String.toList hEmpty
    simp [text, chars] at hChars
  · intro c hc
    simp only [text, chars, String.toList_ofList, List.mem_append, List.mem_cons] at hc
    rcases hc with hc | rfl | hc
    · exact isBlank_of_isDigit (isDigits_padded _ _ c hc)
    · rfl
    · exact isBlank_of_isDigit (isDigits_padded _ _ c hc)

theorem Weekday.isSolid_name (day : Weekday) : IsSolid day.name := by
  have hAll : day.name.toList.all (fun c => !isBlank c) = true := by
    cases day <;> rfl
  constructor
  · cases day <;> decide
  · intro c hc
    simpa using List.all_eq_true.mp hAll c hc

theorem Weekday.ofName?_name (day : Weekday) : ofName? day.name = some day := by
  cases day <;> rfl

end Texts

namespace TypedTime

section Fields

variable {text : String}

theorem isPresent_of_isSolid (h : IsSolid text) : isPresent (some text) = true := by
  simp [isPresent, h.not_isBlankText]

theorem content_of_isSolid (h : IsSolid text) : content (some text) = text :=
  h.trim_eq

theorem readDate_content_text (d : Date) : readDate (content (some d.text)).toList = .ok d := by
  rw [content_of_isSolid d.isSolid_text, Date.text, String.toList_ofList, readDate_chars]

theorem readTimeOfDay_content_text (t : TimeOfDay) :
    readTimeOfDay (content (some t.text)).toList = .ok t := by
  rw [content_of_isSolid t.isSolid_text, TimeOfDay.text, String.toList_ofList, readTimeOfDay_chars]

theorem ofName?_content_name (day : Weekday) :
    Weekday.ofName? (content (some day.name)) = some day := by
  rw [content_of_isSolid day.isSolid_name, Weekday.ofName?_name]

end Fields

end TypedTime

namespace BookedTime

/-- A time that fields can resolve to: it ends after its start, and a slot names a Monday. -/
def IsResolved : BookedTime → Prop
  | window _ start finish => start.minutes < finish.minutes
  | slot monday _ start finish =>
    start.minutes < finish.minutes ∧ monday.weekCommencing? = some monday

def typed : BookedTime → TypedTime
  | window date start finish => .ofWindow date.text start.text finish.text
  | slot monday day start finish => .ofSlot monday.text day.name start.text finish.text

variable {booked : BookedTime}

/-- The fields of a booked time are read by its own form, since only windows carry the marker. -/
theorem form?_typed (booked : BookedTime) : booked.typed.form? = some booked.form := by
  cases booked with
  | window date start finish =>
      have hFills : (typed (.window date start finish)).Fills .window := by
        simp [TypedTime.Fills, TimeForm.fields, TypedTime.field, typed, TypedTime.ofWindow,
          TypedTime.isPresent_of_isSolid, date.isSolid_text, start.isSolid_text,
          finish.isSolid_text]
      rw [TypedTime.form?, if_pos hFills]
      rfl
  | slot monday day start finish =>
      have hFills : (typed (.slot monday day start finish)).Fills .slot := by
        simp [TypedTime.Fills, TimeForm.fields, TypedTime.field, typed, TypedTime.ofSlot,
          TypedTime.isPresent_of_isSolid, monday.isSolid_text, day.isSolid_name,
          start.isSolid_text, finish.isSolid_text]
      rw [TypedTime.form?, if_pos hFills]
      rfl

theorem states_typed (h : booked.IsResolved) : booked.typed.States booked := by
  cases booked with
  | window date start finish =>
      exact ⟨TypedTime.readDate_content_text date, TypedTime.readTimeOfDay_content_text start,
        TypedTime.readTimeOfDay_content_text finish, h⟩
  | slot monday day start finish =>
      exact ⟨TypedTime.readDate_content_text monday, TypedTime.ofName?_content_name day,
        TypedTime.readTimeOfDay_content_text start, TypedTime.readTimeOfDay_content_text finish,
        h.1⟩

theorem onMonday?_of_isResolved (h : booked.IsResolved) : booked.onMonday? = some booked := by
  cases booked with
  | window => rfl
  | slot => rw [onMonday?, h.2, Option.map_some]

/-- The fields that state a time resolve to it. -/
theorem resolve_typed (h : booked.IsResolved) : booked.typed.resolve = .ok (.ok booked) := by
  have hChosen : booked.typed.readChosen = .ok booked :=
    TypedTime.readChosen_eq_ok_iff.mpr ⟨booked.form?_typed, states_typed h⟩
  exact TypedTime.resolve_eq_ok_iff.mpr ⟨booked, hChosen, onMonday?_of_isResolved h⟩

/-- Whatever was typed, it resolves to a time that could have been typed in full. -/
theorem isResolved_of_resolve {t : TypedTime} (h : t.resolve = .ok (.ok booked)) :
    booked.IsResolved := by
  obtain ⟨stated, hChosen, hMonday⟩ := TypedTime.resolve_eq_ok_iff.mp h
  obtain ⟨-, hStates⟩ := TypedTime.readChosen_eq_ok_iff.mp hChosen
  cases stated with
  | window date start finish =>
      cases hMonday
      obtain ⟨-, -, -, hSpan⟩ := hStates
      exact hSpan
  | slot given day start finish =>
      obtain ⟨monday, hWeek, rfl⟩ := Option.map_eq_some_iff.mp hMonday
      obtain ⟨-, -, -, -, hSpan⟩ := hStates
      obtain ⟨hWeekday, -⟩ := Date.weekCommencing?_eq_some_iff.mp hWeek
      exact ⟨hSpan, Date.weekCommencing?_of_monday hWeekday⟩

end BookedTime

end EquipmentBooking

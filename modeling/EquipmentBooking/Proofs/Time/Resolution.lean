import EquipmentBooking.Proofs.Calendar.Week
import EquipmentBooking.Proofs.Time.Forms

/-! The order in which time fields are resolved. The form that is read is found from the marker and the
fields that are filled in; it alone decides, and there is no way back to the other form when it fails. -/
namespace EquipmentBooking.TypedTime

variable {t u : TypedTime}

section Choice

theorem form?_of_marked (h : t.manual = true) :
    t.form? = if t.Fills .window then some .window else none := by
  rw [form?, if_pos h]

theorem form?_of_unmarked (h : t.manual = false) :
    t.form? = if t.Fills .slot then some .slot
      else if t.Fills .window then some .window else none := by
  simp [form?, h]

/-- Which form is read depends only on the marker and on the fields that are filled in. -/
theorem form?_congr (hManual : t.manual = u.manual)
    (hPresent : ∀ f, isPresent (t.field f) = isPresent (u.field f)) : t.form? = u.form? := by
  simp [form?, Fills, hManual, hPresent]

/-- Under the marker only the fields of the window have an influence. -/
theorem resolve_congr_marked (hT : t.manual = true) (hU : u.manual = true)
    (h : t.AgreesOn u .window) : t.resolve = u.resolve := by
  apply resolve_congr (hT.trans hU.symm)
  · simp only [form?_of_marked hT, form?_of_marked hU, fills_congr h]
  · intro form hForm
    rw [form?_of_marked hT] at hForm
    split at hForm
    · cases hForm
      exact h
    · cases hForm

/-- A slot that is filled in wins, whatever stands in the other fields. -/
theorem resolve_congr_slot (hT : t.manual = false) (hU : u.manual = false) (hFills : t.Fills .slot)
    (h : t.AgreesOn u .slot) : t.resolve = u.resolve := by
  have hForm : t.form? = some .slot := by rw [form?_of_unmarked hT, if_pos hFills]
  apply resolve_congr (hT.trans hU.symm)
  · rw [hForm, form?_of_unmarked hU, if_pos ((fills_congr h).mp hFills)]
  · intro form hSome
    rw [hForm] at hSome
    cases hSome
    exact h

/-- Without the marker and without a slot that is filled in, only the fields of the window have
an influence. -/
theorem resolve_congr_window (hT : t.manual = false) (hU : u.manual = false)
    (hNotT : ¬ t.Fills .slot) (hNotU : ¬ u.Fills .slot) (h : t.AgreesOn u .window) :
    t.resolve = u.resolve := by
  apply resolve_congr (hT.trans hU.symm)
  · simp only [form?_of_unmarked hT, form?_of_unmarked hU, if_neg hNotT, if_neg hNotU,
      fills_congr h]
  · intro form hForm
    rw [form?_of_unmarked hT, if_neg hNotT] at hForm
    split at hForm
    · cases hForm
      exact h
    · cases hForm

/-- Blanks around what was typed make no difference, in no field. -/
theorem resolve_mapTexts_surround {front back : TimeField → String}
    (hFront : ∀ f, Text.IsBlankText (front f)) (hBack : ∀ f, Text.IsBlankText (back f)) :
    (t.mapTexts fun f text => front f ++ text ++ back f).resolve = t.resolve := by
  generalize hPadded : t.mapTexts (fun f text => front f ++ text ++ back f) = padded
  have hManual : padded.manual = t.manual := by rw [← hPadded, mapTexts]
  have hContent (f : TimeField) : content (padded.field f) = content (t.field f) := by
    rw [← hPadded, field_mapTexts, content_map_surround (hFront f) (hBack f)]
  apply resolve_congr hManual
  · apply form?_congr hManual
    intro f
    rw [Bool.eq_iff_iff, isPresent_iff_content, isPresent_iff_content, hContent]
  · exact fun form _ f _ => hContent f

end Choice

section Outcome

variable {form : TimeForm} {booked : BookedTime}

theorem resolve_of_none (h : t.form? = none) :
    t.resolve = .ok (.error (if t.manual then .manualIncomplete else .nothingComplete)) := by
  simp only [resolve_eq_issue_iff, readChosen_eq, h]

theorem movesTo_iff {stated : BookedTime} : stated.MovesTo booked ↔ stated.onMonday? = some booked := by
  cases stated with
  | window => simp [BookedTime.MovesTo, BookedTime.onMonday?, eq_comm]
  | slot given day start finish =>
      simp only [BookedTime.MovesTo, BookedTime.onMonday?, Option.map_eq_some_iff,
        Date.weekCommencing?_eq_some_iff, and_assoc]
      exact exists_congr fun monday => and_congr_right fun _ => and_congr_right fun _ => eq_comm

/-- What the form that is read states is the result, moved to the Monday of its week. -/
theorem resolve_eq_ok_iff_states (h : t.form? = some form) :
    t.resolve = .ok (.ok booked) ↔
      ∃ stated, stated.form = form ∧ t.States stated ∧ stated.MovesTo booked := by
  simp only [movesTo_iff, resolve_eq_ok_iff, readChosen_eq_ok_iff, h, Option.some_inj,
    eq_comm (a := form), and_assoc]

/-- If the form that is read states nothing there is an error, whatever the other form states. -/
theorem exists_issue_iff (h : t.form? = some form) :
    (∃ issue, t.resolve = .ok (.error issue)) ↔
      ¬ ∃ stated, stated.form = form ∧ t.States stated := by
  simp only [resolve_eq_issue_iff, ← not_exists_ok, readChosen_eq_ok_iff, h, Option.some_inj,
    eq_comm (a := form)]

/-- A date from the first Monday on has the Monday of its week. -/
theorem exists_resolve_of_clear
    (h : ∀ given, Calendar.readDate (content t.weekCommencing).toList = .ok given →
      Date.firstMonday ≤ given) : ∃ result, t.resolve = .ok result := by
  rcases hResolve : t.resolve with fault | result
  · obtain ⟨-, stated, hChosen, hMonday⟩ := resolve_eq_fault_iff.mp hResolve
    cases stated with
    | window => cases hMonday
    | slot given day start finish =>
        obtain ⟨-, hGiven, -⟩ := readChosen_eq_ok_iff.mp hChosen
        have hLate := h given hGiven
        rw [BookedTime.onMonday?, Option.map_eq_none_iff, Date.weekCommencing?_eq_none_iff,
          ← Date.dayNumber_lt_iff] at hMonday
        rw [← Date.dayNumber_le_iff] at hLate
        omega
  · exact ⟨result, rfl⟩

end Outcome

/-- What time fields resolve to, by the form that they fill in. -/
structure FollowsOrder (t : TypedTime) : Prop where
  /-- Without a form that is filled in there is an error. -/
  unfilled : t.form? = none →
    t.resolve = .ok (.error (if t.manual then .manualIncomplete else .nothingComplete))
  /-- The result is what the form states, moved to the Monday of its week. -/
  stated : ∀ form, t.form? = some form → ∀ booked, t.resolve = .ok (.ok booked) ↔
    ∃ stated, stated.form = form ∧ t.States stated ∧ stated.MovesTo booked
  /-- A form that states nothing is an error, even if the other form is filled in as well. -/
  unstated : ∀ form, t.form? = some form →
    ((∃ issue, t.resolve = .ok (.error issue)) ↔ ¬ ∃ stated, stated.form = form ∧ t.States stated)
  /-- Away from the beginning of the calendar there is always a result. -/
  returns : (∀ given, Calendar.readDate (content t.weekCommencing).toList = .ok given →
    Date.firstMonday ≤ given) → ∃ result, t.resolve = .ok result
  /-- Under the marker the date and the times of day alone decide. -/
  marked : t.manual = true → ∀ u, u.manual = true → t.AgreesOn u .window → t.resolve = u.resolve
  /-- A slot that is filled in alone decides. -/
  slot : t.manual = false → t.Fills .slot → ∀ u, u.manual = false → t.AgreesOn u .slot →
    t.resolve = u.resolve
  /-- Only without such a slot does the window decide, and then alone. -/
  window : t.manual = false → ¬ t.Fills .slot → ∀ u, u.manual = false → ¬ u.Fills .slot →
    t.AgreesOn u .window → t.resolve = u.resolve
  /-- A change in a field that is not read, or only to the blanks of one that is, changes nothing, as
  long as the same fields are filled in. -/
  unread : ∀ u, t.manual = u.manual → (∀ f, isPresent (t.field f) = isPresent (u.field f)) →
    (∀ form, t.form? = some form → t.AgreesOn u form) → t.resolve = u.resolve
  /-- Blanks around the text of any field change nothing. -/
  blanks : ∀ front back : TimeField → String, (∀ f, Text.IsBlankText (front f)) →
    (∀ f, Text.IsBlankText (back f)) →
    (t.mapTexts fun f text => front f ++ text ++ back f).resolve = t.resolve

/-- All time fields, whatever was typed into them, are resolved in this order. The results that are
equal are so with their errors. -/
theorem resolve_followsOrder (t : TypedTime) : t.FollowsOrder where
  unfilled := resolve_of_none
  stated _ hForm _ := resolve_eq_ok_iff_states hForm
  unstated _ hForm := exists_issue_iff hForm
  returns := exists_resolve_of_clear
  marked hT _ hU := resolve_congr_marked hT hU
  slot hT hFills _ hU := resolve_congr_slot hT hU hFills
  window hT hNotT _ hU hNotU := resolve_congr_window hT hU hNotT hNotU
  unread _ hManual hPresent := resolve_congr hManual (form?_congr hManual hPresent)
  blanks _ _ := resolve_mapTexts_surround

def slotOfNoDay : TypedTime :=
  { ofSlot "2024-03-13" "someday" "09:00" "10:00" with date := some "2024-03-12" }

/-- The slot fails, and the window is not tried. -/
theorem resolve_followsOrder_of_no_day : ∃ issue, slotOfNoDay.resolve = .ok (.error issue) := by
  have hForm : slotOfNoDay.form? = some .slot := rfl
  rw [(resolve_followsOrder slotOfNoDay).unstated .slot hForm]
  rintro ⟨stated, hSlot, hStates⟩
  cases stated with
  | window => cases hSlot
  | slot given day start finish =>
      obtain ⟨-, hDay, -⟩ := hStates
      have hNoDay : Weekday.ofName? (content slotOfNoDay.day) = none := rfl
      rw [hNoDay] at hDay
      cases hDay

end EquipmentBooking.TypedTime

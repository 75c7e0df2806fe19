import EquipmentBooking.ClashQuery
import EquipmentBooking.Form.Basic
import EquipmentBooking.Proofs.Except

/-! What a form without problems is, and why its query can be built: the validation and the query read
the same time fields. -/
namespace EquipmentBooking

theorem TypedTime.isPresent_iff (field : Option String) :
    isPresent field = true ↔ ∃ text, field = some text ∧ ¬ Text.IsBlankText text := by
  cases field with
  | none => simp [isPresent]
  | some text => simp [isPresent]

/-- A query can be built exactly when the time fields state a time. The lines of the roster are
never in the way. -/
theorem ClashQuery.build_eq_ok_iff {time : TypedTime} {kind : RosterKind}
    {entries : List RosterEntry} {query : ClashQuery} :
    build time kind entries = .ok (.ok query) ↔
      time.resolve = .ok (.ok query.time) ∧
        query.items = entries.map (QuantityParam.ofEntry kind) := by
  obtain ⟨booked, items⟩ := query
  rcases hResolve : time.resolve with fault | (issue | resolved)
  · simp [build, hResolve, Except.map]
  · simp [build, hResolve, Except.map]
  · simp [build, hResolve, Except.map, eq_comm (a := items)]

namespace BookingForm

theorem locationErrors_eq_nil_iff (form : BookingForm) :
    form.locationErrors = [] ↔ ∃ text, form.location = some text ∧ ¬ Text.IsBlankText text := by
  rw [← TypedTime.isPresent_iff, locationErrors]
  split <;> simp_all

theorem quantityError?_eq_none_iff (kind : RosterKind) (e : RosterEntry) :
    quantityError? kind e = none ↔ e.quantity ≤ e.maxQuantity := by
  rw [quantityError?]
  split <;> simp_all [UInt32.not_lt]

/-- A form has no problems exactly when it names a place, its time fields state a time, and no line
asks for more than there is. -/
theorem problems_eq_nil_iff (form : BookingForm) (roster : Roster) :
    form.problems roster = .ok [] ↔
      (∃ text, form.location = some text ∧ ¬ Text.IsBlankText text) ∧
      (∃ booked, form.time.resolve = .ok (.ok booked)) ∧
      ∀ e ∈ roster.entries, e.quantity ≤ e.maxQuantity := by
  rw [← locationErrors_eq_nil_iff]
  rcases hResolve : form.time.resolve with fault | (issue | booked)
  · simp [problems, hResolve, Except.map]
  · simp [problems, hResolve, Except.map]
  · simp [problems, hResolve, Except.map, quantityError?_eq_none_iff]

/-- Lines that ask for no more than there is make no difference to what is wrong with a form. -/
theorem problems_of_within {form : BookingForm} {roster : Roster}
    (h : ∀ e ∈ roster.entries, e.quantity ≤ e.maxQuantity) :
    form.problems roster = form.problems ⟨roster.kind, []⟩ := by
  have hNone : roster.entries.filterMap (quantityError? roster.kind) = [] := by
    rw [List.filterMap_eq_nil_iff]
    exact fun e he => (quantityError?_eq_none_iff roster.kind e).mpr (h e he)
  simp [problems, hNone]

/-- Without lines only the place and the time can be wrong. -/
theorem field_of_problems_without_lines {form : BookingForm} {kind : RosterKind}
    {errors : List FieldError} (h : form.problems ⟨kind, []⟩ = .ok errors) :
    ∀ error ∈ errors, error.field = "location" ∨ error.field = "time" := by
  obtain ⟨resolved, -, rfl⟩ := map_eq_ok.mp h
  intro error hError
  simp only [List.filterMap_nil, List.append_nil, List.mem_append] at hError
  rcases hError with hPlace | hTime
  · rw [locationErrors] at hPlace
    split at hPlace
    · cases hPlace
    · rw [List.mem_singleton.mp hPlace]
      exact .inl rfl
  · split at hTime
    · rw [List.mem_singleton.mp hTime]
      exact .inr rfl
    · cases hTime

/-- The query of a form without problems can be built. -/
theorem build_of_problems_eq_nil {form : BookingForm} {roster : Roster}
    (h : form.problems roster = .ok []) :
    ∃ query, ClashQuery.build form.time roster.kind roster.entries = .ok (.ok query) := by
  obtain ⟨-, ⟨booked, hResolve⟩, -⟩ := (problems_eq_nil_iff form roster).mp h
  exact ⟨⟨booked, _⟩, ClashQuery.build_eq_ok_iff.mpr ⟨hResolve, rfl⟩⟩

end BookingForm

end EquipmentBooking

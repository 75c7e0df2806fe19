import EquipmentBooking.ClashQuery.Reading
import EquipmentBooking.Proofs.Form.Validation
import EquipmentBooking.Proofs.Text.Trim
import Mathlib.Data.List.Forall2

namespace EquipmentBooking

/-- An optional field before other fields hides a later field of its name and no other. -/
private theorem lookup_typed_append (name key : String) (field : Option String) (rest : Pairs) :
    ((field.map fun text => (key, text)).toList ++ rest).lookup name =
      if name = key then field.or (rest.lookup name) else rest.lookup name := by
  cases field with
  | none => simp
  | some text =>
      by_cases h : name = key
      · subst h
        simp
      · have hBeq : (name == key) = false := by simpa using h
        simp [List.lookup_cons, hBeq, h]

private theorem lookup_typed (name key : String) (field : Option String) :
    ((field.map fun text => (key, text)).toList).lookup name =
      if name = key then field else none := by
  have h := lookup_typed_append name key field []
  rwa [List.append_nil, List.lookup_nil, Option.or_none] at h

private theorem formPairs_eq (t : TypedTime) :
    t.formPairs =
      (t.date.map fun text => ("date", text)).toList ++
        ((t.weekCommencing.map fun text => ("week_commencing", text)).toList ++
          ((t.day.map fun text => ("day", text)).toList ++
            ((t.startTime.map fun text => ("start_time", text)).toList ++
              ((t.endTime.map fun text => ("end_time", text)).toList ++
                (if t.manual then [("manual", "true")] else []))))) := by
  rw [TypedTime.formPairs, List.filterMap_eq_flatMap_toList]
  simp

/-- The time fields can be read back from what the form sends, exactly as they were typed. -/
theorem TypedTime.ofPairs_formPairs (t : TypedTime) : ofPairs t.formPairs = t := by
  rw [formPairs_eq]
  obtain ⟨manual, date, weekCommencing, day, startTime, endTime⟩ := t
  cases manual <;> simp [ofPairs, lookup_typed_append, lookup_typed]

namespace BookingForm

variable {form : BookingForm} {roster : Roster} {query : ClashQuery}

/-- A form without problems sends the time as typed, the place without the blanks around it, the
very quantities that its query asks about, and its hidden fields. -/
theorem fields_submission (hProblems : form.problems roster = .ok [])
    (hQuery : ClashQuery.build form.time roster.kind roster.entries = .ok (.ok query)) :
    ∃ place, form.location.map Text.trim = some place ∧ Text.trim place = place ∧
      ¬ Text.IsBlankText place ∧
      (form.submission roster).fields = form.time.formPairs ++ ("location", place) ::
        (query.items.map (fun item => (item.key, Text.Numeral.text item.quantity.toNat)) ++
          form.hidden) := by
  obtain ⟨⟨text, hLocation, hBlank⟩, -, -⟩ := (problems_eq_nil_iff form roster).mp hProblems
  obtain ⟨-, hItems⟩ := ClashQuery.build_eq_ok_iff.mp hQuery
  refine ⟨Text.trim text, by rw [hLocation]; rfl, Text.trim_trim text, ?_, ?_⟩
  · rwa [Text.isBlankText_trim]
  · have hQuantities : query.items.map (fun item =>
          (item.key, Text.Numeral.text item.quantity.toNat)) =
        roster.entries.map fun e =>
          (roster.quantityKey e.itemId, Text.Numeral.text e.quantity.toNat) := by
      rw [hItems, List.map_map]
      rfl
    rw [hQuantities]
    simp [submission, hLocation]

/-- The query of a form without problems has an item for each line, in order, that asks for no more
than there is. -/
theorem items_le_maxQuantity (hProblems : form.problems roster = .ok [])
    (hQuery : ClashQuery.build form.time roster.kind roster.entries = .ok (.ok query)) :
    List.Forall₂ (fun item line =>
        item = QuantityParam.ofEntry roster.kind line ∧ item.quantity ≤ line.maxQuantity)
      query.items roster.entries := by
  obtain ⟨-, -, hQuantities⟩ := (problems_eq_nil_iff form roster).mp hProblems
  obtain ⟨-, hItems⟩ := ClashQuery.build_eq_ok_iff.mp hQuery
  rw [hItems, List.forall₂_map_left_iff, List.forall₂_same]
  intro line hLine
  exact ⟨rfl, hQuantities line hLine⟩

end BookingForm

end EquipmentBooking

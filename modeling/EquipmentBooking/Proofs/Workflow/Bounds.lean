import EquipmentBooking.Proofs.ClashQuery.Reading
import EquipmentBooking.Proofs.Roster.Bounds
import EquipmentBooking.Proofs.Workflow.Calls

/-! What checked edits mean for booking. As long as every quantity that was typed went through the
check, the lines of the roster are no reason to turn a form away. -/
namespace EquipmentBooking

section Edits

/-- The calls that an event is made of edit the roster as the event does. -/
theorem Event.filterMap_edit?_calls (e : Event) : e.calls.filterMap Event.edit? = e.edit?.toList := by
  rw [Event.calls]
  split
  · next form target authority submitter hIntent =>
    have hNone : e.edit? = none := by rw [Event.edit?, hIntent]
    rw [hNone]
    split
    · rfl
    · split
      · rfl
      · split <;> rfl
  · cases hEdit : e.edit? <;> simp [hEdit]

/-- Only edits touch the roster. -/
theorem Workflow.Call.roster_eq {w : Workflow} {e : Event} (h : w.Call e) :
    e.after.roster = w.roster.editAll e.edit?.toList := by
  cases h <;> rfl

theorem Calls.roster_eq {start now : Workflow} {past : List Event} (h : Calls start past now) :
    now.roster = start.roster.editAll (past.filterMap Event.edit?) := by
  induction h with
  | begins => rfl
  | @goesOn past now event prior last ih =>
      rw [last.roster_eq, ih, ← Roster.editAll_append, List.filterMap_append]
      cases hEdit : event.edit? <;> simp [hEdit]

/-- Whatever was done to a workflow, its roster is what the edits among it make of the first one. -/
theorem History.roster_eq {start now : Workflow} {past : List Event} (h : History start past now) :
    now.roster = start.roster.editAll (past.filterMap Event.edit?) := by
  have hEdits : (past.flatMap Event.calls).filterMap Event.edit? = past.filterMap Event.edit? := by
    rw [List.filterMap_flatMap, List.filterMap_eq_flatMap_toList]
    simp only [Event.filterMap_edit?_calls]
  rw [h.calls.roster_eq, hEdits]

end Edits

namespace Workflow

variable {w : Workflow} {form : BookingForm} {target : SubmitTarget}

/-- An idle workflow begins an attempt exactly when the form has no problems. -/
theorem exists_begin_iff (hIdle : w.state.phase = .idle) :
    (∃ step pending, w.begin form target = .ok step ∧ step.answer = .ok pending) ↔
      form.problems w.roster = .ok [] := by
  constructor
  · rintro ⟨step, pending, hBegin, hAnswer⟩
    rcases hProblems : form.problems w.roster with fault | errors
    · rw [begin_of_fault hIdle hProblems] at hBegin
      cases hBegin
    · by_cases hErrors : errors = []
      · rw [hErrors]
      · rw [begin_of_problems hIdle hProblems hErrors] at hBegin
        cases hBegin
        cases hAnswer
  · intro hProblems
    obtain ⟨query, -, hBegin⟩ := begin_of_valid target hIdle hProblems
    exact ⟨_, _, hBegin, rfl⟩

/-- The errors that a beginning ends with are the problems of the form. -/
theorem problems_of_begin {step : Step PendingCheck} {errors : List FieldError}
    (hBegin : w.begin form target = .ok step)
    (hAnswer : step.answer = .error (.validation errors)) : form.problems w.roster = .ok errors := by
  by_cases hIdle : w.state.phase = .idle
  · rcases hProblems : form.problems w.roster with fault | problems
    · rw [begin_of_fault hIdle hProblems] at hBegin
      cases hBegin
    · by_cases hErrors : problems = []
      · subst hErrors
        obtain ⟨query, -, hBegun⟩ := begin_of_valid target hIdle hProblems
        rw [hBegun] at hBegin
        cases hBegin
        cases hAnswer
      · rw [begin_of_problems hIdle hProblems hErrors] at hBegin
        cases hBegin
        cases hAnswer
        rfl
  · rw [begin_of_busy hIdle] at hBegin
    cases hBegin
    cases hAnswer

end Workflow

/-- What can be wrong with a form without lines is never a quantity. -/
theorem BookingForm.field_ne_quantityKey {form : BookingForm} {kind : RosterKind}
    {errors : List FieldError} (h : form.problems ⟨kind, []⟩ = .ok errors) {error : FieldError}
    (hError : error ∈ errors) (itemId : String) : error.field ≠ kind.quantityKey itemId := by
  have hPlace : kind.itemId? "location" = none := by cases kind <;> decide
  have hTime : kind.itemId? "time" = none := by cases kind <;> decide
  rcases field_of_problems_without_lines h error hError with hField | hField
  · rw [hField]
    exact (RosterKind.quantityKey_ne hPlace itemId).symm
  · rw [hField]
    exact (RosterKind.quantityKey_ne hTime itemId).symm

/-- If every typed quantity went through the check, before a workflow was made or while it runs, no
line of its roster asks for more than there is, and one of an item that is not available for none. So
what is wrong with a form is what is wrong with it without any lines, no error is about a quantity,
and a form is turned away only if it would be turned away without any lines. -/
theorem History.lines_within_bounds {kind : RosterKind} {built : List RosterEdit}
    {bound : Option UInt64} {past : List Event} {now : Workflow}
    (h : History (.fresh ((Roster.mk kind []).editAll built) bound) past now)
    (hChecked : (Roster.mk kind []).AllChecked (built ++ past.filterMap Event.edit?)) :
    now.roster = (Roster.mk kind []).editAll (built ++ past.filterMap Event.edit?) ∧
      List.Forall₂ (fun e item => e.quantity ≤ e.maxQuantity ∧
          ∀ picked, item = some picked →
            e.maxQuantity = picked.bookable ∧ (picked.available = false → e.quantity = 0))
        now.roster.entries (RosterEdit.itemsOf (built ++ past.filterMap Event.edit?)) ∧
      (∀ form : BookingForm, form.problems now.roster = form.problems ⟨kind, []⟩) ∧
      (∀ (form : BookingForm) (errors : List FieldError),
        form.problems now.roster = .ok errors →
          ∀ error ∈ errors, ∀ itemId, error.field ≠ now.roster.quantityKey itemId) ∧
      (∀ (form : BookingForm) (target : SubmitTarget), now.state.phase = .idle →
        ((∃ step pending, now.begin form target = .ok step ∧ step.answer = .ok pending) ↔
          form.problems ⟨kind, []⟩ = .ok [])) ∧
      ∀ (form : BookingForm) (target : SubmitTarget) (step : Step PendingCheck)
        (errors : List FieldError), now.begin form target = .ok step →
          step.answer = .error (.validation errors) → form.problems ⟨kind, []⟩ = .ok errors := by
  have hRoster : now.roster = (Roster.mk kind []).editAll (built ++ past.filterMap Event.edit?) := by
    rw [h.roster_eq, Roster.editAll_append]
    rfl
  have hKind : now.roster.kind = kind := by
    rw [hRoster]
    exact congrArg Roster.kind (@Roster.editAll_ofLines kind [] _)
  have hWithin := Roster.within_of_allChecked hChecked
  rw [← hRoster] at hWithin
  have hEntries : ∀ e ∈ now.roster.entries, e.quantity ≤ e.maxQuantity :=
    ((List.forall₂_and_left _ _).mp (hWithin.imp fun _ _ hLine => ⟨hLine.quantity_le, hLine⟩)).1
  have hProblems : ∀ form : BookingForm, form.problems now.roster = form.problems ⟨kind, []⟩ := by
    intro form
    rw [BookingForm.problems_of_within hEntries, hKind]
  refine ⟨hRoster, hWithin.imp ?_, hProblems, ?_, ?_, ?_⟩
  · rintro e item hLine
    refine ⟨hLine.quantity_le, ?_⟩
    rintro picked rfl
    exact ⟨hLine.maxQuantity_eq picked rfl, hLine.quantity_eq_zero⟩
  · intro form errors hErrors error hError itemId
    rw [hProblems] at hErrors
    rw [Roster.quantityKey, hKind]
    exact BookingForm.field_ne_quantityKey hErrors hError itemId
  · intro form target hIdle
    rw [Workflow.exists_begin_iff hIdle, hProblems]
  · intro form target step errors hBegin hAnswer
    rw [← hProblems]
    exact Workflow.problems_of_begin hBegin hAnswer

def sampleBuilding : List RosterEdit :=
  [.addItem { id := 12, name := "Oscilloscope", quantity := 4, available := false },
    .add "ruler" "30cm ruler" 10, .setQuantity 2 3]

/-- A line goes, and the one behind it, which has its number now, is set to all there is. -/
def sampleChecked : List Intent :=
  [.edit (.remove 1), .begin (.ofActivity 5 {} "Lab 3") ⟨"first"⟩, .edit (.setQuantity 1 10)]

/-- The two quantities were typed as `" 3 "` and as `"+10"`. -/
theorem lines_within_bounds_after_shift :
    ∃ past now, (Workflow.fresh ((Roster.mk .core []).editAll sampleBuilding) none).performAll?
        sampleChecked = some (past, now) ∧
      (Roster.mk .core []).AllChecked (sampleBuilding ++ past.filterMap Event.edit?) ∧
      now.roster.entries = [⟨1, "ruler", "30cm ruler", 10, 10⟩] ∧
      ∀ form : BookingForm, form.problems now.roster = form.problems ⟨.core, []⟩ := by
  have hRun : (Workflow.fresh ((Roster.mk .core []).editAll sampleBuilding) none).performAll?
    sampleChecked = some (_, _) := rfl
  have hTyped : (Roster.mk .core []).AllChecked (sampleBuilding ++ [.remove 1, .setQuantity 1 10]) := by
    refine ⟨trivial, trivial, ?_, trivial, ?_, trivial⟩
    · rintro line ⟨⟩
      exact ⟨"quantity", " 3 ", rfl⟩
    · rintro line ⟨⟩
      exact ⟨"quantity", "+10", rfl⟩
  obtain ⟨-, -, hProblems, -⟩ := History.lines_within_bounds (History.of_performAll? hRun) hTyped
  exact ⟨_, _, hRun, hTyped, rfl, hProblems⟩

end EquipmentBooking

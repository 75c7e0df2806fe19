import EquipmentBooking.Proofs.Form.Submission
import EquipmentBooking.Proofs.Workflow.Releases

/-! What is released is what was checked. The submission is taken down when its attempt begins, from the
form and the roster that the query was made from, and nothing touches it until it is released. -/
namespace EquipmentBooking

/-- Whatever is released for an attempt was made from the form that the attempt was begun with: its
method and action, its time fields as typed, its place, the quantities that the clash query asked about
and its hidden fields. The attempt was begun once, so there is one such form and one such query. -/
theorem History.released_as_checked {roster : Roster} {bound : Option UInt64}
    {past : List Event} {now : Workflow} (h : History (.fresh roster bound) past now)
    {release : Release} (hRelease : release ∈ past.filterMap Event.released) :
    ∃ earlier call later, past.flatMap Event.calls = earlier ++ call :: later ∧
      call.released = some release ∧
      ∃ first ∈ earlier, ∃ form pending place,
        first.intent = .begin form release.target ∧ first.begun? = some pending ∧
        pending.attempt = release.attempt ∧
        (∀ other ∈ past.flatMap Event.calls, ∀ check, other.begun? = some check →
          check.attempt = release.attempt → other = first) ∧
        release.submission.method = form.method ∧ release.submission.action = form.action ∧
        release.submission.fields = form.time.formPairs ++ ("location", place) ::
          (pending.query.items.map
            (fun item => (item.key, Text.Numeral.text item.quantity.toNat)) ++ form.hidden) ∧
        TypedTime.ofPairs form.time.formPairs = form.time ∧
        (TypedTime.ofPairs form.time.formPairs).resolve = .ok (.ok pending.query.time) ∧
        form.location.map Text.trim = some place ∧ Text.trim place = place ∧
        ¬ Text.IsBlankText place ∧
        List.Forall₂ (fun item line =>
            item = QuantityParam.ofEntry first.before.roster.kind line ∧
              item.quantity ≤ line.maxQuantity)
          pending.query.items first.before.roster.entries := by
  rw [← h.released_calls] at hRelease
  obtain ⟨call, hMem, hReleased⟩ := List.mem_filterMap.mp hRelease
  obtain ⟨earlier, later, hSplit⟩ := List.append_of_mem hMem
  have hCalls := h.calls
  rw [hSplit] at hCalls ⊢
  obtain ⟨first, hFirst, form, query, hIntent, hBegun, hTaken, hProblems, hQuery⟩ :=
    hCalls.starts_of_released rfl hReleased
  have hSubmission : release.submission = form.submission first.before.roster := hTaken
  have hOnce : ∀ other ∈ earlier ++ call :: later, ∀ check, other.begun? = some check →
      check.attempt = release.attempt → other = first := by
    intro other hOther check hCheck hSame
    exact hCalls.begun_unique hOther (List.mem_append_left _ hFirst) hCheck hBegun hSame
  obtain ⟨place, hPlace, hTrimmed, hBlank, hFields⟩ :=
    BookingForm.fields_submission hProblems hQuery
  have hTime := TypedTime.ofPairs_formPairs form.time
  refine ⟨earlier, call, later, rfl, hReleased, first, hFirst, form, _, place, hIntent, hBegun, rfl,
    hOnce, ?_, ?_, ?_, hTime, ?_, hPlace, hTrimmed, hBlank,
    BookingForm.items_le_maxQuantity hProblems hQuery⟩
  · rw [hSubmission]
    rfl
  · rw [hSubmission]
    rfl
  · rw [hSubmission]
    exact hFields
  · rw [hTime]
    exact (ClashQuery.build_eq_ok_iff.mp hQuery).1

/-- The roster changes altogether between the beginning and the confirmation, and a stale answer
comes in. -/
def sampleEdits : List Intent :=
  let refused : Submitter := fun _ => .error .cancelled
  [.begin sampleForm ⟨"first"⟩, .edit (.add "beaker" "250ml beaker" 20), .edit (.remove 1),
    .complete ⟨⟨7⟩, .ok []⟩ refused, .complete ⟨⟨1⟩, .ok sampleClashes⟩ refused, .confirm refused]

theorem released_as_checked_after_edits :
    ∃ past now release,
      (Workflow.fresh sampleRoster none).performAll? sampleEdits = some (past, now) ∧
      now.roster.entries.map RosterEntry.itemId = ["beaker"] ∧
      release ∈ past.filterMap Event.released ∧
      ∃ (form : BookingForm) (pending : PendingCheck) (place : String), release.submission.fields =
        form.time.formPairs ++ ("location", place) :: (pending.query.items.map
          (fun item => (item.key, Text.Numeral.text item.quantity.toNat)) ++ form.hidden) ∧
        (TypedTime.ofPairs form.time.formPairs).resolve = .ok (.ok pending.query.time) := by
  have hRun : (Workflow.fresh sampleRoster none).performAll? sampleEdits = some (_, _) := rfl
  have hRelease := List.mem_singleton_self
    (Release.mk ⟨1⟩ ⟨"first"⟩ (sampleForm.submission sampleRoster))
  obtain ⟨earlier, call, later, -, -, first, -, form, pending, place, -, -, -, -, -, -, hFields, -,
    hTime, -⟩ := History.released_as_checked (History.of_performAll? hRun) hRelease
  exact ⟨_, _, _, hRun, rfl, hRelease, form, pending, place, hFields, hTime⟩

end EquipmentBooking

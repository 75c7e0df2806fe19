import EquipmentBooking.Proofs.Wire.Response
import EquipmentBooking.Proofs.Workflow.Refusals

namespace EquipmentBooking

/-- A row that shows a clash. Its window has the times of day on the clocks of the record, each with its
own offset. -/
structure ReviewRow.Shows (row : ReviewRow) (r : ClashRecord) : Prop where
  equipmentName : row.equipmentName = r.equipmentName
  bookingId : row.bookingId = r.bookingId
  bookingUser : row.bookingUser = r.bookingUser
  bookingActivity : row.bookingActivity = r.bookingActivity
  window : row.window = r.bookingStarts.clock.text ++ " - " ++ r.bookingEnds.clock.text
  youQuantity : row.youQuantity = r.youQuantity
  clashQuantity : row.clashQuantity = r.clashQuantity
  totalQuantity : row.totalQuantity = r.totalQuantity
  netQuantity : row.netQuantity = r.netQuantity
  shortfall : row.shortfall = true ↔ r.netQuantity < 0

theorem ReviewRow.ofRecord_shows (r : ClashRecord) : (ofRecord r).Shows r where
  equipmentName := rfl
  bookingId := rfl
  bookingUser := rfl
  bookingActivity := rfl
  window := rfl
  youQuantity := rfl
  clashQuantity := rfl
  totalQuantity := rfl
  netQuantity := rfl
  shortfall := by
    rw [ofRecord, decide_eq_true_eq, Int64.lt_iff_toInt_lt]
    rfl

theorem ClashReview.ofRecords_shows (records : List ClashRecord) :
    List.Forall₂ ReviewRow.Shows (ofRecords records).rows records := by
  rw [ofRecords, List.forall₂_map_left_iff, List.forall₂_same]
  exact fun r _ => ReviewRow.ofRecord_shows r

def WorkflowError.TellsStatus (error : WorkflowError) (status : UInt16) : Prop :=
  ∃ detail, error = .transport detail ∧
    ((∃ message, detail = "API error: " ++ Text.Numeral.text status.toNat ++ " - " ++ message) ∨
      ∃ kind message, detail =
        "Rejected by server (" ++ Text.Numeral.text status.toNat ++ "): " ++ kind ++ " - " ++ message)

theorem WorkflowError.tellsStatus_ofStatus (status : UInt16) (body : Json.Bytes) :
    (ofApi (.ofStatus status body)).TellsStatus status := by
  rcases ApiError.ofStatus_cases status body with ⟨message, h⟩ | ⟨kind, message, h⟩
  · rw [h]
    exact ⟨_, rfl, .inl ⟨message, rfl⟩⟩
  · rw [h]
    exact ⟨_, rfl, .inr ⟨kind, message, rfl⟩⟩

/-- How an answer decides the attempt that waits for it, for the step that completes its check. -/
structure AnswerDecides (now : Workflow) (id : AttemptId) (status : UInt16) (body : Json.Bytes)
    (step : Step Outcome) : Prop where
  /-- The submitter is called when there are no clashes and only then. -/
  sends_iff : step.released.isSome = true ↔ Successful status ∧ NoClashes body
  /-- It is given the submission of the attempt. -/
  sends : ∀ release, step.released = some release →
    ∃ attempt, now.active = some attempt ∧ attempt.id = id ∧
      release = ⟨id, attempt.target, attempt.submission⟩
  /-- There is a review when there are clashes and only then. -/
  reviews_iff : step.after.state.phase = .reviewing ↔ Successful status ∧ SomeClashes body
  /-- It has a row for each element of the body, and the attempt is kept. -/
  reviews : ∀ elements records, Successful status → elements ≠ [] →
    ListsClashes body elements records →
      ∃ review, step.after.state = .reviewing id review ∧
        List.Forall₂ ReviewRow.Shows review.rows records ∧
        step.answer = .ok (.reviewRequired id elements.length) ∧
        step.released = none ∧ step.after.active = now.active
  /-- Any other answer ends the attempt with an error, by its status alone. -/
  drops : ¬ (Successful status ∧ NoClashes body) → ¬ (Successful status ∧ SomeClashes body) →
    step.released = none ∧ step.after.active = none ∧
      ∃ error, step.answer = .error error ∧ step.after.state = .idle (some error) ∧
        (Successful status → ∃ detail, error = .malformed detail) ∧
        (¬ Successful status → error.TellsStatus status)

namespace Workflow

variable {w : Workflow} {id : AttemptId} {submitter : Submitter}

theorem Sound.awaited?_eq (hSound : w.Sound) (hState : w.state = .awaiting id)
    (result : Except ApiError (List ClashRecord)) :
    ∃ attempt, w.active = some attempt ∧ attempt.id = id ∧
      w.awaited? ⟨id, result⟩ = some attempt := by
  obtain ⟨attempt, hActive, hId⟩ := hSound.active_of_attempt? (by rw [hState]; rfl)
  exact ⟨attempt, hActive, hId, by simp [awaited?, hState, hActive, hId]⟩

/-- The attempt is over whether or not the submitter took its submission. -/
theorem Sound.complete_none (hSound : w.Sound) (hState : w.state = .awaiting id)
    (submitter : Submitter) :
    ∃ attempt lastError stats answer, w.active = some attempt ∧ attempt.id = id ∧
      w.complete ⟨id, .ok []⟩ submitter =
        ⟨{ w with state := .idle lastError, active := none, stats }, answer,
          some ⟨id, attempt.target, attempt.submission⟩⟩ := by
  obtain ⟨attempt, hActive, rfl, hAwaited⟩ := hSound.awaited?_eq hState (.ok [])
  obtain ⟨lastError, stats, answer, hFinish⟩ :=
    finish_eq { w with active := none } attempt false submitter
  refine ⟨attempt, lastError, stats, answer, hActive, rfl, ?_⟩
  simp only [complete, hAwaited, hFinish]

/-- The attempt is held on, and nothing is released before its review has been confirmed. -/
theorem Sound.complete_some (hSound : w.Sound) (hState : w.state = .awaiting id)
    (record : ClashRecord) (records : List ClashRecord) (submitter : Submitter) :
    w.complete ⟨id, .ok (record :: records)⟩ submitter =
      { after :=
          { w with
            state := .reviewing id (ClashReview.ofRecords (record :: records))
            stats := { w.stats with reviewsPresented := w.stats.reviewsPresented + 1 } }
        answer := .ok (.reviewRequired id (records.length + 1)) } := by
  obtain ⟨attempt, hActive, rfl, hAwaited⟩ := hSound.awaited?_eq hState (.ok (record :: records))
  simp only [complete, hAwaited]

/-- Nothing is released, and the check counts as withdrawn. -/
theorem Sound.complete_error (hSound : w.Sound) (hState : w.state = .awaiting id)
    (error : ApiError) (submitter : Submitter) :
    ∃ stats, w.complete ⟨id, .error error⟩ submitter =
      { after :=
          { w with
            state := .idle (some (.ofApi error))
            active := none
            withdrawn := id :: w.withdrawn
            stats }
        answer := .error (.ofApi error) } := by
  obtain ⟨attempt, hActive, rfl, hAwaited⟩ := hSound.awaited?_eq hState (.error error)
  simp only [complete, hAwaited, countFailure_eq]
  exact ⟨_, rfl⟩

variable {status : UInt16} {body : Json.Bytes}

theorem Sound.decides_of_error (hSound : w.Sound) (hState : w.state = .awaiting id)
    {error : ApiError} (hRead : readClashes status body = .error error) (submitter : Submitter) :
    AnswerDecides w id status body (w.complete ⟨id, .error error⟩ submitter) := by
  have hNotSent : ¬ (Successful status ∧ NoClashes body) := by
    rw [← readClashes_eq_nil_iff, hRead]
    exact nofun
  have hNotReviewed : ¬ (Successful status ∧ SomeClashes body) := by
    rw [← readClashes_eq_cons_iff, hRead]
    rintro ⟨record, records, ⟨⟩⟩
  obtain ⟨hMalformed, hTransport⟩ := error_of_readClashes hRead
  obtain ⟨stats, hStep⟩ := hSound.complete_error hState error submitter
  rw [hStep]
  constructor
  case sends_iff => exact iff_of_false Bool.false_ne_true hNotSent
  case sends => exact nofun
  case reviews_iff => exact iff_of_false nofun hNotReviewed
  case reviews =>
    intro elements records hSuccess hElements hLists
    exact absurd ⟨hSuccess, elements, records, hElements, hLists⟩ hNotReviewed
  case drops =>
    refine fun _ _ => ⟨rfl, rfl, .ofApi error, rfl, rfl, ?_, ?_⟩
    · intro hSuccess
      obtain ⟨detail, rfl⟩ := hMalformed hSuccess
      exact ⟨detail, rfl⟩
    · intro hFailure
      rw [hTransport hFailure]
      exact WorkflowError.tellsStatus_ofStatus status body

theorem Sound.decides_of_none (hSound : w.Sound) (hState : w.state = .awaiting id)
    (hRead : readClashes status body = .ok []) (submitter : Submitter) :
    AnswerDecides w id status body (w.complete ⟨id, .ok []⟩ submitter) := by
  have hSent := readClashes_eq_nil_iff.mp hRead
  have hNotReviewed : ¬ (Successful status ∧ SomeClashes body) := by
    rw [← readClashes_eq_cons_iff, hRead]
    rintro ⟨record, records, ⟨⟩⟩
  obtain ⟨attempt, lastError, stats, answer, hActive, hId, hStep⟩ :=
    hSound.complete_none hState submitter
  rw [hStep]
  constructor
  case sends_iff => exact iff_of_true rfl hSent
  case sends =>
    rintro release ⟨⟩
    exact ⟨attempt, hActive, hId, rfl⟩
  case reviews_iff => exact iff_of_false nofun hNotReviewed
  case reviews =>
    intro elements records hSuccess hElements hLists
    exact absurd ⟨hSuccess, elements, records, hElements, hLists⟩ hNotReviewed
  case drops => exact fun hNotSent => absurd hSent hNotSent

theorem Sound.decides_of_some (hSound : w.Sound) (hState : w.state = .awaiting id)
    {record : ClashRecord} {records : List ClashRecord}
    (hRead : readClashes status body = .ok (record :: records)) (submitter : Submitter) :
    AnswerDecides w id status body (w.complete ⟨id, .ok (record :: records)⟩ submitter) := by
  have hReviewed := readClashes_eq_cons_iff.mp ⟨record, records, hRead⟩
  have hNotSent : ¬ (Successful status ∧ NoClashes body) := by
    rw [← readClashes_eq_nil_iff, hRead]
    exact nofun
  rw [hSound.complete_some hState record records submitter]
  constructor
  case sends_iff => exact iff_of_false Bool.false_ne_true hNotSent
  case sends => exact nofun
  case reviews_iff => exact iff_of_true rfl hReviewed
  case reviews =>
    intro elements listed hSuccess hElements hLists
    have hListed : readClashes status body = .ok listed :=
      readClashes_eq_ok_iff.mpr ⟨hSuccess, .inr ⟨elements, hLists⟩⟩
    obtain rfl : record :: records = listed := Except.ok.inj (hRead.symm.trans hListed)
    refine ⟨_, rfl, ClashReview.ofRecords_shows _, ?_, rfl, rfl⟩
    rw [hLists.2.length_eq, List.length_cons]
  case drops => exact fun _ hNotReviewed => absurd hReviewed hNotReviewed

end Workflow

/-- However a workflow came to wait for a check, the answer decides the attempt: nothing but a
success without clashes is sent. -/
theorem History.answer_decides {roster : Roster} {bound : Option UInt64} {past : List Event}
    {now : Workflow} (h : History (.fresh roster bound) past now) {id : AttemptId}
    (hState : now.state = .awaiting id) (status : UInt16) (body : Json.Bytes)
    (submitter : Submitter) :
    AnswerDecides now id status body (now.complete ⟨id, readClashes status body⟩ submitter) := by
  have hSound : now.Sound := h.calls.sound (Workflow.sound_fresh roster bound)
  cases hRead : readClashes status body with
  | error error => exact hSound.decides_of_error hState hRead submitter
  | ok records =>
      cases records with
      | nil => exact hSound.decides_of_none hState hRead submitter
      | cons record records => exact hSound.decides_of_some hState hRead submitter

/-- A body with one clash, given as a list of values, over night and between two clocks. -/
def sampleBody : Json.Bytes :=
  ("[ [\"30cm ruler\", 7, \"ann\", \"Optics\", \"2024-03-12T23:00:00-02:00\", " ++
    "\"2024-03-13T01:30:00Z\", 3, 10, 10, -3] ]").toList.map Json.byte

/-- The same empty list is sent with one status and dropped with another. -/
theorem answer_decides_while_awaiting :
    (Successful 204 ∧ NoClashes [Json.byte '[', Json.byte ']']) ∧
      (∃ error, (sampleAwaiting.complete
          ⟨⟨2⟩, readClashes 503 [Json.byte '[', Json.byte ']']⟩ sampleSubmitter).after.state =
            .idle (some error) ∧ error.TellsStatus 503) ∧
      ∃ elements records review, ListsClashes sampleBody elements records ∧
        (sampleAwaiting.complete ⟨⟨2⟩, readClashes 200 sampleBody⟩ sampleSubmitter).after.state =
          .reviewing ⟨2⟩ review ∧
        List.Forall₂ ReviewRow.Shows review.rows records ∧ elements.length = 1 ∧
        review.rows.map ReviewRow.window = ["23:00 - 01:30"] := by
  obtain ⟨past, hPast⟩ := sampleAwaiting_reached
  have hSent := hPast.answer_decides rfl 204 [Json.byte '[', Json.byte ']'] sampleSubmitter
  have hDropped := hPast.answer_decides rfl 503 [Json.byte '[', Json.byte ']'] sampleSubmitter
  have hReviewed := hPast.answer_decides rfl 200 sampleBody sampleSubmitter
  have hFailure : ¬ Successful 503 := by decide
  refine ⟨hSent.sends_iff.mp rfl, ?_, ?_⟩
  · obtain ⟨-, -, error, -, hEnd, -, hTells⟩ :=
      hDropped.drops (fun h => hFailure h.1) (fun h => hFailure h.1)
    exact ⟨error, hEnd, hTells hFailure⟩
  · obtain ⟨hSuccess, elements, records, hElements, hLists⟩ := hReviewed.reviews_iff.mp rfl
    obtain ⟨review, hState, hShows, hAnswer, -⟩ :=
      hReviewed.reviews elements records hSuccess hElements hLists
    refine ⟨elements, records, review, hLists, hState, hShows, ?_, ?_⟩
    · have hCount : (sampleAwaiting.complete ⟨⟨2⟩, readClashes 200 sampleBody⟩
          sampleSubmitter).answer = .ok (.reviewRequired ⟨2⟩ 1) := rfl
      rw [hCount] at hAnswer
      injection hAnswer with hOutcome
      injection hOutcome with _ hLength
      exact hLength.symm
    · cases hState
      rfl

end EquipmentBooking

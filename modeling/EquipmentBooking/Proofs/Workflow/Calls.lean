import EquipmentBooking.Proofs.Form.Validation
import EquipmentBooking.Workflow.History

namespace EquipmentBooking

namespace Workflow

/-- Sending a submission always ends in the idle state. Only the error it ends with, the counters
and the answer depend on the submitter. -/
theorem finish_eq (w : Workflow) (attempt : ActiveAttempt) (reviewed : Bool)
    (submitter : Submitter) :
    ∃ lastError stats answer, w.finish attempt reviewed submitter =
      ⟨{ w with state := .idle lastError, stats }, answer,
        some ⟨attempt.id, attempt.target, attempt.submission⟩⟩ := by
  rw [finish]
  split <;> exact ⟨_, _, _, rfl⟩

/-- A submission that is taken leaves no error, and one that fails leaves just the error that
is answered. -/
theorem finish_cases {w after : Workflow} {attempt : ActiveAttempt} {reviewed : Bool}
    {submitter : Submitter} {answer : Except WorkflowError Outcome} {released : Option Release}
    (h : w.finish attempt reviewed submitter = ⟨after, answer, released⟩) :
    (∃ receipt, answer = .ok (.submitted attempt.id reviewed receipt) ∧
      after.state = .idle none ∧
      after.stats = { w.stats with submissions := w.stats.submissions + 1 }) ∨
    ∃ detail, answer = .error (.submission detail) ∧
      after.state = .idle (some (.submission detail)) ∧
      after.stats = { w.stats with submissionFailures := w.stats.submissionFailures + 1 } := by
  rw [finish] at h
  split at h
  · cases h
    exact .inl ⟨_, rfl, rfl, rfl⟩
  · cases h
    exact .inr ⟨_, rfl, rfl, rfl⟩

/-- Counting a failed check changes the counters alone, whatever else was changed before. -/
theorem countFailure_eq (w : Workflow) (active : Option ActiveAttempt)
    (withdrawn : List AttemptId) (error : WorkflowError) :
    countFailure { w with active, withdrawn } error =
      { w with active, withdrawn, stats := (w.countFailure error).stats } := by
  cases error <;> rfl

theorem awaited?_eq_some {w : Workflow} {check : ClashCheck} {attempt : ActiveAttempt}
    (h : w.awaited? check = some attempt) :
    w.state = .awaiting check.attempt ∧ w.active = some attempt ∧ attempt.id = check.attempt := by
  rw [awaited?] at h
  split at h
  · rename_i id held hState hActive
    split at h
    · rename_i hIds
      cases h
      rw [hState, hActive, hIds.1]
      exact ⟨rfl, rfl, hIds.2⟩
    · cases h
  · cases h

/-- What a call can do, with all that the workflow checks before it does so. -/
inductive Call (w : Workflow) : Event → Prop where
  | busy (form : BookingForm) (target : SubmitTarget) (hBusy : w.state.phase ≠ .idle) :
      Call w
        { before := w
          intent := .begin form target
          after :=
            { w with stats := { w.stats with rejectedIntents := w.stats.rejectedIntents + 1 } }
          answer := .begun (.error (.violation .start w.state.phase)) }
  | invalid (form : BookingForm) (target : SubmitTarget) {errors : List FieldError}
      (hIdle : w.state.phase = .idle) (hProblems : form.problems w.roster = .ok errors)
      (hErrors : errors ≠ []) :
      Call w
        { before := w
          intent := .begin form target
          after :=
            { w with
              state := .idle (some (.validation errors))
              stats := { w.stats with validationFailures := w.stats.validationFailures + 1 } }
          answer := .begun (.error (.validation errors)) }
  | begun (form : BookingForm) (target : SubmitTarget) {query : ClashQuery}
      (hIdle : w.state.phase = .idle) (hProblems : form.problems w.roster = .ok [])
      (hQuery : ClashQuery.build form.time w.roster.kind w.roster.entries = .ok (.ok query)) :
      Call w
        { before := w
          intent := .begin form target
          after :=
            { w with
              state := .awaiting ⟨w.nextAttempt⟩
              active := some ⟨⟨w.nextAttempt⟩, target, form.submission w.roster⟩
              nextAttempt := w.nextAttempt + 1
              stats := { w.stats with attemptsStarted := w.stats.attemptsStarted + 1 } }
          answer := .begun (.ok ⟨⟨w.nextAttempt⟩, query, w.bound⟩) }
  | stale (check : ClashCheck) (submitter : Submitter) (hStale : w.awaited? check = none) :
      Call w
        { before := w
          intent := .complete check submitter
          after :=
            { w with stats := { w.stats with staleResponses := w.stats.staleResponses + 1 } }
          answer := .ended (.error (.stale check.attempt)) }
  | sent (check : ClashCheck) (submitter : Submitter) {attempt : ActiveAttempt}
      {lastError : Option WorkflowError} {stats : WorkflowStats}
      {answer : Except WorkflowError Outcome} (hState : w.state = .awaiting check.attempt)
      (hActive : w.active = some attempt) (hId : attempt.id = check.attempt)
      (hResult : check.result = .ok [])
      (hFinish : finish { w with active := none } attempt false submitter =
        ⟨{ w with state := .idle lastError, active := none, stats }, answer,
          some ⟨attempt.id, attempt.target, attempt.submission⟩⟩) :
      Call w
        { before := w
          intent := .complete check submitter
          after := { w with state := .idle lastError, active := none, stats }
          answer := .ended answer
          released := some ⟨attempt.id, attempt.target, attempt.submission⟩ }
  | opened (check : ClashCheck) (submitter : Submitter) {attempt : ActiveAttempt}
      {record : ClashRecord} {records : List ClashRecord}
      (hState : w.state = .awaiting check.attempt) (hActive : w.active = some attempt)
      (hId : attempt.id = check.attempt) (hResult : check.result = .ok (record :: records)) :
      Call w
        { before := w
          intent := .complete check submitter
          after :=
            { w with
              state := .reviewing attempt.id (ClashReview.ofRecords (record :: records))
              stats := { w.stats with reviewsPresented := w.stats.reviewsPresented + 1 } }
          answer := .ended (.ok (.reviewRequired attempt.id (records.length + 1))) }
  | failed (check : ClashCheck) (submitter : Submitter) {attempt : ActiveAttempt}
      {error : ApiError} (hState : w.state = .awaiting check.attempt)
      (hActive : w.active = some attempt) (hId : attempt.id = check.attempt)
      (hResult : check.result = .error error) :
      Call w
        { before := w
          intent := .complete check submitter
          after :=
            { w with
              state := .idle (some (.ofApi error))
              active := none
              withdrawn := attempt.id :: w.withdrawn
              stats := (w.countFailure (.ofApi error)).stats }
          answer := .ended (.error (.ofApi error)) }
  | notReviewing (submitter : Submitter)
      (hRefused : w.state.phase ≠ .reviewing ∨ w.active = none) :
      Call w
        { before := w
          intent := .confirm submitter
          after := w
          answer := .ended (.error (.violation .confirm w.state.phase)) }
  | confirmed (submitter : Submitter) {id : AttemptId} {review : ClashReview}
      {attempt : ActiveAttempt} {lastError : Option WorkflowError} {stats : WorkflowStats}
      {answer : Except WorkflowError Outcome} (hState : w.state = .reviewing id review)
      (hActive : w.active = some attempt)
      (hFinish : finish
          { w with
            active := none
            stats := { w.stats with reviewsConfirmed := w.stats.reviewsConfirmed + 1 } }
          attempt true submitter =
        ⟨{ w with state := .idle lastError, active := none, stats }, answer,
          some ⟨attempt.id, attempt.target, attempt.submission⟩⟩) :
      Call w
        { before := w
          intent := .confirm submitter
          after := { w with state := .idle lastError, active := none, stats }
          answer := .ended answer
          released := some ⟨attempt.id, attempt.target, attempt.submission⟩ }
  | notUnderWay
      (hRefused : w.state.phase = .idle ∨ w.state.phase = .validating ∨ w.active = none) :
      Call w
        { before := w
          intent := .cancel
          after := w
          answer := .cancelled (.error (.violation .cancel w.state.phase)) }
  | cancelled {id : AttemptId} {attempt : ActiveAttempt} (hState : w.state.attempt? = some id)
      (hActive : w.active = some attempt) :
      Call w
        { before := w
          intent := .cancel
          after :=
            { w with
              state := .idle none
              active := none
              withdrawn := attempt.id :: w.withdrawn
              stats :=
                if w.state.phase = .reviewing then
                  { w.stats with reviewsCancelled := w.stats.reviewsCancelled + 1 }
                else { w.stats with attemptsAbandoned := w.stats.attemptsAbandoned + 1 } }
          answer := .cancelled (.ok attempt.id) }
  | edited (edit : RosterEdit) :
      Call w
        { before := w
          intent := .edit edit
          after := { w with roster := (w.roster.edit edit).1 }
          answer := .edited (w.roster.edit edit).2 }

theorem Call.before_eq {w : Workflow} {e : Event} (h : w.Call e) : e.before = w := by
  cases h <;> rfl

/-- Only a submit asks the authority. -/
theorem Call.asked_eq {w : Workflow} {e : Event} (h : w.Call e) : e.asked = none := by
  cases h <;> rfl

section Beginning

theorem exists_of_phase_idle {state : WorkflowState} (h : state.phase = .idle) :
    ∃ lastError, state = .idle lastError := by
  cases state with
  | idle lastError => exact ⟨lastError, rfl⟩
  | _ => cases h

variable {w : Workflow} {form : BookingForm} {target : SubmitTarget}

theorem begin_of_busy (hBusy : w.state.phase ≠ .idle) :
    w.begin form target = .ok (refuse
      { w with stats := { w.stats with rejectedIntents := w.stats.rejectedIntents + 1 } }
      .start) := by
  obtain ⟨state, roster, active, nextAttempt, bound, stats, withdrawn⟩ := w
  cases state with
  | idle lastError => exact absurd rfl hBusy
  | _ => rfl

theorem begin_of_fault {fault : Fault} (hIdle : w.state.phase = .idle)
    (hProblems : form.problems w.roster = .error fault) : w.begin form target = .error fault := by
  obtain ⟨lastError, hState⟩ := exists_of_phase_idle hIdle
  simp [begin, hState, hProblems, bind, Except.bind]

/-- Once the form has no problems, building the query does not fail. -/
theorem begin_of_valid (target : SubmitTarget) (hIdle : w.state.phase = .idle)
    (hProblems : form.problems w.roster = .ok []) :
    ∃ query, ClashQuery.build form.time w.roster.kind w.roster.entries = .ok (.ok query) ∧
      w.begin form target = .ok (launch { w with state := .validating } form target query) := by
  obtain ⟨lastError, hState⟩ := exists_of_phase_idle hIdle
  obtain ⟨query, hQuery⟩ := BookingForm.build_of_problems_eq_nil hProblems
  refine ⟨query, hQuery, ?_⟩
  simp [begin, hState, hProblems, hQuery, bind, Except.bind]

theorem begin_of_problems {errors : List FieldError} (hIdle : w.state.phase = .idle)
    (hProblems : form.problems w.roster = .ok errors) (hErrors : errors ≠ []) :
    w.begin form target = .ok (failValidation { w with state := .validating } errors) := by
  obtain ⟨lastError, hState⟩ := exists_of_phase_idle hIdle
  simp [begin, hState, hProblems, hErrors, bind, Except.bind]

/-- Beginning does one of three things: it is refused, it ends with the problems of the form, or it
starts an attempt. -/
theorem begin_call {step : Step PendingCheck} (h : w.begin form target = .ok step) :
    w.Call (step.event w (.begin form target) .begun) := by
  by_cases hIdle : w.state.phase = .idle
  · rcases hProblems : form.problems w.roster with fault | errors
    · rw [begin_of_fault hIdle hProblems] at h
      cases h
    · by_cases hErrors : errors = []
      · subst hErrors
        obtain ⟨query, hQuery, hBegin⟩ := begin_of_valid target hIdle hProblems
        rw [hBegin] at h
        cases h
        exact .begun form target hIdle hProblems hQuery
      · rw [begin_of_problems hIdle hProblems hErrors] at h
        cases h
        exact .invalid form target hIdle hProblems hErrors
  · rw [begin_of_busy hIdle] at h
    cases h
    exact .busy form target hIdle

end Beginning

theorem complete_call (w : Workflow) (check : ClashCheck) (submitter : Submitter) :
    w.Call ((w.complete check submitter).event w (.complete check submitter) .ended) := by
  cases hAwaited : w.awaited? check with
  | none =>
      simp only [complete, hAwaited]
      exact .stale check submitter hAwaited
  | some attempt =>
      obtain ⟨hState, hActive, hId⟩ := awaited?_eq_some hAwaited
      rcases hResult : check.result with error | (_ | ⟨record, records⟩)
      · simp only [complete, hAwaited, hResult]
        rw [countFailure_eq]
        exact .failed check submitter hState hActive hId hResult
      · simp only [complete, hAwaited, hResult]
        obtain ⟨lastError, stats, answer, hFinish⟩ :=
          finish_eq { w with active := none } attempt false submitter
        rw [hFinish]
        exact .sent check submitter hState hActive hId hResult hFinish
      · simp only [complete, hAwaited, hResult]
        exact .opened check submitter hState hActive hId hResult

theorem confirm_call (w : Workflow) (submitter : Submitter) :
    w.Call ((w.confirm submitter).event w (.confirm submitter) .ended) := by
  obtain ⟨state, roster, active, nextAttempt, bound, stats, withdrawn⟩ := w
  cases state with
  | reviewing id review =>
      cases active with
      | none => exact .notReviewing submitter (.inr rfl)
      | some attempt =>
          obtain ⟨lastError, endStats, answer, hFinish⟩ := finish_eq
            ⟨.reviewing id review, roster, none, nextAttempt, bound,
              { stats with reviewsConfirmed := stats.reviewsConfirmed + 1 }, withdrawn⟩
            attempt true submitter
          simp only [confirm]
          rw [hFinish]
          exact .confirmed submitter rfl rfl hFinish
  | _ => exact .notReviewing submitter (.inl Phase.noConfusion)

theorem cancel_call (w : Workflow) : w.Call (w.cancel.event w .cancel .cancelled) := by
  obtain ⟨state, roster, active, nextAttempt, bound, stats, withdrawn⟩ := w
  cases state with
  | idle lastError => exact .notUnderWay (.inl rfl)
  | validating => exact .notUnderWay (.inr (.inl rfl))
  | awaiting id =>
      cases active with
      | none => exact .notUnderWay (.inr (.inr rfl))
      | some attempt => exact .cancelled rfl rfl
  | reviewing id review =>
      cases active with
      | none => exact .notUnderWay (.inr (.inr rfl))
      | some attempt => exact .cancelled rfl rfl

/-- Every event but that of a submit is one call. -/
theorem call_of_perform {w : Workflow} {intent : Intent} {event : Event}
    (h : w.perform intent = .ok (some event)) (hSingle : intent.isSubmit = false) :
    w.Call event ∧ event.calls = [event] := by
  cases intent with
  | submit form target authority submitter => cases hSingle
  | begin form target =>
      cases hBegin : w.begin form target with
      | error fault => simp [perform, hBegin, Except.map] at h
      | ok step =>
          simp only [perform, hBegin, Except.map, Except.ok.injEq, Option.some.injEq] at h
          subst h
          exact ⟨begin_call hBegin, rfl⟩
  | complete check submitter =>
      cases h
      exact ⟨complete_call w check submitter, rfl⟩
  | confirm submitter =>
      cases h
      exact ⟨confirm_call w submitter, rfl⟩
  | cancel =>
      cases h
      exact ⟨cancel_call w, rfl⟩
  | edit edit =>
      cases h
      exact ⟨.edited edit, rfl⟩

theorem perform_begin {w : Workflow} {form : BookingForm} {target : SubmitTarget}
    {step : Step PendingCheck} (h : w.begin form target = .ok step) :
    w.perform (.begin form target) = .ok (some (step.event w (.begin form target) .begun)) := by
  rw [perform, h]
  rfl

/-- The event of a submit is that of its step, with what the authority was asked. -/
theorem perform_submit {w : Workflow} {form : BookingForm} {target : SubmitTarget}
    {authority : ClashQuery → Reply} {submitter : Submitter} {event : Event}
    (h : w.perform (.submit form target authority submitter) = .ok (some event)) :
    ∃ step asked, w.submit form target authority submitter = .ok (some (step, asked)) ∧
      event = { step.event w (.submit form target authority submitter) .ended with asked } := by
  cases hSubmit : w.submit form target authority submitter with
  | error fault => simp [perform, hSubmit, Except.map] at h
  | ok result =>
      rcases result with _ | ⟨step, asked⟩
      · simp [perform, hSubmit, Except.map] at h
      · simp only [perform, hSubmit, Except.map, Option.map_some, Except.ok.injEq,
          Option.some.injEq] at h
        exact ⟨step, asked, rfl, h.symm⟩

/-- A submit begins. Without a check to run that is all, otherwise it completes what the check came to. -/
theorem submit_cases {w : Workflow} {form : BookingForm} {target : SubmitTarget}
    {authority : ClashQuery → Reply} {submitter : Submitter} {step : Step Outcome}
    {asked : Option ClashQuery}
    (h : w.submit form target authority submitter = .ok (some (step, asked))) :
    ∃ begun, w.begin form target = .ok begun ∧
      ((∃ error, begun.answer = .error error ∧ step = ⟨begun.after, .error error, none⟩ ∧
          asked = none) ∨
        ∃ pending trip, begun.answer = .ok pending ∧
          pending.run? (begun.after.isWithdrawn pending.attempt) none (authority pending.query) =
            some trip ∧
          step = begun.after.complete ⟨pending.attempt, trip.result⟩ submitter ∧
          asked = if trip.asked then some pending.query else none) := by
  cases hBegin : w.begin form target with
  | error fault => simp [submit, hBegin, bind, Except.bind] at h
  | ok begun =>
      refine ⟨begun, rfl, ?_⟩
      rcases hAnswer : begun.answer with error | pending
      · simp only [submit, hBegin, bind, Except.bind, hAnswer, Except.ok.injEq, Option.some.injEq,
          Prod.mk.injEq] at h
        exact .inl ⟨error, rfl, h.1.symm, h.2.symm⟩
      · simp only [submit, hBegin, bind, Except.bind, hAnswer] at h
        split at h
        · cases h
        · rename_i trip hRun
          simp only [Except.ok.injEq, Option.some.injEq, Prod.mk.injEq] at h
          exact .inr ⟨pending, trip, rfl, hRun, h.1.symm, h.2.symm⟩

end Workflow

/-- The calls that lead from one workflow to another, the earliest first. -/
inductive Calls (start : Workflow) : List Event → Workflow → Prop where
  | begins : Calls start [] start
  | goesOn {past : List Event} {now : Workflow} {event : Event}
      (prior : Calls start past now) (last : now.Call event) :
      Calls start (past ++ [event]) event.after

namespace Calls

theorem single {w : Workflow} {event : Event} (h : w.Call event) : Calls w [event] event.after :=
  goesOn begins h

theorem trans {start middle now : Workflow} {past rest : List Event}
    (left : Calls start past middle) (right : Calls middle rest now) :
    Calls start (past ++ rest) now := by
  induction right with
  | begins => simpa using left
  | goesOn prior last ih => simpa using goesOn ih last

/-- Any call of a sequence was made after the calls before it, and the calls behind it were made
after it. -/
theorem split {start now : Workflow} {earlier later : List Event} {event : Event}
    (h : Calls start (earlier ++ event :: later) now) :
    Calls start earlier event.before ∧ event.before.Call event ∧ Calls event.after later now := by
  generalize hPast : earlier ++ event :: later = past at h
  induction h generalizing later with
  | begins => simp at hPast
  | @goesOn past now last prior call ih =>
      rcases List.eq_nil_or_concat later with rfl | ⟨front, final, rfl⟩
      · obtain ⟨rfl, hEvent⟩ := List.append_inj' hPast rfl
        cases hEvent
        rw [call.before_eq]
        exact ⟨prior, call, begins⟩
      · rw [List.concat_eq_append, ← List.cons_append, ← List.append_assoc] at hPast
        obtain ⟨rfl, hEvent⟩ := List.append_inj' hPast rfl
        cases hEvent
        obtain ⟨hEarlier, hCall, hLater⟩ := ih rfl
        rw [List.concat_eq_append]
        exact ⟨hEarlier, hCall, goesOn hLater call⟩

end Calls

private theorem filterMap_one {α β : Type} (f : α → Option β) (a : α) :
    [a].filterMap f = (f a).toList := by
  cases h : f a <;> simp [h]

namespace Workflow

/-- Beginning releases nothing. -/
theorem released_of_begin {w : Workflow} {form : BookingForm} {target : SubmitTarget}
    {step : Step PendingCheck} (h : w.begin form target = .ok step) : step.released = none := by
  generalize hEvent : step.event w (.begin form target) .begun = event
  have hCall := begin_call h
  rw [hEvent] at hCall
  have hReleased : step.released = event.released := by rw [← hEvent]; rfl
  rw [hReleased]
  cases hCall <;> first | rfl | cases hEvent

/-- The calls of an event lead from where it found the workflow to where it left it, and release
what the event releases. -/
theorem calls_of_perform {w : Workflow} {intent : Intent} {event : Event}
    (h : w.perform intent = .ok (some event)) :
    Calls w event.calls event.after ∧
      event.calls.filterMap Event.released = event.released.toList := by
  cases hSubmit : intent.isSubmit with
  | false =>
      obtain ⟨hCall, hCalls⟩ := call_of_perform h hSubmit
      rw [hCalls, filterMap_one]
      exact ⟨.single hCall, rfl⟩
  | true =>
      cases intent with
      | submit form target authority submitter =>
          obtain ⟨step, asked, hRun, rfl⟩ := perform_submit h
          obtain ⟨⟨after, answer, released⟩, hBegin, ⟨error, hAnswer, rfl, rfl⟩ |
            ⟨pending, trip, hAnswer, hTrip, rfl, rfl⟩⟩ := submit_cases hRun
          all_goals
            obtain rfl : answer = _ := hAnswer
            obtain rfl : released = none := released_of_begin hBegin
            have hFirst := begin_call hBegin
          · simp only [Event.calls, Step.event, hBegin]
            exact ⟨.single hFirst, rfl⟩
          · simp only [Event.calls, Step.event, hBegin, hTrip]
            refine ⟨.goesOn (.single hFirst) (complete_call after _ submitter), ?_⟩
            rw [List.filterMap_cons_none rfl, filterMap_one]
      | _ => cases hSubmit

end Workflow

/-- A history with submits is a history of calls. -/
theorem History.calls {start now : Workflow} {past : List Event} (h : History start past now) :
    Calls start (past.flatMap Event.calls) now := by
  induction h with
  | begins => exact .begins
  | goesOn prior last ih =>
      simpa using ih.trans (Workflow.calls_of_perform last).1

/-- Unfolding the submits of a history leaves what it releases as it is. -/
theorem History.released_calls {start now : Workflow} {past : List Event}
    (h : History start past now) :
    (past.flatMap Event.calls).filterMap Event.released = past.filterMap Event.released := by
  induction h with
  | begins => rfl
  | @goesOn past now event intent prior last ih =>
      rw [List.flatMap_append, List.filterMap_append, List.filterMap_append, ih,
        List.flatMap_singleton, (Workflow.calls_of_perform last).2, filterMap_one]

end EquipmentBooking

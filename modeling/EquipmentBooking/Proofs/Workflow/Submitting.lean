import EquipmentBooking.Proofs.Workflow.Courses

/-! Histories as courses. A submit, which waits for the authority in one go, is taken apart into the
call to begin, the run of the check and the call to complete it. -/
namespace EquipmentBooking

namespace Course

variable {start s : Session} {log : List (Nat × Occurrence)}

/-- Alone under way, a trip is answered when its wait is over. -/
theorem answers (h : Course start log s) {trip : Trip} {wait : Nat}
    {result : Except ApiError (List ClashRecord)} (hUnderWay : s.underWay = [trip])
    (hSince : trip.since = s.now) (hLive : s.isWithdrawn trip.pending.attempt = false)
    (hSettled : trip.pending.settled? trip.reply = some (wait, result)) :
    Course start (log ++ [(s.now + wait, .answered trip result)])
      { s with now := s.now + wait, underWay := [] } := by
  have hOver : Course start log { s with now := s.now + wait } := by
    rcases Nat.eq_zero_or_pos wait with rfl | hPositive
    · exact h
    · refine h.waits (Nat.lt_add_of_pos_right hPositive) fun member hMember t _ hBefore => ?_
      rw [hUnderWay] at hMember
      obtain rfl := List.mem_singleton.mp hMember
      rw [hLive, Trip.poll?_eq_none_iff, hSettled]
      intro _ _ hSame
      cases hSame
      rw [hSince]
      exact hBefore
  have hPoll := Trip.poll?_of_settled? hSettled
  rw [hSince, ← hLive] at hPoll
  exact hOver.goesOn (@Session.Next.answer _ [] [] _ _ hUnderWay hPoll)

/-- A check run where nothing else is under way comes to what the round trip computes. -/
theorem runs (h : Course start log s) {pending : PendingCheck} {waiting : List PendingCheck}
    {reply : Reply} {trip : RoundTrip} (hIdle : s.underWay = [])
    (hWaiting : s.waiting = waiting ++ [pending])
    (hRun : pending.run? (s.isWithdrawn pending.attempt) none reply = some trip) :
    ∃ steps now, Course start (log ++ steps) { s with now, waiting } ∧
      observed Occurrence.event? steps = [] ∧
      observed Occurrence.query? steps = (if trip.asked then some pending.query else none).toList ∧
      observed Occurrence.check? steps = [⟨pending.attempt, trip.result⟩] := by
  cases hLive : s.isWithdrawn pending.attempt with
  | true =>
      rw [hLive] at hRun
      cases hRun
      have hCut := h.goesOn (@Session.Next.cut _ waiting [] _ hWaiting hLive)
      rw [List.append_nil] at hCut
      exact ⟨_, s.now, hCut, rfl, rfl, rfl⟩
  | false =>
      rw [hLive] at hRun
      cases hSettled : pending.settled? reply with
      | none => simp [PendingCheck.run?, hSettled] at hRun
      | some ending =>
          obtain ⟨wait, result⟩ := ending
          have hTrip : some ⟨true, result⟩ = some trip := by
            simpa [PendingCheck.run?, hSettled] using hRun
          cases hTrip
          have hAsked := h.goesOn (@Session.Next.ask _ waiting [] _ reply hWaiting hLive)
          rw [List.append_nil, hIdle] at hAsked
          have hAnswered := hAsked.answers rfl rfl hLive hSettled
          rw [List.append_assoc] at hAnswered
          rw [hIdle]
          exact ⟨_, _, hAnswered, rfl, rfl, rfl⟩

/-- What submitting does in one go happens step by step in a course in which nothing else is under way. -/
theorem of_submit (h : Course start log s) (hHere : s.gone = false) (hIdle : s.underWay = [])
    {form : BookingForm} {target : SubmitTarget} {authority : ClashQuery → Reply}
    {submitter : Submitter} {event : Event}
    (hPerform : s.workflow.perform (.submit form target authority submitter) = .ok (some event)) :
    ∃ steps now, Course start (log ++ steps) { s with workflow := event.after, now } ∧
      observed Occurrence.event? steps = event.calls ∧
      observed Occurrence.query? steps = event.asked.toList := by
  obtain ⟨step, asked, hSubmit, rfl⟩ := Workflow.perform_submit hPerform
  obtain ⟨begun, hBegin, hCases⟩ := Workflow.submit_cases hSubmit
  let first := begun.event s.workflow (.begin form target) .begun
  have hFirst := h.goesOn (.call hHere rfl (Workflow.perform_begin hBegin))
  obtain ⟨error, hAnswer, rfl, rfl⟩ | ⟨pending, trip, hAnswer, hTrip, rfl, rfl⟩ := hCases
  · have hNone : first.begun? = none := by simp [first, Event.begun?, Step.event, hAnswer]
    rw [hNone, Option.toList_none, List.append_nil] at hFirst
    refine ⟨[(s.now, .called first)], s.now, hFirst, ?_, rfl⟩
    simp [first, observed, Occurrence.event?, Event.calls, Step.event, hBegin, hAnswer]
  · have hSome : first.begun? = some pending := by simp [first, Event.begun?, Step.event, hAnswer]
    rw [hSome] at hFirst
    have hRun : pending.run? (Session.isWithdrawn { s with workflow := begun.after }
        pending.attempt) none (authority pending.query) = some trip := by
      simpa [Session.isWithdrawn, Workflow.isWithdrawn, hHere] using hTrip
    obtain ⟨steps, now, hSteps, hEvents, hQueries, -⟩ := hFirst.runs hIdle rfl hRun
    let check : ClashCheck := ⟨pending.attempt, trip.result⟩
    let second := (begun.after.complete check submitter).event begun.after
      (.complete check submitter) .ended
    have hLast := hSteps.goesOn
      (@Session.Next.call _ second (.complete check submitter) hHere rfl rfl)
    refine ⟨(s.now, .called first) :: (steps ++ [(now, .called second)]), now, ?_, ?_, ?_⟩
    · have hNone : second.begun? = none := rfl
      rw [hNone, Option.toList_none, List.append_nil, List.append_assoc, List.append_assoc] at hLast
      exact hLast
    · simp [observed_cons, observed_concat, hEvents, Occurrence.event?, Event.calls, Step.event,
        hBegin, hAnswer, hTrip, first, second, check]
    · simp [observed_cons, observed_concat, hQueries, Occurrence.query?]
end Course

/-- Every history is that of a course in which each check is run as soon as it is handed out by a
submit, and no other is. -/
theorem History.course {roster : Roster} {config : ClientConfig} {past : List Event}
    {now : Workflow} (h : History (.fresh roster config.bound?) past now) :
    ∃ log s, Course (.fresh roster config) log s ∧ s.workflow = now ∧ s.gone = false ∧
      s.underWay = [] ∧ observed Occurrence.event? log = past.flatMap Event.calls ∧
      observed Occurrence.query? log = past.filterMap Event.asked := by
  induction h with
  | begins => exact ⟨[], _, .begins, rfl, rfl, rfl, rfl, rfl⟩
  | @goesOn past now event intent prior last ih =>
      obtain ⟨log, s, hCourse, rfl, hHere, hIdle, hEvents, hQueries⟩ := ih
      have hAsked : past.filterMap Event.asked ++ event.asked.toList =
          (past ++ [event]).filterMap Event.asked := by
        cases hQuery : event.asked <;> simp [List.filterMap_append, hQuery]
      cases hSubmit : intent.isSubmit with
      | false =>
          obtain ⟨hCall, hSingle⟩ := Workflow.call_of_perform last hSubmit
          refine ⟨_, _, hCourse.goesOn (.call hHere hSubmit last), rfl, hHere, hIdle, ?_, ?_⟩
          · simp [observed_concat, hEvents, hSingle, Occurrence.event?]
          · rw [← hAsked, hCall.asked_eq, observed_concat, hQueries]
            rfl
      | true =>
          cases intent with
          | submit form target authority submitter =>
              obtain ⟨steps, later, hSteps, hCalls, hPut⟩ := hCourse.of_submit hHere hIdle last
              refine ⟨_, _, hSteps, rfl, hHere, hIdle, ?_, ?_⟩
              · simp [observed_append, hEvents, hCalls]
              · rw [← hAsked, observed_append, hQueries, hPut]
          | _ => cases hSubmit

end EquipmentBooking

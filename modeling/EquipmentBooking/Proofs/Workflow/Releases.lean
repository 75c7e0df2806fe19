import EquipmentBooking.Proofs.Workflow.Soundness
import Mathlib.Data.List.Pairwise

/-! Releases of submissions over whole histories. An attempt that is spent stays spent and releases
nothing; an attempt is spent by its release, by being given up and by a check that failed. -/
namespace EquipmentBooking

namespace Event

def Begins (e : Event) (id : AttemptId) (target : SubmitTarget) : Prop :=
  ∃ form pending, e.intent = .begin form target ∧ e.begun? = some pending ∧ pending.attempt = id

/-- The call completes a check without clashes that the workflow waits for. -/
def Clears (e : Event) (id : AttemptId) : Prop :=
  ∃ check submitter, e.intent = .complete check submitter ∧ check.attempt = id ∧
    check.result = .ok [] ∧ e.before.state = .awaiting id

/-- The call completes a check with clashes that the workflow waits for, which opens their review. -/
def Opens (e : Event) (id : AttemptId) (review : ClashReview) : Prop :=
  ∃ check submitter records, e.intent = .complete check submitter ∧ check.attempt = id ∧
    check.result = .ok records ∧ records ≠ [] ∧ e.before.state = .awaiting id ∧
    e.after.state = .reviewing id review ∧ review = ClashReview.ofRecords records

def Confirms (e : Event) (id : AttemptId) (review : ClashReview) : Prop :=
  ∃ submitter, e.intent = .confirm submitter ∧ e.before.state = .reviewing id review

def Cancels (e : Event) (id : AttemptId) : Prop :=
  e.intent = .cancel ∧ e.answer = .cancelled (.ok id)

/-- The call completes a failed check that the workflow waits for. -/
def Fails (e : Event) (id : AttemptId) : Prop :=
  ∃ check submitter error, e.intent = .complete check submitter ∧ check.attempt = id ∧
    check.result = .error error ∧ e.before.state = .awaiting id

/-- The call releases the submission of an attempt, and the submitter fails. -/
def Loses (e : Event) (id : AttemptId) : Prop :=
  ∃ release detail, e.released = some release ∧ release.attempt = id ∧
    e.answer = .ended (.error (.submission detail))

/-- The call starts an attempt as it is held from then on. -/
def Starts (e : Event) (attempt : ActiveAttempt) : Prop :=
  ∃ form query, e.intent = .begin form attempt.target ∧
    e.begun? = some ⟨attempt.id, query, e.before.bound⟩ ∧
    attempt.submission = form.submission e.before.roster ∧
    form.problems e.before.roster = .ok [] ∧
    ClashQuery.build form.time e.before.roster.kind e.before.roster.entries = .ok (.ok query)

end Event

namespace Workflow

/-- An attempt that was begun and is held no more. -/
def Spent (w : Workflow) (id : AttemptId) : Prop :=
  id.number < w.nextAttempt ∧ ∀ attempt, w.active = some attempt → attempt.id ≠ id

variable {w : Workflow} {e : Event} {id : AttemptId} {release : Release}

/-- A call leaves spent attempts spent and releases nothing for them. -/
theorem Call.spent (h : w.Call e) (hSpent : w.Spent id) :
    e.after.Spent id ∧ ∀ release, e.released = some release → release.attempt ≠ id := by
  obtain ⟨hLt, hHeld⟩ := hSpent
  cases h with
  | sent check submitter hState hActive | confirmed submitter hState hActive =>
      refine ⟨⟨hLt, by simp⟩, fun release hRelease => ?_⟩
      cases hRelease
      exact hHeld _ hActive
  | failed | cancelled => exact ⟨⟨hLt, by simp⟩, by simp⟩
  | begun =>
      refine ⟨⟨Nat.lt_succ_of_lt hLt, fun attempt hAttempt hId => ?_⟩, by simp⟩
      cases hAttempt
      rw [← hId] at hLt
      exact Nat.lt_irrefl _ hLt
  | _ => exact ⟨⟨hLt, hHeld⟩, by simp⟩

/-- What a call releases is the submission of the attempt that was held, which it lets go. -/
theorem Call.released_eq (h : w.Call e) (hReleased : e.released = some release) :
    ∃ attempt, w.active = some attempt ∧
      release = ⟨attempt.id, attempt.target, attempt.submission⟩ ∧
      e.after.active = none ∧ e.after.nextAttempt = w.nextAttempt := by
  cases h with
  | sent check submitter hState hActive | confirmed submitter hState hActive =>
      cases hReleased
      exact ⟨_, hActive, rfl, rfl, rfl⟩
  | _ => cases hReleased

/-- A submission is released by completing a check without clashes or by confirming a review. -/
theorem Call.released_cases (h : w.Call e) (hSound : w.Sound)
    (hReleased : e.released = some release) :
    e.Clears release.attempt ∨ ∃ review, e.Confirms release.attempt review := by
  cases h with
  | sent check submitter hState hActive hId hResult =>
      cases hReleased
      refine .inl ⟨check, submitter, rfl, hId.symm, hResult, ?_⟩
      rw [hState, hId]
  | @confirmed submitter id review attempt lastError stats answer hState hActive =>
      cases hReleased
      have hAttempt := hSound.attempt?_of_active hActive
      rw [hState] at hAttempt
      cases hAttempt
      exact .inr ⟨review, submitter, rfl, hState⟩
  | _ => cases hReleased

theorem Call.spent_of_released (h : w.Call e) (hSound : w.Sound)
    (hReleased : e.released = some release) : e.after.Spent release.attempt := by
  obtain ⟨attempt, hActive, rfl, hNone, hNext⟩ := h.released_eq hReleased
  refine ⟨?_, by simp [hNone]⟩
  rw [hNext]
  exact hSound.held_lt attempt hActive

/-- A call that gives an attempt up or fails its check finds the attempt held, lets it go and
withdraws it. -/
theorem Call.ending (h : w.Call e) (hSound : w.Sound) (hEnds : e.Cancels id ∨ e.Fails id) :
    ∃ attempt, w.active = some attempt ∧ attempt.id = id ∧ e.after.active = none ∧
      e.after.withdrawn = id :: w.withdrawn ∧ e.after.nextAttempt = w.nextAttempt := by
  rcases hEnds with ⟨hIntent, hAnswer⟩ | ⟨check, submitter, error, hIntent, rfl, hResult, hState⟩
  · cases h with
    | cancelled hState hActive =>
        cases hAnswer
        exact ⟨_, hActive, rfl, rfl, rfl, rfl⟩
    | notUnderWay => cases hAnswer
    | _ => cases hIntent
  · rw [h.before_eq] at hState
    obtain ⟨attempt, hActive, hId⟩ := hSound.active_of_attempt? (by rw [hState]; rfl)
    cases h with
    | stale check submitter hStale =>
        cases hIntent
        simp [awaited?, hState, hActive, hId] at hStale
    | sent check submitter hState hActive hId hOk | opened check submitter hState hActive hId hOk =>
        cases hIntent
        rw [hResult] at hOk
        cases hOk
    | failed check submitter hState hActive hId =>
        cases hIntent
        exact ⟨_, hActive, hId, rfl, by rw [← hId], rfl⟩
    | _ => cases hIntent

theorem Call.spent_of_ends (h : w.Call e) (hSound : w.Sound)
    (hEnds : e.Cancels id ∨ e.Fails id) : e.after.Spent id := by
  obtain ⟨attempt, hActive, rfl, hNone, -, hNext⟩ := h.ending hSound hEnds
  refine ⟨?_, by simp [hNone]⟩
  rw [hNext]
  exact hSound.held_lt attempt hActive

/-- Only completing a check with clashes begins a review. -/
theorem Call.reviewing_cases (h : w.Call e) {review : ClashReview}
    (hState : e.after.state = .reviewing id review) :
    w.state = .reviewing id review ∨ e.Opens id review := by
  cases h with
  | opened check submitter hAwaiting hActive hId hResult =>
      cases hState
      refine .inr ⟨check, submitter, _, rfl, hId.symm, hResult, List.cons_ne_nil _ _, ?_, rfl, rfl⟩
      rw [hAwaiting, hId]
  | invalid | begun | sent | failed | confirmed | cancelled => cases hState
  | _ => exact .inl hState

end Workflow

namespace Calls

variable {start now : Workflow} {past : List Event} {e : Event} {id : AttemptId}

/-- Nothing is released for a spent attempt, however things go on. -/
theorem spent (h : Calls start past now) (hSpent : start.Spent id) :
    now.Spent id ∧
      ∀ e ∈ past, ∀ release, e.released = some release → release.attempt ≠ id := by
  induction h with
  | begins => exact ⟨hSpent, by simp⟩
  | goesOn prior last ih =>
      obtain ⟨hNow, hPast⟩ := ih
      obtain ⟨hAfter, hLast⟩ := last.spent hNow
      refine ⟨hAfter, fun e he => ?_⟩
      rcases List.mem_append.mp he with hOld | hNew
      · exact hPast e hOld
      · rw [List.mem_singleton.mp hNew]
        exact hLast

theorem spent_of_released (h : Calls start past now) (hSound : start.Sound) (hMem : e ∈ past)
    {release : Release} (hReleased : e.released = some release) : now.Spent release.attempt := by
  obtain ⟨earlier, later, rfl⟩ := List.append_of_mem hMem
  obtain ⟨hEarlier, hCall, hLater⟩ := h.split
  exact (hLater.spent (hCall.spent_of_released (hEarlier.sound hSound) hReleased)).1

/-- No attempt releases two submissions. -/
theorem released_nodup (h : Calls start past now) (hSound : start.Sound) :
    ((past.filterMap Event.released).map Release.attempt).Nodup := by
  induction h with
  | begins => exact List.nodup_nil
  | @goesOn past now event prior last ih =>
      cases hReleased : event.released with
      | none => simpa [List.filterMap_append, hReleased] using ih
      | some release =>
          simp only [List.filterMap_append, List.filterMap_cons_some hReleased, List.filterMap_nil,
            List.map_append, List.map_cons, List.map_nil, List.nodup_append]
          refine ⟨ih, List.pairwise_singleton _ _, fun id hId other hOther hEq => ?_⟩
          rw [List.mem_singleton.mp hOther] at hEq
          obtain ⟨old, hOld, rfl⟩ := List.mem_map.mp hId
          obtain ⟨e, hMem, hRelease⟩ := List.mem_filterMap.mp hOld
          have hSpent := prior.spent_of_released hSound hMem hRelease
          exact (last.spent hSpent).2 release hReleased hEq.symm

/-- The attempt that is held was started by a call, and is held as it was started. -/
theorem starts_of_active (h : Calls start past now) (hStart : start.active = none)
    {attempt : ActiveAttempt} (hActive : now.active = some attempt) :
    ∃ e ∈ past, e.Starts attempt := by
  induction h with
  | begins => simp [hStart] at hActive
  | @goesOn past now event prior last ih =>
      have hOld : now.active = some attempt → ∃ e ∈ past ++ [event], e.Starts attempt := by
        intro hHeld
        obtain ⟨e, hMem, hStarts⟩ := ih hHeld
        exact ⟨e, List.mem_append_left _ hMem, hStarts⟩
      cases last with
      | begun form target hIdle hProblems hQuery =>
          cases hActive
          exact ⟨_, List.mem_append_right _ (List.mem_singleton_self _), form, _, rfl, rfl, rfl,
            hProblems, hQuery⟩
      | sent | failed | confirmed | cancelled => cases hActive
      | _ => exact hOld hActive

/-- A review that is under way was opened by a call, and has been under way ever since. -/
theorem opens_of_reviewing (h : Calls start past now) (hStart : start.state.phase ≠ .reviewing)
    {review : ClashReview} (hState : now.state = .reviewing id review) :
    ∃ front opening back, past = front ++ opening :: back ∧ opening.Opens id review ∧
      ∀ e ∈ back, e.after.state = .reviewing id review := by
  induction h with
  | begins => simp [hState, WorkflowState.phase] at hStart
  | @goesOn past now event prior last ih =>
      rcases last.reviewing_cases hState with hBefore | hOpens
      · obtain ⟨front, opening, back, rfl, hOpening, hBack⟩ := ih hBefore
        refine ⟨front, opening, back ++ [event], by simp, hOpening, fun e he => ?_⟩
        rcases List.mem_append.mp he with hOld | hNew
        · exact hBack e hOld
        · rw [List.mem_singleton.mp hNew]
          exact hState
      · exact ⟨past, event, [], rfl, hOpens, by simp⟩

/-- An attempt begins once. -/
theorem begun_unique (h : Calls start past now) {first second : Event} (hFirst : first ∈ past)
    (hSecond : second ∈ past) {p q : PendingCheck} (hp : first.begun? = some p)
    (hq : second.begun? = some q) (hSame : p.attempt = q.attempt) : first = second := by
  by_contra hNe
  have hApart : past.Pairwise fun e f =>
      ∀ p, e.begun? = some p → ∀ q, f.begun? = some q → p.attempt ≠ q.attempt := by
    refine (List.pairwise_filterMap.mp h.begun_sorted.2).imp fun hLt p hp q hq hEq => ?_
    have hNumbers := hLt p hp q hq
    rw [hEq] at hNumbers
    exact Nat.lt_irrefl _ hNumbers
  have : Std.Symm fun e f : Event =>
      ∀ p, e.begun? = some p → ∀ q, f.begun? = some q → p.attempt ≠ q.attempt :=
    ⟨fun e f hEf q hq p hp hEq => hEf p hp q hq hEq.symm⟩
  exact hApart.forall hFirst hSecond hNe p hp q hq hSame

/-- What a call releases belongs to an attempt that an earlier call started. -/
theorem starts_of_released {earlier later : List Event} {call : Event}
    (h : Calls start (earlier ++ call :: later) now) (hStart : start.active = none)
    {release : Release} (hReleased : call.released = some release) :
    ∃ e ∈ earlier, e.Starts ⟨release.attempt, release.target, release.submission⟩ := by
  obtain ⟨hEarlier, hCall, -⟩ := h.split
  obtain ⟨attempt, hActive, rfl, -, -⟩ := hCall.released_eq hReleased
  exact hEarlier.starts_of_active hStart hActive

/-- Once a call has given an attempt up, failed it, or lost its submission, nothing is released for
it any more. -/
theorem no_release_after {earlier later : List Event} {call : Event}
    (h : Calls start (earlier ++ call :: later) now) (hSound : start.Sound)
    (hEnds : call.Cancels id ∨ call.Fails id ∨ call.Loses id) :
    ∀ e ∈ later, ∀ release, e.released = some release → release.attempt ≠ id := by
  obtain ⟨hEarlier, hCall, hLater⟩ := h.split
  have hBefore := hEarlier.sound hSound
  have hSpent : call.after.Spent id := by
    rcases hEnds with hCancels | hFails | ⟨release, detail, hReleased, rfl, -⟩
    · exact hCall.spent_of_ends hBefore (.inl hCancels)
    · exact hCall.spent_of_ends hBefore (.inr hFails)
    · exact hCall.spent_of_released hBefore hReleased
  exact (hLater.spent hSpent).2

end Calls

/-- An attempt releases at most one submission, for the control that it was begun for, and only when
its check comes to no clashes or when the review of its clashes is confirmed. After it was given up,
its check failed or its submission was lost it never releases any. All calls are looked at one by
one, those that submits are made of included. -/
theorem History.released_once_when_authorised {roster : Roster} {bound : Option UInt64}
    {past : List Event} {now : Workflow} (h : History (.fresh roster bound) past now) :
    (past.flatMap Event.calls).filterMap Event.released = past.filterMap Event.released ∧
      ((past.filterMap Event.released).map Release.attempt).Nodup ∧
      ∀ earlier call later, past.flatMap Event.calls = earlier ++ call :: later →
        (∀ release, call.released = some release →
          (call.Clears release.attempt ∨
            ∃ review, call.Confirms release.attempt review ∧
              ∃ front opening back, earlier = front ++ opening :: back ∧
                opening.Opens release.attempt review ∧
                ∀ e ∈ back, e.after.state = .reviewing release.attempt review) ∧
          (∃ e ∈ earlier, e.Begins release.attempt release.target) ∧
          ∀ e ∈ past.flatMap Event.calls, ∀ target, e.Begins release.attempt target →
            target = release.target) ∧
        ∀ id, call.Cancels id ∨ call.Fails id ∨ call.Loses id →
          ∀ e ∈ later, ∀ release, e.released = some release → release.attempt ≠ id := by
  have hSound := Workflow.sound_fresh roster bound
  have hCalls := h.calls
  refine ⟨h.released_calls, ?_, ?_⟩
  · rw [← h.released_calls]
    exact hCalls.released_nodup hSound
  intro earlier call later hSplit
  rw [hSplit] at hCalls ⊢
  obtain ⟨hEarlier, hCall, -⟩ := hCalls.split
  refine ⟨fun release hReleased => ⟨?_, ?_, ?_⟩, fun id => hCalls.no_release_after hSound⟩
  · rcases hCall.released_cases (hEarlier.sound hSound) hReleased with
      hClears | ⟨review, hConfirms⟩
    · exact .inl hClears
    · refine .inr ⟨review, hConfirms, ?_⟩
      obtain ⟨submitter, -, hState⟩ := hConfirms
      exact hEarlier.opens_of_reviewing Phase.noConfusion hState
  · obtain ⟨e, hMem, form, query, hIntent, hBegun, -⟩ := hCalls.starts_of_released rfl hReleased
    exact ⟨e, hMem, form, _, hIntent, hBegun, rfl⟩
  · intro e hMem target hBegins
    obtain ⟨form, pending, hIntent, hBegun, hId⟩ := hBegins
    obtain ⟨first, hFirst, form', query, hIntent', hBegun', -⟩ :=
      hCalls.starts_of_released rfl hReleased
    have hSame := hCalls.begun_unique hMem (List.mem_append_left _ hFirst) hBegun hBegun' hId
    rw [hSame, hIntent'] at hIntent
    cases hIntent
    rfl

/-- A review is confirmed, the submission is lost and the confirmation repeated; a second attempt
has no clashes. -/
def sampleReleases : List Intent :=
  let refused : Submitter := fun _ => .error .cancelled
  [.begin sampleForm ⟨"first"⟩, .complete ⟨⟨1⟩, .ok sampleClashes⟩ refused, .confirm refused,
    .confirm refused, .submit sampleForm ⟨"second"⟩ (fun _ => ⟨some 3, .ok []⟩) refused]

theorem released_once_after_lost_submission :
    ∃ past now, (Workflow.fresh sampleRoster none).performAll? sampleReleases = some (past, now) ∧
      (past.filterMap Event.released).map Release.attempt = [⟨1⟩, ⟨2⟩] ∧
      ((past.filterMap Event.released).map Release.attempt).Nodup ∧
      ∀ e ∈ (past.flatMap Event.calls).drop 3, ∀ release, e.released = some release →
        release.attempt ≠ ⟨1⟩ := by
  have hRun : (Workflow.fresh sampleRoster none).performAll? sampleReleases = some (_, _) := rfl
  obtain ⟨-, hNodup, hAll⟩ := History.released_once_when_authorised (History.of_performAll? hRun)
  refine ⟨_, _, hRun, rfl, hNodup, ?_⟩
  exact (hAll [_, _] _ [_, _, _] rfl).2 ⟨1⟩ (.inr (.inr ⟨_, _, rfl, rfl, rfl⟩))

end EquipmentBooking

import EquipmentBooking.Proofs.Workflow.Soundness

/-! Calls that are refused and calls that fail. A refusal leaves everything but one counter as it was;
any other error ends the attempt and leaves nothing of it behind. -/
namespace EquipmentBooking

namespace WorkflowError

/-- Whether an error says that a call came at the wrong time, so that nothing was tried. -/
def IsRefusal : WorkflowError → Prop
  | violation _ _ => True
  | stale _ => True
  | _ => False

theorem not_isRefusal_ofApi (error : ApiError) : ¬ (ofApi error).IsRefusal := by
  cases error <;> exact id

end WorkflowError

namespace Intent

/-- Whether a state allows an intent: only an idle workflow begins, only one that waits for a check
completes it, only a review can be confirmed, and only an attempt under way can be given up. -/
def Fits (state : WorkflowState) : Intent → Prop
  | begin _ _ => state.phase = .idle
  | complete check _ => state = .awaiting check.attempt
  | confirm _ => state.phase = .reviewing
  | cancel => state.attempt?.isSome = true
  | _ => True

def countRefusal (stats : WorkflowStats) : Intent → WorkflowStats
  | begin _ _ => { stats with rejectedIntents := stats.rejectedIntents + 1 }
  | complete _ _ => { stats with staleResponses := stats.staleResponses + 1 }
  | _ => stats

end Intent

namespace Event

def error? (e : Event) : Option WorkflowError :=
  match e.answer with
  | .begun (.error error) => some error
  | .ended (.error error) => some error
  | .cancelled (.error error) => some error
  | _ => none

/-- Whether an event ended an attempt without an error: its submission was taken, or it was given up. -/
def EndsWell (e : Event) : Prop :=
  (∃ attempt reviewed receipt, e.answer = .ended (.ok (.submitted attempt reviewed receipt))) ∨
    ∃ attempt, e.answer = .cancelled (.ok attempt)

end Event

namespace Workflow

variable {w : Workflow} {e : Event} {error : WorkflowError}

/-- A refused call does nothing but count. -/
theorem Call.after_of_refused (h : w.Call e) (hError : e.error? = some error)
    (hRefusal : error.IsRefusal) :
    e.after = { w with stats := e.intent.countRefusal w.stats } ∧ e.released = none := by
  cases h with
  | busy | stale | notReviewing | notUnderWay => exact ⟨rfl, rfl⟩
  | invalid =>
      cases hError
      exact hRefusal.elim
  | failed =>
      cases hError
      exact absurd hRefusal (WorkflowError.not_isRefusal_ofApi _)
  | sent check submitter hState hActive hId hResult hFinish
  | confirmed submitter hState hActive hFinish =>
      rcases finish_cases hFinish with ⟨receipt, rfl, -⟩ | ⟨detail, rfl, -⟩
      · cases hError
      · cases hError
        exact hRefusal.elim
  | begun | opened | cancelled | edited => cases hError

/-- A call that fails ends in the idle state with its error. It holds no attempt and takes no number. -/
theorem Call.after_of_failed (h : w.Call e) (hSound : w.Sound) (hError : e.error? = some error)
    (hFailure : ¬ error.IsRefusal) :
    e.after.state = .idle (some error) ∧ e.after.active = none ∧ e.after.roster = w.roster ∧
      e.after.nextAttempt = w.nextAttempt := by
  cases h with
  | busy | stale | notReviewing | notUnderWay =>
      cases hError
      exact absurd trivial hFailure
  | invalid form target hIdle =>
      cases hError
      exact ⟨rfl, hSound.active_of_idle hIdle, rfl, rfl⟩
  | failed =>
      cases hError
      exact ⟨rfl, rfl, rfl, rfl⟩
  | sent check submitter hState hActive hId hResult hFinish
  | confirmed submitter hState hActive hFinish =>
      rcases finish_cases hFinish with ⟨receipt, rfl, -⟩ | ⟨detail, rfl, hEnd, -⟩
      · cases hError
      · cases hError
        exact ⟨hEnd, rfl, rfl, rfl⟩
  | begun | opened | cancelled | edited => cases hError

/-- An attempt that ended well leaves no error to show. -/
theorem Call.after_of_endsWell (h : w.Call e) (hEnds : e.EndsWell) :
    e.after.state = .idle none ∧ e.after.active = none ∧ e.after.roster = w.roster := by
  rcases hEnds with ⟨attempt, reviewed, receipt, hAnswer⟩ | ⟨attempt, hAnswer⟩
  · cases h with
    | sent check submitter hState hActive hId hResult hFinish
    | confirmed submitter hState hActive hFinish =>
        rcases finish_cases hFinish with ⟨receipt, rfl, hEnd, -⟩ | ⟨detail, rfl, -⟩
        · exact ⟨hEnd, rfl, rfl⟩
        · cases hAnswer
    | _ => cases hAnswer
  · cases h with
    | cancelled => exact ⟨rfl, rfl, rfl⟩
    | _ => cases hAnswer

theorem Sound.active_ne_none (hSound : w.Sound) (hState : w.state.attempt?.isSome = true) :
    w.active ≠ none := by
  obtain ⟨id, hId⟩ := Option.isSome_iff_exists.mp hState
  obtain ⟨attempt, hActive, -⟩ := hSound.active_of_attempt? hId
  simp [hActive]

theorem Sound.awaited?_ne_none (hSound : w.Sound) {check : ClashCheck}
    (hState : w.state = .awaiting check.attempt) : w.awaited? check ≠ none := by
  obtain ⟨attempt, hActive, hId⟩ := hSound.active_of_attempt? (by rw [hState]; rfl)
  simp [awaited?, hState, hActive, hId]

/-- A call is refused exactly when the state does not allow it. -/
theorem Call.refused_iff (h : w.Call e) (hSound : w.Sound) :
    (∃ error, e.error? = some error ∧ error.IsRefusal) ↔ ¬ e.intent.Fits w.state := by
  have hUnreleased : (∃ error, e.error? = some error ∧ error.IsRefusal) → e.released = none :=
    fun ⟨_, hError, hRefusal⟩ => (h.after_of_refused hError hRefusal).2
  cases h with
  | busy form target hBusy => exact iff_of_true ⟨_, rfl, trivial⟩ hBusy
  | stale check submitter hStale =>
      exact iff_of_true ⟨_, rfl, trivial⟩ fun hState => hSound.awaited?_ne_none hState hStale
  | notReviewing submitter hRefused =>
      refine iff_of_true ⟨_, rfl, trivial⟩ fun hState => ?_
      have hHeld : w.active ≠ none := hSound.active_ne_none (by
        cases hCase : w.state <;> simp_all [Intent.Fits, WorkflowState.phase,
          WorkflowState.attempt?])
      exact hRefused.elim (absurd hState) hHeld
  | notUnderWay hRefused =>
      refine iff_of_true ⟨_, rfl, trivial⟩ fun hState => ?_
      have hHeld := hSound.active_ne_none hState
      cases hCase : w.state <;>
        simp_all [Intent.Fits, WorkflowState.phase, WorkflowState.attempt?]
  | invalid form target hIdle =>
      refine iff_of_false ?_ (not_not_intro hIdle)
      rintro ⟨error, hError, hRefusal⟩
      cases hError
      exact hRefusal
  | begun form target hIdle =>
      refine iff_of_false ?_ (not_not_intro hIdle)
      rintro ⟨error, hError, -⟩
      cases hError
  | sent check submitter hState =>
      exact iff_of_false (fun hRefused => by cases hUnreleased hRefused) (not_not_intro hState)
  | opened check submitter hState =>
      refine iff_of_false ?_ (not_not_intro hState)
      rintro ⟨error, hError, -⟩
      cases hError
  | failed check submitter hState =>
      refine iff_of_false ?_ (not_not_intro hState)
      rintro ⟨error, hError, hRefusal⟩
      cases hError
      exact WorkflowError.not_isRefusal_ofApi _ hRefusal
  | confirmed submitter hState =>
      refine iff_of_false (fun hRefused => by cases hUnreleased hRefused) (not_not_intro ?_)
      rw [hState]
      rfl
  | cancelled hState =>
      refine iff_of_false ?_ (not_not_intro (Option.isSome_of_eq_some hState))
      rintro ⟨error, hError, -⟩
      cases hError
  | edited =>
      refine iff_of_false ?_ (not_not_intro trivial)
      rintro ⟨error, hError, -⟩
      cases hError

end Workflow

/-- However a workflow was reached, a call is refused exactly when its state does not allow the call,
and then only a counter changes. A call that ends with any other error leaves the workflow idle with
that error, without an attempt and with its roster, and uses up no number. A call that ends an
attempt well leaves no error. -/
theorem History.refused_or_cleaned_up {roster : Roster} {bound : Option UInt64}
    {past : List Event} {now : Workflow} (h : History (.fresh roster bound) past now)
    {intent : Intent} {event : Event} (hSingle : intent.isSubmit = false)
    (hPerform : now.perform intent = .ok (some event)) :
    ((∃ error, event.error? = some error ∧ error.IsRefusal) ↔ ¬ intent.Fits now.state) ∧
      (∀ error, event.error? = some error → error.IsRefusal →
        event.after = { now with stats := intent.countRefusal now.stats } ∧
          event.released = none ∧ event.asked = none) ∧
      (∀ error, event.error? = some error → ¬ error.IsRefusal →
        event.after.state = .idle (some error) ∧ event.after.active = none ∧
          event.after.roster = now.roster ∧ event.after.nextAttempt = now.nextAttempt) ∧
      (event.EndsWell →
        event.after.state = .idle none ∧ event.after.active = none ∧
          event.after.roster = now.roster) := by
  have hSound : now.Sound := h.calls.sound (Workflow.sound_fresh roster bound)
  obtain ⟨hCall, -⟩ := Workflow.call_of_perform hPerform hSingle
  obtain ⟨-, rfl⟩ := Workflow.before_and_intent_of_perform hPerform
  refine ⟨hCall.refused_iff hSound, ?_, fun error => hCall.after_of_failed hSound,
    hCall.after_of_endsWell⟩
  intro error hError hRefusal
  obtain ⟨hAfter, hReleased⟩ := hCall.after_of_refused hError hRefusal
  exact ⟨hAfter, hReleased, hCall.asked_eq⟩

/-- A workflow that waits for the check of its second attempt; the first was given up. -/
def sampleAwaiting : Workflow where
  state := .awaiting ⟨2⟩
  roster := sampleRoster
  active := some ⟨⟨2⟩, ⟨"second"⟩, sampleForm.submission sampleRoster⟩
  nextAttempt := 3
  bound := none
  stats := { attemptsStarted := 2, attemptsAbandoned := 1 }
  withdrawn := [⟨1⟩]

theorem sampleAwaiting_reached : ∃ past, History (.fresh sampleRoster none) past sampleAwaiting := by
  have hRun : (Workflow.fresh sampleRoster none).performAll?
      [.begin sampleForm ⟨"first"⟩, .cancel, .begin sampleForm ⟨"second"⟩] =
        some (_, sampleAwaiting) := rfl
  exact ⟨_, .of_performAll? hRun⟩

def sampleSubmitter : Submitter := fun _ => .error .cancelled

/-- A late answer to the attempt that was given up is refused; a failed check of the one under way
ends it. -/
theorem refused_or_cleaned_up_while_awaiting :
    ∃ stale failed,
      sampleAwaiting.perform (.complete ⟨⟨1⟩, .ok []⟩ sampleSubmitter) = .ok (some stale) ∧
      sampleAwaiting.perform (.complete ⟨⟨2⟩, .error .cancelled⟩ sampleSubmitter) =
        .ok (some failed) ∧
      stale.after.state = .awaiting ⟨2⟩ ∧ stale.after.active = sampleAwaiting.active ∧
      failed.after.state = .idle (some (.transport "Request cancelled")) ∧
      failed.after.active = none := by
  obtain ⟨past, hPast⟩ := sampleAwaiting_reached
  have hStale : sampleAwaiting.perform (.complete ⟨⟨1⟩, .ok []⟩ sampleSubmitter) =
    .ok (some _) := rfl
  have hFailed : sampleAwaiting.perform (.complete ⟨⟨2⟩, .error .cancelled⟩ sampleSubmitter) =
    .ok (some _) := rfl
  obtain ⟨-, hRefusal, -⟩ := hPast.refused_or_cleaned_up rfl hStale
  obtain ⟨-, -, hFailure, -⟩ := hPast.refused_or_cleaned_up rfl hFailed
  obtain ⟨hAfter, -⟩ := hRefusal (.stale ⟨1⟩) rfl trivial
  obtain ⟨hState, hActive, -⟩ := hFailure (.transport "Request cancelled") rfl id
  refine ⟨_, _, hStale, hFailed, ?_, ?_, hState, hActive⟩
  · rw [hAfter]
    rfl
  · rw [hAfter]

end EquipmentBooking

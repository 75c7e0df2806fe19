import EquipmentBooking.Proofs.Workflow.Soundness

/-! The counters of a workflow balance. Every attempt that was started is either held or was counted as
ended once, and the counters say how often each kind of call was made. -/
namespace EquipmentBooking

/-- How the counters of a workflow stand to each other and to what it holds. -/
structure Workflow.Balanced (w : Workflow) : Prop where
  started_eq : w.stats.attemptsStarted + 1 = w.nextAttempt
  ended_eq : w.stats.attemptsStarted =
    w.stats.submissions + w.stats.submissionFailures + w.stats.transportFailures +
      w.stats.malformedResponses + w.stats.reviewsCancelled + w.stats.attemptsAbandoned +
      if w.active.isSome then 1 else 0
  presented_eq : w.stats.reviewsPresented =
    w.stats.reviewsConfirmed + w.stats.reviewsCancelled +
      if w.state.phase = .reviewing then 1 else 0

namespace Event

def isBeginning (e : Event) : Bool :=
  match e.intent with
  | .begin _ _ => true
  | _ => false

def isRelease (e : Event) : Bool :=
  e.released.isSome

def isConfirmedRelease (e : Event) : Bool :=
  match e.intent with
  | .confirm _ => e.released.isSome
  | _ => false

/-- Whether an event completed a check that nobody waited for. -/
def isStale (e : Event) : Bool :=
  match e.intent, e.answer with
  | .complete _ _, .ended (.error (.stale _)) => true
  | _, _ => false

end Event

/-- How the counters of a workflow stand to the calls that were made. -/
structure Workflow.Tallies (w : Workflow) (past : List Event) : Prop where
  beginnings_eq : past.countP Event.isBeginning =
    w.stats.attemptsStarted + w.stats.validationFailures + w.stats.rejectedIntents
  releases_eq : past.countP Event.isRelease = w.stats.submissions + w.stats.submissionFailures
  confirmed_eq : past.countP Event.isConfirmedRelease = w.stats.reviewsConfirmed
  stale_eq : past.countP Event.isStale = w.stats.staleResponses

namespace Workflow

variable {w : Workflow} {e : Event} {past : List Event}

theorem balanced_fresh (roster : Roster) (bound : Option UInt64) : (fresh roster bound).Balanced :=
  ⟨rfl, rfl, rfl⟩

theorem tallies_fresh (roster : Roster) (bound : Option UInt64) :
    (fresh roster bound).Tallies [] :=
  ⟨rfl, rfl, rfl, rfl⟩

/-- A failed check is counted once, as malformed or as a failure of transport. -/
theorem countFailure_stats (w : Workflow) (error : WorkflowError) :
    (w.countFailure error).stats =
        { w.stats with malformedResponses := w.stats.malformedResponses + 1 } ∨
      (w.countFailure error).stats =
        { w.stats with transportFailures := w.stats.transportFailures + 1 } := by
  cases error with
  | malformed => exact .inl rfl
  | _ => exact .inr rfl

/-- Every call keeps the counters balanced: it starts an attempt where none was held, or it ends the
one that was held and counts that once. -/
theorem Call.balanced (h : w.Call e) (hSound : w.Sound) (hBalanced : w.Balanced) :
    e.after.Balanced := by
  obtain ⟨hStarted, hEnded, hPresented⟩ := hBalanced
  cases h with
  | busy | stale | notReviewing | notUnderWay | edited => exact ⟨hStarted, hEnded, hPresented⟩
  | invalid form target hIdle =>
      refine ⟨hStarted, hEnded, ?_⟩
      rw [hIdle] at hPresented
      exact hPresented
  | begun form target hIdle =>
      rw [hSound.active_of_idle hIdle] at hEnded
      rw [hIdle] at hPresented
      exact ⟨congrArg (· + 1) hStarted, congrArg (· + 1) hEnded, hPresented⟩
  | opened check submitter hState hActive =>
      rw [hState] at hPresented
      exact ⟨hStarted, hEnded, congrArg (· + 1) hPresented⟩
  | sent check submitter hState hActive hId hResult hFinish =>
      rw [hActive] at hEnded
      rw [hState] at hPresented
      rcases finish_cases hFinish with ⟨receipt, -, -, rfl⟩ | ⟨detail, -, -, rfl⟩
      all_goals
        refine ⟨hStarted, ?_, hPresented⟩
        simp at hEnded ⊢
        omega
  | @failed check submitter attempt error hState hActive =>
      rw [hActive] at hEnded
      rw [hState] at hPresented
      rcases countFailure_stats w (.ofApi error) with hStats | hStats
      all_goals
        refine ⟨?_, ?_, ?_⟩ <;> simp only [hStats]
        · exact hStarted
        · simp at hEnded ⊢
          omega
        · exact hPresented
  | confirmed submitter hState hActive hFinish =>
      rw [hActive] at hEnded
      rw [hState] at hPresented
      rcases finish_cases hFinish with ⟨receipt, -, -, rfl⟩ | ⟨detail, -, -, rfl⟩
      all_goals
        refine ⟨hStarted, ?_, ?_⟩
        · simp at hEnded ⊢
          omega
        · simp [WorkflowState.phase] at hPresented ⊢
          omega
  | cancelled hState hActive =>
      rw [hActive] at hEnded
      by_cases hReviewing : w.state.phase = .reviewing
      all_goals
        simp only [hReviewing, ↓reduceIte] at hPresented ⊢
        refine ⟨hStarted, ?_, ?_⟩
        · simp at hEnded ⊢
          omega
        · simp [WorkflowState.phase] at hPresented ⊢
          omega

/-- A call counts itself by its kind, and nothing else. -/
theorem Call.counted (h : w.Call e) :
    e.after.stats.attemptsStarted + e.after.stats.validationFailures +
        e.after.stats.rejectedIntents =
      w.stats.attemptsStarted + w.stats.validationFailures + w.stats.rejectedIntents +
        [e].countP Event.isBeginning ∧
    e.after.stats.submissions + e.after.stats.submissionFailures =
      w.stats.submissions + w.stats.submissionFailures + [e].countP Event.isRelease ∧
    e.after.stats.reviewsConfirmed =
      w.stats.reviewsConfirmed + [e].countP Event.isConfirmedRelease ∧
    e.after.stats.staleResponses = w.stats.staleResponses + [e].countP Event.isStale := by
  cases h with
  | busy | stale | opened | notReviewing | notUnderWay | edited => exact ⟨rfl, rfl, rfl, rfl⟩
  | invalid | begun =>
      refine ⟨?_, rfl, rfl, rfl⟩
      simp [Event.isBeginning]
      omega
  | sent check submitter hState hActive hId hResult hFinish
  | confirmed submitter hState hActive hFinish =>
      rcases finish_cases hFinish with ⟨receipt, rfl, -, rfl⟩ | ⟨detail, rfl, -, rfl⟩
      · refine ⟨rfl, ?_, rfl, rfl⟩
        simp [Event.isRelease]
        omega
      · exact ⟨rfl, rfl, rfl, rfl⟩
  | @failed check submitter attempt error =>
      have hFresh : ∀ id, WorkflowError.ofApi error ≠ .stale id := by
        intro id
        cases error <;> exact WorkflowError.noConfusion
      rcases countFailure_stats w (.ofApi error) with hStats | hStats <;>
        simp [hStats, Event.isBeginning, Event.isRelease, Event.isConfirmedRelease, Event.isStale,
          hFresh]
  | cancelled hState hActive =>
      by_cases hReviewing : w.state.phase = .reviewing
      all_goals
        simp only [hReviewing, ↓reduceIte]
        exact ⟨rfl, rfl, rfl, rfl⟩

theorem Call.tallies (h : w.Call e) (hTallies : w.Tallies past) :
    e.after.Tallies (past ++ [e]) := by
  obtain ⟨hBeginnings, hReleases, hConfirmed, hStale⟩ := h.counted
  constructor <;> rw [List.countP_append]
  · rw [hTallies.beginnings_eq, hBeginnings]
  · rw [hTallies.releases_eq, hReleases]
  · rw [hTallies.confirmed_eq, hConfirmed]
  · rw [hTallies.stale_eq, hStale]

end Workflow

theorem Calls.balanced {start now : Workflow} {past : List Event} (h : Calls start past now)
    (hSound : start.Sound) (hBalanced : start.Balanced) : now.Balanced := by
  induction h with
  | begins => exact hBalanced
  | goesOn prior last ih => exact last.balanced (prior.sound hSound) ih

theorem Calls.tallies {start now : Workflow} {past : List Event} (h : Calls start past now)
    (hTallies : start.Tallies []) : now.Tallies past := by
  induction h with
  | begins => exact hTallies
  | goesOn prior last ih => exact last.tallies ih

/-- Whatever was done to a workflow, its counters balance. Every attempt that was started has ended
in one of six ways or is held, every review was confirmed, given up or is under way, and the calls of
each kind are as many as the counters say. A submit counts as the calls that it is made of. -/
theorem History.counters_balance {roster : Roster} {bound : Option UInt64} {past : List Event}
    {now : Workflow} (h : History (.fresh roster bound) past now) :
    let stats := now.stats
    let calls := past.flatMap Event.calls
    stats.attemptsStarted = now.nextAttempt - 1 ∧ 1 ≤ now.nextAttempt ∧
      stats.attemptsStarted =
        stats.submissions + stats.submissionFailures + stats.transportFailures +
          stats.malformedResponses + stats.reviewsCancelled + stats.attemptsAbandoned +
          (if now.active.isSome then 1 else 0) ∧
      stats.reviewsPresented =
        stats.reviewsConfirmed + stats.reviewsCancelled +
          (if now.state.phase = .reviewing then 1 else 0) ∧
      calls.countP Event.isBeginning =
        stats.attemptsStarted + stats.validationFailures + stats.rejectedIntents ∧
      (past.filterMap Event.released).length = stats.submissions + stats.submissionFailures ∧
      calls.countP Event.isConfirmedRelease = stats.reviewsConfirmed ∧
      calls.countP Event.isStale = stats.staleResponses := by
  intro stats calls
  have hSound := Workflow.sound_fresh roster bound
  obtain ⟨hStarted, hEnded, hPresented⟩ :=
    h.calls.balanced hSound (Workflow.balanced_fresh roster bound)
  obtain ⟨hBeginnings, hReleases, hConfirmed, hStale⟩ :=
    h.calls.tallies (Workflow.tallies_fresh roster bound)
  refine ⟨?_, ?_, hEnded, hPresented, hBeginnings, ?_, hConfirmed, hStale⟩
  · rw [← hStarted, Nat.add_sub_cancel]
  · rw [← hStarted]
    exact Nat.le_add_left 1 _
  · rw [← h.released_calls, List.length_filterMap_eq_countP]
    exact hReleases

theorem counters_balance_in_review :
    ∃ past now, (Workflow.fresh sampleRoster none).performAll? sampleIntents = some (past, now) ∧
      now.state.phase = .reviewing ∧
      now.stats.reviewsPresented = now.stats.reviewsConfirmed + now.stats.reviewsCancelled + 1 ∧
      (past.flatMap Event.calls).countP Event.isStale = 1 ∧
      (past.flatMap Event.calls).countP Event.isBeginning =
        now.stats.attemptsStarted + now.stats.validationFailures + now.stats.rejectedIntents := by
  have hRun : (Workflow.fresh sampleRoster none).performAll? sampleIntents = some (_, _) := rfl
  obtain ⟨-, -, -, hPresented, hBeginnings, -, -, hStale⟩ :=
    History.counters_balance (History.of_performAll? hRun)
  exact ⟨_, _, hRun, rfl, hPresented, hStale, hBeginnings⟩

end EquipmentBooking

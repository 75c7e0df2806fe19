import EquipmentBooking.Proofs.Workflow.Calls

/-! The invariant of a workflow between calls: its state and the attempt that it holds say the same. It
follows that a workflow never gets stuck, whatever was done to it. -/
namespace EquipmentBooking

/-- What holds of a workflow between calls. The attempt that is held is the one that the state names
and has not been withdrawn, and no attempt has a number that has yet to be given. -/
structure Workflow.Sound (w : Workflow) : Prop where
  not_validating : w.state ≠ .validating
  held_eq : w.active.map ActiveAttempt.id = w.state.attempt?
  held_live : ∀ attempt, w.active = some attempt → attempt.id ∉ w.withdrawn
  held_lt : ∀ attempt, w.active = some attempt → attempt.id.number < w.nextAttempt
  withdrawn_lt : ∀ id ∈ w.withdrawn, id.number < w.nextAttempt

namespace Workflow

theorem sound_fresh (roster : Roster) (bound : Option UInt64) : (fresh roster bound).Sound where
  not_validating := WorkflowState.noConfusion
  held_eq := rfl
  held_live := by simp [fresh]
  held_lt := by simp [fresh]
  withdrawn_lt := by simp [fresh]

variable {w : Workflow} {e : Event}

theorem Sound.attempt?_of_active (hSound : w.Sound) {attempt : ActiveAttempt}
    (hActive : w.active = some attempt) : w.state.attempt? = some attempt.id := by
  rw [← hSound.held_eq, hActive]
  rfl

theorem Sound.active_of_attempt? (hSound : w.Sound) {id : AttemptId}
    (hState : w.state.attempt? = some id) : ∃ attempt, w.active = some attempt ∧ attempt.id = id := by
  rw [← hSound.held_eq] at hState
  exact Option.map_eq_some_iff.mp hState

theorem Sound.active_of_idle (hSound : w.Sound) (hIdle : w.state.phase = .idle) :
    w.active = none := by
  have hHeld := hSound.held_eq
  cases hState : w.state with
  | idle lastError => simpa [hState, WorkflowState.attempt?] using hHeld
  | _ => simp [hState, WorkflowState.phase] at hIdle

/-- A call that leaves the workflow idle without an attempt keeps it sound, as long as it withdraws
only attempts that were held. -/
theorem Sound.idle (hSound : w.Sound) {after : Workflow} {lastError : Option WorkflowError}
    (hState : after.state = .idle lastError) (hActive : after.active = none)
    (hNext : after.nextAttempt = w.nextAttempt)
    (hWithdrawn : ∀ id ∈ after.withdrawn,
      id ∈ w.withdrawn ∨ ∃ attempt, w.active = some attempt ∧ attempt.id = id) :
    after.Sound where
  not_validating := by rw [hState]; exact WorkflowState.noConfusion
  held_eq := by rw [hState, hActive]; rfl
  held_live := by simp [hActive]
  held_lt := by simp [hActive]
  withdrawn_lt := by
    intro id hId
    rw [hNext]
    rcases hWithdrawn id hId with hOld | ⟨attempt, hHeld, rfl⟩
    · exact hSound.withdrawn_lt id hOld
    · exact hSound.held_lt attempt hHeld

/-- A call that touches neither the state nor what is held keeps the workflow sound. -/
theorem Sound.of_same (hSound : w.Sound) {after : Workflow} (hState : after.state = w.state)
    (hActive : after.active = w.active) (hNext : after.nextAttempt = w.nextAttempt)
    (hWithdrawn : after.withdrawn = w.withdrawn) : after.Sound := by
  obtain ⟨hValid, hHeld, hLive, hLt, hBelow⟩ := hSound
  constructor <;> simpa only [hState, hActive, hNext, hWithdrawn]

/-- Every call keeps the workflow sound. -/
theorem Call.sound (h : w.Call e) (hSound : w.Sound) : e.after.Sound := by
  cases h with
  | busy | stale | notReviewing | notUnderWay | edited => exact hSound.of_same rfl rfl rfl rfl
  | invalid form target hIdle =>
      exact hSound.idle rfl (hSound.active_of_idle hIdle) rfl fun id hId => .inl hId
  | sent | confirmed => exact hSound.idle rfl rfl rfl fun id hId => .inl hId
  | failed check submitter hState hActive =>
      refine hSound.idle rfl rfl rfl fun id hId => ?_
      rcases List.mem_cons.mp hId with rfl | hOld
      · exact .inr ⟨_, hActive, rfl⟩
      · exact .inl hOld
  | cancelled hState hActive =>
      refine hSound.idle rfl rfl rfl fun id hId => ?_
      rcases List.mem_cons.mp hId with rfl | hOld
      · exact .inr ⟨_, hActive, rfl⟩
      · exact .inl hOld
  | opened check submitter hState hActive =>
      obtain ⟨-, -, hLive, hLt, hBelow⟩ := hSound
      refine ⟨WorkflowState.noConfusion, ?_, hLive, hLt, hBelow⟩
      rw [hActive]
      rfl
  | begun form target =>
      -- The new number is not below itself, so it is no number that was withdrawn.
      refine ⟨WorkflowState.noConfusion, rfl, ?_, ?_, ?_⟩
      · rintro attempt hAttempt hMem
        cases hAttempt
        exact absurd (hSound.withdrawn_lt _ hMem) (Nat.lt_irrefl _)
      · rintro attempt hAttempt
        cases hAttempt
        exact Nat.lt_succ_self _
      · intro id hId
        exact Nat.lt_succ_of_lt (hSound.withdrawn_lt id hId)

end Workflow

theorem Calls.sound {start now : Workflow} {past : List Event} (h : Calls start past now)
    (hSound : start.Sound) : now.Sound := by
  induction h with
  | begins => exact hSound
  | goesOn prior last ih => exact last.sound ih

/-- A call that hands out a check gives it the next number, and no other call touches the numbers. -/
theorem Workflow.Call.begun?_cases {w : Workflow} {e : Event} (h : w.Call e) :
    (e.begun? = none ∧ e.after.nextAttempt = w.nextAttempt) ∨
      ∃ query, e.begun? = some ⟨⟨w.nextAttempt⟩, query, w.bound⟩ ∧
        e.after.nextAttempt = w.nextAttempt + 1 := by
  cases h with
  | begun => exact .inr ⟨_, rfl, rfl⟩
  | _ => exact .inl ⟨rfl, rfl⟩

def begunAttempts (past : List Event) : List AttemptId :=
  ((past.flatMap Event.calls).filterMap Event.begun?).map PendingCheck.attempt

/-- Attempts are numbered in the order in which they begin, and all below the next number. -/
theorem Calls.begun_sorted {start now : Workflow} {past : List Event} (h : Calls start past now) :
    (∀ pending ∈ past.filterMap Event.begun?, pending.attempt.number < now.nextAttempt) ∧
      (past.filterMap Event.begun?).Pairwise fun first second =>
        first.attempt.number < second.attempt.number := by
  induction h with
  | begins => simp
  | @goesOn past now event prior last ih =>
      obtain ⟨hBelow, hSorted⟩ := ih
      rcases last.begun?_cases with ⟨hNone, hNext⟩ | ⟨query, hSome, hNext⟩
      · simp only [List.filterMap_append, List.filterMap_cons_none hNone, List.filterMap_nil,
          List.append_nil, hNext]
        exact ⟨hBelow, hSorted⟩
      · simp only [List.filterMap_append, List.filterMap_cons_some hSome, List.filterMap_nil,
          List.mem_append, List.mem_singleton, hNext, List.pairwise_append]
        refine ⟨?_, hSorted, List.pairwise_singleton _ _, ?_⟩
        · rintro pending (hMem | rfl)
          · exact Nat.lt_succ_of_lt (hBelow pending hMem)
          · exact Nat.lt_succ_self _
        · rintro first hFirst second rfl
          exact hBelow first hFirst

namespace Workflow

variable {w : Workflow} {id : AttemptId}

/-- While an attempt is under way it can be given up. -/
theorem Sound.cancel_eq (hSound : w.Sound) (hState : w.state.attempt? = some id) :
    w.cancel.answer = .ok id ∧ w.cancel.after.state = .idle none := by
  obtain ⟨attempt, hActive, rfl⟩ := hSound.active_of_attempt? hState
  cases hCase : w.state with
  | idle lastError => simp [hCase, WorkflowState.attempt?] at hState
  | validating => simp [hCase, WorkflowState.attempt?] at hState
  | awaiting id => simp [cancel, hCase, hActive]
  | reviewing id review => simp [cancel, hCase, hActive]

/-- A review can be confirmed, and that reaches the submitter. -/
theorem Sound.confirm_eq (hSound : w.Sound) {review : ClashReview} (submitter : Submitter)
    (hState : w.state = .reviewing id review) :
    (∃ release, (w.confirm submitter).released = some release ∧ release.attempt = id) ∧
      (w.confirm submitter).after.state.phase = .idle := by
  have hAttempt : w.state.attempt? = some id := by rw [hState]; rfl
  obtain ⟨attempt, hActive, rfl⟩ := hSound.active_of_attempt? hAttempt
  obtain ⟨state, roster, active, nextAttempt, bound, stats, withdrawn⟩ := w
  obtain rfl : state = _ := hState
  obtain rfl : active = _ := hActive
  obtain ⟨lastError, endStats, answer, hFinish⟩ := finish_eq
    ⟨.reviewing attempt.id review, roster, none, nextAttempt, bound,
      { stats with reviewsConfirmed := stats.reviewsConfirmed + 1 }, withdrawn⟩
    attempt true submitter
  simp only [confirm]
  rw [hFinish]
  exact ⟨⟨_, rfl, rfl⟩, rfl⟩

end Workflow

/-- Whatever was done to a workflow, it holds an attempt exactly while its state names one, the
attempt is the one named and has not been withdrawn, and attempts are numbered in order. So it never
gets stuck: an attempt under way can be given up, and a review can be confirmed. -/
theorem History.sound_and_never_stuck {roster : Roster} {bound : Option UInt64}
    {past : List Event} {now : Workflow} (h : History (.fresh roster bound) past now) :
    now.state ≠ .validating ∧
      (now.active.isSome ↔ now.state.phase = .awaiting ∨ now.state.phase = .reviewing) ∧
      (∀ attempt, now.active = some attempt →
        now.state.attempt? = some attempt.id ∧ now.isWithdrawn attempt.id = false) ∧
      (∀ id ∈ begunAttempts past, id.number < now.nextAttempt) ∧
      (begunAttempts past).Pairwise (fun first second => first.number < second.number) ∧
      (∀ id, now.state.attempt? = some id →
        now.cancel.answer = .ok id ∧ now.cancel.after.state = .idle none) ∧
      ∀ id review submitter, now.state = .reviewing id review →
        (∃ release, (now.confirm submitter).released = some release ∧ release.attempt = id) ∧
          (now.confirm submitter).after.state.phase = .idle := by
  have hSound : now.Sound := h.calls.sound (Workflow.sound_fresh roster bound)
  obtain ⟨hBelow, hSorted⟩ := h.calls.begun_sorted
  refine ⟨hSound.not_validating, ?_, ?_, ?_, ?_, fun id => hSound.cancel_eq,
    fun id review submitter => hSound.confirm_eq submitter⟩
  · rw [← Option.isSome_map (f := ActiveAttempt.id), hSound.held_eq]
    cases hState : now.state with
    | validating => exact absurd hState hSound.not_validating
    | _ => simp [WorkflowState.attempt?, WorkflowState.phase]
  · intro attempt hActive
    refine ⟨hSound.attempt?_of_active hActive, ?_⟩
    simpa [Workflow.isWithdrawn] using hSound.held_live attempt hActive
  · intro id hId
    obtain ⟨pending, hMem, rfl⟩ := List.mem_map.mp hId
    exact hBelow pending hMem
  · exact List.pairwise_map.mpr hSorted

def sampleForm : BookingForm :=
  .ofActivity 5 (.ofWindow "2024-03-12" "09:15" "10:00") "Lab 3"

def sampleRoster : Roster where
  entries := [⟨1, "ruler", "30cm ruler", 3, 10⟩]

def sampleClashes : List ClashRecord :=
  (Timestamp.read "2024-03-12T09:00:00Z".toList).toOption.toList.map fun moment =>
    { equipmentName := "30cm ruler"
      bookingId := 7
      bookingUser := "ann"
      bookingActivity := "Optics"
      bookingStarts := moment
      bookingEnds := moment
      youQuantity := 3
      clashQuantity := 10
      totalQuantity := 10
      netQuantity := -3 }

/-- Two attempts: the first is given up, its late answer discarded, and the second is under review
while the roster changes and a third is refused. -/
def sampleIntents : List Intent :=
  let refused : Submitter := fun _ => .error .cancelled
  [.begin sampleForm ⟨"first"⟩, .cancel, .complete ⟨⟨1⟩, .ok []⟩ refused,
    .submit sampleForm ⟨"second"⟩ (fun _ => ⟨some 3, .ok sampleClashes⟩) refused,
    .edit (.remove 1), .begin sampleForm ⟨"third"⟩]

theorem sound_and_never_stuck_in_review :
    ∃ past now, (Workflow.fresh sampleRoster none).performAll? sampleIntents = some (past, now) ∧
      now.state.attempt? = some ⟨2⟩ ∧ now.cancel.answer = .ok ⟨2⟩ ∧
      (begunAttempts past).Pairwise (fun first second => first.number < second.number) := by
  have hRun : (Workflow.fresh sampleRoster none).performAll? sampleIntents = some (_, _) := rfl
  obtain ⟨-, -, -, -, hSorted, hCancel, -⟩ :=
    History.sound_and_never_stuck (History.of_performAll? hRun)
  exact ⟨_, _, hRun, rfl, (hCancel ⟨2⟩ rfl).1, hSorted⟩

end EquipmentBooking

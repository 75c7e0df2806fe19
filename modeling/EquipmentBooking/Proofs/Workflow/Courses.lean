import EquipmentBooking.Proofs.Workflow.Releases
import EquipmentBooking.Proofs.Workflow.Trips

/-! What every course of a session keeps. No check gets lost or is run twice, an attempt is withdrawn by
just what ends it, and no trip outlasts its wait. -/
namespace EquipmentBooking

/-- The attempt ends: it is given up, its check fails, or the workflow that holds it is given up. -/
def Occurrence.Ends : Occurrence → AttemptId → Prop
  | called event, id => event.Cancels id ∨ event.Fails id
  | dropped workflow, id => ∃ attempt, workflow.active = some attempt ∧ attempt.id = id
  | _, _ => False

namespace Workflow

variable {w : Workflow} {e : Event} {id : AttemptId}

/-- A call withdraws just the attempts that it ends. -/
theorem Call.withdrawn_iff (h : w.Call e) (hSound : w.Sound) :
    id ∈ e.after.withdrawn ↔ id ∈ w.withdrawn ∨ e.Cancels id ∨ e.Fails id := by
  constructor
  · intro hMem
    cases h with
    | @cancelled state attempt hState hActive =>
        rcases List.mem_cons.mp hMem with rfl | hOld
        · exact .inr (.inl ⟨rfl, rfl⟩)
        · exact .inl hOld
    | failed check submitter hState hActive hId hResult =>
        rcases List.mem_cons.mp hMem with rfl | hOld
        · refine .inr (.inr ⟨check, submitter, _, rfl, hId.symm, hResult, ?_⟩)
          rw [hId]
          exact hState
        · exact .inl hOld
    | _ => exact .inl hMem
  · rintro (hOld | hEnds)
    · cases h with
      | cancelled | failed => exact List.mem_cons_of_mem _ hOld
      | _ => exact hOld
    · obtain ⟨attempt, -, -, -, hWithdrawn, -⟩ := h.ending hSound hEnds
      rw [hWithdrawn]
      exact List.mem_cons_self

/-- The query of a check is built by the call that hands the check out. -/
theorem Call.query_of_begun (h : w.Call e) {pending : PendingCheck}
    (hBegun : e.begun? = some pending) :
    ∃ form target, e.intent = .begin form target ∧
      ClashQuery.build form.time w.roster.kind w.roster.entries = .ok (.ok pending.query) ∧
      pending.bound = w.bound := by
  cases h with
  | begun form target hIdle hProblems hQuery =>
      cases hBegun
      exact ⟨form, target, rfl, hQuery, rfl⟩
  | _ => cases hBegun

theorem Call.bound_eq (h : w.Call e) : e.after.bound = w.bound := by
  cases h <;> rfl

/-- An answer for a spent attempt is stale. -/
theorem Spent.complete_eq (hSpent : w.Spent id)
    (result : Except ApiError (List ClashRecord)) (submitter : Submitter) :
    (w.complete ⟨id, result⟩ submitter).answer = .error (.stale id) ∧
      (w.complete ⟨id, result⟩ submitter).released = none := by
  have hStale : w.awaited? ⟨id, result⟩ = none := by
    cases hAwaited : w.awaited? ⟨id, result⟩ with
    | none => rfl
    | some attempt =>
        obtain ⟨-, hActive, hId⟩ := awaited?_eq_some hAwaited
        exact absurd hId (hSpent.2 attempt hActive)
  simp [complete, hStale]

end Workflow

theorem Calls.bound_eq {start now : Workflow} {past : List Event} (h : Calls start past now) :
    now.bound = start.bound := by
  induction h with
  | begins => rfl
  | goesOn prior last ih => rw [last.bound_eq, ih]

namespace Session

variable {s after : Session} {what : Occurrence} {id : AttemptId}

/-- A workflow that is given up withdraws the attempt that it holds, whatever its state. -/
theorem isWithdrawn_iff : s.isWithdrawn id = true ↔ id ∈ s.workflow.withdrawn ∨
    s.gone = true ∧ ∃ attempt, s.workflow.active = some attempt ∧ attempt.id = id := by
  cases hGone : s.gone with
  | false => simp [isWithdrawn, hGone]
  | true =>
      cases hActive : s.workflow.active with
      | none => simp [isWithdrawn, hGone, Workflow.withdrawnOnDrop, hActive]
      | some attempt =>
          simpa [isWithdrawn, hGone, Workflow.withdrawnOnDrop, hActive, eq_comm (a := id)] using
            or_comm

theorem Next.now_eq (h : s.Next what after) : after.now = s.now := by
  cases h <;> rfl

/-- A call is made on the workflow as it stands, and nothing else touches the workflow. -/
theorem Next.calls (h : s.Next what after) :
    Calls s.workflow what.event?.toList after.workflow := by
  cases h with
  | call hHere hSingle hPerform =>
      exact .single (Workflow.call_of_perform hPerform hSingle).1
  | _ => exact .begins

/-- What ends an attempt finds it held. -/
theorem Next.held_of_ends (h : s.Next what after) (hSound : s.workflow.Sound)
    (hEnds : what.Ends id) :
    s.gone = false ∧ ∃ attempt, s.workflow.active = some attempt ∧ attempt.id = id := by
  cases h with
  | call hHere hSingle hPerform =>
      have hCall := (Workflow.call_of_perform hPerform hSingle).1
      obtain ⟨attempt, hActive, hId, -⟩ := hCall.ending hSound hEnds
      exact ⟨hHere, attempt, hActive, hId⟩
  | drop hHere => exact ⟨hHere, hEnds⟩
  | _ => exact hEnds.elim

theorem Next.live_of_ends (h : s.Next what after) (hSound : s.workflow.Sound)
    (hEnds : what.Ends id) : s.isWithdrawn id = false := by
  obtain ⟨hHere, attempt, hActive, rfl⟩ := h.held_of_ends hSound hEnds
  rw [← Bool.not_eq_true, isWithdrawn_iff, hHere]
  rintro (hMem | ⟨hGone, -⟩)
  · exact hSound.held_live attempt hActive hMem
  · cases hGone

/-- An attempt is withdrawn by just what ends it. -/
theorem Next.isWithdrawn_iff (h : s.Next what after) (hSound : s.workflow.Sound) :
    after.isWithdrawn id = true ↔ s.isWithdrawn id = true ∨ what.Ends id := by
  rw [Session.isWithdrawn_iff, Session.isWithdrawn_iff]
  cases h with
  | call hHere hSingle hPerform =>
      have hCall := (Workflow.call_of_perform hPerform hSingle).1
      simp [hCall.withdrawn_iff hSound, hHere, Occurrence.Ends]
  | drop hHere => simp [hHere, Occurrence.Ends]
  | _ => simp [Occurrence.Ends]

/-- What ends an attempt leaves all checks and trips where they are, and withdraws no other attempt. -/
theorem Next.frame_of_ends (h : s.Next what after) (hSound : s.workflow.Sound)
    (hEnds : what.Ends id) : after.waiting = s.waiting ∧ after.underWay = s.underWay ∧
      ∀ other, other ≠ id → after.isWithdrawn other = s.isWithdrawn other := by
  have hOthers : ∀ other, other ≠ id → after.isWithdrawn other = s.isWithdrawn other := by
    intro other hOther
    have hNot : ¬ what.Ends other := by
      intro hAlso
      obtain ⟨-, attempt, hActive, rfl⟩ := h.held_of_ends hSound hEnds
      obtain ⟨-, held, hHeld, rfl⟩ := h.held_of_ends hSound hAlso
      rw [hActive] at hHeld
      cases hHeld
      exact hOther rfl
    rw [Bool.eq_iff_iff, h.isWithdrawn_iff hSound]
    simp [hNot]
  cases h with
  | @call event intent hHere hSingle hPerform =>
      have hCall := (Workflow.call_of_perform hPerform hSingle).1
      have hNone : event.begun? = none := by
        cases hBegun : event.begun? with
        | none => rfl
        | some pending =>
            obtain ⟨form, target, hIntent, -⟩ := hCall.query_of_begun hBegun
            rcases hEnds with ⟨hOther, -⟩ | ⟨check, submitter, error, hOther, -⟩
            all_goals
              rw [hIntent] at hOther
              cases hOther
      exact ⟨by simp [hNone], rfl, hOthers⟩
  | drop => exact ⟨rfl, rfl, hOthers⟩
  | _ => exact hEnds.elim

/-- What is handed out waits, and what waits is run. -/
theorem Next.waiting_perm (h : s.Next what after) :
    (s.waiting ++ what.begun?.toList).Perm (after.waiting ++ what.ran?.toList) := by
  cases h with
  | call => simp [Occurrence.begun?, Occurrence.ran?]
  | cut hWaiting | ask reply hWaiting =>
      rw [hWaiting]
      simpa [Occurrence.begun?, Occurrence.ran?] using List.perm_middle.trans
        (List.perm_append_singleton _ _).symm
  | drop | answer => simp [Occurrence.begun?, Occurrence.ran?]

/-- A trip that begins is under way until it ends. -/
theorem Next.underWay_perm (h : s.Next what after) :
    (s.underWay ++ what.started?.toList).Perm (after.underWay ++ what.ended?.toList) := by
  cases h with
  | answer hUnderWay =>
      rw [hUnderWay]
      simpa [Occurrence.started?, Occurrence.ended?] using List.perm_middle.trans
        (List.perm_append_singleton _ _).symm
  | _ => simp [Occurrence.started?, Occurrence.ended?]

/-- A trip under way was so before, or it has just begun, for an attempt that was not withdrawn. -/
theorem Next.underWay_cases (h : s.Next what after) {trip : Trip} (hTrip : trip ∈ after.underWay) :
    trip ∈ s.underWay ∨
      what = .asked trip ∧ trip.since = s.now ∧ s.isWithdrawn trip.pending.attempt = false := by
  cases h with
  | ask reply hWaiting hLive =>
      rcases List.mem_append.mp hTrip with hOld | hNew
      · exact .inl hOld
      · obtain rfl := List.mem_singleton.mp hNew
        exact .inr ⟨rfl, rfl, hLive⟩
  | answer hUnderWay =>
      rw [hUnderWay]
      exact .inl (List.mem_append.mpr ((List.mem_append.mp hTrip).imp_right
        (List.mem_cons_of_mem _)))
  | _ => exact .inl hTrip

end Session

def observed {α : Type} (see : Occurrence → Option α) (log : List (Nat × Occurrence)) : List α :=
  log.filterMap fun entry => see entry.2

def Ended (log : List (Nat × Occurrence)) (id : AttemptId) : Prop :=
  ∃ entry ∈ log, entry.2.Ends id

theorem observed_cons {α : Type} (see : Occurrence → Option α) (log : List (Nat × Occurrence))
    (t : Nat) (what : Occurrence) :
    observed see ((t, what) :: log) = (see what).toList ++ observed see log := by
  cases h : see what <;> simp [observed, h]

theorem observed_append {α : Type} (see : Occurrence → Option α)
    (log rest : List (Nat × Occurrence)) :
    observed see (log ++ rest) = observed see log ++ observed see rest :=
  List.filterMap_append

theorem observed_concat {α : Type} (see : Occurrence → Option α) (log : List (Nat × Occurrence))
    (t : Nat) (what : Occurrence) :
    observed see (log ++ [(t, what)]) = observed see log ++ (see what).toList := by
  cases h : see what <;> simp [observed, h]

theorem mem_observed {α : Type} {see : Occurrence → Option α} {log : List (Nat × Occurrence)}
    {a : α} : a ∈ observed see log ↔ ∃ entry ∈ log, see entry.2 = some a :=
  List.mem_filterMap

theorem ended_concat {log : List (Nat × Occurrence)} {t : Nat} {what : Occurrence}
    {id : AttemptId} : Ended (log ++ [(t, what)]) id ↔ Ended log id ∨ what.Ends id := by
  simp [Ended, or_and_right, exists_or]

private theorem perm_shift {α : Type} {total added held out kept removed : List α}
    (hTotal : total.Perm (held ++ out)) (hStep : (held ++ added).Perm (kept ++ removed)) :
    (total ++ added).Perm (kept ++ (out ++ removed)) :=
  calc
    (total ++ added).Perm ((held ++ out) ++ added) := hTotal.append_right added
    List.Perm _ ((held ++ added) ++ out) := by
      rw [List.append_assoc, List.append_assoc]
      exact List.perm_append_comm.append_left held
    List.Perm _ ((kept ++ removed) ++ out) := hStep.append_right out
    List.Perm _ (kept ++ (out ++ removed)) := by
      rw [List.append_assoc]
      exact List.perm_append_comm.append_left kept

namespace Course

variable {roster : Roster} {config : ClientConfig} {start s : Session}
  {log earlier later : List (Nat × Occurrence)} {t : Nat} {what : Occurrence} {id : AttemptId}

/-- The calls of a course lead from workflow to workflow. -/
theorem calls (h : Course start log s) :
    Calls start.workflow (observed Occurrence.event? log) s.workflow := by
  induction h with
  | begins => exact .begins
  | goesOn prior last ih =>
      rw [observed_concat]
      exact ih.trans last.calls
  | waits prior hLater hQuiet ih => exact ih

/-- Any call of a course was made after the calls before it, and the calls behind it were made
after it. -/
theorem split_calls (h : Course start log s) {event : Event} (hEvent : (t, .called event) ∈ log) :
    ∃ past rest, Calls start.workflow past event.before ∧ event.before.Call event ∧
      Calls event.after rest s.workflow := by
  have hMem : event ∈ observed Occurrence.event? log := mem_observed.mpr ⟨_, hEvent, rfl⟩
  obtain ⟨past, rest, hSplit⟩ := List.append_of_mem hMem
  have hCalls := h.calls
  rw [hSplit] at hCalls
  exact ⟨past, rest, hCalls.split⟩

theorem sound (h : Course (.fresh roster config) log s) : s.workflow.Sound :=
  h.calls.sound (Workflow.sound_fresh roster config.bound?)

/-- The checks that were handed out are those that wait and those that were run. -/
theorem begun_perm (h : Course (.fresh roster config) log s) :
    (observed Occurrence.begun? log).Perm (s.waiting ++ observed Occurrence.ran? log) := by
  induction h with
  | begins => exact .nil
  | goesOn prior last ih =>
      rw [observed_concat, observed_concat]
      exact perm_shift ih last.waiting_perm
  | waits prior hLater hQuiet ih => exact ih

/-- The trips that began are those under way and those that ended. -/
theorem started_perm (h : Course (.fresh roster config) log s) :
    (observed Occurrence.started? log).Perm (s.underWay ++ observed Occurrence.ended? log) := by
  induction h with
  | begins => exact .nil
  | goesOn prior last ih =>
      rw [observed_concat, observed_concat]
      exact perm_shift ih last.underWay_perm
  | waits prior hLater hQuiet ih => exact ih

/-- The attempts that are withdrawn are those that have ended. -/
theorem isWithdrawn_iff (h : Course (.fresh roster config) log s) :
    s.isWithdrawn id = true ↔ Ended log id := by
  induction h with
  | begins => simp [Ended, Session.isWithdrawn, Session.fresh, Workflow.ofConfig]
  | goesOn prior last ih => rw [ended_concat, last.isWithdrawn_iff prior.sound, ih]
  | waits prior hLater hQuiet ih => exact ih

theorem live_iff (h : Course (.fresh roster config) log s) :
    s.isWithdrawn id = false ↔ ¬ Ended log id := by
  rw [← h.isWithdrawn_iff, Bool.not_eq_true]

/-- Any occurrence of a course came at its time, after the occurrences before it. -/
theorem split (h : Course start (earlier ++ (t, what) :: later) s) :
    ∃ before after, Course start earlier before ∧ before.now = t ∧ before.Next what after := by
  generalize hLog : earlier ++ (t, what) :: later = log at h
  induction h generalizing later with
  | begins => simp at hLog
  | @goesOn log s after last prior next ih =>
      rcases List.eq_nil_or_concat later with rfl | ⟨front, final, rfl⟩
      · obtain ⟨rfl, hEntry⟩ := List.append_inj' hLog rfl
        cases hEntry
        exact ⟨s, after, prior, rfl, next⟩
      · rw [List.concat_eq_append, ← List.cons_append, ← List.append_assoc] at hLog
        obtain ⟨rfl, -⟩ := List.append_inj' hLog rfl
        exact ih rfl
  | waits prior hLater hQuiet ih => exact ih hLog

/-- Occurrences are logged in the order of their times, none of which is yet to come. -/
theorem sorted (h : Course start log s) :
    (∀ entry ∈ log, entry.1 ≤ s.now) ∧ log.Pairwise fun first second => first.1 ≤ second.1 := by
  induction h with
  | begins => simp
  | @goesOn log s after what prior last ih =>
      obtain ⟨hPast, hSorted⟩ := ih
      rw [last.now_eq, List.pairwise_append]
      refine ⟨fun entry hEntry => ?_, hSorted, List.pairwise_singleton _ _, ?_⟩
      · rcases List.mem_append.mp hEntry with hOld | hNew
        · exact hPast entry hOld
        · exact Nat.le_of_eq (congrArg Prod.fst (List.mem_singleton.mp hNew))
      · intro first hFirst second hSecond
        rw [List.mem_singleton.mp hSecond]
        exact hPast first hFirst
  | waits prior hLater hQuiet ih =>
      exact ⟨fun entry hEntry => Nat.le_of_lt (Nat.lt_of_le_of_lt (ih.1 entry hEntry) hLater),
        ih.2⟩

/-- An attempt ends once. -/
theorem ended_once (h : Course (.fresh roster config) log s) :
    log.Pairwise fun first second => ∀ id, first.2.Ends id → ¬ second.2.Ends id := by
  induction h with
  | begins => exact .nil
  | @goesOn log s after what prior last ih =>
      rw [List.pairwise_append]
      refine ⟨ih, List.pairwise_singleton _ _, fun first hFirst second hSecond id hEnds hAgain => ?_⟩
      rw [List.mem_singleton.mp hSecond] at hAgain
      exact prior.live_iff.mp (last.live_of_ends prior.sound hAgain) ⟨first, hFirst, hEnds⟩
  | waits prior hLater hQuiet ih => exact ih

/-- No trip is under way after its wait is over, nor does time pass once its attempt has ended. -/
theorem on_time (h : Course (.fresh roster config) log s) {trip : Trip}
    (hTrip : trip ∈ s.underWay) :
    (∀ wait result, trip.pending.settled? trip.reply = some (wait, result) →
        s.now ≤ trip.since + wait) ∧
      ∀ entry ∈ log, entry.2.Ends trip.pending.attempt → entry.1 = s.now := by
  induction h with
  | begins => cases hTrip
  | @goesOn log s after what prior last ih =>
      rw [last.now_eq]
      rcases last.underWay_cases hTrip with hOld | ⟨rfl, hSince, hLive⟩
      · obtain ⟨hWait, hEnded⟩ := ih hOld
        refine ⟨hWait, fun entry hEntry hEnds => ?_⟩
        rcases List.mem_append.mp hEntry with hPast | hNew
        · exact hEnded entry hPast hEnds
        · rw [List.mem_singleton.mp hNew]
      · refine ⟨fun wait result _ => by rw [hSince]; exact Nat.le_add_right _ _, ?_⟩
        intro entry hEntry hEnds
        rcases List.mem_append.mp hEntry with hPast | hNew
        · exact absurd ⟨entry, hPast, hEnds⟩ (prior.live_iff.mp hLive)
        · rw [List.mem_singleton.mp hNew] at hEnds
          exact hEnds.elim
  | @waits log s moment prior hLater hQuiet ih =>
      have hPoll := hQuiet trip hTrip
      cases hLive : s.isWithdrawn trip.pending.attempt with
      | true =>
          -- Time cannot pass once the attempt has been withdrawn.
          rw [hLive] at hPoll
          cases hPoll s.now (Nat.le_refl _) hLater
      | false =>
          -- If time passed the end of the wait, the trip would have had a result at that end.
          rw [hLive] at hPoll
          refine ⟨fun wait result hSettled => Nat.not_lt.mp fun hOver => ?_, ?_⟩
          · have hNone := hPoll (trip.since + wait) ((ih hTrip).1 wait result hSettled) hOver
            rw [Trip.poll?_of_settled? hSettled] at hNone
            cases hNone
          · intro entry hEntry hEnds
            exact absurd ⟨entry, hEntry, hEnds⟩ (prior.live_iff.mp hLive)

end Course

end EquipmentBooking

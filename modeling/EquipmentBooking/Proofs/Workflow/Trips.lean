import EquipmentBooking.Workflow.Session

/-! When the wait of a trip is over. Looking at a trip again and again, and never too late, finds the
result that the round trip computes from the times alone. -/
namespace EquipmentBooking

namespace Trip

/-- The wait of a trip ends by itself: with the reply, unless that comes after the limit, and else
at the limit. A limit of zero is none. -/
inductive Settles (limit : UInt64) (trip : Trip) :
    Nat → Except ApiError (List ClashRecord) → Prop where
  | replied {arrival : Nat} (hReply : trip.reply.arrival = some arrival)
      (hTimely : limit = 0 ∨ arrival ≤ limit.toNat) :
      Settles limit trip (trip.since + arrival) trip.reply.result
  | timedOut (hLimit : limit ≠ 0)
      (hLate : ∀ arrival, trip.reply.arrival = some arrival → limit.toNat < arrival) :
      Settles limit trip (trip.since + limit.toNat) (.error (.timeout limit))

variable {trip : Trip} {config : ClientConfig} {moment : Nat}
  {result : Except ApiError (List ClashRecord)}

/-- With the bound of a configuration, the wait ends as the round trip says. -/
theorem settles_iff (hBound : trip.pending.bound = config.bound?) :
    trip.Settles config.timeoutMs moment result ↔
      ∃ wait, trip.pending.settled? trip.reply = some (wait, result) ∧
        moment = trip.since + wait := by
  obtain ⟨⟨attempt, query, bound⟩, since, arrival, answer⟩ := trip
  obtain rfl : bound = config.bound? := hBound
  constructor
  · intro hSettles
    cases hSettles with
    | @replied arrival hReply hTimely =>
        obtain rfl : _ = some arrival := hReply
        refine ⟨arrival, ?_, rfl⟩
        rcases hTimely with hNone | hInTime
        · simp [PendingCheck.settled?, ClientConfig.bound?, hNone]
        · by_cases hLimit : config.timeoutMs = 0
          · simp [PendingCheck.settled?, ClientConfig.bound?, hLimit]
          · simp [PendingCheck.settled?, ClientConfig.bound?, hLimit, hInTime]
    | timedOut hLimit hLate =>
        refine ⟨config.timeoutMs.toNat, ?_, rfl⟩
        cases arrival with
        | none => simp [PendingCheck.settled?, ClientConfig.bound?, hLimit]
        | some arrival =>
            have hAfter := Nat.not_le.mpr (hLate arrival rfl)
            simp [PendingCheck.settled?, ClientConfig.bound?, hLimit, hAfter]
  · rintro ⟨wait, hSettled, rfl⟩
    by_cases hLimit : config.timeoutMs = 0
    · cases arrival with
      | none => simp [PendingCheck.settled?, ClientConfig.bound?, hLimit] at hSettled
      | some arrival =>
          simp [PendingCheck.settled?, ClientConfig.bound?, hLimit] at hSettled
          obtain ⟨rfl, rfl⟩ := hSettled
          exact .replied rfl (.inl hLimit)
    · cases arrival with
      | none =>
          simp [PendingCheck.settled?, ClientConfig.bound?, hLimit] at hSettled
          obtain ⟨rfl, rfl⟩ := hSettled
          exact .timedOut hLimit (by simp)
      | some arrival =>
          by_cases hInTime : arrival ≤ config.timeoutMs.toNat
          · simp [PendingCheck.settled?, ClientConfig.bound?, hLimit, hInTime] at hSettled
            obtain ⟨rfl, rfl⟩ := hSettled
            exact .replied rfl (.inr hInTime)
          · simp [PendingCheck.settled?, ClientConfig.bound?, hLimit, hInTime] at hSettled
            obtain ⟨rfl, rfl⟩ := hSettled
            exact .timedOut hLimit (by simpa using hInTime)

/-- A wait ends only once. -/
theorem Settles.unique {limit : UInt64} {other : Nat} {ended : Except ApiError (List ClashRecord)}
    (h : trip.Settles limit moment result) (hOther : trip.Settles limit other ended) :
    moment = other ∧ result = ended := by
  cases h with
  | replied hReply hTimely =>
      cases hOther with
      | replied hSame =>
          rw [hReply] at hSame
          cases hSame
          exact ⟨rfl, rfl⟩
      | timedOut hLimit hLate =>
          have hAfter := hLate _ hReply
          exact absurd (hTimely.resolve_left hLimit) (Nat.not_le.mpr hAfter)
  | timedOut hLimit hLate =>
      cases hOther with
      | replied hReply hTimely =>
          have hAfter := hLate _ hReply
          exact absurd (hTimely.resolve_left hLimit) (Nat.not_le.mpr hAfter)
      | timedOut => exact ⟨rfl, rfl⟩

/-- A trip has no result yet exactly while its wait is not over. -/
theorem poll?_eq_none_iff : trip.poll? false moment = none ↔
    ∀ wait result, trip.pending.settled? trip.reply = some (wait, result) →
      moment < trip.since + wait := by
  obtain ⟨⟨attempt, query, bound⟩, since, arrival, answer⟩ := trip
  cases arrival with
  | none => cases bound <;> simp [poll?, PendingCheck.settled?]
  | some arrival =>
      cases bound with
      | none => simp [poll?, PendingCheck.settled?]
      | some bound =>
          by_cases hInTime : arrival ≤ bound.toNat
          · rcases Nat.lt_or_ge moment (since + arrival) with hEarly | hReplied
            · have hWithin : ¬ since + bound.toNat ≤ moment := by omega
              simp [poll?, PendingCheck.settled?, hInTime, hEarly, Nat.not_le.mpr hEarly, hWithin]
            · simp [poll?, PendingCheck.settled?, hInTime, hReplied]
          · rcases Nat.lt_or_ge moment (since + bound.toNat) with hWithin | hOver
            · have hEarly : ¬ since + arrival ≤ moment := by omega
              simp [poll?, PendingCheck.settled?, hInTime, hWithin, Nat.not_le.mpr hWithin, hEarly]
            · by_cases hReplied : since + arrival ≤ moment <;>
                simp [poll?, PendingCheck.settled?, hInTime, hOver, hReplied]

/-- At the moment when its wait is over, a trip has the result that the wait ends with. -/
theorem poll?_of_settled? {wait : Nat}
    (h : trip.pending.settled? trip.reply = some (wait, result)) :
    trip.poll? false (trip.since + wait) = some result := by
  obtain ⟨⟨attempt, query, bound⟩, since, arrival, answer⟩ := trip
  simp only [PendingCheck.settled?] at h
  split at h
  · split at h
    · cases h
      simp [poll?]
    · rename_i hLate
      cases h
      simp [poll?, hLate]
  · cases h
    simp [poll?]
  · cases h
    simp [poll?]
  · cases h

/-- A result that is found before the wait is long over is the one that the wait ends with. -/
theorem settled?_of_poll? (hPoll : trip.poll? false moment = some result)
    (hPrompt : ∀ wait result, trip.pending.settled? trip.reply = some (wait, result) →
      moment ≤ trip.since + wait) :
    ∃ wait, trip.pending.settled? trip.reply = some (wait, result) ∧
      moment = trip.since + wait := by
  cases hSettled : trip.pending.settled? trip.reply with
  | none =>
      have hNone : trip.poll? false moment = none := by
        rw [poll?_eq_none_iff, hSettled]
        simp
      rw [hPoll] at hNone
      cases hNone
  | some ending =>
      obtain ⟨wait, ended⟩ := ending
      have hNow : moment = trip.since + wait := by
        refine Nat.le_antisymm (hPrompt wait ended hSettled) (Nat.not_lt.mp fun hEarly => ?_)
        have hNone : trip.poll? false moment = none := by
          rw [poll?_eq_none_iff, hSettled]
          intro _ _ hSame
          cases hSame
          exact hEarly
        rw [hPoll] at hNone
        cases hNone
      rw [hNow, poll?_of_settled? hSettled] at hPoll
      cases hPoll
      exact ⟨wait, rfl, hNow⟩

end Trip

end EquipmentBooking

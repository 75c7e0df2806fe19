import EquipmentBooking.Clash.Stats

/-! The counters of an authority and the results that were recorded. What a result adds to the counters
depends on nothing but the result, so the counters tell how many results of each kind there were, in
whatever order they came. -/
namespace EquipmentBooking.AuthorityStats

abbrev Result := Except ApiError (List ClashRecord)

def hasFailed : Result → Bool
  | .error _ => true
  | .ok _ => false

def timedOut : Result → Bool
  | .error (.timeout _) => true
  | _ => false

def wasMalformed : Result → Bool
  | .error (.malformed _) => true
  | _ => false

def reported (results : List Result) : List ClashRecord :=
  (results.filterMap Except.toOption).flatten

/-- The counters after some more results, recorded one after the other. -/
def recordAll (s : AuthorityStats) (results : List Result) : AuthorityStats :=
  results.foldl record s

/-- The counters give an exact account of results. -/
structure Tallies (s : AuthorityStats) (results : List Result) : Prop where
  sent_eq : s.requestsSent = results.length
  ended_eq : s.requestsSent = s.requestsSucceeded + s.requestsFailed
  succeeded_eq : s.requestsSucceeded = results.countP fun result => !hasFailed result
  failed_eq : s.requestsFailed = results.countP hasFailed
  timeout_eq : s.requestsTimeout = results.countP timedOut
  malformed_eq : s.malformedResponses = results.countP wasMalformed
  among_failed : s.requestsTimeout + s.malformedResponses ≤ s.requestsFailed
  reported_eq : s.clashesReported = (reported results).length

/-- What results add to the counters. -/
structure GrewBy (results : List Result) (s t : AuthorityStats) : Prop where
  sent_eq : t.requestsSent = s.requestsSent + results.length
  succeeded_eq : t.requestsSucceeded =
    s.requestsSucceeded + results.countP fun result => !hasFailed result
  failed_eq : t.requestsFailed = s.requestsFailed + results.countP hasFailed
  timeout_eq : t.requestsTimeout = s.requestsTimeout + results.countP timedOut
  malformed_eq : t.malformedResponses = s.malformedResponses + results.countP wasMalformed
  reported_eq : t.clashesReported = s.clashesReported + (reported results).length

variable {s t u : AuthorityStats} {results others : List Result}

theorem reported_append (results others : List Result) :
    reported (results ++ others) = reported results ++ reported others := by
  rw [reported, List.filterMap_append, List.flatten_append]
  rfl

theorem length_reported_perm (h : results.Perm others) :
    (reported results).length = (reported others).length :=
  (h.filterMap Except.toOption).flatten.length_eq

/-- No failure is both a timeout and malformed. -/
theorem countP_kinds_le (results : List Result) :
    results.countP timedOut + results.countP wasMalformed ≤ results.countP hasFailed := by
  induction results with
  | nil => exact Nat.le_refl _
  | cons result results ih =>
      have hKinds : (if timedOut result then 1 else 0) + (if wasMalformed result then 1 else 0) ≤
          if hasFailed result then 1 else 0 := by
        rcases result with (_ | _ | _ | _ | _ | _ | _) | records <;>
          simp [timedOut, wasMalformed, hasFailed]
      simp only [List.countP_cons]
      omega

theorem grewBy_record (s : AuthorityStats) (result : Result) :
    GrewBy [result] s (s.record result) := by
  cases result with
  | ok records =>
      refine ⟨rfl, rfl, rfl, rfl, rfl, ?_⟩
      simp [record, success, reported, Except.toOption]
  | error error => cases error <;> exact ⟨rfl, rfl, rfl, rfl, rfl, rfl⟩

/-- What results add to the counters is added up. -/
theorem GrewBy.append (h : GrewBy results s t) (hMore : GrewBy others t u) :
    GrewBy (results ++ others) s u := by
  obtain ⟨hSent, hSucceeded, hFailed, hTimeout, hMalformed, hReported⟩ := h
  constructor <;> simp only [List.countP_append, List.length_append, reported_append]
  · rw [hMore.sent_eq, hSent, Nat.add_assoc]
  · rw [hMore.succeeded_eq, hSucceeded, Nat.add_assoc]
  · rw [hMore.failed_eq, hFailed, Nat.add_assoc]
  · rw [hMore.timeout_eq, hTimeout, Nat.add_assoc]
  · rw [hMore.malformed_eq, hMalformed, Nat.add_assoc]
  · rw [hMore.reported_eq, hReported, Nat.add_assoc]

theorem grewBy_recordAll (s : AuthorityStats) (results : List Result) :
    GrewBy results s (s.recordAll results) := by
  induction results generalizing s with
  | nil => exact ⟨rfl, rfl, rfl, rfl, rfl, rfl⟩
  | cons result results ih => exact (grewBy_record s result).append (ih (s.record result))

/-- The order of results leaves no trace in the counters. -/
theorem GrewBy.eq_of_perm (h : GrewBy results s t) (hOther : GrewBy others s u)
    (hPerm : results.Perm others) : t = u := by
  obtain ⟨hSent, hSucceeded, hFailed, hTimeout, hMalformed, hReported⟩ := h
  rw [hPerm.length_eq, ← hOther.sent_eq] at hSent
  rw [hPerm.countP_eq, ← hOther.succeeded_eq] at hSucceeded
  rw [hPerm.countP_eq, ← hOther.failed_eq] at hFailed
  rw [hPerm.countP_eq, ← hOther.timeout_eq] at hTimeout
  rw [hPerm.countP_eq, ← hOther.malformed_eq] at hMalformed
  rw [length_reported_perm hPerm, ← hOther.reported_eq] at hReported
  cases t
  cases u
  exact (mk.injEq ..).mpr ⟨hSent, hSucceeded, hFailed, hTimeout, hMalformed, hReported⟩

theorem recordAll_perm (s : AuthorityStats) (h : results.Perm others) :
    s.recordAll results = s.recordAll others :=
  (grewBy_recordAll s results).eq_of_perm (grewBy_recordAll s others) h

/-- Counters that began at zero give an exact account of all that was recorded. -/
theorem tallies_recordAll (results : List Result) : (recordAll {} results).Tallies results := by
  obtain ⟨hSent, hSucceeded, hFailed, hTimeout, hMalformed, hReported⟩ := grewBy_recordAll {} results
  have hLength := List.length_eq_countP_add_countP hasFailed (l := results)
  simp only [Bool.not_eq_true, Bool.decide_eq_false] at hLength
  simp only [Nat.zero_add] at hSent hSucceeded hFailed hTimeout hMalformed hReported
  refine ⟨hSent, ?_, hSucceeded, hFailed, hTimeout, hMalformed, ?_, hReported⟩
  · rw [hSent, hSucceeded, hFailed, hLength, Nat.add_comm]
  · rw [hTimeout, hMalformed, hFailed]
    exact countP_kinds_le results

end EquipmentBooking.AuthorityStats

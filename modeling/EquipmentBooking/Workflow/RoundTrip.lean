import EquipmentBooking.Workflow.Machine

/-! The round trip of a clash check. Three things race: the answer of the authority, the bound on the
wait, and the withdrawal of the attempt. Times are milliseconds since the check was started. -/
namespace EquipmentBooking

/-- What the authority will answer and when; without a time it never answers. -/
structure Reply where
  arrival : Option Nat
  result : Except ApiError (List ClashRecord)

structure RoundTrip where
  asked : Bool
  result : Except ApiError (List ClashRecord)

namespace PendingCheck

/-- When and with what the wait for a reply ends by itself. A reply at the very moment of the bound
still counts. Without a bound the wait for a reply that never comes does not end. -/
def settled? (p : PendingCheck) (reply : Reply) :
    Option (Nat × Except ApiError (List ClashRecord)) :=
  match reply.arrival, p.bound with
  | some arrival, some bound =>
    if arrival ≤ bound.toNat then some (arrival, reply.result)
    else some (bound.toNat, .error (.timeout bound))
  | some arrival, none => some (arrival, reply.result)
  | none, some bound => some (bound.toNat, .error (.timeout bound))
  | none, none => none

/-- Run a check. `withdrawn` says that the attempt was withdrawn before, in which case the authority is
not asked; `withdrawal` is the time at which it is withdrawn during the wait. `none` if the wait
does not end. -/
def run? (p : PendingCheck) (withdrawn : Bool) (withdrawal : Option Nat) (reply : Reply) :
    Option RoundTrip :=
  if withdrawn then some ⟨false, .error .cancelled⟩
  else
    match p.settled? reply, withdrawal with
    | some (moment, result), some w =>
      if w < moment then some ⟨true, .error .cancelled⟩ else some ⟨true, result⟩
    | some (_, result), none => some ⟨true, result⟩
    | none, some _ => some ⟨true, .error .cancelled⟩
    | none, none => none

end PendingCheck

namespace Workflow

def isWithdrawn (w : Workflow) (attempt : AttemptId) : Bool :=
  w.withdrawn.contains attempt

/-- Begin, run the check to its end and complete it. `none` if the wait does not end. The step tells
the query that was put to the authority. -/
def submit (w : Workflow) (form : BookingForm) (target : SubmitTarget)
    (authority : ClashQuery → Reply) (submitter : Submitter) :
    Except Fault (Option (Step Outcome × Option ClashQuery)) := do
  let begun ← w.begin form target
  match begun.answer with
  | .error error => .ok (some (⟨begun.after, .error error, none⟩, none))
  | .ok pending =>
    let withdrawn := begun.after.isWithdrawn pending.attempt
    match pending.run? withdrawn none (authority pending.query) with
    | none => .ok none
    | some trip =>
      let completed := begun.after.complete ⟨pending.attempt, trip.result⟩ submitter
      .ok (some (completed, if trip.asked then some pending.query else none))

end Workflow

end EquipmentBooking

import EquipmentBooking.Workflow.History

/-! A workflow among the checks that it has handed out, and a clock. Checks can be under way long after
their attempts have ended and the workflow itself is given up. Times are milliseconds. -/
namespace EquipmentBooking

structure Trip where
  pending : PendingCheck
  since : Nat
  reply : Reply

/-- Look at a trip for a result. A withdrawal is noticed before anything else, and the reply before
the end of the bound. -/
def Trip.poll? (t : Trip) (withdrawn : Bool) (moment : Nat) :
    Option (Except ApiError (List ClashRecord)) :=
  if withdrawn then some (.error .cancelled)
  else if t.reply.arrival.any (t.since + · ≤ moment) then some t.reply.result
  else
    match t.pending.bound with
    | some bound =>
      if t.since + bound.toNat ≤ moment then some (.error (.timeout bound)) else none
    | none => none

/-- A workflow, whether it has been given up, the time, the checks that have yet to be run and those
under way. -/
structure Session where
  workflow : Workflow
  gone : Bool := false
  now : Nat := 0
  waiting : List PendingCheck := []
  underWay : List Trip := []

/-- What can happen in a session. Running a check is either cut off or asks the authority. -/
inductive Occurrence where
  | called (event : Event)
  | dropped (workflow : Workflow)
  | cut (pending : PendingCheck)
  | asked (trip : Trip)
  | answered (trip : Trip) (result : Except ApiError (List ClashRecord))

namespace Occurrence

def event? : Occurrence → Option Event
  | called event => some event
  | _ => none

def begun? : Occurrence → Option PendingCheck
  | called event => event.begun?
  | _ => none

def ran? : Occurrence → Option PendingCheck
  | cut pending => some pending
  | asked trip => some trip.pending
  | _ => none

def started? : Occurrence → Option Trip
  | asked trip => some trip
  | _ => none

def ended? : Occurrence → Option Trip
  | answered trip _ => some trip
  | _ => none

def query? : Occurrence → Option ClashQuery
  | asked trip => some trip.pending.query
  | _ => none

def check? : Occurrence → Option ClashCheck
  | cut pending => some ⟨pending.attempt, .error .cancelled⟩
  | answered trip result => some ⟨trip.pending.attempt, result⟩
  | _ => none

end Occurrence

namespace Session

def fresh (roster : Roster) (config : ClientConfig) : Session where
  workflow := .ofConfig roster config

/-- Whether an attempt was withdrawn, by the workflow or with it. -/
def isWithdrawn (s : Session) (attempt : AttemptId) : Bool :=
  (if s.gone then s.workflow.withdrawnOnDrop else s.workflow.withdrawn).contains attempt

/-- What can happen next. A submit takes time, so it is a call to begin, the run of the check and a
call to complete it. -/
inductive Next (s : Session) : Occurrence → Session → Prop where
  | call {event : Event} {intent : Intent} (hHere : s.gone = false)
      (hSingle : intent.isSubmit = false)
      (hPerform : s.workflow.perform intent = .ok (some event)) :
      Next s (.called event)
        { s with workflow := event.after, waiting := s.waiting ++ event.begun?.toList }
  | drop (hHere : s.gone = false) : Next s (.dropped s.workflow) { s with gone := true }
  | cut {front back : List PendingCheck} {pending : PendingCheck}
      (hWaiting : s.waiting = front ++ pending :: back)
      (hWithdrawn : s.isWithdrawn pending.attempt = true) :
      Next s (.cut pending) { s with waiting := front ++ back }
  | ask {front back : List PendingCheck} {pending : PendingCheck} (reply : Reply)
      (hWaiting : s.waiting = front ++ pending :: back)
      (hLive : s.isWithdrawn pending.attempt = false) :
      Next s (.asked ⟨pending, s.now, reply⟩)
        { s with
          waiting := front ++ back
          underWay := s.underWay ++ [⟨pending, s.now, reply⟩] }
  | answer {front back : List Trip} {trip : Trip}
      {result : Except ApiError (List ClashRecord)} (hUnderWay : s.underWay = front ++ trip :: back)
      (hPoll : trip.poll? (s.isWithdrawn trip.pending.attempt) s.now = some result) :
      Next s (.answered trip result) { s with underWay := front ++ back }

end Session

/-- What happens in a session, each with its time, the earliest first. Time passes only while no
trip has a result, so none is looked at too late. What happens at one time happens in any order. -/
inductive Course (start : Session) : List (Nat × Occurrence) → Session → Prop where
  | begins : Course start [] start
  | goesOn {log : List (Nat × Occurrence)} {s after : Session} {what : Occurrence}
      (prior : Course start log s) (last : s.Next what after) :
      Course start (log ++ [(s.now, what)]) after
  | waits {log : List (Nat × Occurrence)} {s : Session} {moment : Nat}
      (prior : Course start log s) (hLater : s.now < moment)
      (hQuiet : ∀ trip ∈ s.underWay, ∀ t, s.now ≤ t → t < moment →
        trip.poll? (s.isWithdrawn trip.pending.attempt) t = none) :
      Course start log { s with now := moment }

end EquipmentBooking

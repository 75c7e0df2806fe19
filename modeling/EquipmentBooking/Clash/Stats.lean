import EquipmentBooking.ApiError
import EquipmentBooking.Clash.Record

namespace EquipmentBooking

/-- How the checks of an authority went. Timeouts and malformed answers are counted among the
failures too. -/
structure AuthorityStats where
  requestsSent : Nat := 0
  requestsSucceeded : Nat := 0
  requestsFailed : Nat := 0
  requestsTimeout : Nat := 0
  malformedResponses : Nat := 0
  clashesReported : Nat := 0
  deriving DecidableEq, Repr

namespace AuthorityStats

def success (s : AuthorityStats) (clashes : Nat) : AuthorityStats :=
  { s with
    requestsSent := s.requestsSent + 1
    requestsSucceeded := s.requestsSucceeded + 1
    clashesReported := s.clashesReported + clashes }

def failure (s : AuthorityStats) (error : ApiError) : AuthorityStats :=
  let failed :=
    { s with requestsSent := s.requestsSent + 1, requestsFailed := s.requestsFailed + 1 }
  match error with
  | .timeout _ => { failed with requestsTimeout := s.requestsTimeout + 1 }
  | .malformed _ => { failed with malformedResponses := s.malformedResponses + 1 }
  | _ => failed

def record (s : AuthorityStats) : Except ApiError (List ClashRecord) → AuthorityStats
  | .ok records => s.success records.length
  | .error error => s.failure error

end AuthorityStats

end EquipmentBooking

import EquipmentBooking.ApiError
import EquipmentBooking.Clash.Review
import EquipmentBooking.ClashQuery
import EquipmentBooking.Form.Basic
import EquipmentBooking.Form.Receipt

namespace EquipmentBooking

/-- The number of an attempt. Numbers rise from one and are not used twice. -/
structure AttemptId where
  number : Nat
  deriving DecidableEq, Repr

def AttemptId.text (id : AttemptId) : String :=
  "attempt-" ++ Text.Numeral.text id.number

inductive Phase where
  | idle
  | validating
  | awaiting
  | reviewing
  deriving DecidableEq, Repr

def Phase.name : Phase → String
  | idle => "idle"
  | validating => "validating"
  | awaiting => "awaiting clash response"
  | reviewing => "reviewing clashes"

inductive Operation where
  | start
  | confirm
  | cancel
  deriving DecidableEq, Repr

def Operation.words : Operation → String
  | start => "start a booking attempt"
  | confirm => "confirm a review"
  | cancel => "cancel"

inductive WorkflowError where
  | validation (errors : List FieldError)
  | transport (detail : String)
  | malformed (detail : String)
  | violation (operation : Operation) (phase : Phase)
  | stale (attempt : AttemptId)
  | submission (detail : String)
  deriving DecidableEq, Repr

namespace WorkflowError

def message : WorkflowError → String
  | validation errors =>
    "Validation failed: " ++ String.intercalate "; " (errors.map FieldError.display)
  | transport detail => "Clash check failed: " ++ detail
  | malformed detail => "Malformed clash response: " ++ detail
  | violation operation phase => "Cannot " ++ operation.words ++ " while " ++ phase.name
  | stale attempt => "Response for " ++ attempt.text ++ " arrived after the attempt ended"
  | submission detail => "Booking submission failed: " ++ detail

def ofApi : ApiError → WorkflowError
  | .malformed detail => malformed detail
  | other => transport other.message

end WorkflowError

inductive WorkflowState where
  | idle (lastError : Option WorkflowError)
  | validating
  | awaiting (attempt : AttemptId)
  | reviewing (attempt : AttemptId) (review : ClashReview)
  deriving DecidableEq, Repr

namespace WorkflowState

def phase : WorkflowState → Phase
  | idle _ => .idle
  | validating => .validating
  | awaiting _ => .awaiting
  | reviewing _ _ => .reviewing

def attempt? : WorkflowState → Option AttemptId
  | idle _ => none
  | validating => none
  | awaiting attempt => some attempt
  | reviewing attempt _ => some attempt

def lastError? : WorkflowState → Option WorkflowError
  | idle error => error
  | _ => none

def review? : WorkflowState → Option ClashReview
  | reviewing _ review => some review
  | _ => none

end WorkflowState

structure WorkflowStats where
  attemptsStarted : Nat := 0
  validationFailures : Nat := 0
  submissions : Nat := 0
  reviewsPresented : Nat := 0
  reviewsConfirmed : Nat := 0
  reviewsCancelled : Nat := 0
  attemptsAbandoned : Nat := 0
  transportFailures : Nat := 0
  malformedResponses : Nat := 0
  submissionFailures : Nat := 0
  rejectedIntents : Nat := 0
  staleResponses : Nat := 0
  deriving DecidableEq, Repr

/-- The control that started an attempt. It authorises one submission. -/
structure SubmitTarget where
  controlId : String
  deriving DecidableEq, Repr

/-- An attempt under way, with the submission it will release. -/
structure ActiveAttempt where
  id : AttemptId
  target : SubmitTarget
  submission : Submission
  deriving DecidableEq, Repr

/-- A submission on its way out: whose it is, which control authorised it, and what is sent. -/
structure Release where
  attempt : AttemptId
  target : SubmitTarget
  submission : Submission
  deriving DecidableEq, Repr

/-- Whoever sends submissions, as what it answers to each. -/
abbrev Submitter := Release → Except ApiError Receipt

structure ClashCheck where
  attempt : AttemptId
  result : Except ApiError (List ClashRecord)

/-- What an attempt came to, for now or for good. -/
inductive Outcome where
  | submitted (attempt : AttemptId) (reviewed : Bool) (receipt : Receipt)
  | reviewRequired (attempt : AttemptId) (clashes : Nat)
  deriving DecidableEq, Repr

end EquipmentBooking

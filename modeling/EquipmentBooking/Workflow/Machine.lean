import EquipmentBooking.Config
import EquipmentBooking.Roster.Edit
import EquipmentBooking.Workflow.Basic

/-! The booking workflow. One attempt is under way at a time, and it owns the submission that was made
from the form when it began: what was checked is what is submitted. -/
namespace EquipmentBooking

/-- A workflow with its roster. `withdrawn` lists the attempts whose clash checks need not go on: those
that were cancelled or whose check failed. -/
structure Workflow where
  state : WorkflowState := .idle none
  roster : Roster
  active : Option ActiveAttempt := none
  nextAttempt : Nat := 1
  bound : Option UInt64 := ClientConfig.bound? {}
  stats : WorkflowStats := {}
  withdrawn : List AttemptId := []
  deriving DecidableEq, Repr

/-- A clash check that has yet to be run, detached from the workflow. -/
structure PendingCheck where
  attempt : AttemptId
  query : ClashQuery
  bound : Option UInt64
  deriving DecidableEq, Repr

/-- What an operation did: the workflow afterwards, the answer, and the submission it released. -/
structure Step (α : Type) where
  after : Workflow
  answer : Except WorkflowError α
  released : Option Release := none

namespace Workflow

def ofConfig (roster : Roster) (config : ClientConfig) : Workflow where
  roster := roster
  bound := config.bound?

def fail {α : Type} (w : Workflow) (error : WorkflowError) : Step α :=
  ⟨{ w with state := .idle (some error) }, .error error, none⟩

def refuse {α : Type} (w : Workflow) (operation : Operation) : Step α :=
  ⟨w, .error (.violation operation w.state.phase), none⟩

/-- Begin with a form that has no problems: take down what will be submitted and hand out the check
to be run. -/
def launch (w : Workflow) (form : BookingForm) (target : SubmitTarget) (query : ClashQuery) :
    Step PendingCheck :=
  let id : AttemptId := ⟨w.nextAttempt⟩
  { after :=
      { w with
        state := .awaiting id
        active := some ⟨id, target, form.submission w.roster⟩
        nextAttempt := w.nextAttempt + 1
        stats := { w.stats with attemptsStarted := w.stats.attemptsStarted + 1 } }
    answer := .ok ⟨id, query, w.bound⟩ }

def failValidation (w : Workflow) (errors : List FieldError) : Step PendingCheck :=
  let counted :=
    { w with stats := { w.stats with validationFailures := w.stats.validationFailures + 1 } }
  counted.fail (.validation errors)

/-- The wish to submit a form: validate it, build the query, and hand out the check to be run. -/
def begin (w : Workflow) (form : BookingForm) (target : SubmitTarget) :
    Except Fault (Step PendingCheck) :=
  match w.state with
  | .idle _ => do
    let checking := { w with state := .validating }
    let problems ← form.problems w.roster
    if problems.isEmpty then
      match ← ClashQuery.build form.time w.roster.kind w.roster.entries with
      | .ok query => .ok (checking.launch form target query)
      | .error issue => .ok (checking.failValidation [⟨"time", issue.message⟩])
    else .ok (checking.failValidation problems)
  | _ =>
    let counted :=
      { w with stats := { w.stats with rejectedIntents := w.stats.rejectedIntents + 1 } }
    .ok (counted.refuse .start)

/-- Release the submission of an attempt that is no longer held, and end with what came of it. -/
def finish (w : Workflow) (attempt : ActiveAttempt) (reviewed : Bool) (submitter : Submitter) :
    Step Outcome :=
  let release : Release := ⟨attempt.id, attempt.target, attempt.submission⟩
  match submitter release with
  | .ok receipt =>
    { after :=
        { w with
          state := .idle none
          stats := { w.stats with submissions := w.stats.submissions + 1 } }
      answer := .ok (.submitted attempt.id reviewed receipt)
      released := some release }
  | .error error =>
    let counted :=
      { w with stats := { w.stats with submissionFailures := w.stats.submissionFailures + 1 } }
    { counted.fail (.submission error.message) with released := some release }

/-- The attempt that a check belongs to, if the workflow is waiting for just that check. -/
def awaited? (w : Workflow) (check : ClashCheck) : Option ActiveAttempt :=
  match w.state, w.active with
  | .awaiting id, some attempt =>
    if id = check.attempt ∧ attempt.id = check.attempt then some attempt else none
  | _, _ => none

def countFailure (w : Workflow) : WorkflowError → Workflow
  | .malformed _ =>
    { w with stats := { w.stats with malformedResponses := w.stats.malformedResponses + 1 } }
  | _ => { w with stats := { w.stats with transportFailures := w.stats.transportFailures + 1 } }

/-- Take the answer to a check. One that nobody waits for is discarded. No clashes lead straight to
the submission, clashes to the review, and a failed check ends the attempt. -/
def complete (w : Workflow) (check : ClashCheck) (submitter : Submitter) : Step Outcome :=
  match w.awaited? check with
  | none =>
    { after := { w with stats := { w.stats with staleResponses := w.stats.staleResponses + 1 } }
      answer := .error (.stale check.attempt) }
  | some attempt =>
    match check.result with
    | .ok [] => finish { w with active := none } attempt false submitter
    | .ok (record :: records) =>
      { after :=
          { w with
            state := .reviewing attempt.id (ClashReview.ofRecords (record :: records))
            stats := { w.stats with reviewsPresented := w.stats.reviewsPresented + 1 } }
        answer := .ok (.reviewRequired attempt.id (records.length + 1)) }
    | .error error =>
      let ended := { w with active := none, withdrawn := attempt.id :: w.withdrawn }
      (ended.countFailure (.ofApi error)).fail (.ofApi error)

/-- Book in spite of the clashes under review: release the submission that the attempt holds. -/
def confirm (w : Workflow) (submitter : Submitter) : Step Outcome :=
  match w.state, w.active with
  | .reviewing .., some attempt =>
    let confirmed :=
      { w with
        active := none
        stats := { w.stats with reviewsConfirmed := w.stats.reviewsConfirmed + 1 } }
    confirmed.finish attempt true submitter
  | _, _ => w.refuse .confirm

/-- Give up the attempt under way. Nothing is submitted. -/
def cancel (w : Workflow) : Step AttemptId :=
  match w.state, w.active with
  | .reviewing .., some attempt =>
    { after :=
        { w with
          state := .idle none
          active := none
          withdrawn := attempt.id :: w.withdrawn
          stats := { w.stats with reviewsCancelled := w.stats.reviewsCancelled + 1 } }
      answer := .ok attempt.id }
  | .awaiting _, some attempt =>
    { after :=
        { w with
          state := .idle none
          active := none
          withdrawn := attempt.id :: w.withdrawn
          stats := { w.stats with attemptsAbandoned := w.stats.attemptsAbandoned + 1 } }
      answer := .ok attempt.id }
  | _, _ => w.refuse .cancel

def editRoster (w : Workflow) (edit : RosterEdit) : Workflow × EditAnswer :=
  let (roster, answer) := w.roster.edit edit
  ({ w with roster }, answer)

/-- The attempts whose checks need not go on once the workflow itself is given up. -/
def withdrawnOnDrop (w : Workflow) : List AttemptId :=
  match w.active with
  | some attempt => attempt.id :: w.withdrawn
  | none => w.withdrawn

end Workflow

end EquipmentBooking

import EquipmentBooking.Workflow.RoundTrip

/-! Histories of a workflow: what is done to it one thing after the other. Nothing is assumed about the
checks that are completed: they may be forged, repeated or late. -/
namespace EquipmentBooking

/-- What can be done to a workflow. Whoever is asked in the course of it is part of it. -/
inductive Intent where
  | begin (form : BookingForm) (target : SubmitTarget)
  | complete (check : ClashCheck) (submitter : Submitter)
  | confirm (submitter : Submitter)
  | cancel
  | submit (form : BookingForm) (target : SubmitTarget) (authority : ClashQuery → Reply)
      (submitter : Submitter)
  | edit (edit : RosterEdit)

/-- Whether an intent is to submit, which is more than one call. -/
def Intent.isSubmit : Intent → Bool
  | .submit .. => true
  | _ => false

inductive IntentAnswer where
  | begun (answer : Except WorkflowError PendingCheck)
  | ended (answer : Except WorkflowError Outcome)
  | cancelled (answer : Except WorkflowError AttemptId)
  | edited (answer : EditAnswer)

/-- One thing that happened to a workflow: the intent, where it found the workflow and how it left
it, its answer, and what the outside saw of it, which is the query put to the authority and the
submission released. -/
structure Event where
  before : Workflow
  intent : Intent
  after : Workflow
  answer : IntentAnswer
  asked : Option ClashQuery := none
  released : Option Release := none

def Step.event {α : Type} (step : Step α) (before : Workflow) (intent : Intent)
    (answer : Except WorkflowError α → IntentAnswer) : Event where
  before := before
  intent := intent
  after := step.after
  answer := answer step.answer
  released := step.released

def Event.begun? (e : Event) : Option PendingCheck :=
  match e.answer with
  | .begun (.ok pending) => some pending
  | _ => none

def Event.edit? (e : Event) : Option RosterEdit :=
  match e.intent with
  | .edit edit => some edit
  | _ => none

/-- The calls that an event is made of. Submitting is beginning and, if that hands out a check,
completing what the check comes to; every other event is a call itself. -/
def Event.calls (e : Event) : List Event :=
  match e.intent with
  | .submit form target authority submitter =>
    match e.before.begin form target with
    | .error _ => []
    | .ok begun =>
      let first := begun.event e.before (.begin form target) .begun
      match begun.answer with
      | .error _ => [first]
      | .ok pending =>
        match pending.run? (begun.after.isWithdrawn pending.attempt) none
            (authority pending.query) with
        | none => [first]
        | some trip =>
          let check : ClashCheck := ⟨pending.attempt, trip.result⟩
          [first, (begun.after.complete check submitter).event begun.after
            (.complete check submitter) .ended]
  | _ => [e]

namespace Workflow

def fresh (roster : Roster) (bound : Option UInt64) : Workflow where
  roster := roster
  bound := bound

/-- Do what is intended. `none` if the wait for the authority does not end. -/
def perform (w : Workflow) (intent : Intent) : Except Fault (Option Event) :=
  match intent with
  | .begin form target =>
    (w.begin form target).map fun step => some (step.event w intent .begun)
  | .complete check submitter => .ok (some ((w.complete check submitter).event w intent .ended))
  | .confirm submitter => .ok (some ((w.confirm submitter).event w intent .ended))
  | .cancel => .ok (some (w.cancel.event w intent .cancelled))
  | .submit form target authority submitter =>
    (w.submit form target authority submitter).map fun result =>
      result.map fun (step, asked) => { step.event w intent .ended with asked }
  | .edit edit =>
    let (after, answer) := w.editRoster edit
    .ok (some { before := w, intent, after, answer := .edited answer })

end Workflow

/-- The events that lead from a workflow to another, the earliest first. An intent that meets a fault,
or whose wait does not end, leads nowhere. -/
inductive History (start : Workflow) : List Event → Workflow → Prop where
  | begins : History start [] start
  | goesOn {past : List Event} {now : Workflow} {event : Event} {intent : Intent}
      (prior : History start past now) (last : now.perform intent = .ok (some event)) :
      History start (past ++ [event]) event.after

def Workflow.performAll? (w : Workflow) : List Intent → Option (List Event × Workflow)
  | [] => some ([], w)
  | intent :: rest =>
    match w.perform intent with
    | .ok (some event) =>
      (event.after.performAll? rest).map fun (events, now) => (event :: events, now)
    | _ => none

/-- An event records the workflow it found and the intent it came from. -/
theorem Workflow.before_and_intent_of_perform {w : Workflow} {intent : Intent} {event : Event}
    (h : w.perform intent = .ok (some event)) : event.before = w ∧ event.intent = intent := by
  cases intent with
  | begin form target =>
    cases hb : w.begin form target with
    | error fault => simp [Workflow.perform, hb, Except.map] at h
    | ok step =>
      simp only [Workflow.perform, hb, Except.map, Except.ok.injEq, Option.some.injEq] at h
      subst h
      exact ⟨rfl, rfl⟩
  | submit form target authority submitter =>
    cases hs : w.submit form target authority submitter with
    | error fault => simp [Workflow.perform, hs, Except.map] at h
    | ok result =>
      cases result with
      | none => simp [Workflow.perform, hs, Except.map] at h
      | some pair =>
        simp only [Workflow.perform, hs, Except.map, Option.map_some, Except.ok.injEq,
          Option.some.injEq] at h
        subst h
        exact ⟨rfl, rfl⟩
  | _ =>
    simp only [Workflow.perform, Except.ok.injEq, Option.some.injEq] at h
    subst h
    exact ⟨rfl, rfl⟩

theorem History.trans {start middle now : Workflow} {past rest : List Event}
    (left : History start past middle) (right : History middle rest now) :
    History start (past ++ rest) now := by
  induction right with
  | begins => simpa using left
  | goesOn prior last ih => simpa using goesOn ih last

/-- What is computed is a history. -/
theorem History.of_performAll? {start now : Workflow} {intents : List Intent} {past : List Event}
    (h : start.performAll? intents = some (past, now)) : History start past now := by
  induction intents generalizing start past with
  | nil =>
      cases h
      exact begins
  | cons intent rest ih =>
      rw [Workflow.performAll?] at h
      split at h
      · rename_i event hEvent
        obtain ⟨⟨events, final⟩, hRest, hPast⟩ := Option.map_eq_some_iff.mp h
        cases hPast
        exact (goesOn begins hEvent).trans (ih hRest)
      · cases h

end EquipmentBooking

import EquipmentBooking.Calendar.Week
import EquipmentBooking.Time.Typed

/-! The time fields one by one, and which of them count. A time is stated in one of two forms; the marker
and the fields that are filled in decide which form is read, and only the fields of that form are read. -/
namespace EquipmentBooking

inductive TimeField where
  | date | weekCommencing | day | startTime | endTime
  deriving DecidableEq, Repr

inductive TimeForm where
  | window
  | slot
  deriving DecidableEq, Repr

def TimeForm.fields : TimeForm → List TimeField
  | window => [.date, .startTime, .endTime]
  | slot => [.weekCommencing, .day, .startTime, .endTime]

namespace BookedTime

def form : BookedTime → TimeForm
  | window .. => .window
  | slot .. => .slot

/-- The same time with the Monday of its week, if it is a slot. -/
def onMonday? : BookedTime → Option BookedTime
  | window date start finish => some (.window date start finish)
  | slot given day start finish =>
    given.weekCommencing?.map fun monday => .slot monday day start finish

/-- A window stays, and a slot moves to the Monday in whose week its date lies. -/
def MovesTo : BookedTime → BookedTime → Prop
  | window date start finish, booked => booked = .window date start finish
  | slot given day start finish, booked =>
    ∃ monday : Date, monday.weekday = .monday ∧ given ∈ monday.week ∧
      booked = .slot monday day start finish

end BookedTime

namespace TypedTime

def field (t : TypedTime) : TimeField → Option String
  | .date => t.date
  | .weekCommencing => t.weekCommencing
  | .day => t.day
  | .startTime => t.startTime
  | .endTime => t.endTime

def mapTexts (t : TypedTime) (change : TimeField → String → String) : TypedTime where
  manual := t.manual
  date := t.date.map (change .date)
  weekCommencing := t.weekCommencing.map (change .weekCommencing)
  day := t.day.map (change .day)
  startTime := t.startTime.map (change .startTime)
  endTime := t.endTime.map (change .endTime)

def Fills (t : TypedTime) (form : TimeForm) : Prop :=
  ∀ f ∈ form.fields, isPresent (t.field f) = true

instance (t : TypedTime) (form : TimeForm) : Decidable (t.Fills form) :=
  List.decidableBAll (fun f => isPresent (t.field f) = true) form.fields

/-- The form that is read. The marker leaves only the window; without it a slot comes before a window. -/
def form? (t : TypedTime) : Option TimeForm :=
  if t.manual then
    if t.Fills .window then some .window else none
  else if t.Fills .slot then some .slot
  else if t.Fills .window then some .window
  else none

/-- The same text, but for blanks around it, in every field of a form. -/
def AgreesOn (t u : TypedTime) (form : TimeForm) : Prop :=
  ∀ f ∈ form.fields, content (t.field f) = content (u.field f)

/-- The times of day between the blanks of their fields, the second after the first. -/
def StatesSpan (t : TypedTime) (start finish : TimeOfDay) : Prop :=
  Calendar.readTimeOfDay (content t.startTime).toList = .ok start ∧
    Calendar.readTimeOfDay (content t.endTime).toList = .ok finish ∧
    start.minutes < finish.minutes

/-- What the fields of a form state when each is read by itself. The date of a slot is the one that was
typed, on whatever day of its week. -/
def States (t : TypedTime) : BookedTime → Prop
  | .window date start finish =>
    Calendar.readDate (content t.date).toList = .ok date ∧ t.StatesSpan start finish
  | .slot given day start finish =>
    Calendar.readDate (content t.weekCommencing).toList = .ok given ∧
      Weekday.ofName? (content t.day) = some day ∧ t.StatesSpan start finish

end TypedTime

end EquipmentBooking

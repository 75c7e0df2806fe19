import EquipmentBooking.Calendar.Reading
import EquipmentBooking.Text.Quoted
import EquipmentBooking.Time.Booked

/-! The time fields of a booking form as typed, and how they resolve to a booked time. The manual marker
forces a window; without it a complete slot wins over a complete window. -/
namespace EquipmentBooking

/-- The time fields as typed. An absent field differs from an empty one only in what the form sends. -/
structure TypedTime where
  manual : Bool := false
  date : Option String := none
  weekCommencing : Option String := none
  day : Option String := none
  startTime : Option String := none
  endTime : Option String := none
  deriving DecidableEq, Repr

/-- Why time fields state no time. Texts are as read, without the blanks around them. -/
inductive TimeIssue where
  | manualIncomplete
  | nothingComplete
  | badDate (raw : String) (issue : Calendar.ReadIssue)
  | badTime (raw : String) (issue : Calendar.ReadIssue)
  | unknownDay (raw : String)
  | endNotAfterStart (finish start : TimeOfDay)
  deriving DecidableEq, Repr

namespace TimeIssue

def detail : TimeIssue → String
  | manualIncomplete => "manual booking needs a date, start time and end time"
  | nothingComplete => "neither a manual window nor a timetable slot is fully specified"
  | badDate raw issue => "bad date " ++ Text.quoted raw ++ ": " ++ issue.message
  | badTime raw issue => "bad time " ++ Text.quoted raw ++ ": " ++ issue.message
  | unknownDay raw => "unknown day " ++ Text.quoted raw
  | endNotAfterStart finish start =>
    "end time " ++ finish.text ++ " is not after start time " ++ start.text

def message (issue : TimeIssue) : String :=
  "Invalid time specification: " ++ issue.detail

end TimeIssue

/-- The weekday that a text names exactly but for letter case. -/
def readDay (raw : String) : Except TimeIssue Weekday :=
  match Weekday.ofName? raw with
  | some day => .ok day
  | none => .error (.unknownDay raw)

def readTypedDate (raw : String) : Except TimeIssue Date :=
  (Calendar.readDate raw.toList).mapError (TimeIssue.badDate raw)

def readTypedTime (raw : String) : Except TimeIssue TimeOfDay :=
  (Calendar.readTimeOfDay raw.toList).mapError (TimeIssue.badTime raw)

/-- Two times of day in order. The start is read first. -/
def readTypedSpan (start finish : String) : Except TimeIssue (TimeOfDay × TimeOfDay) := do
  let start ← readTypedTime start
  let finish ← readTypedTime finish
  if finish.minutes ≤ start.minutes then .error (.endNotAfterStart finish start)
  else .ok (start, finish)

namespace TypedTime

def ofWindow (date startTime endTime : String) : TypedTime where
  manual := true
  date := some date
  startTime := some startTime
  endTime := some endTime

def ofSlot (weekCommencing day startTime endTime : String) : TypedTime where
  weekCommencing := some weekCommencing
  day := some day
  startTime := some startTime
  endTime := some endTime

/-- A field that was filled in with more than blanks. -/
def isPresent (field : Option String) : Bool :=
  match field with
  | none => false
  | some text => !decide (Text.IsBlankText text)

def content (field : Option String) : String :=
  Text.trim (field.getD "")

def hasWindow (t : TypedTime) : Bool :=
  isPresent t.date && isPresent t.startTime && isPresent t.endTime

def hasSlot (t : TypedTime) : Bool :=
  isPresent t.weekCommencing && isPresent t.day && isPresent t.startTime && isPresent t.endTime

def readWindow (t : TypedTime) : Except TimeIssue BookedTime := do
  let date ← readTypedDate (content t.date)
  let (start, finish) ← readTypedSpan (content t.startTime) (content t.endTime)
  .ok (.window date start finish)

/-- The fields read as a slot of the week that holds the given date. -/
def readSlot (t : TypedTime) : Except TimeIssue BookedTime := do
  let given ← readTypedDate (content t.weekCommencing)
  let day ← readDay (content t.day)
  let (start, finish) ← readTypedSpan (content t.startTime) (content t.endTime)
  .ok (.slot given day start finish)

/-- The fields read by the form that they fill in. A slot still has the date that was typed. -/
def readChosen (t : TypedTime) : Except TimeIssue BookedTime :=
  if t.manual then
    if t.hasWindow then t.readWindow else .error .manualIncomplete
  else if t.hasSlot then t.readSlot
  else if t.hasWindow then t.readWindow
  else .error .nothingComplete

/-- The booked time that the fields state, or why they state none. The week of a slot is given by
its Monday, which the first days of the calendar do not have. -/
def resolve (t : TypedTime) : Except Fault (Except TimeIssue BookedTime) :=
  match t.readChosen with
  | .error issue => .ok (.error issue)
  | .ok (.window date start finish) => .ok (.ok (.window date start finish))
  | .ok (.slot given day start finish) =>
    match given.weekCommencing? with
    | some monday => .ok (.ok (.slot monday day start finish))
    | none => .error .calendarEnds

/-- The fields as the form sends them: those that were typed, as typed, and the marker. -/
def formPairs (t : TypedTime) : Pairs :=
  let typed := [("date", t.date), ("week_commencing", t.weekCommencing), ("day", t.day),
    ("start_time", t.startTime), ("end_time", t.endTime)]
  (typed.filterMap fun (name, field) => field.map fun text => (name, text)) ++
    (if t.manual then [("manual", "true")] else [])

end TypedTime

end EquipmentBooking

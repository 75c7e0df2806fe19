import EquipmentBooking.Calendar.Date
import EquipmentBooking.Calendar.TimeOfDay
import EquipmentBooking.Fault

/-! The time of a booking: a window on one date, or a slot of the weekly timetable. A slot names the
Monday of its week and the day in that week. -/
namespace EquipmentBooking

/-- Named values in order, as forms and queries carry them. Names may repeat. -/
abbrev Pairs := List (String × String)

inductive BookedTime where
  | window (date : Date) (start finish : TimeOfDay)
  | slot (weekCommencing : Date) (day : Weekday) (start finish : TimeOfDay)
  deriving DecidableEq, Repr

namespace BookedTime

/-- Windows are entered by hand, slots come from the timetable. -/
def isManual : BookedTime → Bool
  | window .. => true
  | slot .. => false

def start : BookedTime → TimeOfDay
  | window _ start _ => start
  | slot _ _ start _ => start

/-- The minute at which the booking is over. -/
def finish : BookedTime → TimeOfDay
  | window _ _ finish => finish
  | slot _ _ _ finish => finish

/-- The date on which the booking falls. The week of a slot may run over the end of the calendar. -/
def date : BookedTime → Except Fault Date
  | window date _ _ => .ok date
  | slot monday day _ _ =>
    match monday.after? day.index with
    | some date => .ok date
    | none => .error .calendarEnds

/-- The named values that state the time. Only a window carries the manual marker; the server
applies its slot rules to everything else. -/
def toPairs : BookedTime → Pairs
  | window date start finish =>
    [("date", date.text), ("start_time", start.text), ("end_time", finish.text), ("manual", "true")]
  | slot monday day start finish =>
    [("week_commencing", monday.text), ("day", day.name), ("start_time", start.text),
      ("end_time", finish.text)]

end BookedTime

end EquipmentBooking

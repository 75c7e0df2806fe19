import EquipmentBooking.Calendar.Date

/-! The calendar as a sequence of days: the order in which they pass, its two ends, and its weeks from
Monday to Sunday. The calendar begins in the middle of a week and ends on a Monday. -/
namespace EquipmentBooking

def Weekday.next : Weekday → Weekday
  | monday => tuesday
  | tuesday => wednesday
  | wednesday => thursday
  | thursday => friday
  | friday => saturday
  | saturday => sunday
  | sunday => monday

namespace Date

/-- The order in which days pass: by year, then by month, then by day. -/
instance : LT Date where
  lt d e := d.year < e.year ∨
    d.year = e.year ∧ (d.month < e.month ∨ d.month = e.month ∧ d.day < e.day)

instance : LE Date where
  le d e := d < e ∨ d = e

def first : Date :=
  (of? firstYear 1 1).get rfl

def last : Date :=
  (of? lastYear 12 31).get rfl

/-- The first Monday of the calendar. The days before it lie in a week without a Monday. -/
def firstMonday : Date :=
  (of? firstYear 1 5).get rfl

/-- The seven days from a date on, as far as the calendar has them. From a Monday on they are a week. -/
def week (monday : Date) : List Date :=
  (List.range 7).filterMap monday.after?

/-- Two dates in one week from Monday to Sunday, whose Monday the calendar has. -/
def SameWeek (d e : Date) : Prop :=
  ∃ monday : Date, monday.weekday = .monday ∧ d ∈ monday.week ∧ e ∈ monday.week

/-- A date in a week of which the calendar has all seven days. -/
def InWholeWeek (d : Date) : Prop :=
  ∃ monday : Date, monday.weekday = .monday ∧ d ∈ monday.week ∧ monday.week.length = 7

end Date

end EquipmentBooking

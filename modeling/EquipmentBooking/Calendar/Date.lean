import EquipmentBooking.Calendar.Weekday
import EquipmentBooking.Text.Numeral

/-! Dates of the proleptic Gregorian calendar. The calendar is finite: it runs from the first day of the
year -262143 to the last day of the year 262142, and a step beyond either end gives no date. -/
namespace EquipmentBooking

def isLeapYear (year : Int) : Bool :=
  year % 4 == 0 && (year % 100 != 0 || year % 400 == 0)

def daysInMonth (year : Int) (month : Nat) : Nat :=
  if month = 2 then (if isLeapYear year then 29 else 28)
  else if month = 4 ∨ month = 6 ∨ month = 9 ∨ month = 11 then 30
  else 31

def firstYear : Int := -262143

def lastYear : Int := 262142

structure Date where
  year : Int
  month : Nat
  day : Nat
  firstYear_le : firstYear ≤ year
  le_lastYear : year ≤ lastYear
  month_pos : 1 ≤ month
  month_le : month ≤ 12
  day_pos : 1 ≤ day
  day_le : day ≤ daysInMonth year month
  deriving DecidableEq, Repr

namespace Date

/-- The date with the given numbers, if the calendar has one. -/
def of? (year : Int) (month day : Nat) : Option Date :=
  if h : firstYear ≤ year ∧ year ≤ lastYear ∧ 1 ≤ month ∧ month ≤ 12 ∧ 1 ≤ day ∧
      day ≤ daysInMonth year month then
    some ⟨year, month, day, h.1, h.2.1, h.2.2.1, h.2.2.2.1, h.2.2.2.2.1, h.2.2.2.2.2⟩
  else none

/-- The day after, unless the calendar ends. -/
def next? (d : Date) : Option Date :=
  if d.day < daysInMonth d.year d.month then of? d.year d.month (d.day + 1)
  else if d.month < 12 then of? d.year (d.month + 1) 1
  else of? (d.year + 1) 1 1

def prev? (d : Date) : Option Date :=
  if 1 < d.day then of? d.year d.month (d.day - 1)
  else if 1 < d.month then of? d.year (d.month - 1) (daysInMonth d.year (d.month - 1))
  else of? (d.year - 1) 12 31

def after? (d : Date) : Nat → Option Date
  | 0 => some d
  | n + 1 => d.next?.bind fun e => e.after? n

def before? (d : Date) : Nat → Option Date
  | 0 => some d
  | n + 1 => d.prev?.bind fun e => e.before? n

def daysBeforeMonth (year : Int) (month : Nat) : Nat :=
  ((List.range (month - 1)).map fun m => daysInMonth year (m + 1)).foldr (· + ·) 0

def daysBeforeYear (year : Int) : Int :=
  let y := year - 1
  365 * y + y / 4 - y / 100 + y / 400

/-- The place of a date in the sequence of all days; the first day of year one has place one. -/
def dayNumber (d : Date) : Int :=
  daysBeforeYear d.year + daysBeforeMonth d.year d.month + d.day

/-- The day of the week. Day number one is a Monday. -/
def weekday (d : Date) : Weekday :=
  Weekday.ofIndex ((d.dayNumber - 1) % 7).toNat

/-- The Monday of the week of a date. The first days of the calendar lie in a week whose Monday it
does not have. -/
def weekCommencing? (d : Date) : Option Date :=
  d.before? d.weekday.index

/-- The text of a year: four digits, and a sign outside the years 0 to 9999. -/
def yearChars (year : Int) : List Char :=
  if year < 0 then '-' :: Text.Numeral.padded 4 year.natAbs
  else if 9999 < year then '+' :: Text.Numeral.padded 4 year.natAbs
  else Text.Numeral.padded 4 year.natAbs

def chars (d : Date) : List Char :=
  yearChars d.year ++ '-' :: (Text.Numeral.padded 2 d.month ++
    '-' :: Text.Numeral.padded 2 d.day)

def text (d : Date) : String :=
  String.ofList d.chars

end Date

end EquipmentBooking

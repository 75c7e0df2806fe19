import EquipmentBooking.Text.Lowercase

namespace EquipmentBooking

inductive Weekday where
  | monday | tuesday | wednesday | thursday | friday | saturday | sunday
  deriving DecidableEq, Repr

namespace Weekday

def index : Weekday → Nat
  | monday => 0
  | tuesday => 1
  | wednesday => 2
  | thursday => 3
  | friday => 4
  | saturday => 5
  | sunday => 6

def ofIndex : Nat → Weekday
  | 0 => monday
  | 1 => tuesday
  | 2 => wednesday
  | 3 => thursday
  | 4 => friday
  | 5 => saturday
  | n + 6 => if n % 7 = 0 then sunday else ofIndex (n - 1)

def name : Weekday → String
  | monday => "monday"
  | tuesday => "tuesday"
  | wednesday => "wednesday"
  | thursday => "thursday"
  | friday => "friday"
  | saturday => "saturday"
  | sunday => "sunday"

def all : List Weekday :=
  [monday, tuesday, wednesday, thursday, friday, saturday, sunday]

/-- The day that a text names. Letter case does not matter, blanks around the name do. -/
def ofName? (s : String) : Option Weekday :=
  let wanted := Text.lower s
  all.find? fun day => day.name == wanted

theorem index_lt (day : Weekday) : day.index < 7 := by
  cases day <;> decide

end Weekday

end EquipmentBooking

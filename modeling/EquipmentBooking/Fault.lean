/-! Faults: computations that leave the range the library is built for. A fault is not an error of the
user's input with a message of its own; whoever meets one has no answer at all. -/
namespace EquipmentBooking

/-- The ranges that can be left. -/
inductive Fault where
  /-- A day before the first or after the last day of the calendar. -/
  | calendarEnds
  /-- A table column wider than the widest one that can be padded. -/
  | columnTooWide
  deriving DecidableEq, Repr

end EquipmentBooking

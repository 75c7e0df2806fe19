import EquipmentBooking.Calendar.Timestamp

namespace EquipmentBooking

/-- One clash. The net quantity is what would be left, and is negative when there is not enough. -/
structure ClashRecord where
  equipmentName : String
  bookingId : UInt64
  bookingUser : String
  bookingActivity : String
  bookingStarts : Timestamp
  bookingEnds : Timestamp
  youQuantity : UInt32
  clashQuantity : UInt32
  totalQuantity : UInt32
  netQuantity : Int64
  deriving DecidableEq, Repr

end EquipmentBooking

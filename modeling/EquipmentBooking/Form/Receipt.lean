import EquipmentBooking.Text.Blank
import EquipmentBooking.Text.Numeral

/-! What comes back when a booking form has been sent. The server leads a successful booking to a page
whose path ends in the number of the booking. -/
namespace EquipmentBooking

/-- The answer to a submitted form: the status and path of the page it led to. -/
structure Receipt where
  status : UInt16
  location : String
  bookingId : Option UInt64
  deriving DecidableEq, Repr

def successMark : List Char :=
  "/book/success/".toList

/-- The rest of a text behind the last place where a mark stands in it. -/
def afterLast? (mark : List Char) : List Char → Option (List Char)
  | [] => if mark.isEmpty then some [] else none
  | c :: rest =>
    match afterLast? mark rest with
    | some found => some found
    | none => if mark.isPrefixOf (c :: rest) then some ((c :: rest).drop mark.length) else none

/-- The number of the booking that a path leads to, whatever the path is mounted under and with or
without slashes at its end. -/
def bookingId? (path : String) : Option UInt64 :=
  (afterLast? successMark (Text.dropTail (· == '/') path.toList)).bind fun id =>
    match Text.Numeral.readNatural (UInt64.size - 1) id with
    | .ok n => some (UInt64.ofNat n)
    | .error _ => none

end EquipmentBooking

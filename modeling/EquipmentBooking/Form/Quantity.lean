import EquipmentBooking.Form.Basic

namespace EquipmentBooking

inductive QuantityIssue where
  | notWhole (raw : String)
  | outOfRange (trimmed : String)
  | negative
  | onlyAvailable (bound : UInt32)
  deriving DecidableEq, Repr

def QuantityIssue.message : QuantityIssue → String
  | notWhole raw => Text.quoted raw ++ " is not a whole number"
  | outOfRange trimmed => trimmed ++ " is out of range"
  | negative => "quantity cannot be negative"
  | onlyAvailable bound => "only " ++ Text.Numeral.text bound.toNat ++ " available"

/-- The quantity that a text gives under a bound. A number of more than 64 bits is out of range, and
is told apart from a text that is no number. -/
def readQuantity (raw : String) (bound : UInt32) : Except QuantityIssue UInt32 :=
  match Text.Numeral.readSigned64 (Text.trimChars raw.toList) with
  | .error .outOfRange => .error (.outOfRange (Text.trim raw))
  | .error .malformed => .error (.notWhole raw)
  | .ok n =>
    if n < 0 then .error .negative
    else if (bound.toNat : Int) < n then .error (.onlyAvailable bound)
    else .ok (UInt32.ofNat n.toNat)

def readQuantityField (field raw : String) (bound : UInt32) : Except FieldError UInt32 :=
  (readQuantity raw bound).mapError fun issue => ⟨field, issue.message⟩

end EquipmentBooking

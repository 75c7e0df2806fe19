import EquipmentBooking.Roster.Basic
import EquipmentBooking.Time.Typed

/-! The booking form: what is checked before anything is sent, and the fields that are sent in the end.
Time fields go out as typed; the server reads them itself. -/
namespace EquipmentBooking

structure FieldError where
  field : String
  message : String
  deriving DecidableEq, Repr

def FieldError.display (e : FieldError) : String :=
  e.field ++ ": " ++ e.message

inductive FormMethod where
  | get
  | post
  deriving DecidableEq, Repr

structure Submission where
  method : FormMethod
  action : String
  fields : Pairs
  deriving DecidableEq, Repr

/-- A booking form as filled in. Hidden fields are carried through untouched. -/
structure BookingForm where
  action : String
  method : FormMethod := .get
  location : Option String
  time : TypedTime
  hidden : Pairs := []
  deriving DecidableEq, Repr

namespace BookingForm

def ofActivity (activity : UInt64) (time : TypedTime) (location : String) : BookingForm where
  action := "/book/" ++ Text.Numeral.text activity.toNat ++ "/submit"
  location := some location
  time := time

def locationErrors (form : BookingForm) : List FieldError :=
  if TypedTime.isPresent form.location then [] else [⟨"location", "a location is required"⟩]

def quantityError? (kind : RosterKind) (e : RosterEntry) : Option FieldError :=
  if e.maxQuantity < e.quantity then
    some ⟨kind.quantityKey e.itemId, Text.Numeral.text e.quantity.toNat ++
      " requested but only " ++ Text.Numeral.text e.maxQuantity.toNat ++ " available"⟩
  else none

/-- Everything that is wrong, so that the page can mark all fields at once: the location, the time,
then the lines in order. The form is valid when nothing is wrong. -/
def problems (form : BookingForm) (roster : Roster) : Except Fault (List FieldError) :=
  form.time.resolve.map fun resolved =>
    let timeErrors :=
      match resolved with
      | .error issue => [⟨"time", issue.message⟩]
      | .ok _ => []
    form.locationErrors ++ timeErrors ++ roster.entries.filterMap (quantityError? roster.kind)

/-- What the browser would send: the time as typed, the trimmed location, the quantities, and the
hidden fields. -/
def submission (form : BookingForm) (roster : Roster) : Submission where
  method := form.method
  action := form.action
  fields :=
    form.time.formPairs ++
      (form.location.map fun text => ("location", Text.trim text)).toList ++
      roster.entries.map (fun e =>
        (roster.quantityKey e.itemId, Text.Numeral.text e.quantity.toNat)) ++
      form.hidden

end BookingForm

end EquipmentBooking

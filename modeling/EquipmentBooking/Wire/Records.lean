import EquipmentBooking.Clash.Record
import EquipmentBooking.Form.Basic
import EquipmentBooking.Json.Choice
import EquipmentBooking.Json.Record

namespace EquipmentBooking

open Json (Choice Member RecordFormat Row)

namespace TypedTime

def format : RecordFormat where
  name := "TimeSpecInput"
  members := [.required "manual" .flag, .optional "date", .optional "week_commencing",
    .optional "day", .optional "start_time", .optional "end_time"]

def ofRow : Row format.members → TypedTime
  | (manual, date, weekCommencing, day, startTime, endTime, ()) =>
    ⟨manual, date, weekCommencing, day, startTime, endTime⟩

def toRow (t : TypedTime) : Row format.members :=
  (t.manual, t.date, t.weekCommencing, t.day, t.startTime, t.endTime, ())

end TypedTime

namespace RosterEntry

def format : RecordFormat where
  name := "RosterEntry"
  members := [.required "presentation_id" .place, .required "item_id" .text,
    .required "name" .text, .required "quantity" .count, .required "max_quantity" .count]

def ofRow : Row format.members → RosterEntry
  | (presentationId, itemId, name, quantity, maxQuantity, ()) =>
    ⟨presentationId, itemId, name, quantity, maxQuantity⟩

def toRow (e : RosterEntry) : Row format.members :=
  (e.presentationId, e.itemId, e.name, e.quantity, e.maxQuantity, ())

end RosterEntry

namespace FieldError

def format : RecordFormat where
  name := "FieldError"
  members := [.required "field" .text, .required "message" .text]

def ofRow : Row format.members → FieldError
  | (field, message, ()) => ⟨field, message⟩

def toRow (e : FieldError) : Row format.members :=
  (e.field, e.message, ())

end FieldError

namespace ClashRecord

def format : RecordFormat where
  name := "ClashRecord"
  members := [.required "equipment_name" .text, .required "booking_id" .id,
    .required "booking_user" .text, .required "booking_activity" .text,
    .required "booking_starts" .moment, .required "booking_ends" .moment,
    .required "you_quantity" .count, .required "clash_quantity" .count,
    .required "total_quantity" .count, .required "net_quantity" .balance]

def ofRow : Row format.members → ClashRecord
  | (equipmentName, bookingId, bookingUser, bookingActivity, bookingStarts, bookingEnds,
      youQuantity, clashQuantity, totalQuantity, netQuantity, ()) =>
    ⟨equipmentName, bookingId, bookingUser, bookingActivity, bookingStarts, bookingEnds,
      youQuantity, clashQuantity, totalQuantity, netQuantity⟩

def toRow (r : ClashRecord) : Row format.members :=
  (r.equipmentName, r.bookingId, r.bookingUser, r.bookingActivity, r.bookingStarts, r.bookingEnds,
    r.youQuantity, r.clashQuantity, r.totalQuantity, r.netQuantity, ())

end ClashRecord

namespace CatalogItem

/-- An item of the catalog. Older servers leave out the description and the hazards. -/
def format : RecordFormat where
  name := "CatalogItem"
  members := [.required "ID" .id, .required "Name" .text, .withDefault "Description" .text "",
    .required "Quantity" .count, .required "Available" .flag,
    .withDefault "HazardVoltage" .flag false, .withDefault "HazardToxic" .flag false,
    .withDefault "HazardLazer" .flag false, .withDefault "HazardMisc" .flag false]

def ofRow : Row format.members → CatalogItem
  | (id, name, description, quantity, available, voltage, toxic, lazer, misc, ()) =>
    ⟨id, name, description, quantity, available, voltage, toxic, lazer, misc⟩

def toRow (item : CatalogItem) : Row format.members :=
  (item.id, item.name, item.description, item.quantity, item.available, item.hazardVoltage,
    item.hazardToxic, item.hazardLazer, item.hazardMisc, ())

end CatalogItem

namespace RosterKind

def choice : Choice RosterKind where
  alternatives := [("Core", .core), ("Extra", .extra)]
  expected := "`Core` or `Extra`"

end RosterKind

namespace FormMethod

def choice : Choice FormMethod where
  alternatives := [("Get", .get), ("Post", .post)]
  expected := "`Get` or `Post`"

end FormMethod

def NewItem.write (item : NewItem) : List Char :=
  Json.writeObject
    [("name", Json.Scalar.write .text item.name),
      ("description", Json.Scalar.write .text item.description),
      ("available", Json.Scalar.write .flag item.available),
      ("quantity", Json.Scalar.write .count item.quantity)]

def ItemUpdate.members (u : ItemUpdate) : List (String × List Char) :=
  let member (name : String) (kind : Json.Scalar) (value : Option kind.Carrier) :
      Option (String × List Char) :=
    value.map fun v => (name, kind.write v)
  [member "Name" .text u.name, member "Description" .text u.description,
    member "Quantity" .count u.quantity, member "Available" .flag u.available,
    member "HazardVoltage" .flag u.hazardVoltage, member "HazardToxic" .flag u.hazardToxic,
    member "HazardLazer" .flag u.hazardLazer, member "HazardMisc" .flag u.hazardMisc].filterMap id

/-- The body of a partial change: what is set, and nothing else. -/
def ItemUpdate.write (u : ItemUpdate) : List Char :=
  Json.writeObject u.members

end EquipmentBooking

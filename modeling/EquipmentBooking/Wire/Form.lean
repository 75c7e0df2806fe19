import EquipmentBooking.Text.Utf8
import EquipmentBooking.Wire.Records

/-! The types that travel as JSON, each with the text of its values and the value that a body holds.
Blanks around the text of a value are no part of it. -/
namespace EquipmentBooking

open Json (Choice RecordFormat Row)

/-- How the values of a type travel. -/
structure WireForm (α : Type) where
  write : α → List Char
  read : Json.Bytes → Except Json.Issue α

namespace WireForm

variable {α : Type}

def body (form : WireForm α) (value : α) : Json.Bytes :=
  Text.Utf8.encode (form.write value)

def ofRecord (f : RecordFormat) (ofRow : Row f.members → α) (toRow : α → Row f.members) :
    WireForm α where
  write value := f.write (toRow value)
  read bytes := (Json.readWholeText f.read bytes).map ofRow

@[simp]
theorem body_ofRecord (f : RecordFormat) (ofRow : Row f.members → α) (toRow : α → Row f.members)
    (value : α) : (ofRecord f ofRow toRow).body value = Text.Utf8.encode (f.write (toRow value)) :=
  rfl

@[simp]
theorem read_ofRecord (f : RecordFormat) (ofRow : Row f.members → α) (toRow : α → Row f.members)
    (bytes : Json.Bytes) :
    (ofRecord f ofRow toRow).read bytes = (Json.readWholeText f.read bytes).map ofRow :=
  rfl

def ofChoice [DecidableEq α] (choice : Choice α) : WireForm α where
  write := choice.write
  read := Json.readWholeText choice.read

end WireForm

def TypedTime.wireForm : WireForm TypedTime :=
  .ofRecord format ofRow toRow

def RosterEntry.wireForm : WireForm RosterEntry :=
  .ofRecord format ofRow toRow

def FieldError.wireForm : WireForm FieldError :=
  .ofRecord format ofRow toRow

def ClashRecord.wireForm : WireForm ClashRecord :=
  .ofRecord format ofRow toRow

def CatalogItem.wireForm : WireForm CatalogItem :=
  .ofRecord format ofRow toRow

def RosterKind.wireForm : WireForm RosterKind :=
  .ofChoice choice

def FormMethod.wireForm : WireForm FormMethod :=
  .ofChoice choice

end EquipmentBooking

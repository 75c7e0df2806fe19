import EquipmentBooking.Roster.Basic

namespace EquipmentBooking

inductive RosterEdit where
  | add (itemId name : String) (maxQuantity : UInt32)
  | addItem (item : CatalogItem)
  | remove (id : Nat)
  | setQuantity (id : Nat) (quantity : UInt32)
  deriving DecidableEq, Repr

/-- What an edit answers: the number of a new line, the line removed, or whether a line changed. -/
inductive EditAnswer where
  | added (id : Option Nat)
  | removed (entry : Option RosterEntry)
  | changed (done : Bool)
  deriving DecidableEq, Repr

def Roster.edit (r : Roster) : RosterEdit → Roster × EditAnswer
  | .add itemId name maxQuantity =>
    let (after, id) := r.add itemId name maxQuantity
    (after, .added id)
  | .addItem item =>
    let (after, id) := r.addItem item
    (after, .added id)
  | .remove id =>
    let (after, entry) := r.remove id
    (after, .removed entry)
  | .setQuantity id quantity =>
    let (after, done) := r.setQuantity id quantity
    (after, .changed done)

def Roster.editAll (r : Roster) (edits : List RosterEdit) : Roster :=
  edits.foldl (fun r e => (r.edit e).1) r

theorem Roster.editAll_append (r : Roster) (front back : List RosterEdit) :
    r.editAll (front ++ back) = (r.editAll front).editAll back :=
  List.foldl_append

end EquipmentBooking

import EquipmentBooking.Roster.Basic

namespace EquipmentBooking

structure RosterRow where
  presentationId : Nat
  rowId : String
  name : String
  inputName : String
  quantity : UInt32
  maxQuantity : UInt32
  deriving DecidableEq, Repr

/-- The row of a line. Its input has the name under which a form sends the quantity. -/
def RosterRow.ofEntry (kind : RosterKind) (e : RosterEntry) : RosterRow where
  presentationId := e.presentationId
  rowId := kind.rowMark ++ "_" ++ e.itemId ++ "_id"
  name := e.name
  inputName := kind.quantityKey e.itemId
  quantity := e.quantity
  maxQuantity := e.maxQuantity

def Roster.rows (r : Roster) : List RosterRow :=
  r.entries.map (RosterRow.ofEntry r.kind)

end EquipmentBooking

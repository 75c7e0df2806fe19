import EquipmentBooking.Roster.Basic
import EquipmentBooking.Time.Typed

/-! The question put to the clash authority: when, and how many of each item. Lines with quantity zero
are part of it, they tell the server that an item is no longer needed. -/
namespace EquipmentBooking

/-- How many of one item are asked for, with the name of the field that says so. -/
structure QuantityParam where
  key : String
  itemId : String
  quantity : UInt32
  deriving DecidableEq, Repr

def QuantityParam.ofEntry (kind : RosterKind) (e : RosterEntry) : QuantityParam where
  key := kind.quantityKey e.itemId
  itemId := e.itemId
  quantity := e.quantity

structure ClashQuery where
  time : BookedTime
  items : List QuantityParam
  deriving DecidableEq, Repr

namespace ClashQuery

/-- The query for typed time fields and the lines of a roster, in their order. -/
def build (time : TypedTime) (kind : RosterKind) (entries : List RosterEntry) :
    Except Fault (Except TimeIssue ClashQuery) :=
  time.resolve.map fun resolved =>
    resolved.map fun booked => ⟨booked, entries.map (QuantityParam.ofEntry kind)⟩

/-- The query as named values: the time, then the quantities. -/
def toPairs (q : ClashQuery) : Pairs :=
  q.time.toPairs ++ q.items.map fun item => (item.key, Text.Numeral.text item.quantity.toNat)

end ClashQuery

end EquipmentBooking

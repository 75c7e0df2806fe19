import EquipmentBooking.Text.Numeral

namespace EquipmentBooking

structure CatalogItem where
  id : UInt64
  name : String
  description : String := ""
  quantity : UInt32
  available : Bool
  hazardVoltage : Bool := false
  hazardToxic : Bool := false
  hazardLazer : Bool := false
  hazardMisc : Bool := false
  deriving DecidableEq, Repr

/-- How many can be booked. An item that is not available counts as out of stock. -/
def CatalogItem.bookable (item : CatalogItem) : UInt32 :=
  if item.available then item.quantity else 0

def CatalogItem.isHazardous (item : CatalogItem) : Bool :=
  item.hazardVoltage || item.hazardToxic || item.hazardLazer || item.hazardMisc

structure NewItem where
  name : String
  description : String
  available : Bool
  quantity : UInt32
  deriving DecidableEq, Repr

/-- The `n`-th row of a bulk entry before anyone has edited it. -/
def NewItem.placeholder (n : Nat) : NewItem where
  name := "New Item " ++ Text.Numeral.text n
  description := "New Item " ++ Text.Numeral.text n
  available := true
  quantity := 1

/-- A partial change. What is unset stays as it is on the server. -/
structure ItemUpdate where
  name : Option String := none
  description : Option String := none
  quantity : Option UInt32 := none
  available : Option Bool := none
  hazardVoltage : Option Bool := none
  hazardToxic : Option Bool := none
  hazardLazer : Option Bool := none
  hazardMisc : Option Bool := none
  deriving DecidableEq, Repr

def ItemUpdate.apply (u : ItemUpdate) (item : CatalogItem) : CatalogItem where
  id := item.id
  name := u.name.getD item.name
  description := u.description.getD item.description
  quantity := u.quantity.getD item.quantity
  available := u.available.getD item.available
  hazardVoltage := u.hazardVoltage.getD item.hazardVoltage
  hazardToxic := u.hazardToxic.getD item.hazardToxic
  hazardLazer := u.hazardLazer.getD item.hazardLazer
  hazardMisc := u.hazardMisc.getD item.hazardMisc

end EquipmentBooking

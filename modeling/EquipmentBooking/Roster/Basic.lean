import EquipmentBooking.Catalog

/-! The roster: the ordered lines of equipment that a booking asks for. Lines are numbered from one
without gaps; the number of a line is its place, so it changes when a line above is removed. -/
namespace EquipmentBooking

/-- Core lines belong to an activity, extra lines are asked for on top of it. -/
inductive RosterKind where
  | core
  | extra
  deriving DecidableEq, Repr

def RosterKind.quantityMark : RosterKind → String
  | core => "qty_"
  | extra => "eqty_"

def RosterKind.rowMark : RosterKind → String
  | core => "item"
  | extra => "extra"

def RosterKind.quantityKey (kind : RosterKind) (itemId : String) : String :=
  kind.quantityMark ++ itemId

structure RosterEntry where
  presentationId : Nat
  itemId : String
  name : String
  quantity : UInt32
  maxQuantity : UInt32
  deriving DecidableEq, Repr

structure Roster where
  kind : RosterKind := .extra
  entries : List RosterEntry := []
  deriving DecidableEq, Repr

namespace Roster

def size (r : Roster) : Nat :=
  r.entries.length

/-- The line at a place, counted from one. -/
def get? (r : Roster) (id : Nat) : Option RosterEntry :=
  if id = 0 then none else r.entries[id - 1]?

/-- Append a line with the next number and quantity one, or none if there is none to be had. An
item without an id is not added. -/
def add (r : Roster) (itemId name : String) (maxQuantity : UInt32) : Roster × Option Nat :=
  if itemId = "" then (r, none)
  else
    let entry : RosterEntry := ⟨r.size + 1, itemId, name, min 1 maxQuantity, maxQuantity⟩
    (⟨r.kind, r.entries ++ [entry]⟩, some (r.size + 1))

def addItem (r : Roster) (item : CatalogItem) : Roster × Option Nat :=
  r.add (Text.Numeral.text item.id.toNat) item.name item.bookable

/-- Take the line with a number out of a list of lines and move the lines behind it up by one. -/
def removeFrom (id : Nat) : List RosterEntry → Option (RosterEntry × List RosterEntry)
  | [] => none
  | e :: rest =>
    if e.presentationId = id then
      some (e, rest.map fun later => { later with presentationId := later.presentationId - 1 })
    else (removeFrom id rest).map fun (removed, kept) => (removed, e :: kept)

/-- Remove the line with a number. Without such a line the roster stays as it is. -/
def remove (r : Roster) (id : Nat) : Roster × Option RosterEntry :=
  match removeFrom id r.entries with
  | some (removed, kept) => (⟨r.kind, kept⟩, some removed)
  | none => (r, none)

def setQuantityIn (id : Nat) (quantity : UInt32) : List RosterEntry → Option (List RosterEntry)
  | [] => none
  | e :: rest =>
    if e.presentationId = id then some ({ e with quantity } :: rest)
    else (setQuantityIn id quantity rest).map (e :: ·)

/-- Set the quantity of a line, and say whether there was such a line. Bounds are the form's
business, not the roster's. -/
def setQuantity (r : Roster) (id : Nat) (quantity : UInt32) : Roster × Bool :=
  match setQuantityIn id quantity r.entries with
  | some entries => (⟨r.kind, entries⟩, true)
  | none => (r, false)

def quantityKey (r : Roster) (itemId : String) : String :=
  r.kind.quantityKey itemId

end Roster

end EquipmentBooking

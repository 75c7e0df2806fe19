import EquipmentBooking.Roster.Edit

/-! A roster as a plain list of lines. The lines have no numbers of their own here: a line is spoken of
by its place, counted from one. -/
namespace EquipmentBooking

/-- A line of a roster without its number. -/
structure RosterLine where
  itemId : String
  name : String
  quantity : UInt32
  maxQuantity : UInt32
  deriving DecidableEq, Repr

def RosterEntry.line (e : RosterEntry) : RosterLine :=
  ⟨e.itemId, e.name, e.quantity, e.maxQuantity⟩

namespace RosterLine

def numbered (l : RosterLine) (id : Nat) : RosterEntry :=
  ⟨id, l.itemId, l.name, l.quantity, l.maxQuantity⟩

def added (itemId name : String) (maxQuantity : UInt32) : RosterLine :=
  ⟨itemId, name, min 1 maxQuantity, maxQuantity⟩

/-- Whether a list has a line at a place. There is no place zero. -/
def HasPlace (lines : List RosterLine) (place : Nat) : Prop :=
  1 ≤ place ∧ place ≤ lines.length

instance (lines : List RosterLine) (place : Nat) : Decidable (HasPlace lines place) :=
  inferInstanceAs (Decidable (_ ∧ _))

end RosterLine

namespace RosterEdit

open RosterLine (HasPlace added)

def onLines (lines : List RosterLine) : RosterEdit → List RosterLine
  | add itemId name maxQuantity =>
    if itemId = "" then lines else lines ++ [added itemId name maxQuantity]
  | addItem item => lines ++ [added (Text.Numeral.text item.id.toNat) item.name item.bookable]
  | remove id => if HasPlace lines id then lines.eraseIdx (id - 1) else lines
  | setQuantity id quantity =>
    if HasPlace lines id then lines.modify (id - 1) fun l => { l with quantity } else lines

def linesOf (edits : List RosterEdit) : List RosterLine :=
  edits.foldl (fun lines edit => edit.onLines lines) []

def answerOn (lines : List RosterLine) : RosterEdit → EditAnswer
  | add itemId _ _ => .added (if itemId = "" then none else some (lines.length + 1))
  | addItem _ => .added (some (lines.length + 1))
  | remove id =>
    .removed (if HasPlace lines id then lines[id - 1]?.map fun l => l.numbered id else none)
  | setQuantity id _ => .changed (decide (HasPlace lines id))

end RosterEdit

end EquipmentBooking

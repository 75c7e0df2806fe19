import EquipmentBooking.Form.Quantity
import EquipmentBooking.Roster.Edit

namespace EquipmentBooking

namespace RosterEdit

/-- Whether the check stands before an edit of a roster: a quantity was typed and read under the bound
that the line with the number has just then. The other edits set no quantity that was typed. -/
def IsChecked (r : Roster) : RosterEdit → Prop
  | setQuantity id quantity => ∀ line, r.get? id = some line →
      ∃ field raw, readQuantityField field raw line.maxQuantity = .ok quantity
  | _ => True

/-- The catalog's items behind the lines of a roster after an edit. Not every line has one. -/
def onItems (items : List (Option CatalogItem)) : RosterEdit → List (Option CatalogItem)
  | add itemId _ _ => if itemId = "" then items else items ++ [none]
  | addItem item => items ++ [some item]
  | remove id => if 1 ≤ id ∧ id ≤ items.length then items.eraseIdx (id - 1) else items
  | setQuantity _ _ => items

def itemsOf (edits : List RosterEdit) : List (Option CatalogItem) :=
  edits.foldl onItems []

end RosterEdit

/-- Whether the check stands before each of several edits, made in order. -/
def Roster.AllChecked : Roster → List RosterEdit → Prop
  | _, [] => True
  | r, edit :: rest => edit.IsChecked r ∧ (r.edit edit).1.AllChecked rest

end EquipmentBooking

import EquipmentBooking.Form.Checked
import EquipmentBooking.Proofs.Form.Quantity
import EquipmentBooking.Proofs.Roster.Refinement
import Mathlib.Data.List.Forall2

/-! Quantities within their bounds. A line is added within its bound, a quantity that was checked stays
within it, and a removal moves other lines up together with their bounds. -/
namespace EquipmentBooking

/-- A quantity that is read is one that can be had. -/
theorem le_bound_of_readQuantityField {field raw : String} {bound quantity : UInt32}
    (h : readQuantityField field raw bound = .ok quantity) : quantity ≤ bound := by
  rw [readQuantityField, mapError_eq_ok, readQuantity_eq_ok_iff] at h
  exact h.2

section Lists

variable {α β : Type} {R : α → β → Prop} {l : List α} {m : List β}

theorem forall₂_eraseIdx (h : List.Forall₂ R l m) (place : Nat) :
    List.Forall₂ R (l.eraseIdx place) (m.eraseIdx place) := by
  induction h generalizing place with
  | nil => exact .nil
  | cons hHead hTail ih =>
      cases place with
      | zero => exact hTail
      | succ place => exact .cons hHead (ih place)

/-- A change at one place that keeps the relation there keeps it everywhere. -/
theorem forall₂_modify {place : Nat} {change : α → α} (h : List.Forall₂ R l m)
    (hChange : ∀ a b, l[place]? = some a → R a b → R (change a) b) :
    List.Forall₂ R (l.modify place change) m := by
  induction h generalizing place with
  | nil => simp
  | cons hHead hTail ih =>
      cases place with
      | zero => exact .cons (hChange _ _ rfl hHead) hTail
      | succ place => exact .cons hHead (ih hChange)

end Lists

/-- A line that asks for no more than there is, and that is bounded by what can be booked of the item
it was picked from. -/
structure RosterLine.Within (l : RosterLine) (item : Option CatalogItem) : Prop where
  quantity_le : l.quantity ≤ l.maxQuantity
  maxQuantity_eq : ∀ picked, item = some picked → l.maxQuantity = picked.bookable

namespace RosterLine

theorem within_added {itemId name : String} {bound : UInt32} {item : Option CatalogItem}
    (h : ∀ picked, item = some picked → bound = picked.bookable) :
    (added itemId name bound).Within item where
  quantity_le := Std.min_le_right
  maxQuantity_eq := h

/-- Of an item that is not available a line has nothing. -/
theorem Within.quantity_eq_zero {l : RosterLine} {picked : CatalogItem} (h : l.Within (some picked))
    (hGone : picked.available = false) : l.quantity = 0 := by
  have hBound := h.quantity_le
  rw [h.maxQuantity_eq picked rfl, CatalogItem.bookable, hGone] at hBound
  exact UInt32.le_zero_iff.mp hBound

end RosterLine

namespace Roster

variable {kind : RosterKind} {lines : List RosterLine} {items : List (Option CatalogItem)}

theorem get?_ofLines_succ (place : Nat) :
    (ofLines kind lines).get? (place + 1) = lines[place]?.map fun l => l.numbered (place + 1) := by
  rw [get?, if_neg (Nat.succ_ne_zero place), ofLines, getElem?_numberFrom, Nat.add_sub_cancel,
    Nat.add_comm 1]

/-- A checked edit leaves every line within its bound. -/
theorem within_onLines {edit : RosterEdit} (h : List.Forall₂ RosterLine.Within lines items)
    (hChecked : edit.IsChecked (ofLines kind lines)) :
    List.Forall₂ RosterLine.Within (edit.onLines lines) (edit.onItems items) := by
  cases edit with
  | add itemId name bound =>
      rw [RosterEdit.onLines, RosterEdit.onItems]
      split
      · exact h
      · have hAdded : (RosterLine.added itemId name bound).Within none := by
          apply RosterLine.within_added
          rintro picked ⟨⟩
        exact List.rel_append h (.cons hAdded .nil)
  | addItem item =>
      have hAdded : (RosterLine.added (Text.Numeral.text item.id.toNat) item.name
          item.bookable).Within (some item) := by
        apply RosterLine.within_added
        rintro picked ⟨⟩
        rfl
      exact List.rel_append h (.cons hAdded .nil)
  | remove id =>
      simp only [RosterEdit.onLines, RosterEdit.onItems, RosterLine.HasPlace, h.length_eq]
      split
      · exact forall₂_eraseIdx h (id - 1)
      · exact h
  | setQuantity id quantity =>
      rw [RosterEdit.onLines, RosterEdit.onItems]
      split
      · next hPlace =>
        obtain ⟨place, rfl⟩ := Nat.exists_eq_add_of_le' hPlace.1
        rw [Nat.add_sub_cancel]
        apply forall₂_modify h
        intro l item hLine hWithin
        -- The check was made under the bound of the line that has the number now.
        obtain ⟨field, raw, hRead⟩ := hChecked (l.numbered (place + 1)) (by
          rw [get?_ofLines_succ, hLine, Option.map_some])
        exact ⟨le_bound_of_readQuantityField hRead, hWithin.maxQuantity_eq⟩
      · exact h

/-- Checked edits leave every line within its bound. -/
theorem within_editAll {edits : List RosterEdit} (h : List.Forall₂ RosterLine.Within lines items)
    (hChecked : (ofLines kind lines).AllChecked edits) :
    List.Forall₂ RosterLine.Within
      (((ofLines kind lines).editAll edits).entries.map RosterEntry.line)
      (edits.foldl RosterEdit.onItems items) := by
  induction edits generalizing lines items with
  | nil =>
      rw [editAll, List.foldl_nil, ofLines, map_line_numberFrom]
      exact h
  | cons edit rest ih =>
      obtain ⟨hFirst, hRest⟩ := hChecked
      rw [edit_ofLines] at hRest
      rw [editAll, List.foldl_cons, edit_ofLines]
      exact ih (within_onLines h hFirst) hRest

/-- Behind the check a roster that had no lines has only lines within their bounds. -/
theorem within_of_allChecked {edits : List RosterEdit}
    (h : (Roster.mk kind []).AllChecked edits) :
    List.Forall₂ (fun e item => e.line.Within item)
      ((Roster.mk kind []).editAll edits).entries (RosterEdit.itemsOf edits) :=
  List.forall₂_map_left_iff.mp (within_editAll .nil h)

end Roster

end EquipmentBooking

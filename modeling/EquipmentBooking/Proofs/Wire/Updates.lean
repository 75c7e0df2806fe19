import EquipmentBooking.Proofs.Json.Fields
import EquipmentBooking.Proofs.Json.Unambiguous
import EquipmentBooking.Wire.Records

/-! Partial changes as they travel. The body of a change says what is set and nothing else, so a server
that keeps the values of members it does not find has the changed item, and each change has a body of
its own. -/
namespace EquipmentBooking

open Json (Field IsText Member RecordFormat Row Value)

namespace CatalogItem

/-- The members that a change can set. One that is left out has the value that is stored. -/
def changeFormat (item : CatalogItem) : RecordFormat where
  name := "ItemUpdate"
  members := [.withDefault "Name" .text item.name, .withDefault "Description" .text item.description,
    .withDefault "Quantity" .count item.quantity, .withDefault "Available" .flag item.available,
    .withDefault "HazardVoltage" .flag item.hazardVoltage,
    .withDefault "HazardToxic" .flag item.hazardToxic,
    .withDefault "HazardLazer" .flag item.hazardLazer,
    .withDefault "HazardMisc" .flag item.hazardMisc]

def withRow (item : CatalogItem) : Row item.changeFormat.members → CatalogItem
  | (name, description, quantity, available, voltage, toxic, lazer, misc, ()) =>
    ⟨item.id, name, description, quantity, available, voltage, toxic, lazer, misc⟩

def changeRow (item stored : CatalogItem) : Row stored.changeFormat.members :=
  (item.name, item.description, item.quantity, item.available, item.hazardVoltage, item.hazardToxic,
    item.hazardLazer, item.hazardMisc, ())

/-- The stored item after a change that a body holds. Members that are in the body replace what is stored,
and all else stays. -/
def changedBy (item : CatalogItem) (body : Json.Bytes) : Except Json.Issue CatalogItem :=
  (Json.readWholeText item.changeFormat.read body).map item.withRow

end CatalogItem

/-- What is set is told by what stands in for it where it is unset. -/
theorem eq_of_getD_eq {α : Type} {a b : Option α} {x y : α} (hNe : x ≠ y)
    (h : ∀ z, a.getD z = b.getD z) : a = b := by
  cases a with
  | none =>
      cases b with
      | none => rfl
      | some z => exact absurd ((h x).trans (h y).symm) hNe
  | some w =>
      cases b with
      | none => exact absurd ((h x).symm.trans (h y)) hNe
      | some z => exact congrArg some (h w)

namespace ItemUpdate

def fields (u : ItemUpdate) : List Field :=
  [⟨"Name", .text, u.name⟩, ⟨"Description", .text, u.description⟩, ⟨"Quantity", .count, u.quantity⟩,
    ⟨"Available", .flag, u.available⟩, ⟨"HazardVoltage", .flag, u.hazardVoltage⟩,
    ⟨"HazardToxic", .flag, u.hazardToxic⟩, ⟨"HazardLazer", .flag, u.hazardLazer⟩,
    ⟨"HazardMisc", .flag, u.hazardMisc⟩]

def body (u : ItemUpdate) : Json.Bytes :=
  Text.Utf8.encode u.write

def pairs (u : ItemUpdate) : List (String × Value) :=
  (Json.entriesOf u.fields).map Json.Entry.pair

variable {u other : ItemUpdate}

theorem names_fields_nodup (u : ItemUpdate) : (u.fields.map Field.name).Nodup := by
  show ["Name", "Description", "Quantity", "Available", "HazardVoltage", "HazardToxic", "HazardLazer",
    "HazardMisc"].Nodup
  decide

theorem kind_ne_place : ∀ f ∈ u.fields, f.kind ≠ .place := by
  simp [fields]

/-- Members are written where fields are set. -/
theorem members_eq (u : ItemUpdate) :
    u.members = (Json.entriesOf u.fields).map Json.Entry.written := by
  have hWritten : (fun f : Field => f.entry?.map Json.Entry.written) =
      id ∘ fun f => f.value.map fun x => (f.name, f.kind.write x) :=
    funext Json.map_written_entry?
  rw [Json.entriesOf, List.map_filterMap, hWritten, ← List.filterMap_map]
  rfl

theorem isText_body (u : ItemUpdate) : IsText (.object u.pairs) u.body := by
  rw [body, write, members_eq]
  exact Json.isText_writeObject _

theorem stoodForBy_pairs (u : ItemUpdate) :
    List.Forall₂ Json.Entry.StoodForBy (Json.entriesOf u.fields) u.pairs := by
  rw [pairs, List.forall₂_map_right_iff, List.forall₂_same]
  intro e hMem
  obtain ⟨f, hField, hEntry⟩ := List.mem_filterMap.mp hMem
  obtain ⟨x, -, rfl⟩ := Option.map_eq_some_iff.mp hEntry
  exact Json.stoodForBy_pair (kind_ne_place f hField)

/-- Members that the change leaves alone are not in its body, so the stored values are taken for them. -/
theorem changedBy_body (u : ItemUpdate) (item : CatalogItem) :
    item.changedBy u.body = .ok (u.apply item) := by
  have hNames : (item.changeFormat.members.map Member.name).Nodup := u.names_fields_nodup
  have hMeans (f : Field) (hMem : f ∈ u.fields) (stored : f.kind.Carrier) :=
    Json.means_withDefault_of_mem u.names_fields_nodup hMem (kind_ne_place f hMem) stored
  have hRead : Json.readWholeText item.changeFormat.read u.body = .ok ((u.apply item).changeRow item) := by
    rw [Json.readWholeText_read_of_isText hNames u.isText_body]
    exact ⟨hMeans ⟨"Name", .text, u.name⟩ (by simp [fields]) item.name,
      hMeans ⟨"Description", .text, u.description⟩ (by simp [fields]) item.description,
      hMeans ⟨"Quantity", .count, u.quantity⟩ (by simp [fields]) item.quantity,
      hMeans ⟨"Available", .flag, u.available⟩ (by simp [fields]) item.available,
      hMeans ⟨"HazardVoltage", .flag, u.hazardVoltage⟩ (by simp [fields]) item.hazardVoltage,
      hMeans ⟨"HazardToxic", .flag, u.hazardToxic⟩ (by simp [fields]) item.hazardToxic,
      hMeans ⟨"HazardLazer", .flag, u.hazardLazer⟩ (by simp [fields]) item.hazardLazer,
      hMeans ⟨"HazardMisc", .flag, u.hazardMisc⟩ (by simp [fields]) item.hazardMisc, trivial⟩
  rw [CatalogItem.changedBy, hRead]
  rfl

/-- Two changes that make the same of every item are the same. -/
theorem eq_of_apply_eq (h : ∀ item, u.apply item = other.apply item) : u = other := by
  have hFlag : false ≠ true := Bool.false_ne_true
  have hText : "" ≠ "-" := by decide
  have hCount : (0 : UInt32) ≠ 1 := by decide
  have hName := eq_of_getD_eq hText fun x =>
    congrArg CatalogItem.name (h ⟨0, x, "", 0, false, false, false, false, false⟩)
  have hDescription := eq_of_getD_eq hText fun x =>
    congrArg CatalogItem.description (h ⟨0, "", x, 0, false, false, false, false, false⟩)
  have hQuantity := eq_of_getD_eq hCount fun x =>
    congrArg CatalogItem.quantity (h ⟨0, "", "", x, false, false, false, false, false⟩)
  have hAvailable := eq_of_getD_eq hFlag fun x =>
    congrArg CatalogItem.available (h ⟨0, "", "", 0, x, false, false, false, false⟩)
  have hVoltage := eq_of_getD_eq hFlag fun x =>
    congrArg CatalogItem.hazardVoltage (h ⟨0, "", "", 0, false, x, false, false, false⟩)
  have hToxic := eq_of_getD_eq hFlag fun x =>
    congrArg CatalogItem.hazardToxic (h ⟨0, "", "", 0, false, false, x, false, false⟩)
  have hLazer := eq_of_getD_eq hFlag fun x =>
    congrArg CatalogItem.hazardLazer (h ⟨0, "", "", 0, false, false, false, x, false⟩)
  have hMisc := eq_of_getD_eq hFlag fun x =>
    congrArg CatalogItem.hazardMisc (h ⟨0, "", "", 0, false, false, false, false, x⟩)
  rw [ItemUpdate.mk.injEq]
  exact ⟨hName, hDescription, hQuantity, hAvailable, hVoltage, hToxic, hLazer, hMisc⟩

/-- The body of a change is a text of an object, and of nothing else. Its members are the fields that are
set, by name, once each and in order, and stand for their values. So the stored item has these values
after the change, and those it had in all else, whatever it was. Changes with one body are the same. -/
theorem body_says_what_is_set (u : ItemUpdate) :
    (∃ pairs, (∀ v, IsText v u.body ↔ v = .object pairs) ∧
        List.Forall₂ Json.Entry.StoodForBy (Json.entriesOf u.fields) pairs ∧
        (pairs.map Prod.fst).Nodup) ∧
      (∀ item : CatalogItem, item.changedBy u.body = .ok (u.apply item)) ∧
      ∀ other : ItemUpdate, other.body = u.body ↔ other = u := by
  refine ⟨⟨u.pairs, fun v => ⟨fun hText => hText.unique u.isText_body, ?_⟩, u.stoodForBy_pairs, ?_⟩,
    u.changedBy_body, fun other => ⟨fun hSame => ?_, congrArg body⟩⟩
  · rintro rfl
    exact u.isText_body
  · exact (Json.names_entriesOf_sublist u.fields).nodup u.names_fields_nodup
  · refine eq_of_apply_eq fun item => ?_
    have hChanged := other.changedBy_body item
    rw [hSame, u.changedBy_body item] at hChanged
    exact (Except.ok.inj hChanged).symm

-- Fields that are unset leave no separator behind.
example : write { quantity := some 12, hazardLazer := some true } =
    "\x7b\"Quantity\":12,\"HazardLazer\":true\x7d".toList := by
  decide

end ItemUpdate

end EquipmentBooking

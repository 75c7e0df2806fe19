import EquipmentBooking.Proofs.Json.Range
import EquipmentBooking.Wire.Form

/-! Reading a body undoes writing a value, for every type that travels. A body need not be written as
its value is, but what was read from it is written in one form only. -/
namespace EquipmentBooking

open Json (Choice Member RecordFormat Row Scalar)

namespace WireForm

variable {α : Type} {fits : α → Prop}

/-- What is read from the body of a value is the value, and writing what was read from any body is
final: it is read and written the same again. -/
structure RoundTrips (form : WireForm α) (fits : α → Prop) : Prop where
  read_body : ∀ value, fits value → form.read (form.body value) = .ok value
  rewrite : ∀ bytes value, form.read bytes = .ok value →
    ∃ again, form.read (form.body value) = .ok again ∧ form.write again = form.write value

theorem roundTrips_of_read {form : WireForm α}
    (hBody : ∀ value, fits value → form.read (form.body value) = .ok value)
    (hFits : ∀ bytes value, form.read bytes = .ok value → fits value) : form.RoundTrips fits where
  read_body := hBody
  rewrite bytes value h := ⟨value, hBody value (hFits bytes value h), rfl⟩

section Records

variable {f : RecordFormat} {ofRow : Row f.members → α} {toRow : α → Row f.members}

/-- A record makes its round trip if its members have different names, its defaults are within range,
and rows and values stand for each other. -/
theorem roundTrips_ofRecord (hNames : (f.members.map Member.name).Nodup)
    (hDefaults : ∀ m ∈ f.members, m.DefaultsFit) (hValue : ∀ value, ofRow (toRow value) = value)
    (hRow : ∀ row, toRow (ofRow row) = row)
    (hFits : ∀ value, fits value ↔ Row.Fits f.members (toRow value)) :
    (ofRecord f ofRow toRow).RoundTrips fits := by
  apply roundTrips_of_read
  · intro value h
    have hRead := RecordFormat.read_write hNames ((hFits value).mp h) []
    rw [List.append_nil] at hRead
    have hWhole := Json.readWholeText_eq_ok_iff.mpr ⟨[], hRead, nofun⟩
    rw [body_ofRecord, read_ofRecord, hWhole]
    exact congrArg Except.ok (hValue value)
  · intro bytes value h
    obtain ⟨row, hWhole, rfl⟩ := map_eq_ok.mp h
    obtain ⟨rest, hRead, -⟩ := Json.readWholeText_eq_ok_iff.mp hWhole
    rw [hFits, hRow]
    exact RecordFormat.fits_of_read hDefaults hRead

/-- Without places, all values are within the ranges of their types. -/
theorem roundTrips_ofRecord_of_no_place (hNames : (f.members.map Member.name).Nodup)
    (hPlaces : ∀ m ∈ f.members, m.kind ≠ .place) (hValue : ∀ value, ofRow (toRow value) = value)
    (hRow : ∀ row, toRow (ofRow row) = row) :
    (ofRecord f ofRow toRow).RoundTrips fun _ => True := by
  apply roundTrips_ofRecord hNames _ hValue hRow
  · intro value
    exact iff_of_true trivial (Row.fits_of_ne_place hPlaces (toRow value))
  · intro m hm value _
    exact Scalar.fits_of_ne_place (hPlaces m hm) value

end Records

/-- A choice makes its round trip if every alternative is found by its name and has one. -/
theorem roundTrips_ofChoice [DecidableEq α] {choice : Choice α}
    (h : ∀ value, ∃ name, choice.alternatives.find? (fun alternative => alternative.2 = value) =
      some (name, value) ∧ choice.alternatives.lookup name = some value) :
    (ofChoice choice).RoundTrips fun _ => True := by
  apply roundTrips_of_read
  · intro value _
    obtain ⟨name, hName, hLookup⟩ := h value
    have hRead := Choice.read_write hName hLookup []
    rw [List.append_nil] at hRead
    exact Json.readWholeText_eq_ok_iff.mpr ⟨[], hRead, nofun⟩
  · intro bytes value _
    trivial

end WireForm

theorem TypedTime.roundTrips_wireForm : wireForm.RoundTrips fun _ => True :=
  WireForm.roundTrips_ofRecord_of_no_place (by decide) (by decide) (fun _ => rfl) fun _ => rfl

/-- The place of a line is a number of 64 bits. -/
theorem RosterEntry.roundTrips_wireForm :
    wireForm.RoundTrips fun e => e.presentationId < UInt64.size := by
  apply WireForm.roundTrips_ofRecord (by decide) _ (fun _ => rfl) (fun _ => rfl)
  · intro e
    simp [format, toRow, Row.Fits, Scalar.Fits, Member.required]
  · simp [format, Member.defaultsFit_required]

theorem FieldError.roundTrips_wireForm : wireForm.RoundTrips fun _ => True :=
  WireForm.roundTrips_ofRecord_of_no_place (by decide) (by decide) (fun _ => rfl) fun _ => rfl

theorem ClashRecord.roundTrips_wireForm : wireForm.RoundTrips fun _ => True :=
  WireForm.roundTrips_ofRecord_of_no_place (by decide) (by decide) (fun _ => rfl) fun _ => rfl

theorem CatalogItem.roundTrips_wireForm : wireForm.RoundTrips fun _ => True :=
  WireForm.roundTrips_ofRecord_of_no_place (by decide) (by decide) (fun _ => rfl) fun _ => rfl

theorem RosterKind.roundTrips_wireForm : wireForm.RoundTrips fun _ => True := by
  apply WireForm.roundTrips_ofChoice
  intro kind
  cases kind with
  | core => exact ⟨"Core", rfl, rfl⟩
  | extra => exact ⟨"Extra", rfl, rfl⟩

theorem FormMethod.roundTrips_wireForm : wireForm.RoundTrips fun _ => True := by
  apply WireForm.roundTrips_ofChoice
  intro method
  cases method with
  | get => exact ⟨"Get", rfl, rfl⟩
  | post => exact ⟨"Post", rfl, rfl⟩

/-- Reading undoes writing for every type that travels, and what was read from any body is written and
read the same again. -/
theorem wireForms_roundTrip :
    TypedTime.wireForm.RoundTrips (fun _ => True) ∧
      RosterEntry.wireForm.RoundTrips (fun e => e.presentationId < UInt64.size) ∧
      RosterKind.wireForm.RoundTrips (fun _ => True) ∧
      FieldError.wireForm.RoundTrips (fun _ => True) ∧
      FormMethod.wireForm.RoundTrips (fun _ => True) ∧
      CatalogItem.wireForm.RoundTrips (fun _ => True) ∧
      ClashRecord.wireForm.RoundTrips (fun _ => True) :=
  ⟨TypedTime.roundTrips_wireForm, RosterEntry.roundTrips_wireForm, RosterKind.roundTrips_wireForm,
    FieldError.roundTrips_wireForm, FormMethod.roundTrips_wireForm, CatalogItem.roundTrips_wireForm,
    ClashRecord.roundTrips_wireForm⟩

/-- A line at the last place, with characters that are escaped and characters that need not be. -/
def lastLine : RosterEntry where
  presentationId := 0xFFFFFFFFFFFFFFFF
  itemId := "\"\\\u0001"
  name := "é😀\n"
  quantity := 0
  maxQuantity := 0xFFFFFFFF

def leapSecond : Timestamp where
  date := ⟨2016, 12, 31, by decide, by decide, by decide, by decide, by decide, by decide⟩
  clock := .ofNumbers 23 59
  second := ⟨60, by decide⟩
  nanosecond := ⟨999000000, by decide⟩
  offset := -90
  offset_lt := by decide
  inside := by decide

def leapClash : ClashRecord where
  equipmentName := "Rüttler"
  bookingId := 0xFFFFFFFFFFFFFFFF
  bookingUser := ""
  bookingActivity := "\t"
  bookingStarts := leapSecond
  bookingEnds := leapSecond
  youQuantity := 1
  clashQuantity := 2
  totalQuantity := 3
  netQuantity := Int64.minValue

/-- An item as an older server writes it, with the members in another order and an escape. -/
def olderBody : Json.Bytes :=
  Text.Utf8.encode
    "\x7b \"Name\": \"\\u00e9\", \"ID\":7, \"Available\":true,\"Quantity\":2 \x7d".toList

theorem wireForms_roundTrip_at_limits :
    lastLine.presentationId < UInt64.size ∧
      RosterEntry.wireForm.read (RosterEntry.wireForm.body lastLine) = .ok lastLine ∧
      ClashRecord.wireForm.read (ClashRecord.wireForm.body leapClash) = .ok leapClash ∧
      ∃ item again, CatalogItem.wireForm.read olderBody = .ok item ∧
        CatalogItem.wireForm.read (CatalogItem.wireForm.body item) = .ok again ∧
        CatalogItem.wireForm.write again = CatalogItem.wireForm.write item := by
  obtain ⟨-, hEntry, -, -, -, hItem, hClash⟩ := wireForms_roundTrip
  have hPlace : lastLine.presentationId < UInt64.size := by decide
  have hOlder : CatalogItem.wireForm.read olderBody =
      .ok ⟨7, "é", "", 2, true, false, false, false, false⟩ := rfl
  obtain ⟨again, hAgain, hSame⟩ := hItem.rewrite olderBody _ hOlder
  exact ⟨hPlace, hEntry.read_body lastLine hPlace, hClash.read_body leapClash trivial, _, again,
    hOlder, hAgain, hSame⟩

end EquipmentBooking

import EquipmentBooking.Proofs.Json.Listing
import EquipmentBooking.Wire.Response
import Mathlib.Data.List.Forall2

namespace EquipmentBooking

open Json (IsList IsNull)

def Successful (status : UInt16) : Prop :=
  200 ≤ status.toNat ∧ status.toNat < 300

instance (status : UInt16) : Decidable (Successful status) :=
  inferInstanceAs (Decidable (_ ∧ _))

theorem isSuccess_iff {status : UInt16} : isSuccess status = true ↔ Successful status := by
  rw [isSuccess, Bool.and_eq_true, decide_eq_true_eq, decide_eq_true_eq, UInt16.le_iff_toNat_le,
    UInt16.lt_iff_toNat_lt]
  rfl

def IsClash (element : Json.Bytes) (record : ClashRecord) : Prop :=
  ∃ row, Json.IsRecord ClashRecord.format element row ∧ ClashRecord.ofRow row = record

/-- A body that says there are no clashes. -/
def NoClashes (body : Json.Bytes) : Prop :=
  IsNull body ∨ IsList body []

/-- A body that is a list with the given elements, each of which is one of the clashes, in order. -/
def ListsClashes (body : Json.Bytes) (elements : List Json.Bytes) (records : List ClashRecord) : Prop :=
  IsList body elements ∧ List.Forall₂ IsClash elements records

def SomeClashes (body : Json.Bytes) : Prop :=
  ∃ elements records, elements ≠ [] ∧ ListsClashes body elements records

section Clashes

variable {status : UInt16} {body : Json.Bytes} {records : List ClashRecord}

theorem forall₂_isClash_iff {elements : List Json.Bytes} :
    List.Forall₂ IsClash elements records ↔
      ∃ rows, List.Forall₂ (Json.IsRecord ClashRecord.format) elements rows ∧
        rows.map ClashRecord.ofRow = records := by
  constructor
  · intro h
    induction h with
    | nil => exact ⟨[], .nil, rfl⟩
    | cons hClash _ ih =>
        obtain ⟨row, hRow, rfl⟩ := hClash
        obtain ⟨rows, hRows, rfl⟩ := ih
        exact ⟨row :: rows, .cons hRow hRows, rfl⟩
  · rintro ⟨rows, hRows, rfl⟩
    exact List.forall₂_map_right_iff.mpr (hRows.imp fun _ row hRow => ⟨row, hRow, rfl⟩)

/-- Without a success status no body is a list of clashes. -/
theorem readClashes_eq_ok_iff :
    readClashes status body = .ok records ↔
      Successful status ∧
        ((IsNull body ∧ records = []) ∨ ∃ elements, ListsClashes body elements records) := by
  rw [← isSuccess_iff, readClashes]
  cases hStatus : isSuccess status with
  | false => simp
  | true =>
      simp only [↓reduceIte, true_and, ListsClashes, forall₂_isClash_iff]
      constructor
      · intro h
        split at h
        · next rows hRows =>
          cases h
          refine (Json.readWholeText_readRecords_iff.mp hRows).imp ?_ ?_
          · rintro ⟨hNull, rfl⟩
            exact ⟨hNull, rfl⟩
          · rintro ⟨elements, hList, hRecords⟩
            exact ⟨elements, hList, rows, hRecords, rfl⟩
        · cases h
      · rintro (⟨hNull, rfl⟩ | ⟨elements, hList, rows, hRows, rfl⟩)
        · rw [Json.readWholeText_readRecords_iff.mpr (.inl ⟨hNull, rfl⟩)]
          rfl
        · rw [Json.readWholeText_readRecords_iff.mpr (.inr ⟨elements, hList, hRows⟩)]

theorem readClashes_eq_nil_iff :
    readClashes status body = .ok [] ↔ Successful status ∧ NoClashes body := by
  rw [readClashes_eq_ok_iff, NoClashes]
  refine and_congr_right fun _ => or_congr (and_iff_left rfl) ?_
  constructor
  · rintro ⟨elements, hList, hRecords⟩
    cases hRecords
    exact hList
  · exact fun hList => ⟨[], hList, .nil⟩

theorem readClashes_eq_cons_iff :
    (∃ record records, readClashes status body = .ok (record :: records)) ↔
      Successful status ∧ SomeClashes body := by
  simp only [readClashes_eq_ok_iff]
  constructor
  · rintro ⟨record, records, hSuccess, ⟨-, hNone⟩ | ⟨elements, hList, hRecords⟩⟩
    · cases hNone
    · refine ⟨hSuccess, elements, _, ?_, hList, hRecords⟩
      cases hRecords
      exact List.cons_ne_nil _ _
  · rintro ⟨hSuccess, elements, records, hSome, hList, hRecords⟩
    cases hRecords with
    | nil => exact absurd rfl hSome
    | cons hFirst hMore =>
        exact ⟨_, _, hSuccess, .inr ⟨_, hList, .cons hFirst hMore⟩⟩

/-- The error of an answer tells whether its status was a success. -/
theorem error_of_readClashes {error : ApiError} (h : readClashes status body = .error error) :
    (Successful status → ∃ detail, error = .malformed detail) ∧
      (¬ Successful status → error = .ofStatus status body) := by
  rw [← isSuccess_iff]
  rw [readClashes] at h
  split at h
  · next hStatus =>
    refine ⟨fun _ => ?_, absurd hStatus⟩
    split at h
    · cases h
    · cases h
      exact ⟨_, rfl⟩
  · next hStatus =>
    cases h
    exact ⟨fun hSuccess => absurd hSuccess hStatus, fun _ => rfl⟩

end Clashes

/-- Without a success status the error has the status, whatever the body is. -/
theorem ApiError.ofStatus_cases (status : UInt16) (body : Json.Bytes) :
    (∃ message, ofStatus status body = .status status message) ∨
      ∃ error message, ofStatus status body = .rejected status error message := by
  rw [ofStatus]
  split
  · exact .inr ⟨_, _, rfl⟩
  · exact .inl ⟨_, rfl⟩

end EquipmentBooking

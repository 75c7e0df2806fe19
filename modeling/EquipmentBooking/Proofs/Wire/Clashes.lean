import EquipmentBooking.Proofs.Json.RecordReading
import EquipmentBooking.Proofs.Json.Writing
import EquipmentBooking.Proofs.Wire.Response
import EquipmentBooking.Proofs.Wire.RoundTrip

/-! Which answers of the authority are lists of clashes, told by the values of which their bodies are
texts. No part of such a body is one too, and nothing can be added to it. -/
namespace EquipmentBooking

open Json (Blank IsText Value valuesOf)

namespace ClashRecord

def members (r : ClashRecord) : List (String × (Value → Prop)) :=
  [("equipment_name", (· = .text r.equipmentName)),
    ("booking_id", (·.IsNatural r.bookingId.toNat)),
    ("booking_user", (· = .text r.bookingUser)),
    ("booking_activity", (· = .text r.bookingActivity)),
    ("booking_starts", (·.IsMoment r.bookingStarts)),
    ("booking_ends", (·.IsMoment r.bookingEnds)),
    ("you_quantity", (·.IsNatural r.youQuantity.toNat)),
    ("clash_quantity", (·.IsNatural r.clashQuantity.toNat)),
    ("total_quantity", (·.IsNatural r.totalQuantity.toNat)),
    ("net_quantity", (·.IsInteger r.netQuantity.toInt))]

/-- A value that stands for a clash: an object in which each member occurs once, or a list of the values
of the members. -/
def StoodForBy (r : ClashRecord) : Value → Prop
  | .object pairs => ∀ entry ∈ r.members, ∃ v, valuesOf entry.1 pairs = [v] ∧ entry.2 v
  | .list elements => List.Forall₂ (fun v entry => entry.2 v) elements r.members
  | _ => False

theorem means_toRow_iff {r : ClashRecord} {v : Value} : format.Means r.toRow v ↔ r.StoodForBy v := by
  have hRequired : ∀ m ∈ format.members, m.IsRequired := by
    simp [format, Json.Member.required, Json.Member.IsRequired]
  have hTable : Json.Row.table format.members r.toRow = r.members := rfl
  cases v with
  | object pairs =>
      rw [StoodForBy, ← hTable]
      show Json.Row.InObject format.members r.toRow pairs ↔ _
      exact Json.Row.inObject_iff_of_required hRequired
  | list elements =>
      rw [StoodForBy, ← hTable]
      exact Json.Row.inList_iff_of_required hRequired
  | _ => exact Iff.rfl

theorem forall₂_means_iff {elements : List Value} {records : List ClashRecord} :
    (∃ rows, List.Forall₂ (fun v row => format.Means row v) elements rows ∧
        rows.map ofRow = records) ↔
      List.Forall₂ (fun v r => StoodForBy r v) elements records := by
  constructor
  · rintro ⟨rows, hMeans, rfl⟩
    exact List.forall₂_map_right_iff.mpr (hMeans.imp fun v row hRow => means_toRow_iff.mp hRow)
  · intro h
    have hBack : ofRow ∘ toRow = id := rfl
    refine ⟨records.map toRow, ?_, by rw [List.map_map, hBack, List.map_id]⟩
    exact List.forall₂_map_right_iff.mpr (h.imp fun v r hRecord => means_toRow_iff.mpr hRecord)

end ClashRecord

section Answers

variable {status : UInt16} {body : Json.Bytes} {records : List ClashRecord}

theorem readClashes_eq_ok_iff_rows :
    readClashes status body = .ok records ↔
      Successful status ∧
        ∃ rows, Json.readWholeText (Json.readRecords ClashRecord.format) body = .ok rows ∧
          rows.map ClashRecord.ofRow = records := by
  rw [readClashes, ← isSuccess_iff]
  cases isSuccess status with
  | false => simp
  | true => cases Json.readWholeText (Json.readRecords ClashRecord.format) body <;> simp

/-- Blanks, escapes and the order of members in a body make no difference, for only its value counts. -/
theorem readClashes_of_isText {v : Value} (hStatus : Successful status) (h : IsText v body) :
    readClashes status body = .ok records ↔
      (v = .null ∧ records = []) ∨
        ∃ elements, v = .list elements ∧
          List.Forall₂ (fun v r => ClashRecord.StoodForBy r v) elements records := by
  have hNames : (ClashRecord.format.members.map Json.Member.name).Nodup := by decide
  simp only [readClashes_eq_ok_iff_rows, hStatus, true_and,
    Json.readWholeText_readRecords_of_isText hNames h, ← ClashRecord.forall₂_means_iff]
  constructor
  · rintro ⟨rows, ⟨hNull, rfl⟩ | ⟨elements, hList, hMeans⟩, rfl⟩
    · exact .inl ⟨hNull, rfl⟩
    · exact .inr ⟨elements, hList, rows, hMeans, rfl⟩
  · rintro (⟨hNull, rfl⟩ | ⟨elements, hList, rows, hMeans, rfl⟩)
    · exact ⟨[], .inl ⟨hNull, rfl⟩, rfl⟩
    · exact ⟨rows, .inr ⟨elements, hList, hMeans⟩, rfl⟩

/-- Of two accepted bodies of which one begins with the other, the longer one has only blanks more. -/
theorem blank_of_readClashes_append {front back : Json.Bytes} {all : List ClashRecord}
    (hFront : readClashes status front = .ok records)
    (hAll : readClashes status (front ++ back) = .ok all) : Blank back := by
  obtain ⟨-, rows, hRows, -⟩ := readClashes_eq_ok_iff_rows.mp hFront
  obtain ⟨-, more, hMore, -⟩ := readClashes_eq_ok_iff_rows.mp hAll
  exact ((Json.readWholeText_append_iff (Json.closed_readRecords _) hRows).mp hMore).1

theorem exists_malformed (hStatus : Successful status)
    (h : ∀ records, readClashes status body ≠ .ok records) :
    ∃ detail, readClashes status body = .error (.malformed detail) := by
  cases hRead : readClashes status body with
  | ok records => exact absurd hRead (h records)
  | error error =>
      obtain ⟨detail, rfl⟩ := (error_of_readClashes hRead).1 hStatus
      exact ⟨detail, rfl⟩

/-- With a success status, a text is accepted just when its value is `null` or a list of values that
stand for clashes, and these are then the clashes, one for one. An accepted body is malformed as soon as
it lacks more than blanks at its end or has more than blanks behind it. -/
theorem readClashes_accepts_lists :
    (∀ status body v, Successful status → IsText v body →
      ∀ records, readClashes status body = .ok records ↔
        (v = .null ∧ records = []) ∨
          ∃ elements, v = .list elements ∧
            List.Forall₂ (fun v r => ClashRecord.StoodForBy r v) elements records) ∧
      ∀ status body records, readClashes status body = .ok records →
        (∀ front lost, body = front ++ lost → ¬ Blank lost →
          ∃ detail, readClashes status front = .error (.malformed detail)) ∧
        ∀ more, ¬ Blank more →
          ∃ detail, readClashes status (body ++ more) = .error (.malformed detail) := by
  refine ⟨fun status body v hStatus hText records => readClashes_of_isText hStatus hText, ?_⟩
  intro status body records hRead
  have hStatus := (readClashes_eq_ok_iff.mp hRead).1
  constructor
  · rintro front lost rfl hLost
    exact exists_malformed hStatus fun first hFront =>
      hLost (blank_of_readClashes_append hFront hRead)
  · intro more hMore
    exact exists_malformed hStatus fun all hAll => hMore (blank_of_readClashes_append hRead hAll)

def leapObject : Value :=
  .object ((Json.Row.entries _ leapClash.toRow).map Json.Entry.pair)

def leapBody : Json.Bytes :=
  Json.byte '[' :: (ClashRecord.wireForm.body leapClash ++ [Json.byte ']'])

/-- The written members of a clash stand for it. Cut off or twice in a row they are not a list. -/
theorem readClashes_accepts_lists_of_leapClash :
    (Successful 200 ∧ IsText (.list [leapObject]) leapBody ∧
        readClashes 200 leapBody = .ok [leapClash]) ∧
      (∃ detail, readClashes 200 (Json.byte '[' :: ClashRecord.wireForm.body leapClash) =
        .error (.malformed detail)) ∧
      ∃ detail, readClashes 200 (leapBody ++ leapBody) = .error (.malformed detail) := by
  have hStatus : Successful 200 := by decide
  have hNone : Blank [] := List.forall_mem_nil _
  have hText : IsText (.list [leapObject]) leapBody := by
    have hClash : Json.Spells leapObject _ := ClashRecord.format.spells_write leapClash.toRow
    have hList := Json.Spells.list (.next hNone hClash (.close hNone))
    refine ⟨[], _, [], hNone, hNone, hList, ?_⟩
    rw [List.append_nil]
    rfl
  have hStands : leapClash.StoodForBy leapObject := by
    simp only [leapObject, ClashRecord.StoodForBy, ClashRecord.members, List.forall_mem_cons]
    refine ⟨⟨_, rfl, rfl⟩, ⟨_, rfl, _, rfl, rfl⟩, ⟨_, rfl, rfl⟩, ⟨_, rfl, rfl⟩, ⟨_, rfl, _, rfl, rfl⟩,
      ⟨_, rfl, _, rfl, rfl⟩, ⟨_, rfl, _, rfl, rfl⟩, ⟨_, rfl, _, rfl, rfl⟩, ⟨_, rfl, _, rfl, rfl⟩,
      ⟨_, rfl, .inr ⟨_, rfl, by decide, rfl⟩⟩, List.forall_mem_nil _⟩
  obtain ⟨hAccepts, hWhole⟩ := readClashes_accepts_lists
  have hRead := (hAccepts 200 leapBody _ hStatus hText [leapClash]).mpr
    (.inr ⟨_, rfl, .cons hStands .nil⟩)
  obtain ⟨hFront, hBack⟩ := hWhole 200 leapBody _ hRead
  have hSome {b : UInt8} {s : Json.Bytes} (h : Json.isSpace b = false) : ¬ Blank (b :: s) :=
    fun hBlank => Bool.eq_false_iff.mp h (hBlank b List.mem_cons_self)
  exact ⟨⟨hStatus, hText, hRead⟩, hFront _ [Json.byte ']'] rfl (hSome (by decide)),
    hBack leapBody (hSome (by decide))⟩

end Answers

end EquipmentBooking

import EquipmentBooking.Proofs.Json.RecordReading
import EquipmentBooking.Proofs.Json.Writing
import EquipmentBooking.Proofs.Wire.Response

namespace EquipmentBooking

open Json (IsText Row Value valuesOf)

namespace CatalogItem

def memberNames : List String :=
  ["ID", "Name", "Description", "Quantity", "Available", "HazardVoltage", "HazardToxic", "HazardLazer",
    "HazardMisc"]

/-- The members of an object that stand for an item: each occurs once, or not at all where the item has
nothing to say. -/
structure InObject (item : CatalogItem) (pairs : List (String × Value)) : Prop where
  id : ∃ v, valuesOf "ID" pairs = [v] ∧ v.IsNatural item.id.toNat
  name : valuesOf "Name" pairs = [.text item.name]
  description : valuesOf "Description" pairs = [.text item.description] ∨
    valuesOf "Description" pairs = [] ∧ item.description = ""
  quantity : ∃ v, valuesOf "Quantity" pairs = [v] ∧ v.IsNatural item.quantity.toNat
  available : valuesOf "Available" pairs = [.flag item.available]
  hazardVoltage : valuesOf "HazardVoltage" pairs = [.flag item.hazardVoltage] ∨
    valuesOf "HazardVoltage" pairs = [] ∧ item.hazardVoltage = false
  hazardToxic : valuesOf "HazardToxic" pairs = [.flag item.hazardToxic] ∨
    valuesOf "HazardToxic" pairs = [] ∧ item.hazardToxic = false
  hazardLazer : valuesOf "HazardLazer" pairs = [.flag item.hazardLazer] ∨
    valuesOf "HazardLazer" pairs = [] ∧ item.hazardLazer = false
  hazardMisc : valuesOf "HazardMisc" pairs = [.flag item.hazardMisc] ∨
    valuesOf "HazardMisc" pairs = [] ∧ item.hazardMisc = false

theorem inObject_toRow_iff {item : CatalogItem} {pairs : List (String × Value)} :
    Row.InObject format.members item.toRow pairs ↔ item.InObject pairs := by
  simp only [format, toRow, Row.InObject, Json.Member.required_means_iff,
    Json.Member.withDefault_means_iff, Json.Scalar.Means]
  simp only [exists_eq_right]
  constructor
  · rintro ⟨hId, hName, hDescription, hQuantity, hAvailable, hVoltage, hToxic, hLazer, hMisc, -⟩
    exact ⟨hId, hName, hDescription, hQuantity, hAvailable, hVoltage, hToxic, hLazer, hMisc⟩
  · rintro ⟨hId, hName, hDescription, hQuantity, hAvailable, hVoltage, hToxic, hLazer, hMisc⟩
    exact ⟨hId, hName, hDescription, hQuantity, hAvailable, hVoltage, hToxic, hLazer, hMisc, trivial⟩

end CatalogItem

/-- A body from which the texts of a failure can be read. -/
def Accounts (body : Json.Bytes) (error message : String) : Prop :=
  Json.readWholeText failureFormat.read body = .ok (error, message, ())

/-- A value that has the texts of a failure, be it as members or in order. -/
def HasTexts (error message : String) : Value → Prop
  | .object pairs =>
    valuesOf "error" pairs = [.text error] ∧ valuesOf "message" pairs = [.text message]
  | .list elements => elements = [.text error, .text message]
  | _ => False

section Answers

variable {status : UInt16} {body : Json.Bytes} {item : CatalogItem}

theorem accounts_iff_of_isText {v : Value} (h : IsText v body) {error message : String} :
    Accounts body error message ↔ HasTexts error message v := by
  refine (Json.readWholeText_read_of_isText (by decide) h).trans ?_
  cases v with
  | object pairs =>
      show Row.InObject failureFormat.members (error, message, ()) pairs ↔ _
      simp only [failureFormat, Row.InObject, Json.Member.required_means_iff, Json.Scalar.Means,
        exists_eq_right, HasTexts, and_true]
      exact Iff.rfl
  | list elements =>
      show Row.InList failureFormat.members (error, message, ()) elements ↔ _
      rcases elements with _ | ⟨v, _ | ⟨w, _ | ⟨u, elements⟩⟩⟩
      · simp [failureFormat, Row.InList, HasTexts, Json.Member.required]
      · simp [failureFormat, Row.InList, HasTexts, Json.Member.required]
      · simp [failureFormat, Row.InList, HasTexts, Json.Member.required, Json.Scalar.Means]
      · simp [failureFormat, Row.InList, HasTexts, Json.Member.required]
  | _ => exact Iff.rfl

/-- An object is an item if its members stand for one. Blanks and escapes in the body make
no difference. -/
theorem readItem_of_isText {pairs : List (String × Value)} (hStatus : Successful status)
    (h : IsText (.object pairs) body) : readItem status body = .ok item ↔ item.InObject pairs := by
  have hRead : readItem status body = .ok item ↔
      Json.readWholeText CatalogItem.format.read body = .ok item.toRow := by
    rw [readItem, if_pos (isSuccess_iff.mpr hStatus)]
    cases hRow : Json.readWholeText CatalogItem.format.read body with
    | error issue => simp
    | ok row =>
        simp only [Except.ok.injEq]
        constructor
        · rintro rfl
          rfl
        · rintro rfl
          rfl
  rw [hRead, Json.readWholeText_read_of_isText (by decide) h]
  exact CatalogItem.inObject_toRow_iff

theorem readItem_of_failure (hStatus : ¬ Successful status) :
    readItem status body = .error (.ofStatus status body) := by
  rw [readItem, if_neg (mt isSuccess_iff.mp hStatus)]

/-- With a success status, a text of an object is accepted just when the object stands for an item, and
that is then the item. Neither the order of the members nor unknown ones make a difference. Without a
success status the answer is an error with the status whatever the body: one with the texts of the failure
if they can be read from the body, and one with the body as plain text otherwise. -/
theorem readItem_accepts_items :
    (∀ status body pairs, Successful status → IsText (.object pairs) body →
      (∀ item, readItem status body = .ok item ↔ item.InObject pairs) ∧
        ∀ other others, IsText (.object others) other →
          (pairs.filter (·.1 ∈ CatalogItem.memberNames)).Perm
            (others.filter (·.1 ∈ CatalogItem.memberNames)) →
          ∀ item, readItem status other = .ok item ↔ readItem status body = .ok item) ∧
      ∀ status body, ¬ Successful status →
        (∀ error message, Accounts body error message →
          readItem status body = .error (.rejected status error message)) ∧
        ((¬ ∃ error message, Accounts body error message) →
          readItem status body = .error
            (.status status (String.ofList (Text.trimChars (Text.Utf8.decodeLenient body))))) ∧
        ∀ v, IsText v body →
          ∀ error message, Accounts body error message ↔ HasTexts error message v := by
  constructor
  · intro status body pairs hStatus hText
    refine ⟨fun item => readItem_of_isText hStatus hText, ?_⟩
    intro other others hOther hSame item
    have hNames : CatalogItem.format.members.map Json.Member.name = CatalogItem.memberNames := rfl
    rw [readItem_of_isText hStatus hText, readItem_of_isText hStatus hOther,
      ← CatalogItem.inObject_toRow_iff, ← CatalogItem.inObject_toRow_iff]
    rw [← hNames] at hSame
    exact (Row.inObject_congr hSame).symm
  · intro status body hStatus
    rw [readItem_of_failure hStatus, ApiError.ofStatus]
    refine ⟨fun error message hAccounts => ?_, fun hNone => ?_, fun v hText error message =>
      accounts_iff_of_isText hText⟩
    · rw [hAccounts]
    · split
      · next error message hRead => exact absurd ⟨error, message, hRead⟩ hNone
      · rfl

def lampEntries : List Json.Entry :=
  [⟨"ID", .id, 7⟩, ⟨"Name", .text, "Lámpara"⟩, ⟨"Quantity", .count, 2⟩, ⟨"Available", .flag, true⟩]

def shelvedEntries : List Json.Entry :=
  [⟨"Available", .flag, true⟩, ⟨"Shelf", .balance, -3⟩, ⟨"Quantity", .count, 2⟩,
    ⟨"Name", .text, "Lámpara"⟩, ⟨"ID", .id, 7⟩]

/-- Both are the same item. With another status the body is no account of a failure. -/
theorem readItem_accepts_items_of_lamp :
    ∃ lamp shelved item, IsText (.object (lampEntries.map Json.Entry.pair)) lamp ∧
      IsText (.object (shelvedEntries.map Json.Entry.pair)) shelved ∧
      (Successful 201 ∧ readItem 201 lamp = .ok item ∧ readItem 201 shelved = .ok item) ∧
      ¬ Successful 404 ∧ ∃ message, readItem 404 lamp = .error (.status 404 message) := by
  have hSuccess : Successful 201 := by decide
  have hFailure : ¬ Successful 404 := by decide
  have hText (entries : List Json.Entry) : IsText (.object (entries.map Json.Entry.pair))
      (Text.Utf8.encode (Json.writeObject (entries.map Json.Entry.written))) :=
    ⟨[], _, [], List.forall_mem_nil _, List.forall_mem_nil _, Json.spells_writeObject entries,
      by simp⟩
  have hItem : CatalogItem.InObject ⟨7, "Lámpara", "", 2, true, false, false, false, false⟩
      (lampEntries.map Json.Entry.pair) :=
    ⟨⟨_, rfl, _, rfl, rfl⟩, rfl, .inr ⟨rfl, rfl⟩, ⟨_, rfl, _, rfl, rfl⟩, rfl, .inr ⟨rfl, rfl⟩,
      .inr ⟨rfl, rfl⟩, .inr ⟨rfl, rfl⟩, .inr ⟨rfl, rfl⟩⟩
  have hSame : ((lampEntries.map Json.Entry.pair).filter (·.1 ∈ CatalogItem.memberNames)).Perm
      ((shelvedEntries.map Json.Entry.pair).filter (·.1 ∈ CatalogItem.memberNames)) :=
    (List.reverse_perm (lampEntries.map Json.Entry.pair)).symm
  obtain ⟨hAccepts, hRejects⟩ := readItem_accepts_items
  obtain ⟨hRead, hOrder⟩ := hAccepts 201 _ _ hSuccess (hText lampEntries)
  obtain ⟨-, hPlain, hTexts⟩ := hRejects 404
    (Text.Utf8.encode (Json.writeObject (lampEntries.map Json.Entry.written))) hFailure
  have hLamp := (hRead _).mpr hItem
  refine ⟨_, _, _, hText lampEntries, hText shelvedEntries,
    ⟨hSuccess, hLamp, (hOrder _ _ (hText shelvedEntries) hSame _).mpr hLamp⟩, hFailure, _, hPlain ?_⟩
  rintro ⟨error, message, hAccounts⟩
  obtain ⟨hError, -⟩ := (hTexts _ (hText lampEntries) error message).mp hAccounts
  cases hError

end Answers

end EquipmentBooking

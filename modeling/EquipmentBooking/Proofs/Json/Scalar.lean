import EquipmentBooking.Proofs.Calendar.Timestamp
import EquipmentBooking.Proofs.Json.Text
import EquipmentBooking.Proofs.Json.ValueExtent

/-! Reading a value undoes writing it, for every kind of value. Numbers do not tell where they end, so
what follows a value is taken to be what follows one in an object. -/
namespace EquipmentBooking.Json

open Text.Numeral Text.Utf8

/-- What can follow the value of a member: the comma before the next one, or the end of the object. -/
def EndsValue (rest : Bytes) : Prop :=
  rest.head? = some (byte ',') ∨ rest.head? = some (byte '\x7d')

theorem EndsValue.ne {rest : Bytes} (h : EndsValue rest) {b : UInt8} (hComma : byte ',' ≠ b)
    (hBrace : byte '\x7d' ≠ b) : rest.head? ≠ some b := by
  intro hSame
  rcases h with h | h
  · exact hComma (Option.some.inj (h.symm.trans hSame))
  · exact hBrace (Option.some.inj (h.symm.trans hSame))

section Digits

variable {c : Char} {s : List Char} {rest : Bytes} {n : Nat}

abbrev digitValue (c : Char) : Nat :=
  c.toNat - '0'.toNat

theorem digit?_byte (h : c.isDigit = true) : Json.digit? (byte c) = some (digitValue c) := by
  obtain ⟨hLow, hHigh⟩ := toNat_of_isDigit h
  have hByte : (byte c).toNat = c.toNat := toNat_ofNat_of_lt (by omega)
  rw [Json.digit?, if_pos, hByte]
  · rfl
  · rw [UInt8.le_iff_toNat_le, UInt8.le_iff_toNat_le, hByte]
    exact ⟨hLow, hHigh⟩

theorem encode_cons_of_isDigit (h : c.isDigit = true) (s : List Char) :
    encode (c :: s) = byte c :: encode s := by
  have hRange := toNat_of_isDigit h
  exact encode_cons_of_lt (by omega) s

theorem spanDigits_of_stops (h : ∀ b, rest.head? = some b → Json.digit? b = none) :
    spanDigits rest = ([], rest) := by
  cases rest with
  | nil => rfl
  | cons b rest => simp [spanDigits, h b rfl]

theorem spanDigits_encode (hDigits : IsDigits s)
    (hRest : ∀ b, rest.head? = some b → Json.digit? b = none) :
    spanDigits (encode s ++ rest) = (s.map digitValue, rest) := by
  induction s with
  | nil => exact spanDigits_of_stops hRest
  | cons c s ih =>
      have hDigit := hDigits c List.mem_cons_self
      have hMore := ih fun d hd => hDigits d (List.mem_cons_of_mem c hd)
      rw [encode_cons_of_isDigit hDigit, List.cons_append]
      simp [spanDigits, digit?_byte hDigit, hMore]

/-- Numbers are collected exactly as long as they fit. -/
theorem collectWhole_map {value : Nat} (h : Nat.ofDigitChars 10 s value ≤ significandLimit) :
    collectWhole value 0 (s.map digitValue) = (Nat.ofDigitChars 10 s value, 0) := by
  induction s generalizing value with
  | nil => rfl
  | cons c s ih =>
      rw [Nat.ofDigitChars_cons, Nat.mul_comm] at h ⊢
      have hStep := le_ofDigitChars s (value * 10 + digitValue c)
      rw [List.map_cons, collectWhole, if_pos ⟨rfl, Nat.le_trans hStep h⟩, ih h]

theorem eq_zero_of_digitValue (h : c.isDigit = true) (hZero : digitValue c = 0) : c = '0' := by
  have hRange := toNat_of_isDigit h
  have hNumber : c.toNat - 48 = 0 := hZero
  apply Char.toNat_inj.mp
  show c.toNat = 48
  omega

/-- The decimal digits of a number have no zero in front, as the reader wants it. -/
theorem readWhole_digits (n : Nat) (atEnd : Issue)
    (hRest : ∀ b, rest.head? = some b → Json.digit? b = none) :
    readWhole atEnd (encode (digits n) ++ rest) = .ok ((digits n).map digitValue, rest) := by
  have hSpan := spanDigits_encode (isDigits_digits n) hRest
  obtain ⟨c, s, hCons, hDigit⟩ := exists_digits_eq_cons n
  rw [readWhole_eq_ok_iff, readDigits_eq_ok_iff]
  refine ⟨?_, ?_, hSpan⟩
  · -- a zero in front is the whole of the number zero, with no further digit behind it
    intro d more hLeading
    rw [hCons, List.map_cons, List.cons.injEq] at hLeading
    have hZero := eq_zero_of_digitValue hDigit hLeading.1
    by_cases hPos : 0 < n
    · have hHead := head?_digits hPos
      rw [hCons, hZero] at hHead
      exact hHead rfl
    · have hNone : s = [] := by
        rw [Nat.eq_zero_of_not_pos hPos] at hCons
        exact (List.cons.inj hCons).2.symm
      rw [hNone] at hLeading
      cases hLeading.2
  · rw [hCons, encode_cons_of_isDigit hDigit]
    exact ⟨byte c, rfl, by rw [digit?_byte hDigit]; rfl⟩

end Digits

section Numbers

variable {rest : Bytes} {n : Nat}

theorem digit?_eq_none_of_endsValue (h : EndsValue rest) :
    ∀ b, rest.head? = some b → Json.digit? b = none := by
  intro b hb
  rcases h with h | h
  · cases h.symm.trans hb
    decide
  · cases h.symm.trans hb
    decide

/-- Digits in front of the end of a value are a number without fraction and exponent. -/
theorem readForm_of_splitSign {s : Bytes} {negative : Bool} (hRest : EndsValue rest)
    (hSign : splitSign numberSign? s = (negative, encode (digits n) ++ rest)) :
    readForm .eofValue s = .ok (⟨negative, (digits n).map digitValue, none, none⟩, rest) := by
  have hWhole := readWhole_digits n .eofValue (digit?_eq_none_of_endsValue hRest)
  have hPoint : rest.head? ≠ some (byte '.') := hRest.ne (by decide) (by decide)
  have hLower : rest.head? ≠ some (byte 'e') := hRest.ne (by decide) (by decide)
  have hUpper : rest.head? ≠ some (byte 'E') := hRest.ne (by decide) (by decide)
  rw [readForm_eq_ok_iff]
  refine ⟨_, hSign, rest, hWhole, rest, ?_, ?_⟩
  · rw [readFraction_eq_ok_iff]
    exact .inl ⟨hPoint, rfl, rfl⟩
  · rw [readExponent_eq_ok_iff]
    exact .inl ⟨⟨hLower, hUpper⟩, rfl, rfl⟩

theorem splitSign_digits (n : Nat) (rest : Bytes) :
    splitSign numberSign? (encode (digits n) ++ rest) = (false, encode (digits n) ++ rest) := by
  obtain ⟨c, s, hCons, hDigit⟩ := exists_digits_eq_cons n
  have hMinus : byte c ≠ byte '-' := by
    intro hSame
    have hValue := digit?_byte hDigit
    rw [hSame] at hValue
    cases hValue
  rw [hCons, encode_cons_of_isDigit hDigit, List.cons_append]
  simp only [splitSign, numberSign?, hMinus, ↓reduceIte]

theorem collectWhole_digits (h : n < UInt64.size) :
    collectWhole 0 0 ((digits n).map digitValue) = (n, 0) := by
  have hNumber := ofDigitChars_digits n
  have hLimit : n ≤ significandLimit := Nat.le_pred_of_lt h
  rw [collectWhole_map (by omega), hNumber]

theorem readNumber_of_form {s : Bytes} {form : NumberForm} {number : Number}
    (hForm : readForm .eofValue s = .ok (form, rest)) (hValue : form.value = .ok number) :
    readNumber s = .ok (number, rest) := by
  simp [readNumber, hForm, hValue, bind, Except.bind]

theorem readNumber_digits (h : n < UInt64.size) (hRest : EndsValue rest) :
    readNumber (encode (digits n) ++ rest) = .ok (.natural n, rest) := by
  apply readNumber_of_form (readForm_of_splitSign hRest (splitSign_digits n rest))
  simp [NumberForm.value, collectWhole_digits h]

theorem readNumber_minus_digits (hPos : 0 < n) (h : n ≤ 0x8000000000000000)
    (hRest : EndsValue rest) :
    readNumber (byte '-' :: (encode (digits n) ++ rest)) = .ok (.negative n, rest) := by
  have hSign : splitSign numberSign? (byte '-' :: (encode (digits n) ++ rest)) =
      (true, encode (digits n) ++ rest) := rfl
  have hFits : n < UInt64.size := Nat.lt_of_le_of_lt h (by decide)
  have hRange : ¬ (n = 0 ∨ 0x8000000000000000 < n) := by omega
  apply readNumber_of_form (readForm_of_splitSign hRest hSign)
  simp [NumberForm.value, collectWhole_digits hFits, hRange]

theorem isSpace_of_number {b : UInt8} (h : b = byte '-' ∨ (Json.digit? b).isSome = true) :
    isSpace b = false := by
  rw [Bool.eq_false_iff]
  intro hSpace
  simp only [isSpace, Bool.or_eq_true, beq_iff_eq] at hSpace
  rcases hSpace with ((rfl | rfl) | rfl) | rfl <;> revert h <;> decide

variable {α : Type} {expected : String} {ofInt? : Int → Option α} {value : α}

theorem readWholeNumber_digits (h : n < UInt64.size) (hRest : EndsValue rest)
    (hValue : ofInt? n = some value) :
    readWholeNumber expected ofInt? (encode (digits n) ++ rest) = .ok (value, rest) := by
  have hRead := readNumber_digits h hRest
  obtain ⟨c, s, hCons, hDigit⟩ := exists_digits_eq_cons n
  have hFirst : byte c = byte '-' ∨ (Json.digit? (byte c)).isSome = true := by
    rw [digit?_byte hDigit]
    exact .inr rfl
  rw [hCons, encode_cons_of_isDigit hDigit, List.cons_append] at hRead ⊢
  rw [readWholeNumber_eq_ok_iff]
  exact ⟨_, _, skipSpace_cons (isSpace_of_number hFirst) _, hFirst, .natural n, hValue, hRead⟩

theorem readWholeNumber_minus_digits (hPos : 0 < n) (h : n ≤ 0x8000000000000000)
    (hRest : EndsValue rest) (hValue : ofInt? (-(n : Int)) = some value) :
    readWholeNumber expected ofInt? (byte '-' :: (encode (digits n) ++ rest)) =
      .ok (value, rest) := by
  have hRead := readNumber_minus_digits hPos h hRest
  rw [readWholeNumber_eq_ok_iff]
  exact ⟨_, _, skipSpace_cons (by decide) _, .inl rfl, .negative n, hValue, hRead⟩

end Numbers

section Texts

theorem readString_writeText (s : String) (rest : Bytes) :
    readString (encode (writeText s) ++ rest) = .ok (s, rest) := by
  rw [encode_writeText, readString_eq_ok_iff]
  exact ⟨_, _, skipSpace_cons (by decide) _, rfl, readText_writeText s rest⟩

theorem readOptionalString_null (rest : Bytes) :
    readOptionalString (encode ['n', 'u', 'l', 'l'] ++ rest) = .ok (none, rest) := by
  rw [readOptionalString_eq_ok_iff]
  exact .inl ⟨_, _, skipSpace_cons (by decide) _, ⟨rfl, rfl⟩, readIdent_eq_ok_iff.mpr rfl⟩

theorem readFlag_writeFlag (value : Bool) (rest : Bytes) :
    readFlag (encode (Scalar.writeFlag value) ++ rest) = .ok (value, rest) := by
  rw [readFlag_eq_ok_iff]
  cases value with
  | true =>
      refine ⟨byte 't', _, skipSpace_cons (by decide) _, .inl ⟨⟨rfl, rfl⟩, ?_⟩⟩
      exact readIdent_eq_ok_iff.mpr rfl
  | false =>
      refine ⟨byte 'f', _, skipSpace_cons (by decide) _, .inr ⟨⟨rfl, rfl⟩, ?_⟩⟩
      exact readIdent_eq_ok_iff.mpr rfl

theorem readMoment_writeText (t : Timestamp) (rest : Bytes) :
    readMoment (encode (writeText t.text) ++ rest) = .ok (t, rest) := by
  have hChars : Timestamp.read t.text.toList = .ok t := by
    rw [Timestamp.text, String.toList_ofList, t.read_chars]
  rw [encode_writeText, readMoment_eq_ok_iff]
  exact ⟨_, _, skipSpace_cons (by decide) _, rfl, t.text, hChars, readText_writeText t.text rest⟩

end Texts

namespace Scalar

variable {rest : Bytes}

/-- A value within the range of its kind. Only places are numbers without a range of their own. -/
def Fits : (kind : Scalar) → kind.Carrier → Prop
  | place, value => value < UInt64.size
  | _, _ => True

theorem natBelow?_of_lt {bound n : Nat} (h : n < bound) : natBelow? bound n = some n := by
  simp [natBelow?, h]

theorem int64?_toInt (value : Int64) : int64? value.toInt = some value := by
  rw [int64?, if_pos ⟨value.minValue_le_toInt, value.toInt_le⟩, Int64.ofInt_toInt]

/-- The digits behind a minus are those of a number of at most 63 bits, or of the least number. -/
theorem readBalance_write (value : Int64) (hRest : EndsValue rest) :
    readWholeNumber "i64" int64? (encode (write .balance value) ++ rest) = .ok (value, rest) := by
  have hLeast : -0x8000000000000000 ≤ value.toInt := value.minValue_le_toInt
  have hGreatest : value.toInt ≤ 0x7FFFFFFFFFFFFFFF := value.toInt_le
  have hValue := int64?_toInt value
  simp only [write]
  split
  · next hNegative =>
    have hNumber : -(value.toInt.natAbs : Int) = value.toInt := by omega
    rw [← hNumber] at hValue
    rw [encode_cons_of_lt (by decide), List.cons_append]
    exact readWholeNumber_minus_digits (by omega) (by omega) hRest hValue
  · have hNumber : (value.toInt.natAbs : Int) = value.toInt := by omega
    have hFits : value.toInt.natAbs < UInt64.size := by
      show value.toInt.natAbs < 0x10000000000000000
      omega
    rw [← hNumber] at hValue
    exact readWholeNumber_digits hFits hRest hValue

/-- A value is read as it was written. -/
theorem read_write (kind : Scalar) (value : kind.Carrier) (h : kind.Fits value)
    (hRest : EndsValue rest) : kind.read (encode (kind.write value) ++ rest) = .ok (value, rest) := by
  cases kind with
  | text => exact readString_writeText value rest
  | optionalText =>
      cases value with
      | none => exact readOptionalString_null rest
      | some text =>
          have hText := readString_writeText text rest
          exact readOptionalString_eq_ok_iff.mpr (.inr ⟨text, rfl, hText⟩)
  | flag => exact readFlag_writeFlag value rest
  | count =>
      have hFits : value.toNat < UInt64.size := Nat.lt_trans value.toNat_lt (by decide)
      have hValue : (natBelow? UInt32.size value.toNat).map UInt32.ofNat = some value := by
        rw [natBelow?_of_lt value.toNat_lt, Option.map_some, UInt32.ofNat_toNat]
      simp only [read, write]
      exact readWholeNumber_digits hFits hRest hValue
  | id =>
      have hValue : (natBelow? UInt64.size value.toNat).map UInt64.ofNat = some value := by
        rw [natBelow?_of_lt value.toNat_lt, Option.map_some, UInt64.ofNat_toNat]
      simp only [read, write]
      exact readWholeNumber_digits value.toNat_lt hRest hValue
  | place =>
      have hValue : natBelow? UInt64.size value = some value := natBelow?_of_lt h
      simp only [read, write]
      exact readWholeNumber_digits h hRest hValue
  | balance => exact readBalance_write value hRest
  | moment => exact readMoment_writeText value rest

end Scalar

end EquipmentBooking.Json

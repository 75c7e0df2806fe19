import EquipmentBooking.Form.Quantity
import EquipmentBooking.Proofs.Except
import EquipmentBooking.Proofs.Text.Integer

/-! Typed quantities. Those that are taken over are the whole numbers from zero to the bound. Any other
integer is refused for what it is: negative, more than there is, or beyond 64 bits. Only a text that is
no integer can be said to be none. -/
namespace EquipmentBooking

open Text.Numeral (IsInteger)

variable {raw : String} {bound : UInt32} {n : Int}

/-- The integer that is typed decides alone, blanks around it aside. -/
theorem readQuantity_of_isInteger (h : IsInteger (Text.trimChars raw.toList) n) (bound : UInt32) :
    readQuantity raw bound =
      if n < -2 ^ 63 ∨ 2 ^ 63 ≤ n then .error (.outOfRange (Text.trim raw))
      else if n < 0 then .error .negative
      else if (bound.toNat : Int) < n then .error (.onlyAvailable bound)
      else .ok (UInt32.ofNat n.toNat) := by
  rw [readQuantity, Text.Numeral.readSigned64_of_isInteger h]
  by_cases hRange : -2 ^ 63 ≤ n ∧ n < 2 ^ 63
  · rw [if_pos hRange, if_neg (by omega)]
  · rw [if_neg hRange, if_pos (by omega)]

theorem isInteger_of_readQuantity {quantity : UInt32} (h : readQuantity raw bound = .ok quantity) :
    ∃ n, IsInteger (Text.trimChars raw.toList) n := by
  rw [readQuantity] at h
  split at h
  · cases h
  · cases h
  · next n hRead => exact ⟨n, Text.Numeral.isInteger_of_readSigned64 hRead⟩

/-- A quantity is read from the texts of that very number, if there is as much. -/
theorem readQuantity_eq_ok_iff {quantity : UInt32} :
    readQuantity raw bound = .ok quantity ↔
      IsInteger (Text.trimChars raw.toList) quantity.toNat ∧ quantity ≤ bound := by
  have hSize := bound.toNat_lt
  rw [UInt32.le_iff_toNat_le]
  constructor
  · intro h
    obtain ⟨n, hInteger⟩ := isInteger_of_readQuantity h
    rw [readQuantity_of_isInteger hInteger] at h
    split at h
    · cases h
    · split at h
      · cases h
      · split at h
        · cases h
        · cases h
          have hThere : n.toNat ≤ bound.toNat := by omega
          have hSame : (UInt32.ofNat n.toNat).toNat = n.toNat :=
            UInt32.toNat_ofNat_of_lt' (Nat.lt_of_le_of_lt hThere hSize)
          rw [hSame, Int.toNat_of_nonneg (by omega)]
          exact ⟨hInteger, hThere⟩
  · rintro ⟨hInteger, hInside⟩
    have hFits : ¬ ((quantity.toNat : Int) < -2 ^ 63 ∨ 2 ^ 63 ≤ (quantity.toNat : Int)) := by omega
    have hThere : ¬ (bound.toNat : Int) < quantity.toNat := by omega
    rw [readQuantity_of_isInteger hInteger, if_neg hFits, if_neg (by omega), if_neg hThere,
      Int.toNat_natCast, UInt32.ofNat_toNat]

/-- No other issue is worded like that of a text that is no number. -/
theorem QuantityIssue.message_ne_notWhole {issue : QuantityIssue} (h : ∀ raw, issue ≠ .notWhole raw)
    (raw : String) : issue.message ≠ (notWhole raw).message := by
  intro hSame
  have hLast := congrArg (fun text => text.toList.getLast?) hSame
  cases issue with
  | notWhole other => exact h other rfl
  | outOfRange trimmed => simp [message] at hLast
  | negative => simp [message] at hLast
  | onlyAvailable bound => simp [message, List.getLast?_cons] at hLast

/-- What is said of an integer that is no quantity. -/
structure QuantityIssue.Explains (raw : String) (bound : UInt32) (n : Int) (issue : QuantityIssue) :
    Prop where
  negative_of_lt : -2 ^ 63 ≤ n → n < 0 → issue = .negative
  onlyAvailable_of_lt : bound.toNat < n → n < 2 ^ 63 → issue = .onlyAvailable bound
  outOfRange_of_lt : n < -2 ^ 63 ∨ 2 ^ 63 ≤ n → issue = .outOfRange (Text.trim raw)
  ne_notWhole : ∀ other, issue ≠ .notWhole other

/-- An integer outside the bounds is refused for what it is. -/
theorem exists_explains (h : IsInteger (Text.trimChars raw.toList) n)
    (hOutside : n < 0 ∨ bound.toNat < n) :
    ∃ issue : QuantityIssue, readQuantity raw bound = .error issue ∧ issue.Explains raw bound n := by
  have hSize := bound.toNat_lt
  rw [readQuantity_of_isInteger h]
  by_cases hRange : n < -2 ^ 63 ∨ 2 ^ 63 ≤ n
  · rw [if_pos hRange]
    refine ⟨_, rfl, ?_, ?_, fun _ => rfl, nofun⟩ <;> omega
  · rw [if_neg hRange]
    by_cases hNegative : n < 0
    · rw [if_pos hNegative]
      refine ⟨_, rfl, fun _ _ => rfl, ?_, ?_, nofun⟩ <;> omega
    · have hMore : (bound.toNat : Int) < n := by omega
      rw [if_neg hNegative, if_pos hMore]
      refine ⟨_, rfl, ?_, fun _ _ => rfl, ?_, nofun⟩ <;> omega

/-- A typed quantity is taken over if and only if it is an integer from zero to the bound, spelled with a
sign or none and with any number of zeros in front, and it is taken over as that integer. Whatever is
refused is refused at the field it was typed in, and an integer is refused for what it is: the message is
not the one for texts that are no integers. -/
theorem readQuantityField_bounded (field raw : String) (bound : UInt32) :
    (∀ quantity, readQuantityField field raw bound = .ok quantity ↔
      IsInteger (Text.trimChars raw.toList) quantity.toNat ∧ quantity ≤ bound) ∧
    (∀ error, readQuantityField field raw bound = .error error → error.field = field) ∧
    ∀ n, IsInteger (Text.trimChars raw.toList) n → n < 0 ∨ bound.toNat < n →
      ∃ issue : QuantityIssue, readQuantityField field raw bound = .error ⟨field, issue.message⟩ ∧
        issue.Explains raw bound n ∧
        ∀ text, issue.message ≠ (QuantityIssue.notWhole text).message := by
  refine ⟨fun quantity => ?_, fun error h => ?_, fun n hInteger hOutside => ?_⟩
  · rw [readQuantityField, mapError_eq_ok, readQuantity_eq_ok_iff]
  · obtain ⟨issue, -, rfl⟩ := mapError_eq_error.mp h
    rfl
  · obtain ⟨issue, hRefused, hExplains⟩ := exists_explains hInteger hOutside
    refine ⟨issue, ?_, hExplains, issue.message_ne_notWhole hExplains.ne_notWhole⟩
    rw [readQuantityField, hRefused]
    rfl

/-- The first integer below those of 64 bits, typed with a blank and a zero in front of it. -/
theorem readQuantityField_bounded_below_words :
    IsInteger (Text.trimChars "\u2003-09223372036854775809".toList) (-9223372036854775809) ∧
      readQuantityField "eqty_ruler" "\u2003-09223372036854775809" 10 =
        .error ⟨"eqty_ruler", "-09223372036854775809 is out of range"⟩ := by
  have hInteger : IsInteger (Text.trimChars "\u2003-09223372036854775809".toList)
      (-9223372036854775809) :=
    .inr ⟨"09223372036854775809".toList, 9223372036854775809, rfl,
      ⟨by decide, by decide, by decide⟩, rfl⟩
  have hOutside : (-9223372036854775809 : Int) < -2 ^ 63 := by decide
  obtain ⟨issue, hRefused, hExplains, -⟩ :=
    (readQuantityField_bounded "eqty_ruler" "\u2003-09223372036854775809" 10).2.2 _ hInteger
      (.inl (by decide))
  rw [hExplains.outOfRange_of_lt (.inl hOutside)] at hRefused
  exact ⟨hInteger, hRefused⟩

end EquipmentBooking

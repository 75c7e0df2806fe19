import EquipmentBooking.Json.Meaning
import EquipmentBooking.Proofs.Json.Range
import EquipmentBooking.Proofs.Json.Spelling

/-! Where a value of some kind belongs, what is read from a text of a value is what the value means
there. If it means nothing there, nothing is read. -/
namespace EquipmentBooking.Json

section Numbers

variable {significand power number : Nat} {digits : List Nat} {form : NumberForm} {n : Number}
  {i : Int}

theorem le_foldl_digits (digits : List Nat) (significand : Nat) :
    significand ≤ digits.foldl (fun n d => n * 10 + d) significand := by
  induction digits generalizing significand with
  | nil => exact Nat.le_refl _
  | cons d digits ih =>
      have hMore := ih (significand * 10 + d)
      rw [List.foldl_cons]
      omega

theorem collectWhole_of_le
    (h : digits.foldl (fun n d => n * 10 + d) significand ≤ significandLimit) :
    collectWhole significand 0 digits = (digits.foldl (fun n d => n * 10 + d) significand, 0) := by
  induction digits generalizing significand with
  | nil => rfl
  | cons d digits ih =>
      rw [List.foldl_cons] at h ⊢
      have hStep := le_foldl_digits digits (significand * 10 + d)
      rw [collectWhole, if_pos ⟨rfl, Nat.le_trans hStep h⟩, ih h]

/-- Once a digit has not been taken in, none is taken in any more. -/
theorem eq_foldl_of_collectWhole (h : collectWhole significand power digits = (number, 0)) :
    power = 0 ∧ number = digits.foldl (fun n d => n * 10 + d) significand := by
  induction digits generalizing significand power with
  | nil =>
      cases h
      exact ⟨rfl, rfl⟩
  | cons d digits ih =>
      rw [collectWhole] at h
      split at h
      · next hFits => exact ⟨hFits.1, (ih h).2⟩
      · exact absurd (ih h).1 (Nat.succ_ne_zero power)

/-- A number that took rounding is no integer, even if its value is a whole one. -/
theorem integer?_of_realOf {negative : Bool} {power : Int} {exponent : Option (Bool × List Nat)}
    (h : realOf negative significand power exponent = .ok n) : n.integer? = none := by
  cases exponent with
  | none =>
      simp only [realOf] at h
      split at h
      · cases h
        rfl
      · cases h
  | some pair =>
      simp only [realOf] at h
      split at h
      · split at h
        · cases h
        · cases h
          rfl
      · split at h
        · cases h
          rfl
        · cases h

/-- A number is taken for an integer only if it is written as one. -/
theorem isInteger_of_value (h : form.value = .ok n) (hInteger : n.integer? = some i) :
    (Value.number form).IsInteger i := by
  have hNotReal {negative : Bool} {significand : Nat} {power : Int}
      {exponent : Option (Bool × List Nat)} :
      realOf negative significand power exponent ≠ .ok n := by
    intro hReal
    rw [integer?_of_realOf hReal] at hInteger
    cases hInteger
  obtain ⟨negative, whole, fraction, exponent⟩ := form
  rw [NumberForm.value] at h
  cases hCollect : collectWhole 0 0 whole with
  | mk significand power =>
      simp only [hCollect] at h
      split at h
      · split at h
        · exact absurd h hNotReal
        · next hPower =>
          obtain rfl : power = 0 := Decidable.not_not.mp hPower
          obtain ⟨-, rfl⟩ := eq_foldl_of_collectWhole hCollect
          split at h
          · next hNegative =>
            obtain rfl : negative = true := hNegative
            split at h
            · exact absurd h hNotReal
            · next hRange =>
              cases h
              cases hInteger
              exact .inr ⟨whole, rfl, by rw [ofDigits]; omega, rfl⟩
          · next hPositive =>
            obtain rfl : negative = false := Bool.eq_false_iff.mpr hPositive
            cases h
            cases hInteger
            exact .inl ⟨_, ⟨whole, rfl, rfl⟩, rfl⟩
      · exact absurd h hNotReal

/-- Every integer from the lowest with sign to the highest without is read as itself. -/
theorem exists_value_of_isInteger (h : (Value.number form).IsInteger i)
    (hLow : -0x8000000000000000 ≤ i) (hHigh : i < UInt64.size) :
    ∃ n, form.value = .ok n ∧ n.integer? = some i := by
  rcases h with ⟨n, ⟨digits, hForm, rfl⟩, rfl⟩ | ⟨digits, hForm, hPos, rfl⟩
  · cases hForm
    have hLimit : ofDigits digits ≤ significandLimit := by
      have hSize : ofDigits digits < UInt64.size := Int.ofNat_lt.mp hHigh
      exact Nat.le_pred_of_lt hSize
    refine ⟨.natural (ofDigits digits), ?_, rfl⟩
    simp [NumberForm.value, collectWhole_of_le hLimit, ofDigits]
  · cases hForm
    have hSmall : ofDigits digits ≤ 0x8000000000000000 := by omega
    have hLimit : ofDigits digits ≤ significandLimit := Nat.le_trans hSmall (by decide)
    have hRange : ¬ (ofDigits digits = 0 ∨ 0x8000000000000000 < ofDigits digits) := by omega
    refine ⟨.negative (ofDigits digits), ?_, rfl⟩
    rw [ofDigits] at hRange
    simp [NumberForm.value, collectWhole_of_le hLimit, ofDigits, hRange]

end Numbers

section Firsts

variable {v : Value} {b : UInt8} {form : NumberForm} {s rest after front : Bytes}

theorem Spells.first (h : Spells v s) (hFront : Blank front)
    (hSpace : skipSpace (front ++ (s ++ rest)) = b :: after) :
    ∃ more, s = b :: more ∧ after = more ++ rest := by
  rw [h.skipSpace_eq hFront] at hSpace
  obtain ⟨c, more, rfl, -⟩ := h.opens
  cases hSpace
  exact ⟨more, rfl, rfl⟩

theorem number_of_spellsNumber (h : SpellsNumber form (b :: s)) :
    b = byte '-' ∨ (digit? b).isSome = true := by
  obtain ⟨c, more, hCons, hNumber⟩ := exists_cons_of_spellsNumber h
  cases hCons
  exact hNumber

theorem Spells.eq_null (h : Spells v (byte 'n' :: s)) :
    v = .null ∧ s = [byte 'u', byte 'l', byte 'l'] := by
  cases h with
  | null => exact ⟨rfl, rfl⟩
  | number hNumber => exact absurd (number_of_spellsNumber hNumber) (by decide)

theorem Spells.eq_yes (h : Spells v (byte 't' :: s)) :
    v = .flag true ∧ s = [byte 'r', byte 'u', byte 'e'] := by
  cases h with
  | yes => exact ⟨rfl, rfl⟩
  | number hNumber => exact absurd (number_of_spellsNumber hNumber) (by decide)

theorem Spells.eq_no (h : Spells v (byte 'f' :: s)) :
    v = .flag false ∧ s = [byte 'a', byte 'l', byte 's', byte 'e'] := by
  cases h with
  | no => exact ⟨rfl, rfl⟩
  | number hNumber => exact absurd (number_of_spellsNumber hNumber) (by decide)

theorem Spells.eq_text (h : Spells v (byte '"' :: s)) :
    ∃ t u, v = .text t ∧ SpellsChars t.toList u ∧ s = u ++ [byte '"'] := by
  cases h with
  | text hText => exact ⟨_, _, rfl, hText, rfl⟩
  | number hNumber => exact absurd (number_of_spellsNumber hNumber) (by decide)

theorem Spells.eq_number (h : Spells v (b :: s)) (hFirst : b = byte '-' ∨ (digit? b).isSome = true) :
    ∃ form, v = .number form ∧ SpellsNumber form (b :: s) := by
  cases h with
  | number hNumber => exact ⟨_, rfl, hNumber⟩
  | _ => exact absurd hFirst (by decide)

theorem Spells.eq_list (h : Spells v (byte '[' :: s)) :
    ∃ elements, v = .list elements ∧ SpellsElements true elements s := by
  cases h with
  | list hElements => exact ⟨_, rfl, hElements⟩
  | number hNumber => exact absurd (number_of_spellsNumber hNumber) (by decide)

theorem Spells.eq_object (h : Spells v (byte '\x7b' :: s)) :
    ∃ members, v = .object members ∧ SpellsMembers true members s := by
  cases h with
  | object hMembers => exact ⟨_, rfl, hMembers⟩
  | number hNumber => exact absurd (number_of_spellsNumber hNumber) (by decide)

end Firsts

section Scalars

variable {v : Value} {front s rest after : Bytes}

theorem readString_of_spells (h : Spells v s) (hFront : Blank front) {text : String} :
    readString (front ++ (s ++ rest)) = .ok (text, after) ↔ v = .text text ∧ after = rest := by
  rw [readString_eq_ok_iff]
  constructor
  · rintro ⟨b, behind, hSpace, rfl, hRead⟩
    obtain ⟨more, rfl, rfl⟩ := h.first hFront hSpace
    obtain ⟨t, u, rfl, hText, rfl⟩ := h.eq_text
    rw [List.append_assoc, List.singleton_append, readText_of_spells hText] at hRead
    cases hRead
    exact ⟨rfl, rfl⟩
  · rintro ⟨rfl, rfl⟩
    have hSpace := h.skipSpace_eq hFront after
    cases h with
    | text hText => exact ⟨_, _, hSpace, rfl, by simpa using readText_of_spells hText after⟩

theorem readOptionalString_of_spells (h : Spells v s) (hFront : Blank front)
    {text : Option String} :
    readOptionalString (front ++ (s ++ rest)) = .ok (text, after) ↔
      Scalar.optionalText.Means text v ∧ after = rest := by
  rw [readOptionalString_eq_ok_iff]
  constructor
  · rintro (⟨b, behind, hSpace, ⟨rfl, rfl⟩, hWord⟩ | ⟨t, rfl, hText⟩)
    · obtain ⟨more, rfl, rfl⟩ := h.first hFront hSpace
      obtain ⟨rfl, rfl⟩ := h.eq_null
      exact ⟨rfl, (List.append_cancel_left (readIdent_eq_ok_iff.mp hWord)).symm⟩
    · exact (readString_of_spells h hFront).mp hText
  · rintro ⟨hMeans, rfl⟩
    cases text with
    | none =>
        obtain rfl : v = .null := hMeans
        have hSpace := h.skipSpace_eq hFront after
        cases h with
        | null => exact .inl ⟨_, _, hSpace, ⟨rfl, rfl⟩, readIdent_eq_ok_iff.mpr rfl⟩
    | some t => exact .inr ⟨t, rfl, (readString_of_spells h hFront).mpr ⟨hMeans, rfl⟩⟩

theorem readFlag_of_spells (h : Spells v s) (hFront : Blank front) {flag : Bool} :
    readFlag (front ++ (s ++ rest)) = .ok (flag, after) ↔ v = .flag flag ∧ after = rest := by
  rw [readFlag_eq_ok_iff]
  constructor
  · rintro ⟨b, behind, hSpace, ⟨⟨rfl, rfl⟩, hWord⟩ | ⟨⟨rfl, rfl⟩, hWord⟩⟩
    · obtain ⟨more, rfl, rfl⟩ := h.first hFront hSpace
      obtain ⟨rfl, rfl⟩ := h.eq_yes
      exact ⟨rfl, (List.append_cancel_left (readIdent_eq_ok_iff.mp hWord)).symm⟩
    · obtain ⟨more, rfl, rfl⟩ := h.first hFront hSpace
      obtain ⟨rfl, rfl⟩ := h.eq_no
      exact ⟨rfl, (List.append_cancel_left (readIdent_eq_ok_iff.mp hWord)).symm⟩
  · rintro ⟨rfl, rfl⟩
    have hSpace := h.skipSpace_eq hFront after
    cases h with
    | yes => exact ⟨_, _, hSpace, .inl ⟨⟨rfl, rfl⟩, readIdent_eq_ok_iff.mpr rfl⟩⟩
    | no => exact ⟨_, _, hSpace, .inr ⟨⟨rfl, rfl⟩, readIdent_eq_ok_iff.mpr rfl⟩⟩

theorem readMoment_of_spells (h : Spells v s) (hFront : Blank front) {t : Timestamp} :
    readMoment (front ++ (s ++ rest)) = .ok (t, after) ↔
      Scalar.moment.Means t v ∧ after = rest := by
  have hString : readMoment (front ++ (s ++ rest)) = .ok (t, after) ↔
      ∃ text : String, Timestamp.read text.toList = .ok t ∧
        readString (front ++ (s ++ rest)) = .ok (text, after) := by
    simp only [readMoment_eq_ok_iff, readString_eq_ok_iff]
    constructor
    · rintro ⟨b, behind, hSpace, hQuote, text, hTime, hText⟩
      exact ⟨text, hTime, b, behind, hSpace, hQuote, hText⟩
    · rintro ⟨text, hTime, b, behind, hSpace, hQuote, hText⟩
      exact ⟨b, behind, hSpace, hQuote, text, hTime, hText⟩
  simp only [hString, readString_of_spells h hFront]
  constructor
  · rintro ⟨text, hTime, hValue, hRest⟩
    exact ⟨⟨text, hValue, hTime⟩, hRest⟩
  · rintro ⟨⟨text, hValue, hTime⟩, hRest⟩
    exact ⟨text, hTime, hValue, hRest⟩

/-- A whole number that stands for the value wanted, if it has at most 64 bits. -/
theorem readWholeNumber_of_spells (h : Spells v s) (hFront : Blank front) (hRest : StopsNumber rest)
    {α : Type} {expected : String} {ofInt? : Int → Option α} {value : α} {number : Int}
    (hTaken : ∀ i, ofInt? i = some value ↔ i = number) (hLow : -0x8000000000000000 ≤ number)
    (hHigh : number < UInt64.size) :
    readWholeNumber expected ofInt? (front ++ (s ++ rest)) = .ok (value, after) ↔
      v.IsInteger number ∧ after = rest := by
  rw [readWholeNumber_eq_ok_iff]
  constructor
  · rintro ⟨b, behind, hSpace, hFirst, n, hValue, hRead⟩
    obtain ⟨more, rfl, rfl⟩ := h.first hFront hSpace
    obtain ⟨form, rfl, hNumber⟩ := h.eq_number hFirst
    obtain ⟨i, hInteger, hSome⟩ := Option.bind_eq_some_iff.mp hValue
    obtain rfl := (hTaken i).mp hSome
    rw [readNumber, ← List.cons_append, readForm_of_spells hNumber hRest] at hRead
    simp only [bind_eq_ok, Except.ok.injEq, exists_eq_left', Prod.mk.injEq] at hRead
    obtain ⟨_, hForm, rfl, rfl⟩ := hRead
    exact ⟨isInteger_of_value hForm hInteger, rfl⟩
  · rintro ⟨hMeans, rfl⟩
    have hSpace := h.skipSpace_eq hFront after
    obtain ⟨form, rfl⟩ : ∃ form, v = .number form := by
      rcases hMeans with ⟨-, ⟨digits, hForm, -⟩, -⟩ | ⟨digits, hForm, -, -⟩
      · exact ⟨_, hForm⟩
      · exact ⟨_, hForm⟩
    cases h with
    | number hNumber =>
        obtain ⟨n, hForm, hInteger⟩ := exists_value_of_isInteger hMeans hLow hHigh
        have hRead := readNumber_of_form (readForm_of_spells hNumber hRest) hForm
        obtain ⟨b, more, rfl, hFirst⟩ := exists_cons_of_spellsNumber hNumber
        exact ⟨b, _, hSpace, hFirst, n, by rw [hInteger]; exact (hTaken _).mpr rfl, hRead⟩

theorem Value.isInteger_natCast {n : Nat} : v.IsInteger (n : Int) ↔ v.IsNatural n := by
  constructor
  · rintro (⟨m, hNatural, hSame⟩ | ⟨digits, -, hPos, hSame⟩)
    · rwa [Int.ofNat_inj.mp hSame]
    · omega
  · exact fun hNatural => .inl ⟨n, hNatural, rfl⟩

theorem readNatural_of_spells (h : Spells v s) (hFront : Blank front) (hRest : StopsNumber rest)
    {α : Type} {expected : String} {ofInt? : Int → Option α} {value : α} {number : Nat}
    (hTaken : ∀ i, ofInt? i = some value ↔ i = number) (hSmall : number < UInt64.size) :
    readWholeNumber expected ofInt? (front ++ (s ++ rest)) = .ok (value, after) ↔
      v.IsNatural number ∧ after = rest := by
  rw [readWholeNumber_of_spells h hFront hRest hTaken (by omega) (Int.ofNat_lt.mpr hSmall),
    Value.isInteger_natCast]

theorem natBelow?_eq_some_iff {bound n : Nat} {i : Int} :
    natBelow? bound i = some n ↔ n < bound ∧ i = n := by
  rw [natBelow?]
  split
  · rw [Option.some.injEq]
    omega
  · refine iff_of_false (Option.some_ne_none n).symm ?_
    omega

theorem int64?_eq_some_iff {i : Int} {x : Int64} : int64? i = some x ↔ i = x.toInt := by
  constructor
  · intro h
    rw [int64?] at h
    split at h
    · next hRange =>
      cases h
      rw [Int64.toInt_ofInt_of_le hRange.1 (Int.lt_add_one_of_le hRange.2)]
    · cases h
  · rintro rfl
    exact Scalar.int64?_toInt x

/-- Reading a value of a kind gives what the value means, and stops behind it. -/
theorem Scalar.read_of_spells (kind : Scalar) (h : Spells v s) (hFront : Blank front)
    (hRest : StopsNumber rest) {x : kind.Carrier} :
    kind.read (front ++ (s ++ rest)) = .ok (x, after) ↔ kind.Means x v ∧ after = rest := by
  cases kind with
  | text => exact readString_of_spells h hFront
  | optionalText => exact readOptionalString_of_spells h hFront
  | flag => exact readFlag_of_spells h hFront
  | moment => exact readMoment_of_spells h hFront
  | count =>
      have hTaken (i : Int) : (natBelow? UInt32.size i).map UInt32.ofNat = some x ↔ i = x.toNat := by
        simp only [Option.map_eq_some_iff, natBelow?_eq_some_iff]
        constructor
        · rintro ⟨n, ⟨hSmall, rfl⟩, rfl⟩
          rw [UInt32.toNat_ofNat_of_lt' hSmall]
        · exact fun hSame => ⟨x.toNat, ⟨x.toNat_lt, hSame⟩, UInt32.ofNat_toNat⟩
      simp only [read, Means]
      exact readNatural_of_spells h hFront hRest hTaken (Nat.lt_trans x.toNat_lt (by decide))
  | id =>
      have hTaken (i : Int) : (natBelow? UInt64.size i).map UInt64.ofNat = some x ↔ i = x.toNat := by
        simp only [Option.map_eq_some_iff, natBelow?_eq_some_iff]
        constructor
        · rintro ⟨n, ⟨hSmall, rfl⟩, rfl⟩
          rw [UInt64.toNat_ofNat_of_lt' hSmall]
        · exact fun hSame => ⟨x.toNat, ⟨x.toNat_lt, hSame⟩, UInt64.ofNat_toNat⟩
      simp only [read, Means]
      exact readNatural_of_spells h hFront hRest hTaken x.toNat_lt
  | place =>
      simp only [read, Means]
      by_cases hSmall : x < UInt64.size
      · have hTaken (i : Int) : natBelow? UInt64.size i = some x ↔ i = x :=
          natBelow?_eq_some_iff.trans (and_iff_right hSmall)
        rw [readNatural_of_spells h hFront hRest hTaken hSmall, and_iff_left hSmall]
      · refine iff_of_false (fun hRead => ?_) fun hMeans => hSmall hMeans.1.2
        have hFits : Scalar.place.Fits x := Scalar.fits_of_read hRead
        exact hSmall hFits
  | balance =>
      have hLow : -0x8000000000000000 ≤ x.toInt := x.minValue_le_toInt
      have hHigh : x.toInt ≤ 0x7FFFFFFFFFFFFFFF := x.toInt_le
      simp only [read, Means]
      exact readWholeNumber_of_spells h hFront hRest (fun i => int64?_eq_some_iff) hLow
        (Int.lt_of_le_of_lt hHigh (by decide))

end Scalars

end EquipmentBooking.Json

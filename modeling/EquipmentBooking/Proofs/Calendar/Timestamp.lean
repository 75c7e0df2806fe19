import EquipmentBooking.Calendar.Timestamp
import EquipmentBooking.Proofs.Calendar.Reading

/-! Reading a timestamp undoes writing it. Fractions are written with as many places as they need, which
the reader counts, and offsets with two digits for the hours and two for the minutes. -/
namespace EquipmentBooking.Timestamp

open Calendar Text Text.Numeral

section Parts

variable {n : Nat} {rest : List Char}

/-- An offset begins with a letter or a sign. -/
theorem offsetChars_eq_cons (offset : Int) :
    ∃ c more, offsetChars offset = c :: more ∧ c.isDigit = false ∧ isBlank c = false ∧ c ≠ '.' := by
  unfold offsetChars
  split
  · exact ⟨'Z', [], rfl, by decide, by decide, by decide⟩
  · split
    · exact ⟨'-', _, rfl, by decide, by decide, by decide⟩
    · exact ⟨'+', _, rfl, by decide, by decide, by decide⟩

theorem stopsDigits_offsetChars (offset : Int) : StopsDigits (offsetChars offset) := by
  obtain ⟨c, more, hOffset, hDigit, -⟩ := offsetChars_eq_cons offset
  rw [hOffset]
  exact stopsDigits_cons hDigit more

theorem trimStart_offsetChars (offset : Int) :
    trimStart (offsetChars offset) = offsetChars offset := by
  obtain ⟨c, more, hOffset, -, hBlank, -⟩ := offsetChars_eq_cons offset
  rw [hOffset, trimStart_cons hBlank]

theorem dropWhile_digits_of_stops (h : StopsDigits rest) :
    rest.dropWhile (fun c => (digit? c).isSome) = rest := by
  cases rest with
  | nil => rfl
  | cons c rest => simp [digit?_of_not_isDigit (h c rfl)]

/-- The places of a fraction raise its digits to nanoseconds. -/
theorem readFraction_padded {width : Nat} (hWidth : 0 < width) (hNine : width ≤ 9)
    (hSize : n < Nat.pow 10 width) (hStop : StopsDigits rest) :
    readFraction ('.' :: (padded width n ++ rest)) = .ok (n * Nat.pow 10 (9 - width), rest) := by
  have hLength : (padded width n).length = width := length_padded hWidth hSize
  have hNumber := ofDigitChars_padded width n
  have hSmall : Nat.pow 10 width ≤ Nat.pow 10 9 := Nat.pow_le_pow_right (by decide) hNine
  have hBound : n < 0x8000000000000000 :=
    Nat.lt_trans (Nat.lt_of_lt_of_le hSize hSmall) (by decide)
  have hRead : Calendar.readNumber 9 (padded width n ++ rest) = .ok (n, rest) := by
    rw [readNumber_append (isDigits_padded width n) (padded_ne_nil width n) (by omega) (.inr hStop)
      (by omega), hNumber]
  simp [readFraction, hRead, bind, Except.bind, hLength, dropWhile_digits_of_stops hStop]

theorem readFraction_of_stops (h : ∀ c, rest.head? = some c → c ≠ '.') :
    readFraction rest = .ok (0, rest) := by
  unfold readFraction
  split
  · next more => exact absurd rfl (h '.' rfl)
  · rfl

/-- The fraction is read up to an offset. -/
theorem readFraction_fractionChars (hSize : n < 1000000000) (offset : Int) :
    readFraction (fractionChars n ++ offsetChars offset) = .ok (n, offsetChars offset) := by
  have hStop := stopsDigits_offsetChars offset
  unfold fractionChars
  split
  · next hZero =>
    obtain ⟨c, more, hOffset, -, -, hPoint⟩ := offsetChars_eq_cons offset
    rw [List.nil_append, hZero]
    apply readFraction_of_stops
    intro d hd
    rw [hOffset] at hd
    cases hd
    exact hPoint
  · split
    · have hPlaces : n / 1000000 * Nat.pow 10 (9 - 3) = n := by
        show n / 1000000 * 1000000 = n
        omega
      have hFits : n / 1000000 < Nat.pow 10 3 := by
        show n / 1000000 < 1000
        omega
      rw [List.cons_append, readFraction_padded (by decide) (by decide) hFits hStop, hPlaces]
    · split
      · have hPlaces : n / 1000 * Nat.pow 10 (9 - 6) = n := by
          show n / 1000 * 1000 = n
          omega
        have hFits : n / 1000 < Nat.pow 10 6 := by
          show n / 1000 < 1000000
          omega
        rw [List.cons_append, readFraction_padded (by decide) (by decide) hFits hStop, hPlaces]
      · have hPlaces : n * Nat.pow 10 (9 - 9) = n := Nat.mul_one n
        rw [List.cons_append, readFraction_padded (by decide) (by decide) hSize hStop, hPlaces]

end Parts

section Offset

variable {n : Nat} {rest : List Char}

theorem readPair_padded (h : n < 100) (rest : List Char) :
    readPair (padded 2 n ++ rest) = .ok ((n / 10, n % 10), rest) := by
  rw [padded_two h]
  simp [readPair, underTwoBytes, digit?_digitChar (show n / 10 < 10 by omega),
    digit?_digitChar (show n % 10 < 10 by omega)]

/-- An offset is below a day, so two digits are enough for its hours. -/
theorem readOffsetSize_padded (h : n < 1440) :
    readOffsetSize (padded 2 (n / 60) ++ ':' :: padded 2 (n % 60)) = .ok (n, []) := by
  have hHours := readPair_padded (show n / 60 < 100 by omega) (':' :: padded 2 (n % 60))
  have hMinutes := readPair_padded (show n % 60 < 100 by omega) []
  rw [List.append_nil] at hMinutes
  have hColon : (':' :: padded 2 (n % 60)).dropWhile (fun c => c == ':' || isBlank c) =
      padded 2 (n % 60) := by
    have hNone (d : Nat) (hd : d < 10) :
        (Nat.digitChar d == ':' || isBlank (Nat.digitChar d)) = false := by
      have hDigit : (Nat.digitChar d).isDigit = true := by
        rw [Nat.isDigit_digitChar]
        exact decide_eq_true hd
      rw [isBlank_of_isDigit hDigit, Bool.or_false, beq_eq_false_iff_ne]
      intro hColon
      rw [hColon] at hDigit
      cases hDigit
    rw [padded_two (by omega)]
    simp [hNone (n % 60 / 10) (by omega)]
  have hRange : ¬ 6 ≤ n % 60 / 10 := by omega
  have hSum : (n / 60 / 10 * 10 + n / 60 % 10) * 60 + n % 60 / 10 * 10 + n % 60 % 10 = n := by omega
  simp only [readOffsetSize, hHours, hColon, hMinutes, bind, Except.bind, hRange, ↓reduceIte, hSum]

theorem readOffset_minus (h : n < 1440) :
    readOffset ('-' :: (padded 2 (n / 60) ++ ':' :: padded 2 (n % 60))) = .ok (-(n : Int), []) := by
  simp [readOffset, startsWithUtc, readOffsetSize_padded h, Except.map]

theorem readOffset_plus (h : n < 1440) :
    readOffset ('+' :: (padded 2 (n / 60) ++ ':' :: padded 2 (n % 60))) = .ok ((n : Int), []) := by
  simp [readOffset, startsWithUtc, readOffsetSize_padded h, Except.map]

theorem readOffset_offsetChars {offset : Int} (h : offset.natAbs < 1440) :
    readOffset (offsetChars offset) = .ok (offset, []) := by
  unfold offsetChars
  split
  · next hZero =>
    rw [hZero]
    rfl
  · split
    · have hValue : -(offset.natAbs : Int) = offset := by omega
      rw [readOffset_minus h, hValue]
    · have hValue : (offset.natAbs : Int) = offset := by omega
      rw [readOffset_plus h, hValue]

end Offset

/-- The written form of a timestamp is read as that timestamp. -/
theorem read_chars (t : Timestamp) : read t.chars = .ok t := by
  have hMonth := t.date.month_le
  have hDay := Nat.le_trans t.date.day_le (daysInMonth_le t.date.year t.date.month)
  have hHour := t.clock.hour.isLt
  have hMinute := t.clock.minute.isLt
  have hSecond := t.second.isLt
  have hHyphen (rest : List Char) : trimStart ('-' :: rest) = '-' :: rest :=
    trimStart_cons (by decide) rest
  have hColon (rest : List Char) : trimStart (':' :: rest) = ':' :: rest :=
    trimStart_cons (by decide) rest
  have hEnd : trimStart [] = [] := rfl
  have hYear (rest : List Char) := readYear_yearChars (Nat.lt_trans t.date.natAbs_year_lt (by decide))
    (stopsDigits_cons (show '-'.isDigit = false by decide) rest)
  simp [read, chars, Date.chars, TimeOfDay.chars, hYear, hHyphen, hColon, skip_cons,
    readSmall_padded t.date.month_pos hMonth (by omega),
    readSmall_padded t.date.day_pos hDay (by omega),
    readSmall_padded (Nat.zero_le t.clock.hour.val) (Nat.le_of_lt_succ hHour) (by omega),
    readSmall_padded (Nat.zero_le t.clock.minute.val) (Nat.le_of_lt_succ hMinute) (by omega),
    readSmall_padded (Nat.zero_le t.second.val) (Nat.le_of_lt_succ hSecond) (by omega),
    readFraction_fractionChars t.nanosecond.isLt, trimStart_offsetChars,
    readOffset_offsetChars t.offset_lt, Date.of?_self, assemble, t.offset_lt, t.inside,
    TimeOfDay.ofNumbers, hEnd, bind, Except.bind]

end EquipmentBooking.Timestamp

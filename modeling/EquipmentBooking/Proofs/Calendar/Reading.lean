import EquipmentBooking.Calendar.Reading
import EquipmentBooking.Proofs.Calendar.Days
import EquipmentBooking.Proofs.Text.Numeral

/-! Reading dates and times of day undoes writing them. Every number in them is written with as many
digits as its reader takes, or is followed by something that is no digit. -/
namespace EquipmentBooking.Calendar

open Text Text.Numeral

section Numbers

variable {budget low high n : Nat} {s rest : List Char}

/-- Digits are taken up as the number that they denote, up to the end of the budget or to something that
is no digit. -/
theorem moreDigits_append {value : Nat} (hDigits : IsDigits s) (hBudget : s.length ≤ budget)
    (hStop : s.length = budget ∨ StopsDigits rest)
    (hSize : Nat.ofDigitChars 10 s value < 0x8000000000000000) :
    moreDigits budget value (s ++ rest) = .ok (Nat.ofDigitChars 10 s value, rest) := by
  induction s generalizing budget value with
  | nil =>
      rw [Nat.ofDigitChars_nil, List.nil_append]
      cases budget with
      | zero => rfl
      | succ budget =>
          have hRest : StopsDigits rest := by
            rcases hStop with hFull | hRest
            · cases hFull
            · exact hRest
          cases rest with
          | nil => rfl
          | cons c rest => simp [moreDigits, digit?_of_not_isDigit (hRest c rfl)]
  | cons c s ih =>
      have hDigit := digit?_of_isDigit (hDigits c List.mem_cons_self)
      obtain ⟨left, rfl⟩ : ∃ left, budget = left + 1 := by
        rw [List.length_cons] at hBudget
        exact ⟨budget - 1, by omega⟩
      rw [Nat.ofDigitChars_cons, Nat.mul_comm] at hSize ⊢
      have hStep := le_ofDigitChars s (value * 10 + (c.toNat - '0'.toNat))
      have hLeft : s.length ≤ left := Nat.le_of_succ_le_succ hBudget
      have hMore := ih (fun d hd => hDigits d (List.mem_cons_of_mem c hd)) hLeft
        (hStop.imp_left Nat.succ.inj) hSize
      simp only [List.cons_append, moreDigits, hDigit]
      rw [if_pos (Nat.lt_of_le_of_lt hStep hSize), hMore]

theorem readNumber_append (hDigits : IsDigits s) (hSome : s ≠ []) (hBudget : s.length ≤ budget)
    (hStop : s.length = budget ∨ StopsDigits rest)
    (hSize : Nat.ofDigitChars 10 s 0 < 0x8000000000000000) :
    readNumber budget (s ++ rest) = .ok (Nat.ofDigitChars 10 s 0, rest) := by
  have hMore := moreDigits_append hDigits hBudget hStop hSize
  cases s with
  | nil => exact absurd rfl hSome
  | cons c s =>
      have hDigit := digit?_of_isDigit (hDigits c List.mem_cons_self)
      rw [List.cons_append] at hMore ⊢
      simp only [readNumber, hDigit, Option.isSome_some, ↓reduceIte, hMore]

theorem isBlank_of_isDigit {c : Char} (h : c.isDigit = true) : isBlank c = false := by
  have hRange := toNat_of_isDigit h
  simp only [isBlank, Bool.or_eq_false_iff, Bool.and_eq_false_iff, decide_eq_false_iff_not,
    beq_eq_false_iff_ne]
  omega

theorem trimStart_cons {c : Char} (h : isBlank c = false) (s : List Char) :
    trimStart (c :: s) = c :: s := by
  simp [trimStart, h]

theorem trimStart_append (hDigits : IsDigits s) (hSome : s ≠ []) :
    trimStart (s ++ rest) = s ++ rest := by
  cases s with
  | nil => exact absurd rfl hSome
  | cons c s => exact trimStart_cons (isBlank_of_isDigit (hDigits c List.mem_cons_self)) _

/-- A number of two digits is read whatever follows it. -/
theorem readSmall_padded (hLow : low ≤ n) (hHigh : n ≤ high) (hSize : n < 100) (rest : List Char) :
    readSmall low high (padded 2 n ++ rest) = .ok (n, rest) := by
  have hDigits := isDigits_padded 2 n
  have hSome := padded_ne_nil 2 n
  have hLength : (padded 2 n).length = 2 := length_padded (by decide) hSize
  have hNumber := ofDigitChars_padded 2 n
  have hRead : readNumber 2 (padded 2 n ++ rest) = .ok (n, rest) := by
    rw [readNumber_append hDigits hSome (Nat.le_of_eq hLength) (.inl hLength) (by omega), hNumber]
  simp [readSmall, trimStart_append hDigits hSome, hRead, bind, Except.bind, hLow, hHigh]

end Numbers

section Dates

variable {rest : List Char}

/-- Behind a sign a number is read as far as its digits go. -/
theorem readNumber_behind_sign {n : Nat} (hSize : n < 0x80000000) (hStop : StopsDigits rest) :
    readNumber (padded 4 n ++ rest).length (padded 4 n ++ rest) = .ok (n, rest) := by
  have hNumber := ofDigitChars_padded 4 n
  rw [readNumber_append (isDigits_padded 4 n) (padded_ne_nil 4 n) (by simp) (.inr hStop) (by omega),
    hNumber]

theorem readYear_negative {n : Nat} (hSize : n < 0x80000000) (hStop : StopsDigits rest) :
    readYear ('-' :: (padded 4 n ++ rest)) = .ok (-(n : Int), rest) := by
  have hTrim := trimStart_cons (c := '-') (by decide) (padded 4 n ++ rest)
  have hRange : -0x80000000 ≤ -(n : Int) ∧ -(n : Int) < 0x80000000 := by omega
  simp [-List.length_append, readYear, hTrim, readNumber_behind_sign hSize hStop, Except.map, bind,
    Except.bind, hRange]

theorem readYear_positive {n : Nat} (hSize : n < 0x80000000) (hStop : StopsDigits rest) :
    readYear ('+' :: (padded 4 n ++ rest)) = .ok ((n : Int), rest) := by
  have hTrim := trimStart_cons (c := '+') (by decide) (padded 4 n ++ rest)
  have hRange : -0x80000000 ≤ (n : Int) ∧ (n : Int) < 0x80000000 := by omega
  simp [-List.length_append, readYear, hTrim, readNumber_behind_sign hSize hStop, Except.map, bind,
    Except.bind, hRange]

/-- A year of four digits needs no sign, even if more digits follow. -/
theorem readYear_plain {n : Nat} (hSize : n < 10000) (rest : List Char) :
    readYear (padded 4 n ++ rest) = .ok ((n : Int), rest) := by
  have hDigits := isDigits_padded 4 n
  have hSome := padded_ne_nil 4 n
  have hLength : (padded 4 n).length = 4 := length_padded (by decide) hSize
  have hNumber := ofDigitChars_padded 4 n
  have hRead : readNumber 4 (padded 4 n ++ rest) = .ok (n, rest) := by
    rw [readNumber_append hDigits hSome (Nat.le_of_eq hLength) (.inl hLength) (by omega), hNumber]
  have hRange : -0x80000000 ≤ (n : Int) ∧ (n : Int) < 0x80000000 := by omega
  rw [readYear, trimStart_append hDigits hSome]
  -- a text that begins with a digit begins with neither sign
  have hSign : ∀ sign more, sign.isDigit = false → padded 4 n ++ rest ≠ sign :: more := by
    intro sign more hSign hSame
    cases hPadded : padded 4 n with
    | nil => exact hSome hPadded
    | cons c s =>
        have hDigit := hDigits c (by rw [hPadded]; exact List.mem_cons_self)
        rw [hPadded, List.cons_append, List.cons.injEq] at hSame
        rw [hSame.1, hSign] at hDigit
        cases hDigit
  split
  · next more hMinus => exact absurd hMinus (hSign '-' more rfl)
  · next more hPlus => exact absurd hPlus (hSign '+' more rfl)
  · simp [hRead, Except.map, bind, Except.bind, hRange]

/-- A year of more than four digits has a sign. -/
theorem readYear_yearChars {year : Int} (hSize : year.natAbs < 0x80000000)
    (hStop : StopsDigits rest) : readYear (Date.yearChars year ++ rest) = .ok (year, rest) := by
  unfold Date.yearChars
  split
  · next hNegative =>
    have hValue : -(year.natAbs : Int) = year := by omega
    rw [List.cons_append, readYear_negative hSize hStop, hValue]
  · have hValue : (year.natAbs : Int) = year := by omega
    split
    · rw [List.cons_append, readYear_positive hSize hStop, hValue]
    · rw [readYear_plain (by omega), hValue]

theorem skip_cons (c : Char) (s : List Char) : skip c (c :: s) = .ok s := by
  simp [skip]

/-- The text of a date is read as that date. -/
theorem readDate_chars (d : Date) : readDate d.chars = .ok d := by
  have hDay := Nat.le_trans d.day_le (daysInMonth_le d.year d.month)
  have hMonth := d.month_le
  have hHyphen : '-'.isDigit = false := by decide
  have hYear := readYear_yearChars (Nat.lt_trans d.natAbs_year_lt (by decide))
    (stopsDigits_cons hHyphen (padded 2 d.month ++ '-' :: padded 2 d.day))
  have hRest := readSmall_padded d.day_pos hDay (by omega) []
  rw [List.append_nil] at hRest
  simp [readDate, Date.chars, hYear, skip_cons, readSmall_padded d.month_pos hMonth (by omega),
    hRest, Date.of?_self, bind, Except.bind]

/-- The text of a time of day is read as that time. -/
theorem readTimeOfDay_chars (t : TimeOfDay) : readTimeOfDay t.chars = .ok t := by
  have hHour := t.hour.isLt
  have hMinute := t.minute.isLt
  have hRest := readSmall_padded (Nat.zero_le t.minute.val) (Nat.le_of_lt_succ hMinute) (by omega) []
  rw [List.append_nil] at hRest
  simp [readTimeOfDay, TimeOfDay.chars, skip_cons,
    readSmall_padded (Nat.zero_le t.hour.val) (Nat.le_of_lt_succ hHour) (by omega), hRest,
    TimeOfDay.ofNumbers, bind, Except.bind]

end Dates

end EquipmentBooking.Calendar

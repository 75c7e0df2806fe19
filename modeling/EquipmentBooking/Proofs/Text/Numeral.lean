import EquipmentBooking.Text.Numeral

/-! Digits and the number that they denote, which is the library's `ofDigitChars`. Writing a number and
taking its digits for one undoes it, with or without zeros in front. -/
namespace EquipmentBooking.Text.Numeral

theorem digit?_of_isDigit {c : Char} (h : c.isDigit = true) :
    digit? c = some (c.toNat - '0'.toNat) := by
  rw [Char.isDigit, Bool.and_eq_true, decide_eq_true_eq, decide_eq_true_eq] at h
  exact if_pos h

theorem digit?_of_not_isDigit {c : Char} (h : c.isDigit = false) : digit? c = none := by
  apply if_neg
  intro hRange
  rw [Char.isDigit, Bool.and_eq_false_iff, decide_eq_false_iff_not, decide_eq_false_iff_not] at h
  exact h.elim (absurd hRange.1) (absurd hRange.2)

theorem toNat_of_isDigit {c : Char} (h : c.isDigit = true) : 48 ≤ c.toNat ∧ c.toNat ≤ 57 := by
  rw [Char.isDigit, Bool.and_eq_true, decide_eq_true_eq, decide_eq_true_eq, ge_iff_le,
    UInt32.le_iff_toNat_le, UInt32.le_iff_toNat_le] at h
  exact h

def IsDigits (s : List Char) : Prop :=
  ∀ c ∈ s, c.isDigit = true

instance (s : List Char) : Decidable (IsDigits s) :=
  List.decidableBAll (fun c : Char => c.isDigit = true) s

theorem isDigits_digits (n : Nat) : IsDigits (digits n) := by
  intro c hc
  exact Nat.isDigit_of_mem_toDigits (by decide) (by decide) hc

theorem isDigits_padded (width n : Nat) : IsDigits (padded width n) := by
  intro c hc
  rcases List.mem_append.mp hc with hZero | hDigit
  · rw [List.eq_of_mem_replicate hZero]
    rfl
  · exact isDigits_digits n c hDigit

/-- Nothing that could be taken for a further digit. -/
def StopsDigits (rest : List Char) : Prop :=
  ∀ c, rest.head? = some c → c.isDigit = false

theorem stopsDigits_cons {c : Char} (h : c.isDigit = false) (rest : List Char) :
    StopsDigits (c :: rest) := by
  intro d hd
  cases hd
  exact h

theorem digits_ne_nil (n : Nat) : digits n ≠ [] :=
  Nat.toDigits_ne_nil

theorem exists_digits_eq_cons (n : Nat) : ∃ c s, digits n = c :: s ∧ c.isDigit = true := by
  have hDigits := isDigits_digits n
  cases hCons : digits n with
  | nil => exact absurd hCons (digits_ne_nil n)
  | cons c s =>
      rw [hCons] at hDigits
      exact ⟨c, s, rfl, hDigits c List.mem_cons_self⟩

theorem padded_ne_nil (width n : Nat) : padded width n ≠ [] := by
  simp [padded, digits_ne_nil]

/-- Only zero itself is written with a zero in front. -/
theorem head?_digits {n : Nat} (h : 0 < n) : (digits n).head? ≠ some '0' := by
  induction n using Nat.strongRecOn with
  | ind n ih =>
      by_cases hOne : n < 10
      · rw [digits, Nat.toDigits_of_lt_base hOne]
        simp
        omega
      · have hTens := ih (n / 10) (by omega) (by omega)
        rw [digits] at hTens ⊢
        rw [Nat.toDigits_of_base_le (by decide) (Nat.le_of_not_lt hOne), List.head?_append]
        cases hHead : (Nat.toDigits 10 (n / 10)).head? with
        | none => exact absurd (List.head?_eq_none_iff.mp hHead) Nat.toDigits_ne_nil
        | some c =>
            rw [hHead] at hTens
            exact hTens

theorem ofDigitChars_digits (n : Nat) : Nat.ofDigitChars 10 (digits n) 0 = n :=
  Nat.ofDigitChars_ten_toDigits

theorem ofDigitChars_padded (width n : Nat) : Nat.ofDigitChars 10 (padded width n) 0 = n := by
  rw [padded, Nat.ofDigitChars_append, Nat.ofDigitChars_replicate_zero, Nat.mul_zero,
    ofDigitChars_digits]

/-- Zeros fill a number up to the width, which it has room in. -/
theorem length_padded {width n : Nat} (hWidth : 0 < width) (h : n < Nat.pow 10 width) :
    (padded width n).length = width := by
  have hLength : (digits n).length ≤ width := (Nat.length_toDigits_le_iff (by decide) hWidth).mpr h
  rw [padded, List.length_append, List.length_replicate]
  omega

theorem digit?_digitChar {d : Nat} (h : d < 10) : digit? (Nat.digitChar d) = some d := by
  have hDigit : (Nat.digitChar d).isDigit = true := by
    rw [Nat.isDigit_digitChar]
    exact decide_eq_true h
  rw [digit?_of_isDigit hDigit, Nat.toNat_digitChar_of_lt_ten h]
  show some (48 + d - 48) = some d
  rw [Nat.add_sub_cancel_left]

theorem padded_two (h : n < 100) :
    padded 2 n = [Nat.digitChar (n / 10), Nat.digitChar (n % 10)] := by
  rw [padded, digits]
  by_cases hOne : n < 10
  · rw [Nat.toDigits_of_lt_base hOne, Nat.div_eq_of_lt hOne, Nat.mod_eq_of_lt hOne]
    rfl
  · have hTens : n / 10 < 10 := by omega
    rw [Nat.toDigits_of_base_le (by decide) (Nat.le_of_not_lt hOne), Nat.toDigits_of_lt_base hTens]
    rfl

/-- More digits do not make a number smaller. -/
theorem le_ofDigitChars (s : List Char) (value : Nat) : value ≤ Nat.ofDigitChars 10 s value := by
  induction s generalizing value with
  | nil => simp
  | cons c s ih =>
      rw [Nat.ofDigitChars_cons]
      have hRest := ih (10 * value + (c.toNat - '0'.toNat))
      omega

end EquipmentBooking.Text.Numeral

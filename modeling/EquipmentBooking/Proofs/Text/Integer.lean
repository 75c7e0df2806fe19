import EquipmentBooking.Proofs.Except
import EquipmentBooking.Proofs.Text.Numeral
import Mathlib.Algebra.Group.Int.Defs
import Mathlib.Algebra.Group.Nat.Defs

/-! The texts that are read as numbers: which they are, which number each of them denotes, and when that
number is too large. Zeros in front make no difference, and every number without a limit has a text. -/
namespace EquipmentBooking.Text.Numeral

variable {s : List Char} {c : Char} {limit value m n : Nat}

/-- One or more digits that denote `n`. Zeros in front do not count. -/
structure IsNumeral (s : List Char) (n : Nat) : Prop where
  ne_nil : s ≠ []
  digits : IsDigits s
  value_eq : Nat.ofDigitChars 10 s 0 = n

def IsNatural (s : List Char) (n : Nat) : Prop :=
  IsNumeral s n ∨ ∃ rest, s = '+' :: rest ∧ IsNumeral rest n

/-- Digits with a sign or none. Zero may be negative. -/
def IsInteger (s : List Char) (n : Int) : Prop :=
  (∃ m : Nat, IsNatural s m ∧ n = m) ∨
    ∃ (rest : List Char) (m : Nat), s = '-' :: rest ∧ IsNumeral rest m ∧ n = -m

theorem isNumeral_digits (n : Nat) : IsNumeral (digits n) n where
  ne_nil := digits_ne_nil n
  digits := isDigits_digits n
  value_eq := ofDigitChars_digits n

theorem IsNumeral.unique (h : IsNumeral s m) (h' : IsNumeral s n) : m = n :=
  h.value_eq.symm.trans h'.value_eq

theorem IsNumeral.not_mem (h : IsNumeral s n) (hOther : c.isDigit = false) : c ∉ s := by
  intro hMem
  have hDigit := h.digits c hMem
  rw [hOther] at hDigit
  cases hDigit

theorem not_isNumeral_of_not_isDigit (hSign : c.isDigit = false) : ¬ IsNumeral (c :: s) n :=
  fun h => h.not_mem hSign List.mem_cons_self

theorem IsNatural.ne_nil (h : IsNatural s n) : s ≠ [] := by
  rcases h with hPlain | ⟨rest, rfl, -⟩
  · exact hPlain.ne_nil
  · exact List.cons_ne_nil _ _

theorem IsNatural.not_mem (h : IsNatural s n) (hOther : c.isDigit = false) (hSign : c ≠ '+') :
    c ∉ s := by
  rcases h with hPlain | ⟨rest, rfl, hRest⟩
  · exact hPlain.not_mem hOther
  · simp [hSign, hRest.not_mem hOther]

theorem isNatural_plus_iff : IsNatural ('+' :: s) n ↔ IsNumeral s n := by
  simp [IsNatural, not_isNumeral_of_not_isDigit (show '+'.isDigit = false from rfl)]

theorem isNatural_iff_of_ne_plus (h : s.head? ≠ some '+') : IsNatural s n ↔ IsNumeral s n := by
  constructor
  · rintro (hPlain | ⟨rest, rfl, -⟩)
    · exact hPlain
    · exact absurd rfl h
  · exact .inl

/-- A text denotes one number at most. -/
theorem IsNatural.unique (h : IsNatural s m) (h' : IsNatural s n) : m = n := by
  by_cases hSign : s.head? = some '+'
  · obtain ⟨rest, rfl⟩ := List.head?_eq_some_iff.mp hSign
    exact (isNatural_plus_iff.mp h).unique (isNatural_plus_iff.mp h')
  · rw [isNatural_iff_of_ne_plus hSign] at h h'
    exact h.unique h'

theorem isInteger_minus_iff {n : Int} :
    IsInteger ('-' :: s) n ↔ ∃ m : Nat, IsNumeral s m ∧ n = -m := by
  simp [IsInteger, IsNatural, not_isNumeral_of_not_isDigit (show '-'.isDigit = false from rfl)]

theorem isInteger_iff_of_ne_minus {n : Int} (h : s.head? ≠ some '-') :
    IsInteger s n ↔ ∃ m : Nat, IsNatural s m ∧ n = m := by
  constructor
  · rintro (hPlain | ⟨rest, m, rfl, -, -⟩)
    · exact hPlain
    · exact absurd rfl h
  · exact .inl

/-- The digits of a text are consumed to the end, or up to the first one that leads beyond the limit. -/
theorem accumulate_of_isDigits (hDigits : IsDigits s) (hValue : value ≤ limit) :
    accumulate limit value s =
      if Nat.ofDigitChars 10 s value ≤ limit then .ok (Nat.ofDigitChars 10 s value)
      else .error .outOfRange := by
  induction s generalizing value with
  | nil => simp [accumulate, hValue]
  | cons c s ih =>
      have hDigit := digit?_of_isDigit (hDigits c List.mem_cons_self)
      rw [accumulate, hDigit, Nat.ofDigitChars_cons, Nat.mul_comm 10]
      by_cases hStep : value * 10 + (c.toNat - '0'.toNat) ≤ limit
      · simp only [if_pos hStep]
        exact ih (fun d hd => hDigits d (List.mem_cons_of_mem c hd)) hStep
      · have hMore := le_ofDigitChars s (value * 10 + (c.toNat - '0'.toNat))
        simp only [if_neg hStep]
        rw [if_neg (by omega)]

theorem isDigits_of_accumulate (h : accumulate limit value s = .ok n) : IsDigits s := by
  induction s generalizing value with
  | nil => exact List.forall_mem_nil _
  | cons c s ih =>
      rw [accumulate] at h
      cases hDigit : c.isDigit with
      | false =>
          rw [digit?_of_not_isDigit hDigit] at h
          cases h
      | true =>
          rw [digit?_of_isDigit hDigit] at h
          simp only at h
          split at h
          · exact List.forall_mem_cons.mpr ⟨hDigit, ih h⟩
          · cases h

theorem readDigits_of_isNumeral (h : IsNumeral s n) :
    readDigits limit s = if n ≤ limit then .ok n else .error .outOfRange := by
  have hRead := accumulate_of_isDigits h.digits (Nat.zero_le limit)
  rw [h.value_eq] at hRead
  cases s with
  | nil => exact absurd rfl h.ne_nil
  | cons c s => exact hRead

/-- Numbers are read from numerals up to the limit, and from nothing else. -/
theorem readDigits_eq_ok_iff : readDigits limit s = .ok n ↔ IsNumeral s n ∧ n ≤ limit := by
  constructor
  · intro h
    cases s with
    | nil => cases h
    | cons c s =>
        have hNumeral : IsNumeral (c :: s) (Nat.ofDigitChars 10 (c :: s) 0) :=
          ⟨List.cons_ne_nil c s, isDigits_of_accumulate h, rfl⟩
        rw [readDigits_of_isNumeral hNumeral] at h
        split at h
        · next hLimit =>
          cases h
          exact ⟨hNumeral, hLimit⟩
        · cases h
  · rintro ⟨hNumeral, hLimit⟩
    rw [readDigits_of_isNumeral hNumeral, if_pos hLimit]

theorem readNatural_plus (limit : Nat) (s : List Char) :
    readNatural limit ('+' :: s) = readDigits limit s :=
  rfl

theorem readNatural_of_ne_plus (h : s.head? ≠ some '+') : readNatural limit s = readDigits limit s := by
  unfold readNatural
  split
  · exact absurd rfl h
  · rfl

/-- What is read up to a limit are the numbers up to it, with a plus sign or none. -/
theorem readNatural_eq_ok_iff : readNatural limit s = .ok n ↔ IsNatural s n ∧ n ≤ limit := by
  by_cases hSign : s.head? = some '+'
  · obtain ⟨rest, rfl⟩ := List.head?_eq_some_iff.mp hSign
    rw [readNatural_plus, readDigits_eq_ok_iff, isNatural_plus_iff]
  · rw [readNatural_of_ne_plus hSign, readDigits_eq_ok_iff, isNatural_iff_of_ne_plus hSign]

theorem readNatural_of_isNatural (h : IsNatural s n) :
    readNatural limit s = if n ≤ limit then .ok n else .error .outOfRange := by
  by_cases hSign : s.head? = some '+'
  · obtain ⟨rest, rfl⟩ := List.head?_eq_some_iff.mp hSign
    rw [readNatural_plus, readDigits_of_isNumeral (isNatural_plus_iff.mp h)]
  · rw [readNatural_of_ne_plus hSign,
      readDigits_of_isNumeral ((isNatural_iff_of_ne_plus hSign).mp h)]

/-- A number within the limit is read back from its digits. -/
theorem readNatural_digits (h : n ≤ limit) : readNatural limit (digits n) = .ok n :=
  readNatural_eq_ok_iff.mpr ⟨.inl (isNumeral_digits n), h⟩

theorem readSigned64_minus (s : List Char) :
    readSigned64 ('-' :: s) =
      (readDigits 0x8000000000000000 s).map fun n : Nat => -(n : Int) := by
  change Except.map _ (readDigits 0x8000000000000000 s >>= fun n => pure (n : Int)) = _
  cases readDigits 0x8000000000000000 s <;> rfl

theorem readSigned64_of_ne_minus (h : s.head? ≠ some '-') :
    readSigned64 s = (readNatural 0x7FFFFFFFFFFFFFFF s).map fun n : Nat => (n : Int) := by
  have hSame (x : Except Issue Nat) : Except.map (fun n : Int => n) (x >>= fun n => pure (n : Int)) =
      x.map fun n : Nat => (n : Int) := by
    cases x <;> rfl
  unfold readSigned64
  split
  · exact absurd rfl h
  · exact hSame _
  · next hPlus =>
    have hSign : s.head? ≠ some '+' := by
      intro hHead
      obtain ⟨rest, hRest⟩ := List.head?_eq_some_iff.mp hHead
      exact hPlus rest hRest
    rw [readNatural_of_ne_plus hSign]
    exact hSame _

/-- An integer is read as itself or said to be out of range, never to be malformed. -/
theorem readSigned64_of_isInteger {n : Int} (h : IsInteger s n) :
    readSigned64 s = if -2 ^ 63 ≤ n ∧ n < 2 ^ 63 then .ok n else .error .outOfRange := by
  by_cases hSign : s.head? = some '-'
  · obtain ⟨rest, rfl⟩ := List.head?_eq_some_iff.mp hSign
    obtain ⟨m, hNumeral, rfl⟩ := isInteger_minus_iff.mp h
    rw [readSigned64_minus, readDigits_of_isNumeral hNumeral]
    by_cases hLimit : m ≤ 0x8000000000000000
    · rw [if_pos hLimit, if_pos (by omega)]
      rfl
    · rw [if_neg hLimit, if_neg (by omega)]
      rfl
  · obtain ⟨m, hNatural, rfl⟩ := (isInteger_iff_of_ne_minus hSign).mp h
    rw [readSigned64_of_ne_minus hSign, readNatural_of_isNatural hNatural]
    by_cases hLimit : m ≤ 0x7FFFFFFFFFFFFFFF
    · rw [if_pos hLimit, if_pos (by omega)]
      rfl
    · rw [if_neg hLimit, if_neg (by omega)]
      rfl

/-- The numbers of 64 bits are read, with any sign that is theirs. -/
theorem isInteger_of_readSigned64 {n : Int} (h : readSigned64 s = .ok n) : IsInteger s n := by
  by_cases hSign : s.head? = some '-'
  · obtain ⟨rest, rfl⟩ := List.head?_eq_some_iff.mp hSign
    rw [readSigned64_minus, map_eq_ok] at h
    obtain ⟨m, hRead, rfl⟩ := h
    exact isInteger_minus_iff.mpr ⟨m, (readDigits_eq_ok_iff.mp hRead).1, rfl⟩
  · rw [readSigned64_of_ne_minus hSign, map_eq_ok] at h
    obtain ⟨m, hRead, rfl⟩ := h
    exact (isInteger_iff_of_ne_minus hSign).mpr ⟨m, (readNatural_eq_ok_iff.mp hRead).1, rfl⟩

end EquipmentBooking.Text.Numeral

import EquipmentBooking.Text.Utf8

/-! Reading UTF-8 undoes writing it. The bytes of a character are followed one by one: the first one
opens the character with the range that its second byte needs, and each further one adds six bits. -/
namespace EquipmentBooking.Text.Utf8

theorem toNat_ofNat_of_lt {n : Nat} (h : n < 256) : (UInt8.ofNat n).toNat = n := by
  rw [UInt8.toNat_ofNat']
  exact Nat.mod_eq_of_lt h

/-- The number of a character is in one of two ranges, below and above the surrogates. -/
theorem toNat_valid (c : Char) :
    c.val.toNat < 0xD800 ∨ (0xDFFF < c.val.toNat ∧ c.val.toNat < 0x110000) :=
  c.valid

theorem ofNat_toNat_val (c : Char) : Char.ofNat c.val.toNat = c :=
  Char.ofNat_toNat c

section Bytes

variable {n : Nat}

theorem lead_one (h : n ≤ 0x7F) : lead (UInt8.ofNat n) = .whole (Char.ofNat n) := by
  have hByte := toNat_ofNat_of_lt (show n < 256 by omega)
  simp only [lead, hByte]
  rw [if_pos (by omega)]

theorem lead_two (hLow : 0x7F < n) (hHigh : n ≤ 0x7FF) :
    lead (UInt8.ofNat (n / 64 % 0x20 + 0xC0)) = .opens ⟨1, 0x80, 0xBF, n / 64⟩ := by
  have hMod : n / 64 % 0x20 = n / 64 := by omega
  have hByte := toNat_ofNat_of_lt (show n / 64 + 0xC0 < 256 by omega)
  simp only [hMod, lead, hByte]
  rw [if_neg (by omega), if_neg (by omega), if_pos (by omega), Nat.add_sub_cancel]

/-- The range of the second of three bytes depends on the first one. It holds the byte that is
written, as overlong forms and surrogates are not characters. -/
theorem lead_three (hLow : 0x7FF < n) (hHigh : n ≤ 0xFFFF) (hValid : n < 0xD800 ∨ 0xDFFF < n) :
    ∃ low high, lead (UInt8.ofNat (n / 4096 % 0x10 + 0xE0)) = .opens ⟨2, low, high, n / 4096⟩ ∧
      low ≤ n / 64 % 0x40 + 0x80 ∧ n / 64 % 0x40 + 0x80 ≤ high := by
  have hMod : n / 4096 % 0x10 = n / 4096 := by omega
  have hByte := toNat_ofNat_of_lt (show n / 4096 + 0xE0 < 256 by omega)
  simp only [hMod, lead, hByte]
  rw [if_neg (by omega), if_neg (by omega), if_neg (by omega)]
  by_cases hFirst : n / 4096 = 0
  · rw [if_pos (by omega), hFirst]
    exact ⟨_, _, rfl, by omega, by omega⟩
  · rw [if_neg (by omega)]
    by_cases hSurrogates : n / 4096 = 0xD
    · rw [if_pos (by omega), hSurrogates]
      exact ⟨_, _, rfl, by omega, by omega⟩
    · rw [if_neg (by omega), if_pos (by omega), Nat.add_sub_cancel]
      exact ⟨_, _, rfl, by omega, by omega⟩

theorem lead_four (hLow : 0xFFFF < n) (hHigh : n < 0x110000) :
    ∃ low high, lead (UInt8.ofNat (n / 262144 % 0x08 + 0xF0)) =
        .opens ⟨3, low, high, n / 262144⟩ ∧
      low ≤ n / 4096 % 0x40 + 0x80 ∧ n / 4096 % 0x40 + 0x80 ≤ high := by
  have hMod : n / 262144 % 0x08 = n / 262144 := by omega
  have hByte := toNat_ofNat_of_lt (show n / 262144 + 0xF0 < 256 by omega)
  simp only [hMod, lead, hByte]
  rw [if_neg (by omega), if_neg (by omega), if_neg (by omega), if_neg (by omega),
    if_neg (by omega), if_neg (by omega)]
  by_cases hFirst : n / 262144 = 0
  · rw [if_pos (by omega), hFirst]
    exact ⟨_, _, rfl, by omega, by omega⟩
  · rw [if_neg (by omega)]
    by_cases hLast : n / 262144 = 4
    · rw [if_neg (by omega), if_pos (by omega), hLast]
      exact ⟨_, _, rfl, by omega, by omega⟩
    · rw [if_pos (by omega), Nat.add_sub_cancel]
      exact ⟨_, _, rfl, by omega, by omega⟩

variable {low high value bits : Nat} {b : UInt8} (rest : List UInt8)

theorem piecesFrom_start {u : Unfinished} (h : lead b = .opens u) :
    piecesFrom none (b :: rest) = piecesFrom (some u) rest := by
  simp [piecesFrom, feed, start, h]

/-- A byte with six more bits of a character that goes on. -/
theorem piecesFrom_next {missing : Nat} (hByte : b.toNat = bits + 0x80) (hLow : low ≤ bits + 0x80)
    (hHigh : bits + 0x80 ≤ high) :
    piecesFrom (some ⟨missing + 2, low, high, value⟩) (b :: rest) =
      piecesFrom (some ⟨missing + 1, 0x80, 0xBF, value * 64 + bits⟩) rest := by
  simp [piecesFrom, feed, hByte, hLow, hHigh]

/-- The byte with the last six bits of a character. -/
theorem piecesFrom_last (hByte : b.toNat = bits + 0x80) (hLow : low ≤ bits + 0x80)
    (hHigh : bits + 0x80 ≤ high) :
    piecesFrom (some ⟨1, low, high, value⟩) (b :: rest) =
      some (Char.ofNat (value * 64 + bits)) :: piecesFrom none rest := by
  simp [piecesFrom, feed, hByte, hLow, hHigh]

theorem toNat_next (n : Nat) : (UInt8.ofNat (n % 0x40 + 0x80)).toNat = n % 0x40 + 0x80 :=
  toNat_ofNat_of_lt (by omega)

end Bytes

/-- The bytes of a character are read as that character. -/
theorem piecesFrom_utf8EncodeChar (c : Char) (rest : List UInt8) :
    piecesFrom none (String.utf8EncodeChar c ++ rest) = some c :: piecesFrom none rest := by
  have hValid := toNat_valid c
  have hChar := ofNat_toNat_val c
  unfold String.utf8EncodeChar
  generalize c.val.toNat = n at hValid hChar
  simp only
  split
  · next hOne =>
    simp [piecesFrom, feed, start, lead_one hOne, hChar]
  · split
    · next hOne hTwo =>
      have hLead := lead_two (Nat.lt_of_not_le hOne) hTwo
      have hSum : n / 64 * 64 + n % 0x40 = n := by omega
      simp only [List.cons_append, List.nil_append]
      rw [piecesFrom_start _ hLead, piecesFrom_last _ (toNat_next _) (by omega) (by omega), hSum,
        hChar]
    · split
      · next hTwo hThree =>
        obtain ⟨low, high, hLead, hLow, hHigh⟩ :=
          lead_three (Nat.lt_of_not_le hTwo) hThree (by omega)
        have hSum : (n / 4096 * 64 + n / 64 % 0x40) * 64 + n % 0x40 = n := by omega
        simp only [List.cons_append, List.nil_append]
        rw [piecesFrom_start _ hLead, piecesFrom_next _ (toNat_next _) hLow hHigh,
          piecesFrom_last _ (toNat_next _) (by omega) (by omega), hSum, hChar]
      · next hThree =>
        obtain ⟨low, high, hLead, hLow, hHigh⟩ :=
          lead_four (Nat.lt_of_not_le hThree) (by omega)
        have hSum : ((n / 262144 * 64 + n / 4096 % 0x40) * 64 + n / 64 % 0x40) * 64 + n % 0x40 =
            n := by omega
        simp only [List.cons_append, List.nil_append]
        rw [piecesFrom_start _ hLead, piecesFrom_next _ (toNat_next _) hLow hHigh,
          piecesFrom_next _ (toNat_next _) (by omega) (by omega),
          piecesFrom_last _ (toNat_next _) (by omega) (by omega), hSum, hChar]

theorem pieces_encode (s : List Char) : pieces (encode s) = s.map some := by
  induction s with
  | nil => rfl
  | cons c s ih =>
      rw [pieces, encode, List.flatMap_cons, piecesFrom_utf8EncodeChar, List.map_cons, ← ih]
      rfl

/-- Written text is read back, by the strict reader too. -/
@[simp]
theorem decode?_encode (s : List Char) : decode? (encode s) = some s := by
  rw [decode?, pieces_encode, List.mapM_map]
  have hAll := List.mapM_pure (m := Option) (l := s) (f := id)
  rwa [List.map_id] at hAll

@[simp]
theorem decodeLenient_encode (s : List Char) : decodeLenient (encode s) = s := by
  rw [decodeLenient, pieces_encode, List.map_map]
  exact List.map_id s

theorem encode_append (s t : List Char) : encode (s ++ t) = encode s ++ encode t :=
  List.flatMap_append

section Ascii

variable {c : Char}

theorem utf8EncodeChar_of_lt (h : c.toNat < 0x80) :
    String.utf8EncodeChar c = [UInt8.ofNat c.toNat] := by
  have hOne : c.val.toNat ≤ 0x7F := Nat.le_of_lt_succ h
  simp only [String.utf8EncodeChar]
  rw [if_pos hOne]
  rfl

/-- The bytes of the other characters are not taken for ASCII. -/
theorem le_toNat_of_mem_utf8EncodeChar (h : 0x80 ≤ c.toNat) :
    ∀ b ∈ String.utf8EncodeChar c, 0x80 ≤ b.toNat := by
  have hOne : ¬ c.val.toNat ≤ 0x7F := Nat.not_le_of_lt h
  unfold String.utf8EncodeChar
  simp only
  rw [if_neg hOne]
  split
  · simp
    omega
  · split
    · simp
      omega
    · simp
      omega

end Ascii

end EquipmentBooking.Text.Utf8

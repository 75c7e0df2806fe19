import EquipmentBooking.Proofs.Json.Extent
import EquipmentBooking.Proofs.Text.Utf8
import Mathlib.Tactic.SplitIfs

/-! Reading a string undoes writing it. Each character is taken into the string with the bytes that it
has outside of one, whether it stands for itself or behind a backslash. -/
namespace EquipmentBooking.Json

open Text.Utf8

variable {c : Char} {rest : Bytes}

theorem encode_cons_of_lt (h : c.toNat < 0x80) (s : List Char) :
    encode (c :: s) = byte c :: encode s := by
  rw [encode, List.flatMap_cons, utf8EncodeChar_of_lt h]
  rfl

def IsVerbatim (b : UInt8) : Prop :=
  b ≠ byte '"' ∧ b ≠ byte '\\' ∧ ¬ b < 0x20

theorem textBytes_verbatim {bytes : Bytes} (h : ∀ b ∈ bytes, IsVerbatim b) (done rest : Bytes) :
    textBytes .plain done (bytes ++ rest) = textBytes .plain (bytes.reverse ++ done) rest := by
  induction bytes generalizing done with
  | nil => rfl
  | cons b bytes ih =>
      obtain ⟨hQuote, hBackslash, hControl⟩ := h b List.mem_cons_self
      have hRest := ih (fun d hd => h d (List.mem_cons_of_mem b hd)) (b :: done)
      simp only [List.cons_append, textBytes, hQuote, hBackslash, hControl, ↓reduceIte, hRest,
        List.reverse_cons, List.append_assoc, List.nil_append]

/-- A character that is not escaped has bytes that stand for themselves. -/
theorem isVerbatim_of_mem_utf8EncodeChar (hQuote : c ≠ '"') (hBackslash : c ≠ '\\')
    (hControl : ¬ c.toNat < 0x20) : ∀ b ∈ String.utf8EncodeChar c, IsVerbatim b := by
  intro b hb
  by_cases hAscii : c.toNat < 0x80
  · rw [utf8EncodeChar_of_lt hAscii, List.mem_singleton] at hb
    have hNat : b.toNat = c.toNat := by
      rw [hb, toNat_ofNat_of_lt (by omega)]
    have hNe (d : Char) (hd : d.toNat < 0x80) (h : c ≠ d) : b ≠ byte d := by
      intro hSame
      rw [hSame, toNat_ofNat_of_lt (by omega)] at hNat
      exact h (Char.toNat_inj.mp hNat.symm)
    exact ⟨hNe '"' (by decide) hQuote, hNe '\\' (by decide) hBackslash, by
      rw [UInt8.lt_iff_toNat_lt, hNat]
      exact hControl⟩
  · have hHigh := le_toNat_of_mem_utf8EncodeChar (Nat.le_of_not_lt hAscii) b hb
    have hNe (d : UInt8) (hd : d.toNat < 0x80) : b ≠ d := by
      rintro rfl
      omega
    exact ⟨hNe _ (by decide), hNe _ (by decide), by
      rw [UInt8.lt_iff_toNat_lt]
      show ¬ b.toNat < 0x20
      omega⟩

theorem textBytes_letter {b e : UInt8} (hNumber : b ≠ byte 'u') (h : escaped? b = some e)
    (done rest : Bytes) :
    textBytes .plain done (byte '\\' :: b :: rest) = textBytes .plain (e :: done) rest := by
  have hBackslash : byte '\\' ≠ byte '"' := by decide
  simp only [textBytes, hBackslash, hNumber, h, ↓reduceIte]

/-- Four digits that are the number of a character are read as that character. -/
theorem textBytes_number {first second third fourth : UInt8} {n : Nat}
    (hNumber : hexValue? [fourth, third, second, first] = some n)
    (hUnit : codeUnit none n = .ok (some c, .plain)) (done rest : Bytes) :
    textBytes .plain done (byte '\\' :: byte 'u' :: first :: second :: third :: fourth :: rest) =
      textBytes .plain ((String.utf8EncodeChar c).reverse ++ done) rest := by
  simp [textBytes, hNumber, hUnit]

theorem hexDigit?_digitChar {n : Nat} (h : n < 16) :
    (Nat.digitChar n).toNat < 0x80 ∧ hexDigit? (byte (Nat.digitChar n)) = some n := by
  have hAll : ∀ n : Fin 16, (Nat.digitChar n.val).toNat < 0x80 ∧
      hexDigit? (byte (Nat.digitChar n.val)) = some n.val := by decide
  exact hAll ⟨n, h⟩

/-- Controls without a letter are written with four digits, of which the first two are zeros. -/
theorem textBytes_control (h : c.toNat < 0x20) (done rest : Bytes) :
    textBytes .plain done (encode ['\\', 'u', '0', '0', Nat.digitChar (c.toNat / 16),
        Nat.digitChar (c.toNat % 16)] ++ rest) =
      textBytes .plain ((String.utf8EncodeChar c).reverse ++ done) rest := by
  obtain ⟨hHighAscii, hHigh⟩ := hexDigit?_digitChar (show c.toNat / 16 < 16 by omega)
  obtain ⟨hLowAscii, hLow⟩ := hexDigit?_digitChar (show c.toNat % 16 < 16 by omega)
  have hZero : hexDigit? (byte '0') = some 0 := rfl
  have hNumber : hexValue? [byte (Nat.digitChar (c.toNat % 16)), byte (Nat.digitChar (c.toNat / 16)),
      byte '0', byte '0'] = some c.toNat := by
    simp only [hexValue?, List.foldr_cons, List.foldr_nil, hZero, hHigh, hLow, Option.bind_some,
      Option.map_some]
    congr 1
    omega
  have hUnit : codeUnit none c.toNat = .ok (some c, .plain) := by
    rw [codeUnit, if_neg (by omega), if_neg (by omega), Char.ofNat_toNat]
  rw [encode_cons_of_lt (by decide), encode_cons_of_lt (by decide), encode_cons_of_lt (by decide),
    encode_cons_of_lt (by decide), encode_cons_of_lt hHighAscii, encode_cons_of_lt hLowAscii]
  exact textBytes_number hNumber hUnit done rest

/-- A character is read back from whichever of its forms the writer takes. -/
theorem textBytes_writeChar (c : Char) (done rest : Bytes) :
    textBytes .plain done (encode (writeChar c) ++ rest) =
      textBytes .plain ((String.utf8EncodeChar c).reverse ++ done) rest := by
  have hChar (n : Nat) (h : c.toNat = n) : c = Char.ofNat n := by
    rw [← h, Char.ofNat_toNat]
  unfold writeChar
  split_ifs with hQuote hBackslash hBack hTab hLine hFeed hReturn hControl
  · rw [hQuote]
    exact textBytes_letter (by decide) rfl done rest
  · rw [hBackslash]
    exact textBytes_letter (by decide) rfl done rest
  · rw [hChar _ hBack]
    exact textBytes_letter (by decide) rfl done rest
  · rw [hChar _ hTab]
    exact textBytes_letter (by decide) rfl done rest
  · rw [hChar _ hLine]
    exact textBytes_letter (by decide) rfl done rest
  · rw [hChar _ hFeed]
    exact textBytes_letter (by decide) rfl done rest
  · rw [hChar _ hReturn]
    exact textBytes_letter (by decide) rfl done rest
  · exact textBytes_control hControl done rest
  · have hVerbatim := isVerbatim_of_mem_utf8EncodeChar hQuote hBackslash hControl
    rw [encode, List.flatMap_singleton, textBytes_verbatim hVerbatim]

/-- The bytes of a written string, up to its closing quote. -/
theorem textBytes_flatMap_writeChar (s : List Char) (done rest : Bytes) :
    textBytes .plain done (encode (s.flatMap writeChar) ++ byte '"' :: rest) =
      .ok (done.reverse ++ encode s, rest) := by
  induction s generalizing done with
  | nil => simp [encode, textBytes]
  | cons c s ih =>
      rw [List.flatMap_cons, encode_append, List.append_assoc, textBytes_writeChar, ih, encode,
        encode]
      simp

/-- A string is read as it was written, from behind its opening quote. -/
theorem readText_writeText (s : String) (rest : Bytes) :
    readText (encode (s.toList.flatMap writeChar) ++ byte '"' :: rest) = .ok (s, rest) := by
  rw [readText_eq_ok_iff]
  exact ⟨encode s.toList, by simp, textBytes_flatMap_writeChar s.toList [] rest⟩

theorem encode_writeText (s : String) (rest : Bytes) :
    encode (writeText s) ++ rest =
      byte '"' :: (encode (s.toList.flatMap writeChar) ++ byte '"' :: rest) := by
  have hQuote : encode ['"'] = [byte '"'] := rfl
  rw [writeText, encode_cons_of_lt (by decide), encode_append, hQuote]
  simp

end EquipmentBooking.Json

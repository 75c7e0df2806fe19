import EquipmentBooking.Proofs.Text.Utf8
import EquipmentBooking.Url.Edit

/-! Reading form-encoded pairs undoes writing them. No separator stands in an encoded name or value, so
pairs are cut apart where they were joined, also behind pairs that someone else has written. -/
namespace EquipmentBooking.Url

open Text

section Characters

theorem hexValue?_hexDigit : ∀ n < 16, hexValue? (hexDigit n) = some n := by decide

/-- The characters that part names from values and pairs from each other, and the blank's sign. -/
def isFormMark (c : Char) : Bool :=
  c == '&' || c == '=' || c == '+'

theorem isFormMark_hexDigit : ∀ n < 16, isFormMark (hexDigit n) = false := by decide

theorem isFormMark_of_isFormPlain {c : Char} (h : isFormPlain c = true) : isFormMark c = false := by
  rw [← Bool.not_eq_true]
  intro hMark
  simp only [isFormMark, Bool.or_eq_true, beq_iff_eq] at hMark
  rcases hMark with (rfl | rfl) | rfl <;> revert h <;> decide

theorem isFormMark_of_mem_percentByte {b : UInt8} {c : Char} (h : c ∈ percentByte b) :
    isFormMark c = false := by
  have hSize := UInt8.toNat_lt b
  simp only [percentByte, List.mem_cons, List.not_mem_nil, or_false] at h
  rcases h with rfl | rfl | rfl
  · rfl
  · exact isFormMark_hexDigit _ (by omega)
  · exact isFormMark_hexDigit _ (by omega)

theorem isFormMark_of_mem_percentChar {c d : Char} (h : d ∈ percentChar c) :
    isFormMark d = false := by
  obtain ⟨b, -, hByte⟩ := List.mem_flatMap.mp h
  exact isFormMark_of_mem_percentByte hByte

/-- The only mark in an encoded name or value stands for a blank. -/
theorem eq_plus_of_mem_formEncode {s : String} {c : Char} (h : c ∈ formEncode s)
    (hMark : isFormMark c = true) : c = '+' := by
  obtain ⟨d, -, hChar⟩ := List.mem_flatMap.mp h
  unfold formChar at hChar
  split at hChar
  · simpa using hChar
  · split at hChar
    · next hPlain =>
      have hSame : c = d := by simpa using hChar
      subst hSame
      rw [isFormMark_of_isFormPlain hPlain] at hMark
      cases hMark
    · rw [isFormMark_of_mem_percentChar hChar] at hMark
      cases hMark

theorem ampersand_not_mem_formEncode (s : String) : '&' ∉ formEncode s := by
  intro h
  have hPlus := eq_plus_of_mem_formEncode h rfl
  revert hPlus
  decide

theorem equals_not_mem_formEncode (s : String) : '=' ∉ formEncode s := by
  intro h
  have hPlus := eq_plus_of_mem_formEncode h rfl
  revert hPlus
  decide

end Characters

section Components

theorem percentDecode_cons {c : Char} (h : c ≠ '%') (rest : List Char) :
    percentDecode (c :: rest) = String.utf8EncodeChar c ++ percentDecode rest := by
  rw [percentDecode]
  intro _ _ _ hPercent
  exact absurd hPercent h

theorem percentDecode_percentByte (b : UInt8) (rest : List Char) :
    percentDecode (percentByte b ++ rest) = b :: percentDecode rest := by
  have hSize := UInt8.toNat_lt b
  have hHigh := hexValue?_hexDigit (b.toNat / 16) (by omega)
  have hLow := hexValue?_hexDigit (b.toNat % 16) (by omega)
  have hSum : b.toNat / 16 * 16 + b.toNat % 16 = b.toNat := by omega
  simp only [percentByte, List.cons_append, List.nil_append, percentDecode, hHigh, hLow, hSum,
    UInt8.ofNat_toNat]

/-- The bytes that an encoded text stands for, a plus sign being a blank. -/
def formBytes (s : List Char) : List UInt8 :=
  percentDecode (s.map fun c => if c = '+' then ' ' else c)

theorem formDecode_eq (s : List Char) :
    formDecode s = String.ofList (Utf8.decodeLenient (formBytes s)) := rfl

theorem map_plus_of_no_marks {s : List Char} (h : ∀ c ∈ s, isFormMark c = false) :
    (s.map fun c => if c = '+' then ' ' else c) = s := by
  have hSame : ∀ c ∈ s, (if c = '+' then ' ' else c) = c := by
    intro c hc
    have hMark := h c hc
    split
    · next hPlus =>
      rw [hPlus] at hMark
      cases hMark
    · rfl
  rw [List.map_congr_left hSame, List.map_id']

theorem formBytes_percentByte (b : UInt8) (rest : List Char) :
    formBytes (percentByte b ++ rest) = b :: formBytes rest := by
  rw [formBytes, List.map_append, map_plus_of_no_marks fun c => isFormMark_of_mem_percentByte,
    percentDecode_percentByte]
  rfl

theorem formBytes_percentChar (c : Char) (rest : List Char) :
    formBytes (percentChar c ++ rest) = String.utf8EncodeChar c ++ formBytes rest := by
  unfold percentChar
  induction String.utf8EncodeChar c with
  | nil => rfl
  | cons b bytes ih =>
      rw [List.flatMap_cons, List.append_assoc, formBytes_percentByte, ih, List.cons_append]

/-- A character in written form stands for its own bytes, whatever stands behind it. -/
theorem formBytes_formChar (c : Char) (rest : List Char) :
    formBytes (formChar c ++ rest) = String.utf8EncodeChar c ++ formBytes rest := by
  unfold formChar
  split
  · next hBlank =>
    subst hBlank
    exact percentDecode_cons (by decide) _
  · split
    · next hPlain =>
      have hMark := isFormMark_of_isFormPlain hPlain
      have hPlus : c ≠ '+' := by
        rintro rfl
        cases hMark
      have hPercent : c ≠ '%' := by
        rintro rfl
        revert hPlain
        decide
      rw [formBytes, List.cons_append, List.nil_append, List.map_cons, if_neg hPlus,
        percentDecode_cons hPercent]
      rfl
    · exact formBytes_percentChar c rest

theorem formBytes_formEncode (s : String) : formBytes (formEncode s) = Utf8.encode s.toList := by
  unfold formEncode Utf8.encode
  induction s.toList with
  | nil => rfl
  | cons c chars ih => rw [List.flatMap_cons, formBytes_formChar, ih, List.flatMap_cons]

/-- A name or value is read back whatever characters it has. -/
@[simp]
theorem formDecode_formEncode (s : String) : formDecode (formEncode s) = s := by
  rw [formDecode_eq, formBytes_formEncode, Utf8.decodeLenient_encode, String.ofList_toList]

end Components

section Pairs

theorem splitOn_ne_nil (separator : Char) (s : List Char) : splitOn separator s ≠ [] := by
  cases s with
  | nil => simp [splitOn]
  | cons c s =>
      rw [splitOn]
      split
      · simp
      · split <;> simp

theorem splitOn_append (separator : Char) (s t : List Char) :
    splitOn separator (s ++ separator :: t) = splitOn separator s ++ splitOn separator t := by
  induction s with
  | nil => simp [splitOn]
  | cons c s ih =>
      rw [List.cons_append, splitOn, splitOn, ih]
      split
      · rfl
      · cases hPieces : splitOn separator s with
        | nil => exact absurd hPieces (splitOn_ne_nil separator s)
        | cons piece pieces => rfl

theorem splitOn_of_not_mem {separator : Char} {s : List Char} (h : separator ∉ s) :
    splitOn separator s = [s] := by
  induction s with
  | nil => rfl
  | cons c s ih =>
      rw [List.mem_cons, not_or] at h
      rw [splitOn, if_neg (Ne.symm h.1), ih h.2]

theorem formDecodePairs_append (s t : List Char) :
    formDecodePairs (s ++ '&' :: t) = formDecodePairs s ++ formDecodePairs t := by
  rw [formDecodePairs, splitOn_append, List.filter_append, List.map_append]
  rfl

theorem ampersand_not_mem_formPair (pair : String × String) : '&' ∉ formPair pair := by
  simp [formPair, ampersand_not_mem_formEncode]

theorem formDecodePair_formPair (pair : String × String) : formDecodePair (formPair pair) = pair := by
  have hName : ∀ c ∈ formEncode pair.1, (c != '=') = true := by
    intro c hc
    rw [bne_iff_ne]
    rintro rfl
    exact equals_not_mem_formEncode _ hc
  rw [formDecodePair, formPair, List.takeWhile_append_of_pos hName,
    List.dropWhile_append_of_pos hName]
  simp

theorem formDecodePairs_formPair (pair : String × String) :
    formDecodePairs (formPair pair) = [pair] := by
  have hSome : (formPair pair).isEmpty = false := by simp [formPair]
  rw [formDecodePairs, splitOn_of_not_mem (ampersand_not_mem_formPair pair)]
  simp [hSome, formDecodePair_formPair]

theorem formDecodePairs_appendFormPair (text : List Char) (pair : String × String) :
    formDecodePairs (appendFormPair text pair) = formDecodePairs text ++ [pair] := by
  unfold appendFormPair
  split
  · next hEmpty =>
    rw [List.isEmpty_iff.mp hEmpty, formDecodePairs_formPair]
    rfl
  · rw [formDecodePairs_append, formDecodePairs_formPair]

/-- Pairs added behind an encoded text are read behind those that the text holds by itself, whoever
has written it. -/
theorem formDecodePairs_appendFormPairs (text : List Char) (pairs : List (String × String)) :
    formDecodePairs (appendFormPairs text pairs) = formDecodePairs text ++ pairs := by
  unfold appendFormPairs
  induction pairs generalizing text with
  | nil => simp
  | cons pair pairs ih => simp [ih, formDecodePairs_appendFormPair]

@[simp]
theorem formDecodePairs_formEncodePairs (pairs : List (String × String)) :
    formDecodePairs (formEncodePairs pairs) = pairs := by
  rw [formEncodePairs, formDecodePairs_appendFormPairs]
  rfl

/-- The query of a URL keeps its pairs when others are added. -/
@[simp]
theorem queryPairs_appendQuery (url : Url) (pairs : List (String × String)) :
    (url.appendQuery pairs).queryPairs = url.queryPairs ++ pairs := by
  rw [appendQuery, queryPairs, Option.elim_some, formDecodePairs_appendFormPairs]
  cases hQuery : url.query with
  | none => simp [queryPairs, hQuery, formDecodePairs, splitOn]
  | some query => simp [queryPairs, hQuery]

end Pairs

end EquipmentBooking.Url

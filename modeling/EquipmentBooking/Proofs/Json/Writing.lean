import EquipmentBooking.Proofs.Json.Record
import EquipmentBooking.Proofs.Json.Spelling

/-! What is written is a text of a value: the grammar has all that writers make, too. -/
namespace EquipmentBooking.Json

open Text.Numeral Text.Utf8

section Texts

theorem isHexDigit_digitChar {d : Nat} (h : d < 16) : IsHexDigit d (byte (Nat.digitChar d)) :=
  ⟨h, .inl rfl⟩

/-- Control characters without a letter of their own are written by their numbers. -/
theorem spellsUnit_control {n : Nat} (h : n < 0x20) :
    SpellsUnit n (encode ['\\', 'u', '0', '0', Nat.digitChar (n / 16), Nat.digitChar (n % 16)]) := by
  have hHigh : n / 16 < 16 := by omega
  have hLow : n % 16 < 16 := by omega
  have hZero := isHexDigit_digitChar (show 0 < 16 by decide)
  refine ⟨0, 0, n / 16, n % 16, _, _, _, _, hZero, hZero, isHexDigit_digitChar hHigh,
    isHexDigit_digitChar hLow, by omega, ?_⟩
  rw [encode_cons_of_lt (by decide), encode_cons_of_lt (by decide), encode_cons_of_lt (by decide),
    encode_cons_of_lt (by decide), encode_cons_of_lt (hexDigit?_digitChar hHigh).1,
    encode_cons_of_lt (hexDigit?_digitChar hLow).1]
  rfl

/-- Every character is written in one of the ways that the grammar has for it. -/
theorem spellsChar_writeChar (c : Char) : SpellsChar c (encode (writeChar c)) := by
  have hChar (n : Nat) (h : c.toNat = n) : c = Char.ofNat n := by
    rw [← h, Char.ofNat_toNat]
  have hLetter (l : Char) (hMem : (l, c) ∈ letterEscapes) : SpellsChar c (encode ['\\', l]) := by
    have hAscii : ∀ pair ∈ letterEscapes, encode ['\\', pair.1] = [byte '\\', byte pair.1] := by decide
    rw [hAscii _ hMem]
    exact .letter hMem
  unfold writeChar
  split_ifs with hQuote hBackslash hBack hTab hLine hFeed hReturn hControl
  · exact hLetter '"' (by rw [hQuote]; decide)
  · exact hLetter '\\' (by rw [hBackslash]; decide)
  · exact hLetter 'b' (by rw [hChar _ hBack]; decide)
  · exact hLetter 't' (by rw [hChar _ hTab]; decide)
  · exact hLetter 'n' (by rw [hChar _ hLine]; decide)
  · exact hLetter 'f' (by rw [hChar _ hFeed]; decide)
  · exact hLetter 'r' (by rw [hChar _ hReturn]; decide)
  · exact .unit (spellsUnit_control hControl)
  · rw [encode, List.flatMap_singleton]
    exact .verbatim hQuote hBackslash (Nat.not_lt.mp hControl)

theorem spellsChars_flatMap_writeChar (s : List Char) :
    SpellsChars s (encode (s.flatMap writeChar)) := by
  induction s with
  | nil => exact .nil
  | cons c s ih =>
      rw [List.flatMap_cons, encode_append]
      exact .cons (spellsChar_writeChar c) ih

theorem spells_writeText (s : String) : Spells (.text s) (encode (writeText s)) := by
  have hText := encode_writeText s []
  rw [List.append_nil] at hText
  rw [hText]
  exact .text (spellsChars_flatMap_writeChar s.toList)

end Texts

section Numbers

def Value.ofNat (n : Nat) : Value :=
  .number ⟨false, (digits n).map digitValue, none, none⟩

def Value.ofInt (i : Int) : Value :=
  .number ⟨i < 0, (digits i.natAbs).map digitValue, none, none⟩

theorem spellsDigits_digits (n : Nat) :
    SpellsDigits ((digits n).map digitValue) (encode (digits n)) := by
  refine ⟨by simpa using digits_ne_nil n, ?_, ?_⟩
  · intro d hd
    obtain ⟨c, hc, rfl⟩ := List.mem_map.mp hd
    have hRange := toNat_of_isDigit (isDigits_digits n c hc)
    show c.toNat - 48 < 10
    omega
  · have hDigits := isDigits_digits n
    generalize digits n = s at hDigits
    induction s with
    | nil => rfl
    | cons c s ih =>
        have hDigit := hDigits c List.mem_cons_self
        have hRange := toNat_of_isDigit hDigit
        have hByte : digitByte (digitValue c) = byte c := by
          show UInt8.ofNat (48 + (c.toNat - 48)) = UInt8.ofNat c.toNat
          congr 1
          omega
        rw [encode_cons_of_isDigit hDigit, List.map_cons, List.map_cons, hByte,
          ih fun d hd => hDigits d (List.mem_cons_of_mem c hd)]

theorem spellsNumber_digits (negative : Bool) (n : Nat) :
    SpellsNumber ⟨negative, (digits n).map digitValue, none, none⟩
      ((if negative then [byte '-'] else []) ++ encode (digits n)) := by
  refine ⟨fun hZero => ?_, _, [], [], spellsDigits_digits n, rfl, rfl, by simp⟩
  have hNone : ∀ b, ([] : Bytes).head? = some b → Json.digit? b = none := nofun
  have hLeading := (readWhole_eq_ok_iff.mp (readWhole_digits n .eofValue hNone)).1
  obtain ⟨more, hMore⟩ := List.head?_eq_some_iff.mp hZero
  cases more with
  | nil => exact hMore
  | cons d more => exact absurd hMore (hLeading d more)

theorem spells_digits (n : Nat) : Spells (.ofNat n) (encode (digits n)) :=
  .number (spellsNumber_digits false n)

end Numbers

section Scalars

def Scalar.toValue : (kind : Scalar) → kind.Carrier → Value
  | text, x => .text x
  | optionalText, none => .null
  | optionalText, some x => .text x
  | flag, x => .flag x
  | count, x => .ofNat x.toNat
  | id, x => .ofNat x.toNat
  | place, x => .ofNat x
  | balance, x => .ofInt x.toInt
  | moment, x => .text x.text

/-- What is written for a kind is a text of the value that it stands for. -/
theorem Scalar.spells_write (kind : Scalar) (x : kind.Carrier) :
    Spells (kind.toValue x) (encode (kind.write x)) := by
  cases kind with
  | text => exact spells_writeText x
  | optionalText =>
      cases x with
      | none => exact .null
      | some t => exact spells_writeText t
  | flag =>
      cases x with
      | true => exact .yes
      | false => exact .no
  | count => exact spells_digits x.toNat
  | id => exact spells_digits x.toNat
  | place => exact spells_digits x
  | balance =>
      have hNumber := spellsNumber_digits (x.toInt < 0) x.toInt.natAbs
      simp only [write]
      split
      · next hNegative =>
        rw [encode_cons_of_lt (by decide)]
        exact .number (by simpa [hNegative] using hNumber)
      · next hNatural => exact .number (by simpa [hNatural] using hNumber)
  | moment => exact spells_writeText x.text

end Scalars

section Objects

structure Entry where
  name : String
  kind : Scalar
  value : kind.Carrier

def Entry.written (e : Entry) : String × List Char :=
  (e.name, e.kind.write e.value)

def Entry.pair (e : Entry) : String × Value :=
  (e.name, e.kind.toValue e.value)

theorem spellsMembers_writeMembers (entries : List Entry) (first : Bool) :
    SpellsMembers first (entries.map Entry.pair)
      (encode (writeMembers first (entries.map Entry.written))) := by
  induction entries generalizing first with
  | nil => exact SpellsMembers.close (List.forall_mem_nil _)
  | cons e entries ih =>
      have hGap : IsGap first (encode (if first then [] else [','])) := by
        cases first with
        | true => exact List.forall_mem_nil _
        | false => exact ⟨[], [], List.forall_mem_nil _, List.forall_mem_nil _, rfl⟩
      have hMember := SpellsMembers.next hGap (spellsChars_flatMap_writeChar e.name.toList)
        (List.forall_mem_nil _) (List.forall_mem_nil _) (e.kind.spells_write e.value) (ih false)
      rw [List.map_cons, List.map_cons, Entry.written, writeMembers, encode_append, encode_append,
        encode_writeText, encode_cons_of_lt (by decide), encode_append]
      exact hMember

/-- An object is written as a text of the values as which those of its members are written. -/
theorem spells_writeObject (entries : List Entry) :
    Spells (.object (entries.map Entry.pair))
      (encode (writeObject (entries.map Entry.written))) := by
  rw [writeObject_eq, encode_cons_of_lt (by decide)]
  exact .object (spellsMembers_writeMembers entries true)

theorem isText_writeObject (entries : List Entry) :
    IsText (.object (entries.map Entry.pair)) (encode (writeObject (entries.map Entry.written))) :=
  ⟨[], _, [], List.forall_mem_nil _, List.forall_mem_nil _, spells_writeObject entries, by simp⟩

def Row.entries : (members : List Member) → Row members → List Entry
  | [], _ => []
  | m :: rest, (x, row) => ⟨m.name, m.kind, x⟩ :: Row.entries rest row

theorem Row.named_eq (members : List Member) (row : Row members) :
    Row.named members row = (Row.entries members row).map Entry.written := by
  induction members with
  | nil => rfl
  | cons m members ih => rw [Row.named, Row.entries, List.map_cons, ← ih, Entry.written]

theorem RecordFormat.spells_write (f : RecordFormat) (row : Row f.members) :
    Spells (.object ((Row.entries f.members row).map Entry.pair)) (encode (f.write row)) := by
  rw [write, Row.named_eq]
  exact spells_writeObject _

end Objects

end EquipmentBooking.Json

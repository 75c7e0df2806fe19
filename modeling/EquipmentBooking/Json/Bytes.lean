import EquipmentBooking.Json.Issue

/-! The bytes of which JSON texts consist, and the smallest readers. A reader takes a byte sequence and
gives what it read together with the bytes behind it. -/
namespace EquipmentBooking.Json

abbrev Bytes := List UInt8

abbrev byte (c : Char) : UInt8 :=
  UInt8.ofNat c.toNat

def isSpace (b : UInt8) : Bool :=
  b == 0x20 || b == 0x0A || b == 0x09 || b == 0x0D

def skipSpace (s : Bytes) : Bytes :=
  s.dropWhile isSpace

def digit? (b : UInt8) : Option Nat :=
  if 0x30 ≤ b ∧ b ≤ 0x39 then some (b.toNat - 0x30) else none

def hexDigit? (b : UInt8) : Option Nat :=
  if 0x30 ≤ b ∧ b ≤ 0x39 then some (b.toNat - 0x30)
  else if 0x41 ≤ b ∧ b ≤ 0x46 then some (b.toNat - 0x41 + 10)
  else if 0x61 ≤ b ∧ b ≤ 0x66 then some (b.toNat - 0x61 + 10)
  else none

/-- Exactly the given bytes, the rest of a word of which the first letter has been seen. -/
def readIdent : Bytes → Bytes → Except Issue Bytes
  | [], s => .ok s
  | _ :: _, [] => .error .eofValue
  | e :: expected, b :: rest => if b = e then readIdent expected rest else .error .identExpected

def readColon (s : Bytes) : Except Issue Bytes :=
  match skipSpace s with
  | [] => .error .eofObject
  | b :: rest => if b = byte ':' then .ok rest else .error .colonExpected

/-- The end of the whole text: nothing but blanks may follow. -/
def readEnd (s : Bytes) : Except Issue Unit :=
  if (skipSpace s).isEmpty then .ok () else .error .trailingCharacters

theorem length_skipSpace_le (s : Bytes) : (skipSpace s).length ≤ s.length := by
  simpa [skipSpace] using (List.dropWhile_suffix (p := isSpace) (l := s)).length_le

end EquipmentBooking.Json

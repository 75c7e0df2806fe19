import EquipmentBooking.Text.Utf8

/-! Percent-encoding. Each component of a URL has a set of characters that cannot stand in it. The
percent sign is in none of the sets, so what is already encoded stays as it is. -/
namespace EquipmentBooking.Url

def hexDigit (n : Nat) : Char :=
  Char.ofNat (if n < 10 then 0x30 + n else 0x37 + n)

def hexValue? (c : Char) : Option Nat :=
  let n := c.toNat
  if 0x30 ≤ n ∧ n ≤ 0x39 then some (n - 0x30)
  else if 0x41 ≤ n ∧ n ≤ 0x46 then some (n - 0x37)
  else if 0x61 ≤ n ∧ n ≤ 0x66 then some (n - 0x57)
  else none

def percentByte (b : UInt8) : List Char :=
  ['%', hexDigit (b.toNat / 16), hexDigit (b.toNat % 16)]

def percentChar (c : Char) : List Char :=
  (String.utf8EncodeChar c).flatMap percentByte

def percentEncode (set : Char → Bool) (s : List Char) : List Char :=
  s.flatMap fun c => if set c then percentChar c else [c]

/-- The bytes of a text with its percent-encoded bytes decoded. A percent sign without two digits
behind it stands for itself. -/
def percentDecode : List Char → List UInt8
  | [] => []
  | '%' :: a :: b :: rest =>
    match hexValue? a, hexValue? b with
    | some x, some y => UInt8.ofNat (x * 16 + y) :: percentDecode rest
    | _, _ => String.utf8EncodeChar '%' ++ percentDecode (a :: b :: rest)
  | c :: rest => String.utf8EncodeChar c ++ percentDecode rest

/-- Controls and everything outside ASCII, which no component holds. -/
def controlSet (c : Char) : Bool :=
  c.toNat < 0x20 || 0x7E < c.toNat

def fragmentSet (c : Char) : Bool :=
  controlSet c || [' ', '"', '<', '>', Char.ofNat 0x60].contains c

def querySet (c : Char) : Bool :=
  controlSet c || [' ', '"', '#', '<', '>'].contains c

/-- What the query of a special URL cannot hold: the apostrophe too. -/
def specialQuerySet (c : Char) : Bool :=
  querySet c || c.toNat == 0x27

def pathSet (c : Char) : Bool :=
  fragmentSet c || ['#', '?', '\x7b', '\x7d'].contains c

def userinfoSet (c : Char) : Bool :=
  pathSet c || ['/', ':', ';', '=', '@', '[', '\\', ']', '^', '|'].contains c

end EquipmentBooking.Url

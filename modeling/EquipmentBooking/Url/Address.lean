import EquipmentBooking.Text.Numeral
import EquipmentBooking.Url.FormEncoding

/-! Numeric addresses. One of version 4 is read also from fewer, longer, octal or hexadecimal numbers.
One of version 6 is eight numbers of 16 bits, of which one run of zeros may be left out. -/
namespace EquipmentBooking.Url

def readBase? (base : Nat) (s : List Char) : Option Nat :=
  s.foldl
    (fun value c => value.bind fun v =>
      (hexValue? c).bind fun d => if d < base then some (v * base + d) else none)
    (some 0)

def readIpv4Number? (s : List Char) : Option Nat :=
  match s with
  | [] => none
  | '0' :: 'x' :: rest => readBase? 16 rest
  | '0' :: 'X' :: rest => readBase? 16 rest
  | '0' :: d :: rest => readBase? 8 (d :: rest)
  | _ => readBase? 10 s

/-- The parts of a name between dots, without an empty one at the end. -/
def dottedParts (s : List Char) : List (List Char) :=
  let parts := splitOn '.' s
  if parts.getLast? = some [] then parts.dropLast else parts

/-- A name whose last part is a number must be an address. -/
def endsInNumber (s : List Char) : Bool :=
  match (dottedParts s).getLast? with
  | none => false
  | some last =>
    (!last.isEmpty && last.all fun c => (Text.Numeral.digit? c).isSome) ||
      (readIpv4Number? last).isSome

/-- The address with the given parts: all but the last are single bytes, the last fills the rest. -/
def joinIpv4? (parts : List Nat) : Option Nat :=
  match parts.reverse with
  | [] => none
  | last :: before =>
    let bytes := before.reverse
    if 3 < bytes.length ∨ bytes.any (255 < ·) ∨ Nat.pow 256 (4 - bytes.length) ≤ last then none
    else some (bytes.foldl (fun value b => value * 256 + b) 0 * Nat.pow 256 (4 - bytes.length) + last)

def readIpv4? (s : List Char) : Option Nat :=
  ((dottedParts s).mapM readIpv4Number?).bind joinIpv4?

def ipv4Text (address : Nat) : List Char :=
  let part (n : Nat) : List Char := Text.Numeral.digits (address / Nat.pow 256 n % 256)
  part 3 ++ '.' :: (part 2 ++ '.' :: (part 1 ++ '.' :: part 0))

/-- Four decimal bytes without leading zeros, as two numbers of 16 bits. -/
def readEmbeddedIpv4? (s : List Char) : Option (List Nat) :=
  let byte? (part : List Char) : Option Nat :=
    if part.length = 0 ∨ (1 < part.length ∧ part.head? = some '0') then none
    else (readBase? 10 part).bind fun n => if n ≤ 255 then some n else none
  match (splitOn '.' s).mapM byte? with
  | some [a, b, c, d] => some [a * 256 + b, c * 256 + d]
  | _ => none

/-- The numbers between single colons. Only behind the last colon may a version 4 address stand. -/
def readPieces? (mayEmbed : Bool) (s : List Char) : Option (List Nat) :=
  if s.isEmpty then some []
  else
    let pieces := splitOn ':' s
    let piece? (p : List Char) : Option (List Nat) :=
      if p.isEmpty ∨ 4 < p.length then none else (readBase? 16 p).map fun n => [n]
    let last? (p : List Char) : Option (List Nat) :=
      if mayEmbed ∧ p.contains '.' then readEmbeddedIpv4? p else piece? p
    (pieces.dropLast.mapM piece?).bind fun before =>
      (last? (pieces.getLast?.getD [])).map fun last => before.flatten ++ last

def splitGap : List Char → List Char × Option (List Char)
  | [] => ([], none)
  | ':' :: ':' :: rest => ([], some rest)
  | c :: rest =>
    let (before, after) := splitGap rest
    (c :: before, after)

def readIpv6? (s : List Char) : Option (List Nat) :=
  match splitGap s with
  | (_, none) =>
    (readPieces? true s).bind fun pieces => if pieces.length = 8 then some pieces else none
  | (before, some after) =>
    (readPieces? false before).bind fun left =>
      (readPieces? true after).bind fun right =>
        if left.length + right.length ≤ 7 then
          some (left ++ List.replicate (8 - left.length - right.length) 0 ++ right)
        else none

def zeroRun (pieces : List Nat) : Nat :=
  (pieces.takeWhile (· == 0)).length

/-- The longest run of zeros, the first of equally long ones: its place and its length. -/
def longestZeroRun : Nat → List Nat → Nat × Nat
  | _, [] => (0, 0)
  | place, p :: rest =>
    let here := zeroRun (p :: rest)
    let (later, length) := longestZeroRun (place + 1) rest
    if length ≤ here ∧ 0 < here then (place, here) else (later, length)

def piecesText (pieces : List Nat) : List Char :=
  List.intercalate [':'] (pieces.map (Nat.toDigits 16))

/-- The text of an address of version 6, without brackets. A single zero is not left out. -/
def ipv6Text (pieces : List Nat) : List Char :=
  let (place, length) := longestZeroRun 0 pieces
  if length ≤ 1 then piecesText pieces
  else piecesText (pieces.take place) ++ [':', ':'] ++ piecesText (pieces.drop (place + length))

end EquipmentBooking.Url

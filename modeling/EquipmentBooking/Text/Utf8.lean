/-! UTF-8. Reading goes byte by byte with at most one unfinished character at hand. A strict reader
refuses ill-formed pieces, a lenient one puts the replacement character in their place. -/
namespace EquipmentBooking.Text.Utf8

def encode (s : List Char) : List UInt8 :=
  s.flatMap String.utf8EncodeChar

/-- A character of which the first bytes have been read: how many bytes are missing, the range in
which the next one must lie, and the number read so far. -/
structure Unfinished where
  missing : Nat
  low : Nat
  high : Nat
  value : Nat

inductive Lead where
  | whole (c : Char)
  | opens (u : Unfinished)
  | illFormed

/-- The lead bytes. Ranges of the second byte exclude overlong forms, surrogates and numbers beyond
the last character. -/
def lead (b : UInt8) : Lead :=
  let n := b.toNat
  if n < 0x80 then .whole (Char.ofNat n)
  else if n < 0xC2 then .illFormed
  else if n < 0xE0 then .opens ⟨1, 0x80, 0xBF, n - 0xC0⟩
  else if n = 0xE0 then .opens ⟨2, 0xA0, 0xBF, 0⟩
  else if n = 0xED then .opens ⟨2, 0x80, 0x9F, 0xD⟩
  else if n < 0xF0 then .opens ⟨2, 0x80, 0xBF, n - 0xE0⟩
  else if n = 0xF0 then .opens ⟨3, 0x90, 0xBF, 0⟩
  else if n < 0xF4 then .opens ⟨3, 0x80, 0xBF, n - 0xF0⟩
  else if n = 0xF4 then .opens ⟨3, 0x80, 0x8F, 4⟩
  else .illFormed

def start (b : UInt8) : List (Option Char) × Option Unfinished :=
  match lead b with
  | .whole c => ([some c], none)
  | .opens u => ([], some u)
  | .illFormed => ([none], none)

/-- The effect of a byte. One that cannot continue an open character ends that character as an
ill-formed piece and starts afresh. -/
def feed (state : Option Unfinished) (b : UInt8) : List (Option Char) × Option Unfinished :=
  match state with
  | none => start b
  | some u =>
    if u.low ≤ b.toNat && b.toNat ≤ u.high then
      let value := u.value * 64 + (b.toNat - 0x80)
      if u.missing ≤ 1 then ([some (Char.ofNat value)], none)
      else ([], some ⟨u.missing - 1, 0x80, 0xBF, value⟩)
    else
      let (out, next) := start b
      (none :: out, next)

/-- The characters and ill-formed pieces from a state on. An unfinished character at the end is one
ill-formed piece. -/
def piecesFrom (state : Option Unfinished) : List UInt8 → List (Option Char)
  | [] => if state.isSome then [none] else []
  | b :: rest =>
    let (out, next) := feed state b
    out ++ piecesFrom next rest

def pieces (bytes : List UInt8) : List (Option Char) :=
  piecesFrom none bytes

def decode? (bytes : List UInt8) : Option (List Char) :=
  (pieces bytes).mapM id

/-- The text with the replacement character for every ill-formed piece. -/
def decodeLenient (bytes : List UInt8) : List Char :=
  (pieces bytes).map fun piece => piece.getD (Char.ofNat 0xFFFD)

end EquipmentBooking.Text.Utf8

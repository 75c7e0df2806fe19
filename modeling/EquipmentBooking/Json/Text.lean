import EquipmentBooking.Json.Bytes
import EquipmentBooking.Text.Utf8

/-! JSON strings. A string that is read must hold valid Unicode, escapes included; a string that is
passed over need only have the form of one. Writing escapes no more than it must. -/
namespace EquipmentBooking.Json

/-- Where the reading of a string stands: between characters, behind a backslash, among the four
digits of a numeric escape, or between the two halves of a surrogate pair. `high` is the first half
of a pair, `seen` the digits so far with the last one first. -/
inductive TextState where
  | plain
  | escape
  | hex (high : Option Nat) (seen : Bytes)
  | pairBackslash (high : Nat)
  | pairLetter (high : Nat)

def escaped? (b : UInt8) : Option UInt8 :=
  if b = byte '"' ∨ b = byte '\\' ∨ b = byte '/' then some b
  else if b = byte 'b' then some 0x08
  else if b = byte 'f' then some 0x0C
  else if b = byte 'n' then some 0x0A
  else if b = byte 'r' then some 0x0D
  else if b = byte 't' then some 0x09
  else none

/-- The number of four hexadecimal digits, the last one first. -/
def hexValue? (digits : Bytes) : Option Nat :=
  digits.foldr (fun b value => value.bind fun v => (hexDigit? b).map fun d => v * 16 + d) (some 0)

/-- What the number of a numeric escape means: a character, or the first half of a pair. -/
def codeUnit (high : Option Nat) (n : Nat) : Except Issue (Option Char × TextState) :=
  match high with
  | none =>
    if 0xDC00 ≤ n ∧ n ≤ 0xDFFF then .error .loneSurrogate
    else if 0xD800 ≤ n ∧ n ≤ 0xDBFF then .ok (none, .pairBackslash n)
    else .ok (some (Char.ofNat n), .plain)
  | some h =>
    if 0xDC00 ≤ n ∧ n ≤ 0xDFFF then
      .ok (some (Char.ofNat ((h - 0xD800) * 0x400 + (n - 0xDC00) + 0x10000)), .plain)
    else .error .loneSurrogate

/-- The bytes of a string up to its closing quote, escapes resolved, in front of which `done` has been
read, the last byte first. -/
def textBytes (state : TextState) (done : Bytes) : Bytes → Except Issue (Bytes × Bytes)
  | [] => .error .eofText
  | b :: rest =>
    match state with
    | .plain =>
      if b = byte '"' then .ok (done.reverse, rest)
      else if b = byte '\\' then textBytes .escape done rest
      else if b < 0x20 then .error .controlCharacter
      else textBytes .plain (b :: done) rest
    | .escape =>
      if b = byte 'u' then textBytes (.hex none []) done rest
      else
        match escaped? b with
        | some e => textBytes .plain (e :: done) rest
        | none => .error .invalidEscape
    | .hex high seen =>
      if seen.length < 3 then textBytes (.hex high (b :: seen)) done rest
      else
        match hexValue? (b :: seen) with
        | none => .error .invalidEscape
        | some n =>
          match codeUnit high n with
          | .error issue => .error issue
          | .ok (none, next) => textBytes next done rest
          | .ok (some c, next) =>
            textBytes next ((String.utf8EncodeChar c).reverse ++ done) rest
    | .pairBackslash high =>
      if b = byte '\\' then textBytes (.pairLetter high) done rest else .error .hexEscapeEnds
    | .pairLetter high =>
      if b = byte 'u' then textBytes (.hex (some high) []) done rest else .error .hexEscapeEnds

def readText (s : Bytes) : Except Issue (String × Bytes) := do
  let (content, rest) ← textBytes .plain [] s
  match Text.Utf8.decode? content with
  | some chars => .ok (String.ofList chars, rest)
  | none => .error .invalidUnicode

inductive SkipState where
  | plain
  | escape
  | hex (seen : Bytes)

def skipTextFrom (state : SkipState) : Bytes → Except Issue Bytes
  | [] => .error .eofText
  | b :: rest =>
    match state with
    | .plain =>
      if b = byte '"' then .ok rest
      else if b = byte '\\' then skipTextFrom .escape rest
      else if b < 0x20 then .error .controlCharacter
      else skipTextFrom .plain rest
    | .escape =>
      if b = byte 'u' then skipTextFrom (.hex []) rest
      else if (escaped? b).isSome then skipTextFrom .plain rest
      else .error .invalidEscape
    | .hex seen =>
      if seen.length < 3 then skipTextFrom (.hex (b :: seen)) rest
      else if (hexValue? (b :: seen)).isSome then skipTextFrom .plain rest
      else .error .invalidEscape

def skipText (s : Bytes) : Except Issue Bytes :=
  skipTextFrom .plain s

def writeChar (c : Char) : List Char :=
  if c = '"' then ['\\', '"']
  else if c = '\\' then ['\\', '\\']
  else if c.toNat = 0x08 then ['\\', 'b']
  else if c.toNat = 0x09 then ['\\', 't']
  else if c.toNat = 0x0A then ['\\', 'n']
  else if c.toNat = 0x0C then ['\\', 'f']
  else if c.toNat = 0x0D then ['\\', 'r']
  else if c.toNat < 0x20 then
    ['\\', 'u', '0', '0', Nat.digitChar (c.toNat / 16), Nat.digitChar (c.toNat % 16)]
  else [c]

def writeText (s : String) : List Char :=
  '"' :: (s.toList.flatMap writeChar ++ ['"'])

end EquipmentBooking.Json

import EquipmentBooking.Json.Number
import EquipmentBooking.Json.Text

/-! Passing over a value that nobody asked for. It must have the form of a JSON value, however deeply
nested, but its numbers need not fit any type and its strings need not be valid Unicode. -/
namespace EquipmentBooking.Json

def skipNumber (s : Bytes) : Except Issue Bytes :=
  (readForm .invalidNumber s).map Prod.snd

def skipName (s : Bytes) : Except Issue Bytes :=
  match skipSpace s with
  | [] => .error .eofObject
  | b :: rest =>
    if b = byte '"' then do
      let s ← skipText rest
      readColon s
    else .error .keyNotText

mutual

/-- Pass over a value. The first argument bounds the number of values and separators on the way. -/
def skipValueWithin : Nat → Bytes → Except Issue Bytes
  | 0, _ => .error .eofValue
  | fuel + 1, s =>
    match skipSpace s with
    | [] => .error .eofValue
    | b :: rest =>
      if b = byte 'n' then readIdent [byte 'u', byte 'l', byte 'l'] rest
      else if b = byte 't' then readIdent [byte 'r', byte 'u', byte 'e'] rest
      else if b = byte 'f' then readIdent [byte 'a', byte 'l', byte 's', byte 'e'] rest
      else if b = byte '-' ∨ (digit? b).isSome then skipNumber (b :: rest)
      else if b = byte '"' then skipText rest
      else if b = byte '[' then skipElementsWithin fuel true rest
      else if b = byte '\x7b' then skipMembersWithin fuel true rest
      else .error .valueExpected

/-- Pass over the elements of a list and its end. `first` says that none has been passed yet. -/
def skipElementsWithin : Nat → Bool → Bytes → Except Issue Bytes
  | 0, _, _ => .error .eofList
  | fuel + 1, first, s =>
    match skipSpace s with
    | [] => .error .eofList
    | b :: rest =>
      if b = byte ']' then .ok rest
      else if first then do
        let s ← skipValueWithin fuel (b :: rest)
        skipElementsWithin fuel false s
      else if b = byte ',' then do
        let s ← skipValueWithin fuel rest
        skipElementsWithin fuel false s
      else .error .listGoesOn

def skipMembersWithin : Nat → Bool → Bytes → Except Issue Bytes
  | 0, _, _ => .error .eofObject
  | fuel + 1, first, s =>
    match skipSpace s with
    | [] => .error .eofObject
    | b :: rest =>
      if b = byte '\x7d' then .ok rest
      else if first then do
        let s ← skipName (b :: rest)
        let s ← skipValueWithin fuel s
        skipMembersWithin fuel false s
      else if b = byte ',' then do
        let s ← skipName rest
        let s ← skipValueWithin fuel s
        skipMembersWithin fuel false s
      else .error .objectGoesOn

end

/-- Pass over a value. Of any two steps in a row one consumes a byte, so twice the length of the text
is more than enough. -/
def skipValue (s : Bytes) : Except Issue Bytes :=
  skipValueWithin (2 * s.length + 2) s

end EquipmentBooking.Json

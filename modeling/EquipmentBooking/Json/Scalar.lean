import EquipmentBooking.Calendar.Timestamp
import EquipmentBooking.Json.Skip

/-! The kinds of values that members of records have: texts, flags, whole numbers of four widths and
timestamps. Each kind says which type its values have, how one is read and how it is written. -/
namespace EquipmentBooking.Json

/-- A kind of value. A place is the number of a line, of 64 bits like an id. -/
inductive Scalar where
  | text
  | optionalText
  | flag
  | count
  | id
  | place
  | balance
  | moment
  deriving DecidableEq, Repr

abbrev Scalar.Carrier : Scalar → Type
  | text => String
  | optionalText => Option String
  | flag => Bool
  | count => UInt32
  | id => UInt64
  | place => Nat
  | balance => Int64
  | moment => Timestamp

/-- The issue with a value of another kind. The value is read as far as the issue tells of it, so a
malformed one is an issue of its own. -/
def foreign (expected : String) (s : Bytes) : Issue :=
  let word (letters : List Char) (found : Found) (rest : Bytes) : Issue :=
    match readIdent (letters.map byte) rest with
    | .ok _ => .wrongType found expected
    | .error issue => issue
  match s with
  | [] => .valueExpected
  | b :: rest =>
    if b = byte 'n' then word ['u', 'l', 'l'] .null rest
    else if b = byte 't' then word ['r', 'u', 'e'] (.flag true) rest
    else if b = byte 'f' then word ['a', 'l', 's', 'e'] (.flag false) rest
    else if b = byte '-' ∨ (digit? b).isSome then
      match readNumber s with
      | .ok (n, _) => .wrongType n.found expected
      | .error issue => issue
    else if b = byte '"' then
      match readText rest with
      | .ok (found, _) => .wrongType (.text found) expected
      | .error issue => issue
    else if b = byte '[' then .wrongType .sequence expected
    else if b = byte '\x7b' then .wrongType .map expected
    else .valueExpected

def readString (s : Bytes) : Except Issue (String × Bytes) :=
  match skipSpace s with
  | [] => .error .eofValue
  | b :: rest =>
    if b = byte '"' then readText rest else .error (foreign "a string" (b :: rest))

def readOptionalString (s : Bytes) : Except Issue (Option String × Bytes) :=
  match skipSpace s with
  | [] => .error .eofValue
  | b :: rest =>
    if b = byte 'n' then
      (readIdent [byte 'u', byte 'l', byte 'l'] rest).map fun after => (none, after)
    else (readString (b :: rest)).map fun (text, after) => (some text, after)

def readFlag (s : Bytes) : Except Issue (Bool × Bytes) :=
  match skipSpace s with
  | [] => .error .eofValue
  | b :: rest =>
    if b = byte 't' then
      (readIdent [byte 'r', byte 'u', byte 'e'] rest).map fun after => (true, after)
    else if b = byte 'f' then
      (readIdent [byte 'a', byte 'l', byte 's', byte 'e'] rest).map fun after => (false, after)
    else .error (foreign "a boolean" (b :: rest))

/-- A whole number that `ofInt?` takes, after any blanks. Numbers of the wrong form and numbers out
of range are different issues. -/
def readWholeNumber {α : Type} (expected : String) (ofInt? : Int → Option α) (s : Bytes) :
    Except Issue (α × Bytes) :=
  match skipSpace s with
  | [] => .error .eofValue
  | b :: rest =>
    if b = byte '-' ∨ (digit? b).isSome then do
      let (n, after) ← readNumber (b :: rest)
      match n with
      | .real .. => .error (.wrongType n.found expected)
      | .natural m =>
        match ofInt? m with
        | some value => .ok (value, after)
        | none => .error (.wrongValue n.found expected)
      | .negative m =>
        match ofInt? (-(m : Int)) with
        | some value => .ok (value, after)
        | none => .error (.wrongValue n.found expected)
    else .error (foreign expected (b :: rest))

def natBelow? (bound : Nat) (n : Int) : Option Nat :=
  if 0 ≤ n ∧ n < bound then some n.toNat else none

def int64? (n : Int) : Option Int64 :=
  if Int64.minValue.toInt ≤ n ∧ n ≤ Int64.maxValue.toInt then some (Int64.ofInt n) else none

def readMoment (s : Bytes) : Except Issue (Timestamp × Bytes) :=
  match skipSpace s with
  | [] => .error .eofValue
  | b :: rest =>
    if b = byte '"' then do
      let (text, after) ← readText rest
      match Timestamp.read text.toList with
      | .ok t => .ok (t, after)
      | .error issue => .error (.refused issue.message)
    else .error (foreign "an RFC 3339 formatted date and time string" (b :: rest))

namespace Scalar

def read : (kind : Scalar) → Bytes → Except Issue (kind.Carrier × Bytes)
  | text => readString
  | optionalText => readOptionalString
  | flag => readFlag
  | count => readWholeNumber "u32" fun n => (natBelow? UInt32.size n).map UInt32.ofNat
  | id => readWholeNumber "u64" fun n => (natBelow? UInt64.size n).map UInt64.ofNat
  | place => readWholeNumber "usize" (natBelow? UInt64.size)
  | balance => readWholeNumber "i64" int64?
  | moment => readMoment

def writeFlag (value : Bool) : List Char :=
  if value then ['t', 'r', 'u', 'e'] else ['f', 'a', 'l', 's', 'e']

def write : (kind : Scalar) → kind.Carrier → List Char
  | text, value => writeText value
  | optionalText, none => ['n', 'u', 'l', 'l']
  | optionalText, some value => writeText value
  | flag, value => writeFlag value
  | count, value => Text.Numeral.digits value.toNat
  | id, value => Text.Numeral.digits value.toNat
  | place, value => Text.Numeral.digits value
  | balance, value =>
    if value.toInt < 0 then '-' :: Text.Numeral.digits value.toInt.natAbs
    else Text.Numeral.digits value.toInt.natAbs
  | moment, value => writeText value.text

end Scalar

end EquipmentBooking.Json

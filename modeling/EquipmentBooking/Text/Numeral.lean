/-! Whole numbers as texts. Digits are consumed from left to right and the first failure decides: a text
that runs over its limit before it runs into a foreign character is too large, not malformed. -/
namespace EquipmentBooking.Text.Numeral

inductive Issue where
  | malformed
  | outOfRange
  deriving DecidableEq, Repr

def digit? (c : Char) : Option Nat :=
  if '0' ≤ c ∧ c ≤ '9' then some (c.toNat - '0'.toNat) else none

/-- Extend `value` by the digits of a text, never beyond `limit`. -/
def accumulate (limit : Nat) : Nat → List Char → Except Issue Nat
  | value, [] => .ok value
  | value, c :: rest =>
    match digit? c with
    | none => .error .malformed
    | some d =>
      if value * 10 + d ≤ limit then accumulate limit (value * 10 + d) rest
      else .error .outOfRange

def readDigits (limit : Nat) : List Char → Except Issue Nat
  | [] => .error .malformed
  | s@(_ :: _) => accumulate limit 0 s

/-- A number without a minus sign, up to `limit`. -/
def readNatural (limit : Nat) (s : List Char) : Except Issue Nat :=
  match s with
  | '+' :: rest => readDigits limit rest
  | _ => readDigits limit s

/-- A number that fits 64 bits with a sign. -/
def readSigned64 (s : List Char) : Except Issue Int :=
  match s with
  | '-' :: rest => (readDigits 0x8000000000000000 rest).map fun n => -(n : Int)
  | '+' :: rest => (readDigits 0x7FFFFFFFFFFFFFFF rest).map fun n => (n : Int)
  | _ => (readDigits 0x7FFFFFFFFFFFFFFF s).map fun n => (n : Int)

def digits (n : Nat) : List Char :=
  Nat.toDigits 10 n

def text (n : Nat) : String :=
  String.ofList (digits n)

theorem text_ne_empty (n : Nat) : text n ≠ "" := by
  simp [text, digits]

def signedText (n : Int) : String :=
  if n < 0 then "-" ++ text n.natAbs else text n.natAbs

/-- The digits of a number with zeros in front up to a width. -/
def padded (width n : Nat) : List Char :=
  List.replicate (width - (digits n).length) '0' ++ digits n

end EquipmentBooking.Text.Numeral

import EquipmentBooking.Json.Bytes

/-! JSON numbers: their form, and what a form means. A number without fraction and exponent is an integer
as long as it fits 64 bits; every other one, negative zero among them, is a double-precision number. -/
namespace EquipmentBooking.Json

/-- A number as written. The digits are given by their values, the first digit first. -/
structure NumberForm where
  negative : Bool
  whole : List Nat
  fraction : Option (List Nat)
  exponent : Option (Bool × List Nat)
  deriving DecidableEq, Repr

def spanDigits : Bytes → List Nat × Bytes
  | [] => ([], [])
  | b :: rest =>
    match digit? b with
    | none => ([], b :: rest)
    | some d =>
      let (ds, after) := spanDigits rest
      (d :: ds, after)

/-- At least one digit. `atEnd` is the issue if the text ends instead. -/
def readDigits (atEnd : Issue) (s : Bytes) : Except Issue (List Nat × Bytes) :=
  match s with
  | [] => .error atEnd
  | b :: _ => if (digit? b).isSome then .ok (spanDigits s) else .error .invalidNumber

def readWhole (atEnd : Issue) (s : Bytes) : Except Issue (List Nat × Bytes) := do
  let (ds, rest) ← readDigits atEnd s
  match ds with
  | 0 :: _ :: _ => .error .invalidNumber
  | _ => .ok (ds, rest)

def readFraction (atEnd : Issue) (s : Bytes) : Except Issue (Option (List Nat) × Bytes) :=
  match s with
  | [] => .ok (none, [])
  | b :: rest =>
    if b = byte '.' then (readDigits atEnd rest).map fun (ds, after) => (some ds, after)
    else .ok (none, s)

/-- The exponent with its sign, if there is one; `true` stands for a negative one. -/
def readExponent (atEnd : Issue) (s : Bytes) :
    Except Issue (Option (Bool × List Nat) × Bytes) :=
  match s with
  | [] => .ok (none, [])
  | b :: rest =>
    if b = byte 'e' ∨ b = byte 'E' then
      let (negative, digits) :=
        match rest with
        | [] => (false, [])
        | sign :: after =>
          if sign = byte '-' then (true, after)
          else if sign = byte '+' then (false, after)
          else (false, rest)
      (readDigits atEnd digits).map fun (ds, after) => (some (negative, ds), after)
    else .ok (none, s)

def readForm (atEnd : Issue) (s : Bytes) : Except Issue (NumberForm × Bytes) := do
  let (negative, digits) :=
    match s with
    | [] => (false, [])
    | b :: rest => if b = byte '-' then (true, rest) else (false, s)
  let (whole, s) ← readWhole atEnd digits
  let (fraction, s) ← readFraction atEnd s
  let (exponent, s) ← readExponent atEnd s
  .ok (⟨negative, whole, fraction, exponent⟩, s)

inductive Number where
  | natural (n : Nat)
  | negative (n : Nat)
  | real (negative : Bool) (magnitude : Decimal.Binary64)
  deriving DecidableEq, Repr

def Number.found : Number → Found
  | natural n => .integer n
  | negative n => .integer (-(n : Int))
  | real sign magnitude => .real sign magnitude

def significandLimit : Nat := UInt64.size - 1

/-- Collect the digits before the point into a significand while it fits 64 bits. Every digit after
that only raises the power of ten. -/
def collectWhole : Nat → Nat → List Nat → Nat × Nat
  | significand, power, [] => (significand, power)
  | significand, power, d :: rest =>
    if power = 0 ∧ significand * 10 + d ≤ significandLimit then
      collectWhole (significand * 10 + d) 0 rest
    else collectWhole significand (power + 1) rest

/-- Collect the digits behind the point while the significand fits 64 bits. The digits after that
are passed over. -/
def collectFraction : Nat → Int → List Nat → Nat × Int
  | significand, power, [] => (significand, power)
  | significand, power, d :: rest =>
    if significand * 10 + d ≤ significandLimit then
      collectFraction (significand * 10 + d) (power - 1) rest
    else (significand, power)

def ofDigits (ds : List Nat) : Nat :=
  ds.foldl (fun n d => n * 10 + d) 0

/-- The double-precision number of a significand and a power of ten. An exponent of more than 31
bits is not computed with: it makes zero, or a number out of range. -/
def realOf (negative : Bool) (significand : Nat) (power : Int) (exponent : Option (Bool × List Nat)) :
    Except Issue Number :=
  let scaled (power : Int) : Except Issue Number :=
    match Decimal.Binary64.scale? significand power with
    | some magnitude => .ok (.real negative magnitude)
    | none => .error .numberOutOfRange
  match exponent with
  | none => scaled power
  | some (down, ds) =>
    let e := ofDigits ds
    if 0x80000000 ≤ e then
      if significand ≠ 0 ∧ down = false then .error .numberOutOfRange
      else .ok (.real negative ⟨0, -1074⟩)
    else scaled (if down then power - e else power + e)

def NumberForm.value (form : NumberForm) : Except Issue Number :=
  let (significand, power) := collectWhole 0 0 form.whole
  match form.fraction, form.exponent with
  | none, none =>
    if power ≠ 0 then realOf form.negative significand power none
    else if form.negative then
      if significand = 0 ∨ 0x8000000000000000 < significand then realOf true significand 0 none
      else .ok (.negative significand)
    else .ok (.natural significand)
  | fraction, exponent =>
    let (significand, power) := collectFraction significand power (fraction.getD [])
    realOf form.negative significand power exponent

def readNumber (s : Bytes) : Except Issue (Number × Bytes) := do
  let (form, rest) ← readForm .eofValue s
  let value ← form.value
  .ok (value, rest)

end EquipmentBooking.Json

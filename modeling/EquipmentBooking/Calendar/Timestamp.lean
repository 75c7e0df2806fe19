import EquipmentBooking.Calendar.Reading

/-! Timestamps: a local date and time together with the offset of the local clock from universal time.
Reading is lenient about blanks and separators, writing has one form for each timestamp. A leap second
is the second sixty of any minute. -/
namespace EquipmentBooking

/-- Whether a local date and time of day lie inside the calendar once the offset, in minutes, is
taken off. An offset is less than a day, so only the first and the last day can fall out. -/
def inCalendar (date : Date) (clock : TimeOfDay) (offset : Int) : Bool :=
  let universal := (clock.minutes : Int) - offset
  (0 ≤ universal || date.prev?.isSome) && (universal < 1440 || date.next?.isSome)

structure Timestamp where
  date : Date
  clock : TimeOfDay
  second : Fin 61
  nanosecond : Fin 1000000000
  offset : Int
  offset_lt : offset.natAbs < 1440
  inside : inCalendar date clock offset = true
  deriving DecidableEq, Repr

namespace Timestamp

/-- Join the parts of a timestamp. An offset of a day or more is no offset, and the moment must lie
inside the calendar in universal time. -/
def assemble (date : Date) (clock : TimeOfDay) (second nanosecond : Nat) (offset : Int) :
    Except Calendar.ReadIssue Timestamp :=
  if offset_lt : offset.natAbs < 1440 then
    if inside : inCalendar date clock offset = true then
      .ok ⟨date, clock, Fin.ofNat 61 second, Fin.ofNat 1000000000 nanosecond, offset, offset_lt,
        inside⟩
    else .error .noInstant
  else .error .outOfRange

open Calendar

/-- The fraction of a second in nanoseconds. Digits after the ninth are passed over. -/
def readFraction (s : List Char) : Except ReadIssue (Nat × List Char) :=
  match s with
  | '.' :: rest => do
    let (n, after) ← readNumber 9 rest
    let places := rest.length - after.length
    .ok (n * Nat.pow 10 (9 - places), after.dropWhile fun c => (Text.Numeral.digit? c).isSome)
  | _ => .ok (0, s)

def underTwoBytes : List Char → Bool
  | [] => true
  | [c] => c.toNat < 0x80
  | _ => false

def readPair (s : List Char) : Except ReadIssue ((Nat × Nat) × List Char) :=
  if underTwoBytes s then .error .tooShort
  else
    match s with
    | a :: b :: rest =>
      match Text.Numeral.digit? a, Text.Numeral.digit? b with
      | some x, some y => .ok ((x, y), rest)
      | _, _ => .error .invalid
    | _ => .error .invalid

/-- Hours and minutes of an offset, in minutes, after its sign. Any run of colons and blanks may
stand between them. -/
def readOffsetSize (s : List Char) : Except ReadIssue (Nat × List Char) := do
  let ((h₁, h₂), s) ← readPair s
  let ((m₁, m₂), s) ← readPair (s.dropWhile fun c => c == ':' || Text.isBlank c)
  if 6 ≤ m₁ then .error .outOfRange
  else .ok ((h₁ * 10 + h₂) * 60 + m₁ * 10 + m₂, s)

def startsWithUtc (s : List Char) : Bool :=
  (s.take 3).map Char.toLower == ['u', 't', 'c']

def readOffset (s : List Char) : Except ReadIssue (Int × List Char) :=
  if startsWithUtc s then .ok (0, s.drop 3)
  else
    match s with
    | [] => .error .tooShort
    | c :: rest =>
      if c = 'Z' ∨ c = 'z' then .ok (0, rest)
      else if c = '+' then (readOffsetSize rest).map fun (n, r) => ((n : Int), r)
      else if c = '-' ∨ c.toNat = 0x2212 then
        (readOffsetSize rest).map fun (n, r) => (-(n : Int), r)
      else .error .invalid

def read (s : List Char) : Except ReadIssue Timestamp := do
  let (year, s) ← readYear s
  let s ← skip '-' (Text.trimStart s)
  let (month, s) ← readSmall 1 12 s
  let s ← skip '-' (Text.trimStart s)
  let (day, s) ← readSmall 1 31 s
  let s ←
    match s with
    | [] => .error ReadIssue.tooShort
    | c :: rest => if c = 't' ∨ c = 'T' ∨ c = ' ' then .ok rest else .error .invalid
  let (hour, s) ← readSmall 0 23 s
  let s ← skip ':' (Text.trimStart s)
  let (minute, s) ← readSmall 0 59 s
  let s ← skip ':' (Text.trimStart s)
  let (second, s) ← readSmall 0 60 s
  let (nanosecond, s) ← readFraction s
  let (offset, s) ← readOffset (Text.trimStart s)
  if (Text.trimStart s).isEmpty then
    match Date.of? year month day with
    | none => .error .outOfRange
    | some date =>
      assemble date (TimeOfDay.ofNumbers hour minute) second nanosecond offset
  else .error .trailing

/-- The fraction with no, three, six or nine places, whichever are enough. -/
def fractionChars (nanosecond : Nat) : List Char :=
  if nanosecond = 0 then []
  else if nanosecond % 1000000 = 0 then '.' :: Text.Numeral.padded 3 (nanosecond / 1000000)
  else if nanosecond % 1000 = 0 then '.' :: Text.Numeral.padded 6 (nanosecond / 1000)
  else '.' :: Text.Numeral.padded 9 nanosecond

/-- A `Z` for universal time, else sign, hours and minutes. -/
def offsetChars (offset : Int) : List Char :=
  if offset = 0 then ['Z']
  else
    (if offset < 0 then '-' else '+') :: (Text.Numeral.padded 2 (offset.natAbs / 60) ++
      ':' :: Text.Numeral.padded 2 (offset.natAbs % 60))

def chars (t : Timestamp) : List Char :=
  t.date.chars ++ 'T' :: (t.clock.chars ++
    ':' :: (Text.Numeral.padded 2 t.second.val ++ fractionChars t.nanosecond.val ++
      offsetChars t.offset))

def text (t : Timestamp) : String :=
  String.ofList t.chars

end Timestamp

end EquipmentBooking

import EquipmentBooking.Calendar.Date
import EquipmentBooking.Calendar.TimeOfDay
import EquipmentBooking.Text.Blank

/-! Reading dates and times from text. Blanks may stand before any number, and a number has at most as
many digits as its place allows. The day is checked against its month only at the end. -/
namespace EquipmentBooking.Calendar

inductive ReadIssue where
  | tooShort
  | invalid
  | outOfRange
  | trailing
  | noInstant
  deriving DecidableEq, Repr

def ReadIssue.message : ReadIssue → String
  | tooShort => "premature end of input"
  | invalid => "input contains invalid characters"
  | outOfRange => "input is out of range"
  | trailing => "trailing input"
  | noInstant => "no possible date and time matching input"

/-- Extend `value` by at most `budget` digits, within 64 bits. -/
def moreDigits : Nat → Nat → List Char → Except ReadIssue (Nat × List Char)
  | 0, value, s => .ok (value, s)
  | _ + 1, value, [] => .ok (value, [])
  | budget + 1, value, c :: rest =>
    match Text.Numeral.digit? c with
    | none => .ok (value, c :: rest)
    | some d =>
      if value * 10 + d < 0x8000000000000000 then moreDigits budget (value * 10 + d) rest
      else .error .outOfRange

/-- A number of one to `budget` digits. -/
def readNumber (budget : Nat) (s : List Char) : Except ReadIssue (Nat × List Char) :=
  match s with
  | [] => .error .tooShort
  | c :: _ =>
    if (Text.Numeral.digit? c).isSome then moreDigits budget 0 s else .error .invalid

/-- A number of one or two digits between two bounds, after any blanks. -/
def readSmall (low high : Nat) (s : List Char) : Except ReadIssue (Nat × List Char) := do
  let (n, rest) ← readNumber 2 (Text.trimStart s)
  if low ≤ n && n ≤ high then .ok (n, rest) else .error .outOfRange

/-- A year after any blanks: up to four digits, or a sign and any number of them. -/
def readYear (s : List Char) : Except ReadIssue (Int × List Char) := do
  let (year, rest) ←
    match Text.trimStart s with
    | '-' :: rest => (readNumber rest.length rest).map fun (n, r) => (-(n : Int), r)
    | '+' :: rest => (readNumber rest.length rest).map fun (n, r) => ((n : Int), r)
    | s => (readNumber 4 s).map fun (n, r) => ((n : Int), r)
  if -0x80000000 ≤ year && year < 0x80000000 then .ok (year, rest) else .error .outOfRange

def skip (c : Char) (s : List Char) : Except ReadIssue (List Char) :=
  match s with
  | [] => .error .tooShort
  | d :: rest => if d = c then .ok rest else .error .invalid

def readDate (s : List Char) : Except ReadIssue Date := do
  let (year, s) ← readYear s
  let s ← skip '-' s
  let (month, s) ← readSmall 1 12 s
  let s ← skip '-' s
  let (day, s) ← readSmall 1 31 s
  if s.isEmpty then
    match Date.of? year month day with
    | some date => .ok date
    | none => .error .outOfRange
  else .error .trailing

def readTimeOfDay (s : List Char) : Except ReadIssue TimeOfDay := do
  let (hour, s) ← readSmall 0 23 s
  let s ← skip ':' s
  let (minute, s) ← readSmall 0 59 s
  if s.isEmpty then .ok (TimeOfDay.ofNumbers hour minute) else .error .trailing

end EquipmentBooking.Calendar

import EquipmentBooking.Json.Scalar

/-! Choices between named alternatives. A choice is written as the name of the alternative; it may also
be read from an object with that name as its only member and `null` as the value. -/
namespace EquipmentBooking.Json

/-- The alternatives of a type by name, and the words for them in messages. -/
structure Choice (α : Type) where
  alternatives : List (String × α)
  expected : String

namespace Choice

variable {α : Type}

def readName (choice : Choice α) (s : Bytes) : Except Issue (α × Bytes) := do
  let (name, after) ← readText s
  match choice.alternatives.lookup name with
  | some value => .ok (value, after)
  | none => .error (.unknownVariant name choice.expected)

/-- The name of an alternative as the first member of an object, after any blanks. -/
def readKey (choice : Choice α) (s : Bytes) : Except Issue (α × Bytes) :=
  match skipSpace s with
  | [] => .error .eofObject
  | b :: rest =>
    if b = byte '"' then choice.readName rest
    else if b = byte '\x7d' then .error .valueExpected
    else .error .keyNotText

/-- The `null` that stands for an alternative without content. -/
def readNothing (s : Bytes) : Except Issue Bytes :=
  match skipSpace s with
  | [] => .error .eofValue
  | b :: rest =>
    if b = byte 'n' then readIdent [byte 'u', byte 'l', byte 'l'] rest
    else .error (foreign "unit" (b :: rest))

def read (choice : Choice α) (s : Bytes) : Except Issue (α × Bytes) :=
  match skipSpace s with
  | [] => .error .eofValue
  | b :: rest =>
    if b = byte '"' then choice.readName rest
    else if b = byte '\x7b' then do
      let (value, s) ← choice.readKey rest
      let s ← readColon s
      let s ← readNothing s
      match skipSpace s with
      | [] => .error .eofObject
      | c :: rest => if c = byte '\x7d' then .ok (value, rest) else .error .valueExpected
    else .error .valueExpected

def write [DecidableEq α] (choice : Choice α) (value : α) : List Char :=
  match choice.alternatives.find? fun alternative => alternative.2 = value with
  | some (name, _) => writeText name
  | none => ['n', 'u', 'l', 'l']

end Choice

end EquipmentBooking.Json

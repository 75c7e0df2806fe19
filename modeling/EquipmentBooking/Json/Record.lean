import EquipmentBooking.Json.Scalar

/-! Records: objects with known members. A record is read from an object with the members in any order
and others between them, or from a list of the values in the order of the format. -/
namespace EquipmentBooking.Json

/-- A member of a record: its name, the kind of its value, and the values that stand for it where an
object does not mention it and where a list ends before it. -/
structure Member where
  name : String
  kind : Scalar
  unmentioned : Option kind.Carrier
  cutOff : Option kind.Carrier

def Member.required (name : String) (kind : Scalar) : Member :=
  ⟨name, kind, none, none⟩

def Member.withDefault (name : String) (kind : Scalar) (value : kind.Carrier) : Member :=
  ⟨name, kind, some value, some value⟩

/-- A text that an object need not have, though a list must. -/
def Member.optional (name : String) : Member :=
  ⟨name, .optionalText, some none, none⟩

abbrev Row : List Member → Type
  | [] => Unit
  | m :: rest => m.kind.Carrier × Row rest

/-- The values found so far while the members of an object are read. -/
abbrev Filling : List Member → Type
  | [] => Unit
  | m :: rest => Option m.kind.Carrier × Filling rest

def Filling.empty : (members : List Member) → Filling members
  | [] => ()
  | _ :: rest => (none, Filling.empty rest)

/-- The row of the values found. The first member without any value is missing. -/
def Filling.finish : (members : List Member) → Filling members → Except Issue (Row members)
  | [], _ => .ok ()
  | m :: rest, (found, more) => do
    match found <|> m.unmentioned with
    | none => .error (.missingField m.name)
    | some value =>
      let row ← Filling.finish rest more
      .ok (value, row)

/-- Read the value of a known member, from the colon on. `none` if no member has the name. -/
def Filling.fill (name : String) : (members : List Member) → Filling members → Bytes →
    Option (Except Issue (Filling members × Bytes))
  | [], _, _ => none
  | m :: rest, (found, more), s =>
    if m.name = name then
      some <|
        if found.isSome then .error (.duplicateField name)
        else do
          let s ← readColon s
          let (value, s) ← m.kind.read s
          .ok ((some value, more), s)
    else
      (Filling.fill name rest more s).map fun read =>
        read.map fun (more, s) => ((found, more), s)

def readMember (members : List Member) (filling : Filling members) (s : Bytes) :
    Except Issue (Filling members × Bytes) := do
  let (name, s) ← readText s
  match Filling.fill name members filling s with
  | some read => read
  | none =>
    let s ← readColon s
    let s ← skipValue s
    .ok (filling, s)

/-- Read the members of an object and its end. `first` says that none has been read yet; the first
argument bounds the number of members. -/
def readMembersWithin (members : List Member) : Nat → Bool → Filling members → Bytes →
    Except Issue (Row members × Bytes)
  | 0, _, _, _ => .error .eofObject
  | fuel + 1, first, filling, s =>
    match skipSpace s with
    | [] => .error .eofObject
    | b :: rest =>
      if b = byte '\x7d' then do
        let row ← Filling.finish members filling
        .ok (row, rest)
      else if first then
        if b = byte '"' then do
          let (filling, s) ← readMember members filling rest
          readMembersWithin members fuel false filling s
        else .error .keyNotText
      else if b = byte ',' then
        match skipSpace rest with
        | [] => .error .eofValue
        | c :: rest =>
          if c = byte '"' then do
            let (filling, s) ← readMember members filling rest
            readMembersWithin members fuel false filling s
          else if c = byte '\x7d' then .error .trailingComma
          else .error .keyNotText
      else .error .objectGoesOn

/-- Find the next element of a list: its place if there is one, `none` at the end of the list. -/
def nextElement (first : Bool) (s : Bytes) : Except Issue (Option Bytes) :=
  match skipSpace s with
  | [] => .error .eofList
  | b :: rest =>
    if b = byte ']' then .ok none
    else if first then .ok (some (b :: rest))
    else if b = byte ',' then
      match skipSpace rest with
      | [] => .error .eofValue
      | c :: rest => if c = byte ']' then .error .trailingComma else .ok (some (c :: rest))
    else .error .listGoesOn

/-- Read the values of a record from the elements of a list. `read` counts the elements so far. -/
def readElements (shape : String) : (members : List Member) → (read : Nat) → Bytes →
    Except Issue (Row members × Bytes)
  | [], _, s => .ok ((), s)
  | m :: rest, read, s => do
    match ← nextElement (read == 0) s with
    | some s =>
      let (value, s) ← m.kind.read s
      let (row, s) ← readElements shape rest (read + 1) s
      .ok ((value, row), s)
    | none =>
      match m.cutOff with
      | none => .error (.wrongLength read shape)
      | some value =>
        let (row, s) ← readElements shape rest (read + 1) s
        .ok ((value, row), s)

def readListEnd (s : Bytes) : Except Issue Bytes :=
  match skipSpace s with
  | [] => .error .eofList
  | b :: rest =>
    if b = byte ']' then .ok rest
    else if b = byte ',' then
      match skipSpace rest with
      | c :: _ => .error (if c = byte ']' then .trailingComma else .trailingCharacters)
      | [] => .error .trailingCharacters
    else .error .trailingCharacters

/-- A record format: the name that messages give to the record, and its members. -/
structure RecordFormat where
  name : String
  members : List Member

namespace RecordFormat

def expected (f : RecordFormat) : String :=
  "struct " ++ f.name

def read (f : RecordFormat) (s : Bytes) : Except Issue (Row f.members × Bytes) :=
  match skipSpace s with
  | [] => .error .eofValue
  | b :: rest =>
    if b = byte '[' then do
      let shape := f.expected ++ " with " ++ Text.Numeral.text f.members.length ++ " elements"
      let (row, s) ← readElements shape f.members 0 rest
      let s ← readListEnd s
      .ok (row, s)
    else if b = byte '\x7b' then
      readMembersWithin f.members (rest.length + 1) true (Filling.empty f.members) rest
    else .error (foreign f.expected (b :: rest))

end RecordFormat

def readRecordsWithin (f : RecordFormat) : Nat → Bool → Bytes →
    Except Issue (List (Row f.members) × Bytes)
  | 0, _, _ => .error .eofList
  | fuel + 1, first, s => do
    match ← nextElement first s with
    | none =>
      let s ← readListEnd s
      .ok ([], s)
    | some s =>
      let (row, s) ← f.read s
      let (rows, s) ← readRecordsWithin f fuel false s
      .ok (row :: rows, s)

/-- Read a list of records, or `null` for the empty list. -/
def readRecords (f : RecordFormat) (s : Bytes) : Except Issue (List (Row f.members) × Bytes) :=
  match skipSpace s with
  | [] => .error .eofValue
  | b :: rest =>
    if b = byte 'n' then
      (readIdent [byte 'u', byte 'l', byte 'l'] rest).map fun after => ([], after)
    else if b = byte '[' then readRecordsWithin f (rest.length + 1) true rest
    else .error (foreign "a sequence" (b :: rest))

def readWholeText {α : Type} (read : Bytes → Except Issue (α × Bytes)) (s : Bytes) :
    Except Issue α := do
  let (value, rest) ← read s
  readEnd rest
  .ok value

def writeObject (members : List (String × List Char)) : List Char :=
  let written := members.map fun (name, value) => writeText name ++ ':' :: value
  '\x7b' :: (List.intercalate [','] written ++ ['\x7d'])

def Row.named : (members : List Member) → Row members → List (String × List Char)
  | [], _ => []
  | m :: rest, (value, row) => (m.name, m.kind.write value) :: Row.named rest row

def RecordFormat.write (f : RecordFormat) (row : Row f.members) : List Char :=
  writeObject (Row.named f.members row)

end EquipmentBooking.Json

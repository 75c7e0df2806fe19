import EquipmentBooking.Json.Layout
import EquipmentBooking.Json.Number

/-! The grammar of JSON: the values there are, and the bytes that are a text of a value. Nothing is read
here. A value has many texts, for blanks, escapes and the order of members are free. -/
namespace EquipmentBooking.Json

/-- A JSON value. A number is kept as it is written, and the members of an object are kept in order,
with repetitions. -/
inductive Value where
  | null
  | flag (value : Bool)
  | number (form : NumberForm)
  | text (value : String)
  | list (elements : List Value)
  | object (members : List (String × Value))
  deriving Repr

section Numbers

def digitByte (d : Nat) : UInt8 :=
  UInt8.ofNat (0x30 + d)

def SpellsDigits (digits : List Nat) (s : Bytes) : Prop :=
  digits ≠ [] ∧ (∀ d ∈ digits, d < 10) ∧ s = digits.map digitByte

def SpellsFraction : Option (List Nat) → Bytes → Prop
  | none, s => s = []
  | some digits, s => ∃ t, SpellsDigits digits t ∧ s = byte '.' :: t

/-- The exponent of a number. The plus sign may be left out. -/
def SpellsExponent : Option (Bool × List Nat) → Bytes → Prop
  | none, s => s = []
  | some (negative, digits), s => ∃ mark sign t,
      (mark = byte 'e' ∨ mark = byte 'E') ∧
      (if negative then sign = [byte '-'] else sign = [] ∨ sign = [byte '+']) ∧
      SpellsDigits digits t ∧ s = mark :: (sign ++ t)

/-- A number. A zero stands in front of no other digit. -/
def SpellsNumber (form : NumberForm) (s : Bytes) : Prop :=
  (form.whole.head? = some 0 → form.whole = [0]) ∧
    ∃ whole fraction exponent, SpellsDigits form.whole whole ∧
      SpellsFraction form.fraction fraction ∧ SpellsExponent form.exponent exponent ∧
      s = (if form.negative then [byte '-'] else []) ++ (whole ++ (fraction ++ exponent))

end Numbers

section Strings

/-- The letters that stand for a character behind a backslash, with that character. -/
def letterEscapes : List (Char × Char) :=
  [('"', '"'), ('\\', '\\'), ('/', '/'), ('b', '\x08'), ('f', '\x0c'), ('n', '\n'), ('r', '\r'),
    ('t', '\t')]

def IsHexDigit (d : Nat) (b : UInt8) : Prop :=
  d < 16 ∧ (b = byte (Nat.digitChar d) ∨ b = byte (Nat.digitChar d).toUpper)

/-- A number as a numeric escape, of which there are always four digits. -/
def SpellsUnit (n : Nat) (s : Bytes) : Prop :=
  ∃ d₁ d₂ d₃ d₄ b₁ b₂ b₃ b₄,
    IsHexDigit d₁ b₁ ∧ IsHexDigit d₂ b₂ ∧ IsHexDigit d₃ b₃ ∧ IsHexDigit d₄ b₄ ∧
      n = ((d₁ * 16 + d₂) * 16 + d₃) * 16 + d₄ ∧ s = [byte '\\', byte 'u', b₁, b₂, b₃, b₄]

/-- One character inside a string: as it is, as a letter behind a backslash, by its number, or by a
surrogate pair. -/
inductive SpellsChar (c : Char) : Bytes → Prop where
  | verbatim (hQuote : c ≠ '"') (hBackslash : c ≠ '\\') (hControl : 0x20 ≤ c.toNat) :
      SpellsChar c (String.utf8EncodeChar c)
  | letter {l : Char} (h : (l, c) ∈ letterEscapes) : SpellsChar c [byte '\\', byte l]
  | unit {s : Bytes} (h : SpellsUnit c.toNat s) : SpellsChar c s
  | pair {high low : Nat} {s t : Bytes} (hHigh : 0xD800 ≤ high ∧ high ≤ 0xDBFF)
      (hLow : 0xDC00 ≤ low ∧ low ≤ 0xDFFF)
      (h : c.toNat = (high - 0xD800) * 0x400 + (low - 0xDC00) + 0x10000)
      (hFirst : SpellsUnit high s) (hSecond : SpellsUnit low t) : SpellsChar c (s ++ t)

inductive SpellsChars : List Char → Bytes → Prop where
  | nil : SpellsChars [] []
  | cons {c : Char} {cs : List Char} {s more : Bytes} (first : SpellsChar c s)
      (rest : SpellsChars cs more) : SpellsChars (c :: cs) (s ++ more)

end Strings

/-- What stands in front of an item of a list or object: blanks, with a comma among them unless the item
is the first one. -/
def IsGap (first : Bool) (gap : Bytes) : Prop :=
  if first then Blank gap
  else ∃ front back, Blank front ∧ Blank back ∧ gap = front ++ byte ',' :: back

mutual

/-- A text of a value, without blanks around it. -/
inductive Spells : Value → Bytes → Prop
  | null : Spells .null [byte 'n', byte 'u', byte 'l', byte 'l']
  | yes : Spells (.flag true) [byte 't', byte 'r', byte 'u', byte 'e']
  | no : Spells (.flag false) [byte 'f', byte 'a', byte 'l', byte 's', byte 'e']
  | number {form : NumberForm} {s : Bytes} (h : SpellsNumber form s) : Spells (.number form) s
  | text {t : String} {s : Bytes} (h : SpellsChars t.toList s) :
      Spells (.text t) (byte '"' :: (s ++ [byte '"']))
  | list {elements : List Value} {s : Bytes} (h : SpellsElements true elements s) :
      Spells (.list elements) (byte '[' :: s)
  | object {members : List (String × Value)} {s : Bytes} (h : SpellsMembers true members s) :
      Spells (.object members) (byte '\x7b' :: s)

inductive SpellsElements : Bool → List Value → Bytes → Prop
  | close {first : Bool} {blanks : Bytes} (h : Blank blanks) :
      SpellsElements first [] (blanks ++ [byte ']'])
  | next {first : Bool} {v : Value} {elements : List Value} {gap s more : Bytes}
      (hGap : IsGap first gap) (hValue : Spells v s) (hMore : SpellsElements false elements more) :
      SpellsElements first (v :: elements) (gap ++ (s ++ more))

inductive SpellsMembers : Bool → List (String × Value) → Bytes → Prop
  | close {first : Bool} {blanks : Bytes} (h : Blank blanks) :
      SpellsMembers first [] (blanks ++ [byte '\x7d'])
  | next {first : Bool} {name : String} {v : Value} {members : List (String × Value)}
      {gap t front back s more : Bytes} (hGap : IsGap first gap) (hName : SpellsChars name.toList t)
      (hFront : Blank front) (hBack : Blank back) (hValue : Spells v s)
      (hMore : SpellsMembers false members more) :
      SpellsMembers first ((name, v) :: members)
        (gap ++ byte '"' :: (t ++ byte '"' :: (front ++ byte ':' :: (back ++ (s ++ more)))))

end

/-- A text of a value, with any blanks around it. -/
def IsText (v : Value) (text : Bytes) : Prop :=
  ∃ front s back, Blank front ∧ Blank back ∧ Spells v s ∧ text = front ++ (s ++ back)

end EquipmentBooking.Json

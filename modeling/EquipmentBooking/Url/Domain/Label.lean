import EquipmentBooking.Text.Blank
import EquipmentBooking.Text.Direction
import EquipmentBooking.Text.Joining
import EquipmentBooking.Url.Domain.Mapping
import EquipmentBooking.Url.Punycode

/-! Labels, the parts of a domain name between its dots. What a label may hold depends on neighbouring
characters and, in names with letters from right to left, on directions. -/
namespace EquipmentBooking.Url.Domain

def isDenied (c : Char) : Bool :=
  c.toNat ≤ 0x20 || c.toNat == 0x7F ||
    ['%', '#', '/', ':', '<', '>', '?', '@', '[', '\\', ']', '^', '|'].contains c

def isAscii (s : List Char) : Bool :=
  s.all fun c => c.toNat < 0x80

/-- Whether the joiners among characters mean something there: behind a virama both change the letter, and
between letters that are joined to each other the non-joiner parts them. `before` holds the characters
in front, the last one first. -/
def joinersFit : (before after : List Char) → Bool
  | _, [] => true
  | before, c :: rest =>
    let fits :=
      match before with
      | [] => false
      | last :: _ =>
        Text.isVirama last ||
          (c.toNat == 0x200C && Text.nearestJoins Text.joinsAhead before &&
            Text.nearestJoins Text.joinsBack rest)
    (!isJoiner c || fits) && joinersFit (c :: before) rest

/-- The longest label that is written in Punycode, in characters. -/
def longestLabel : Nat := 1000

/-- The longest label that is read from Punycode, in digits and letters. -/
def longestEncoding : Nat := 2000

/-- Whether a text in plain form may be a label. It does not begin with a mark. -/
def isFit (label : List Char) : Bool :=
  !label.any isDenied &&
    (isAscii label ||
      (!label.head?.any Text.isMark && joinersFit [] label && label.length ≤ longestLabel))

def encodedMark : List Char :=
  ['x', 'n', '-', '-']

/-- The text that stands in Punycode behind the mark. It is in plain form and holds a character that had
to be encoded. -/
def decodeLabel? (encoded : List Char) : Option (List Char) :=
  if !isAscii encoded || longestEncoding < encoded.length then none
  else
    (Punycode.decode? encoded).bind fun label =>
      if !isAscii label && mapText? label == some label then some label else none

def readLabel? (s : List Char) : Option (List Char) :=
  (if encodedMark.isPrefixOf s then decodeLabel? (s.drop encodedMark.length) else some s).bind
    fun label => if isFit label then some label else none

def writeLabel (label : List Char) : List Char :=
  if isAscii label then label else encodedMark ++ Punycode.encode label

/-- Whether a label has one direction. A label from left to right begins with a letter and ends with a
letter or a European number; one from right to left begins with a letter, ends with a letter or a number
and has numbers of one kind only. Marks at the end do not count. -/
def hasOneDirection (label : List Char) : Bool :=
  let directions := label.map Text.direction
  let last := (Text.dropTail (· == .mark) directions).getLast?
  match directions with
  | [] => true
  | .leftToRight :: _ =>
    !directions.contains .rightToLeft && !directions.contains .arabicNumber &&
      (last == some .leftToRight || last == some .europeanNumber)
  | .rightToLeft :: _ =>
    !directions.contains .leftToRight && last != some .neutral &&
      !(directions.contains .europeanNumber && directions.contains .arabicNumber)
  | _ => false

/-- Whether labels may stand together. Where one of them holds letters from right to left or Arabic
numbers, each has one direction. -/
def directionsFit (labels : List (List Char)) : Bool :=
  let isTurned (c : Char) : Bool :=
    Text.direction c == .rightToLeft || Text.direction c == .arabicNumber
  labels.all isAscii || !labels.any (·.any isTurned) || labels.all hasOneDirection

end EquipmentBooking.Url.Domain

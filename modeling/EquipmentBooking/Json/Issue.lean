import EquipmentBooking.Decimal.Shortest
import EquipmentBooking.Text.Numeral
import EquipmentBooking.Text.Quoted

/-! Why a JSON text is refused. Reading stops at the first issue from the left, be it one of the text's
form or one of the value found where another kind of value belongs. -/
namespace EquipmentBooking.Json

/-- A value found in the wrong place, as far as it is told. -/
inductive Found where
  | null
  | flag (value : Bool)
  | integer (value : Int)
  | real (negative : Bool) (magnitude : Decimal.Binary64)
  | text (value : String)
  | sequence
  | map
  deriving DecidableEq, Repr

def Found.message : Found → String
  | null => "null"
  | flag true => "boolean `true`"
  | flag false => "boolean `false`"
  | integer value => "integer `" ++ Text.Numeral.signedText value ++ "`"
  | real negative magnitude => "floating point `" ++ magnitude.text negative ++ "`"
  | text value => "string " ++ Text.quoted value
  | sequence => "sequence"
  | map => "map"

inductive Issue where
  | eofList
  | eofObject
  | eofText
  | eofValue
  | colonExpected
  | listGoesOn
  | objectGoesOn
  | identExpected
  | valueExpected
  | invalidEscape
  | invalidNumber
  | numberOutOfRange
  | invalidUnicode
  | controlCharacter
  | keyNotText
  | loneSurrogate
  | trailingComma
  | trailingCharacters
  | hexEscapeEnds
  | wrongType (found : Found) (expected : String)
  | wrongValue (found : Found) (expected : String)
  | wrongLength (length : Nat) (expected : String)
  | missingField (name : String)
  | duplicateField (name : String)
  | unknownVariant (name : String) (expected : String)
  | refused (reason : String)
  deriving DecidableEq, Repr

/-- The wording of an issue. Where in the text it arose is not part of it. -/
def Issue.message : Issue → String
  | eofList => "EOF while parsing a list"
  | eofObject => "EOF while parsing an object"
  | eofText => "EOF while parsing a string"
  | eofValue => "EOF while parsing a value"
  | colonExpected => "expected `:`"
  | listGoesOn => "expected `,` or `]`"
  | objectGoesOn => "expected `,` or `\x7d`"
  | identExpected => "expected ident"
  | valueExpected => "expected value"
  | invalidEscape => "invalid escape"
  | invalidNumber => "invalid number"
  | numberOutOfRange => "number out of range"
  | invalidUnicode => "invalid unicode code point"
  | controlCharacter => "control character (\\u0000-\\u001F) found while parsing a string"
  | keyNotText => "key must be a string"
  | loneSurrogate => "lone leading surrogate in hex escape"
  | trailingComma => "trailing comma"
  | trailingCharacters => "trailing characters"
  | hexEscapeEnds => "unexpected end of hex escape"
  | wrongType found expected => "invalid type: " ++ found.message ++ ", expected " ++ expected
  | wrongValue found expected => "invalid value: " ++ found.message ++ ", expected " ++ expected
  | wrongLength length expected =>
    "invalid length " ++ Text.Numeral.text length ++ ", expected " ++ expected
  | missingField name => "missing field `" ++ name ++ "`"
  | duplicateField name => "duplicate field `" ++ name ++ "`"
  | unknownVariant name expected => "unknown variant `" ++ name ++ "`, expected " ++ expected
  | refused reason => reason

end EquipmentBooking.Json

import EquipmentBooking.Url.Percent

/-! The form encoding of named values: names and values joined by equals signs, pairs by ampersands,
blanks as plus signs. Reading back is lenient and takes any text, writing has one form. -/
namespace EquipmentBooking.Url

def isFormPlain (c : Char) : Bool :=
  c.isAlphanum || c == '*' || c == '-' || c == '.' || c == '_'

def formChar (c : Char) : List Char :=
  if c = ' ' then ['+'] else if isFormPlain c then [c] else percentChar c

def formEncode (s : String) : List Char :=
  s.toList.flatMap formChar

def formPair (pair : String × String) : List Char :=
  formEncode pair.1 ++ '=' :: formEncode pair.2

/-- Add a pair behind an encoded text. An ampersand parts it from anything in front of it. -/
def appendFormPair (text : List Char) (pair : String × String) : List Char :=
  if text.isEmpty then formPair pair else text ++ '&' :: formPair pair

def appendFormPairs (text : List Char) (pairs : List (String × String)) : List Char :=
  pairs.foldl appendFormPair text

def formEncodePairs (pairs : List (String × String)) : List Char :=
  appendFormPairs [] pairs

/-- The pieces of a text between separators. There is always at least one piece. -/
def splitOn (separator : Char) : List Char → List (List Char)
  | [] => [[]]
  | c :: rest =>
    if c = separator then [] :: splitOn separator rest
    else
      match splitOn separator rest with
      | [] => [[c]]
      | piece :: pieces => (c :: piece) :: pieces

def formDecode (s : List Char) : String :=
  let spaced := s.map fun c => if c = '+' then ' ' else c
  String.ofList (Text.Utf8.decodeLenient (percentDecode spaced))

/-- The name in front of the first equals sign and the value behind it. -/
def formDecodePair (s : List Char) : String × String :=
  (formDecode (s.takeWhile (· != '=')), formDecode ((s.dropWhile (· != '=')).drop 1))

/-- The pairs of a text. Empty pieces are no pairs. -/
def formDecodePairs (s : List Char) : List (String × String) :=
  ((splitOn '&' s).filter fun piece => !piece.isEmpty).map formDecodePair

end EquipmentBooking.Url

import EquipmentBooking.Url.Parse

/-! Changing components of a URL. A new path is text: question marks and hashes in it are part of the
path and are encoded. Pairs are added behind the query that is there. -/
namespace EquipmentBooking.Url

/-- The path of a URL with structure from its text. A URL that is not special need not have a path, and it
has none if the text begins with a question mark or a hash. -/
def readNewPath (url : Url) (s : List Char) : Path :=
  let first := (unbroken s).head?
  if isFileScheme url.scheme && url.authority.all fun a => a.host == .none then
    readLoosePath url.scheme s
  else if !isSpecialScheme url.scheme && (first == some '?' || first == some '#') then .segments []
  else readPath url.scheme s

/-- Replace the path. In a URL without structure a leading slash would give it one, so it is encoded. -/
def setPath (url : Url) (s : List Char) : Url :=
  match url.path with
  | .flat _ =>
    let text :=
      match s with
      | '/' :: rest => ['%', '2', 'F'] ++ percentEncode controlSet (unbroken rest)
      | _ => percentEncode controlSet (unbroken s)
    { url with path := .flat text }
  | .segments _ => { url with path := readNewPath url s }

/-- Add pairs to the query. There is a query afterwards even if there are no pairs. -/
def appendQuery (url : Url) (pairs : List (String × String)) : Url :=
  { url with query := some (appendFormPairs (url.query.getD []) pairs) }

def queryPairs (url : Url) : List (String × String) :=
  url.query.elim [] formDecodePairs

def target (url : Url) : String :=
  String.ofList (url.path.chars ++ url.query.elim [] fun q => '?' :: q)

def pathText (url : Url) : String :=
  String.ofList url.path.chars

end EquipmentBooking.Url

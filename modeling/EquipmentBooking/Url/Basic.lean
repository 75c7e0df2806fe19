import EquipmentBooking.Url.Address
import EquipmentBooking.Url.Path

/-! URLs by their components. All components are in written form: hosts are normalised, and what a
component cannot hold is percent-encoded in it. -/
namespace EquipmentBooking

namespace Url

/-- Who answers: a name, a numeric address, or nobody. -/
inductive Host where
  | none
  | name (text : List Char)
  | ipv4 (address : Nat)
  | ipv6 (pieces : List Nat)
  deriving DecidableEq, Repr

def Host.chars : Host → List Char
  | none => []
  | name text => text
  | ipv4 address => ipv4Text address
  | ipv6 pieces => '[' :: (ipv6Text pieces ++ [']'])

/-- The part between the two slashes and the path. A default port is not mentioned. -/
structure Authority where
  username : List Char := []
  password : List Char := []
  host : Host
  port : Option Nat := Option.none
  deriving DecidableEq, Repr

def Authority.chars (a : Authority) : List Char :=
  let user :=
    if a.username.isEmpty && a.password.isEmpty then []
    else a.username ++ (if a.password.isEmpty then [] else ':' :: a.password) ++ ['@']
  let port :=
    match a.port with
    | Option.none => []
    | some n => ':' :: Text.Numeral.digits n
  user ++ a.host.chars ++ port

/-- A path is a list of segments, or a text without structure in URLs that are no places. -/
inductive Path where
  | flat (text : List Char)
  | segments (list : List (List Char))
  deriving DecidableEq, Repr

def Path.chars : Path → List Char
  | flat text => text
  | segments list => joinSegments list

end Url

/-- A URL. `sheltered` says that a dot segment stands in front of the path, which is no part of it: it
keeps a path that begins with two slashes from being read as an authority. -/
structure Url where
  scheme : List Char
  authority : Option Url.Authority
  path : Url.Path
  sheltered : Bool := false
  query : Option (List Char) := none
  fragment : Option (List Char) := none
  deriving DecidableEq, Repr

namespace Url

/-- The schemes whose URLs have hosts and hierarchical paths, with their default ports. -/
def defaultPort? (scheme : List Char) : Option Nat :=
  if scheme = "http".toList ∨ scheme = "ws".toList then some 80
  else if scheme = "https".toList ∨ scheme = "wss".toList then some 443
  else if scheme = "ftp".toList then some 21
  else none

def isFileScheme (scheme : List Char) : Bool :=
  scheme == "file".toList

/-- Special URLs take a backslash for a slash. -/
def isSpecialScheme (scheme : List Char) : Bool :=
  (defaultPort? scheme).isSome || isFileScheme scheme

def isSlashIn (scheme : List Char) (c : Char) : Bool :=
  c == '/' || (isSpecialScheme scheme && c == '\\')

def tailChars (url : Url) : List Char :=
  (url.query.elim [] fun q => '?' :: q) ++ (url.fragment.elim [] fun f => '#' :: f)

def chars (url : Url) : List Char :=
  let front :=
    match url.authority with
    | some authority => '/' :: '/' :: authority.chars
    | none => if url.sheltered then ['/', '.'] else []
  url.scheme ++ ':' :: (front ++ url.path.chars ++ url.tailChars)

def text (url : Url) : String :=
  String.ofList url.chars

end Url

end EquipmentBooking

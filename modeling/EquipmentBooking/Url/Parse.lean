import EquipmentBooking.Text.Blank
import EquipmentBooking.Url.Basic
import EquipmentBooking.Url.Domain

/-! Reading absolute URLs. The components are cut off from left to right, and the first one that is
malformed decides the issue. -/
namespace EquipmentBooking.Url

inductive Issue where
  | relative
  | emptyHost
  | badDomain
  | badHostCharacter
  | badPort
  | badIpv4
  | badIpv6
  deriving DecidableEq, Repr

def Issue.message : Issue → String
  | relative => "relative URL without a base"
  | emptyHost => "empty host"
  | badDomain => "invalid international domain name"
  | badHostCharacter => "invalid domain character"
  | badPort => "invalid port number"
  | badIpv4 => "invalid IPv4 address"
  | badIpv6 => "invalid IPv6 address"

def isEdge (c : Char) : Bool :=
  c.toNat ≤ 0x20

def isSchemeStart (c : Char) : Bool :=
  c.isAlpha

def isSchemeChar (c : Char) : Bool :=
  c.isAlphanum || c == '+' || c == '-' || c == '.'

/-- The scheme in small letters and what stands behind its colon. -/
def readScheme? (s : List Char) : Option (List Char × List Char) :=
  let name := unbroken (s.takeWhile (· != ':'))
  match s.dropWhile (· != ':') with
  | [] => none
  | _ :: rest =>
    if name.head?.any isSchemeStart && name.all isSchemeChar then some (name.map Char.toLower, rest)
    else none

def endsAuthority (scheme : List Char) (c : Char) : Bool :=
  isSlashIn scheme c || c == '?' || c == '#'

def splitUser (s : List Char) : Option (List Char × List Char) :=
  match s with
  | [] => none
  | c :: rest =>
    match splitUser rest with
    | some (before, after) => some (c :: before, after)
    | none => if c = '@' then some ([], rest) else none

def readUser (s : List Char) : List Char × List Char :=
  let encode := percentEncode userinfoSet
  (encode (s.takeWhile (· != ':')), encode ((s.dropWhile (· != ':')).drop 1))

/-- The text of the host, and the rest from the colon in front of the port on. Colons inside brackets
belong to the host. -/
def splitHost : (inBrackets : Bool) → List Char → List Char × List Char
  | _, [] => ([], [])
  | inBrackets, c :: rest =>
    if c = ':' ∧ inBrackets = false then ([], c :: rest)
    else
      let (host, port) := splitHost (if c = '[' then true else if c = ']' then false else inBrackets) rest
      (c :: host, port)

def readBracketed (s : List Char) (other : List Char → Except Issue Host) : Except Issue Host :=
  match s with
  | '[' :: rest =>
    if rest.getLast? = some ']' then
      match readIpv6? rest.dropLast with
      | some pieces => .ok (.ipv6 pieces)
      | none => .error .badIpv6
    else .error .badIpv6
  | _ => other s

/-- The host of a special URL: a domain name, or an address if its last part is a number. -/
def readSpecialHost (s : List Char) : Except Issue Host :=
  readBracketed s fun s =>
    match Domain.ofBytes? (percentDecode s) with
    | none => .error .badDomain
    | some [] => .error .emptyHost
    | some domain =>
      if endsInNumber domain then
        match readIpv4? domain with
        | some address => .ok (.ipv4 address)
        | none => .error .badIpv4
      else .ok (.name domain)

def isBadHostChar (c : Char) : Bool :=
  c.toNat = 0 || isBreak c ||
    [' ', '#', '/', ':', '<', '>', '?', '@', '[', '\\', ']', '^', '|'].contains c

def readOpaqueHost (s : List Char) : Except Issue Host :=
  readBracketed s fun s =>
    if s.any isBadHostChar then .error .badHostCharacter
    else if s.isEmpty then .ok .none
    else .ok (.name (percentEncode controlSet s))

/-- The port behind a colon. No digits are no port, and the default port is not mentioned. -/
def readPort (scheme : List Char) (s : List Char) : Except Issue (Option Nat) :=
  match s with
  | [] => .ok none
  | _ =>
    match readBase? 10 s with
    | some port =>
      if 65535 < port then .error .badPort
      else .ok (if defaultPort? scheme = some port then none else some port)
    | none => .error .badPort

/-- Host and port from their texts. Only the host of a URL that is not special may be empty, and then
neither a user nor a port goes with it. -/
def readServer (scheme : List Char) (hasUser : Bool) (hostText portText : List Char) :
    Except Issue (Host × Option Nat) := do
  let special := isSpecialScheme scheme
  if hostText.isEmpty && (special || hasUser || !portText.isEmpty) then .error .emptyHost
  else
    let host ← if special then readSpecialHost hostText else readOpaqueHost hostText
    let port ← readPort scheme (portText.drop 1)
    .ok (host, port)

/-- The authority of a URL from its text, and what of this text belongs to the path: a backslash ends the
port even where it is no slash. An at sign with no user in front of it is skipped, unless the host is
missing too and `behind`, the text behind the authority, is not. -/
def readAuthority (scheme s behind : List Char) : Except Issue (Authority × List Char) := do
  let (user, server) := (splitUser s).getD ([], s)
  if s == ['@'] && !behind.isEmpty then .error .emptyHost
  else
    let (name, password) := readUser user
    let (hostText, portText) := splitHost false server
    let (host, port) ← readServer scheme (!(name.isEmpty && password.isEmpty)) hostText
      (portText.takeWhile (· != '\\'))
    .ok (⟨name, password, host, port⟩, portText.dropWhile (· != '\\'))

/-- Drop empty segments in front, but never the last segment. -/
def dropEmptySegments : List (List Char) → List (List Char)
  | [] :: next :: rest => dropEmptySegments (next :: rest)
  | segments => segments

def pieces (scheme s : List Char) : List (List Char) :=
  splitSegments (isSlashIn scheme) s

def behindSlash? (scheme s : List Char) : Option (List Char) :=
  match s.dropWhile isBreak with
  | [] => none
  | c :: rest => if isSlashIn scheme c then some rest else none

def dropSlash (scheme s : List Char) : List Char :=
  (behindSlash? scheme s).getD s

/-- A path from the segments that a walk ends with. A file's path does not begin with an empty one. -/
def walkedPath (scheme : List Char) (segments : List (List Char)) : Path :=
  .segments (if isFileScheme scheme then dropEmptySegments segments else segments)

/-- The path of a URL that has a place for one, from its text. A special URL always has a path, and
another one may have none. -/
def readPath (scheme s : List Char) : Path :=
  if (unbroken s).isEmpty && !isSpecialScheme scheme then .segments []
  else
    let walk := Walk.along (isFileScheme scheme) {} (pieces scheme (dropSlash scheme s))
    walkedPath scheme walk.segments

/-- The path of a file on no host, from its text, which need not begin with a slash. -/
def readLoosePath (scheme s : List Char) : Path :=
  walkedPath scheme (walkLoose (pieces scheme s))

def splitTail (s : List Char) : List Char × Option (List Char) × Option (List Char) :=
  let fragment :=
    match s.dropWhile (· != '#') with
    | [] => none
    | _ :: fragment => some fragment
  let beforeFragment := s.takeWhile (· != '#')
  let query :=
    match beforeFragment.dropWhile (· != '?') with
    | [] => none
    | _ :: query => some query
  (beforeFragment.takeWhile (· != '?'), query, fragment)

def withTail (scheme : List Char) (authority : Option Authority) (path : Path)
    (query fragment : Option (List Char)) : Url where
  scheme := scheme
  authority := authority
  path := path
  sheltered := authority.isNone && ['/', '/'].isPrefixOf path.chars
  query := query.map (percentEncode (if isSpecialScheme scheme then specialQuerySet else querySet))
  fragment := fragment.map (percentEncode fragmentSet)

/-- A URL from behind the slashes in front of its authority. -/
def parsePlaced (scheme s : List Char) : Except Issue Url := do
  let behind := s.dropWhile fun c => !endsAuthority scheme c
  let (authority, spilled) ← readAuthority scheme (s.takeWhile fun c => !endsAuthority scheme c) behind
  let (path, query, fragment) := splitTail (spilled ++ behind)
  .ok (withTail scheme (some authority) (readPath scheme path) query fragment)

/-- The host of a file: the text between two slashes and the next, unless that is a drive. The name of
the local host stands for no host. Gives the host and the text behind it; behind a host, and where
there are no two slashes, the text is without the slash in front of the path. -/
def readFileHost (scheme s : List Char) : Except Issue (Host × List Char) :=
  match (behindSlash? scheme s).bind (behindSlash? scheme) with
  | none => .ok (.none, dropSlash scheme s)
  | some rest =>
    let hostText := unbroken (rest.takeWhile fun c => !endsAuthority scheme c)
    let behind := rest.dropWhile fun c => !endsAuthority scheme c
    if isDrive hostText || hostText.isEmpty then .ok (.none, rest)
    else (readSpecialHost hostText).map fun host =>
      if host = .name "localhost".toList then (.none, behind) else (host, dropSlash scheme behind)

/-- The URL of a file from behind its scheme. A file on a drive is on no host. -/
def parseFile (scheme s : List Char) : Except Issue Url := do
  let (host, behind) ← readFileHost scheme s
  let (path, query, fragment) := splitTail behind
  let walk := Walk.along true {} (pieces scheme path)
  let host := if walk.onDrive then .none else host
  .ok (withTail scheme (some ⟨[], [], host, none⟩) (walkedPath scheme walk.segments)
    (query.map unbroken) (fragment.map unbroken))

/-- A URL of any other scheme from behind it: placed, with a path alone, or without structure. -/
def parseOther (scheme s : List Char) : Except Issue Url :=
  match s with
  | '/' :: '/' :: rest => parsePlaced scheme rest
  | '/' :: _ =>
    let (path, query, fragment) := splitTail s
    .ok (withTail scheme none (readPath scheme path) query fragment)
  | _ =>
    let (path, query, fragment) := splitTail s
    .ok (withTail scheme none (.flat (percentEncode controlSet path)) query fragment)

def trimEdges (s : List Char) : List Char :=
  Text.dropTail isEdge (s.dropWhile isEdge)

/-- Read an absolute URL with nothing around it. Breaks matter in the paths of files only. -/
def parseTrimmed (s : List Char) : Except Issue Url :=
  match readScheme? s with
  | none => .error .relative
  | some (scheme, rest) =>
    if isFileScheme scheme then parseFile scheme rest
    else if isSpecialScheme scheme then
      parsePlaced scheme ((unbroken rest).dropWhile (isSlashIn scheme))
    else parseOther scheme (unbroken rest)

def parse (s : String) : Except Issue Url :=
  parseTrimmed (trimEdges s.toList)

end EquipmentBooking.Url

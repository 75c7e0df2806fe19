import EquipmentBooking.Text.Quoted
import EquipmentBooking.Url.Edit

/-! The configuration of the client. Endpoint paths are absolute below the base URL, so that a server
mounted under a prefix keeps the prefix. -/
namespace EquipmentBooking

/-- The settings of a client. A bound of zero milliseconds is no bound. -/
structure ClientConfig where
  baseUrl : String := "http://localhost:8080"
  clashPath : String := "/api/clashes"
  itemPath : String := "/api/item"
  timeoutMs : UInt64 := 30000
  userAgent : String := "prepper-booking/0.1.0"
  deriving DecidableEq, Repr

inductive ConfigIssue where
  | timeoutNotNumber (raw : String)
  | badBaseUrl (issue : Url.Issue)
  | unsupportedScheme (scheme : String)
  | pathNotAbsolute (path : String)
  | badEndpoint (path : String) (issue : Url.Issue)
  | badUserAgent
  deriving DecidableEq, Repr

namespace ConfigIssue

def detail : ConfigIssue → String
  | timeoutNotNumber raw => "PREPPER_TIMEOUT_MS is not a number: " ++ Text.quoted raw
  | badBaseUrl issue => "invalid base url: " ++ issue.message
  | unsupportedScheme scheme => "unsupported scheme: " ++ scheme
  | pathNotAbsolute path => "endpoint path must be absolute: " ++ path
  | badEndpoint path issue => "invalid endpoint " ++ path ++ ": " ++ issue.message
  | badUserAgent => "builder error: failed to parse header value"

/-- Whether the settings themselves are at fault; otherwise the client could not be set up with them. -/
def isConfiguration : ConfigIssue → Bool
  | badUserAgent => false
  | _ => true

def message (issue : ConfigIssue) : String :=
  (if issue.isConfiguration then "Configuration error: " else "Initialization error: ") ++
    issue.detail

end ConfigIssue

namespace ClientConfig

def bound? (c : ClientConfig) : Option UInt64 :=
  if c.timeoutMs = 0 then none else some c.timeoutMs

def checkPath (path : String) : Except ConfigIssue Unit :=
  if path.toList.head? = some '/' then .ok () else .error (.pathNotAbsolute path)

/-- Check settings: the base URL first, then the paths in order. -/
def validate (c : ClientConfig) : Except ConfigIssue Unit := do
  let url ← (Url.parse c.baseUrl).mapError ConfigIssue.badBaseUrl
  if url.scheme = "http".toList ∨ url.scheme = "https".toList then
    checkPath c.clashPath
    checkPath c.itemPath
  else .error (.unsupportedScheme (String.ofList url.scheme))

/-- The defaults with what the environment sets instead, checked. -/
def ofLookup (lookup : String → Option String) : Except ConfigIssue ClientConfig := do
  let standard : ClientConfig := {}
  let timeoutMs ←
    match lookup "PREPPER_TIMEOUT_MS" with
    | none => .ok standard.timeoutMs
    | some raw =>
      match Text.Numeral.readNatural (UInt64.size - 1) raw.toList with
      | .ok n => .ok (UInt64.ofNat n)
      | .error _ => .error (.timeoutNotNumber raw)
  let config : ClientConfig :=
    { standard with
      baseUrl := (lookup "PREPPER_BASE_URL").getD standard.baseUrl
      clashPath := (lookup "PREPPER_CLASH_PATH").getD standard.clashPath
      itemPath := (lookup "PREPPER_ITEM_PATH").getD standard.itemPath
      timeoutMs }
  config.validate
  .ok config

/-- The URL of an endpoint: the base URL with the path put behind its own path, whose slashes at the
end do not count. -/
def endpoint (c : ClientConfig) (path : String) : Except ConfigIssue Url := do
  let url ← (Url.parse c.baseUrl).mapError (ConfigIssue.badEndpoint path)
  .ok (url.setPath (Text.dropTail (· == '/') url.path.chars ++ path.toList))

def isHeaderChar (c : Char) : Bool :=
  (0x20 ≤ c.toNat && c.toNat != 0x7F) || c == '\t'

def checkClient (c : ClientConfig) : Except ConfigIssue Unit := do
  c.validate
  if c.userAgent.toList.all isHeaderChar then .ok () else .error .badUserAgent

end ClientConfig

end EquipmentBooking

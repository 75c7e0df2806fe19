import EquipmentBooking.Clash.Stats
import EquipmentBooking.ClashQuery
import EquipmentBooking.Config
import EquipmentBooking.Form.Receipt
import EquipmentBooking.Http.Request
import EquipmentBooking.Wire.Response

/-! The three clients of the booking server: the clash authority, the sender of booking forms, and the
inventory. Each puts a request to the HTTP library and reads the answer. -/
namespace EquipmentBooking

open Http

namespace ClientConfig

def requestEndpoint (c : ClientConfig) (path : String) : Except ApiError Url :=
  (c.endpoint path).mapError fun issue => .client issue.message

def clashUrl (c : ClientConfig) (query : ClashQuery) : Except ApiError Url :=
  (c.requestEndpoint c.clashPath).map fun url => url.appendQuery query.toPairs

def request (c : ClientConfig) (method : Method) (url : Url) (payload : Payload) : Request :=
  ⟨method, url, payload, c.userAgent, c.bound?⟩

def clashRequest (c : ClientConfig) (query : ClashQuery) : Except ApiError Request :=
  (c.clashUrl query).map fun url => c.request .get url .nothing

/-- The request that sends a form. Its method decides where the fields go. -/
def formRequest (c : ClientConfig) (form : Submission) : Except ApiError Request :=
  (c.requestEndpoint form.action).map fun url =>
    match form.method with
    | .get => c.request .get url (.query form.fields)
    | .post => c.request .post url (.form form.fields)

def itemRequest (c : ClientConfig) (suffix : List Char) (body : List Char) :
    Except ApiError Request :=
  let path := Text.dropTail (· == '/') c.itemPath.toList ++ '/' :: suffix
  (c.requestEndpoint (String.ofList path)).map fun url => c.request .post url (.json body)

def createRequest (c : ClientConfig) (item : NewItem) : Except ApiError Request :=
  c.itemRequest "create".toList item.write

def updateRequest (c : ClientConfig) (id : UInt64) (update : ItemUpdate) :
    Except ApiError Request :=
  c.itemRequest (Text.Numeral.digits id.toNat ++ "/edit".toList) update.write

end ClientConfig

namespace Http

variable {σ : Type}

/-- Send a request. The failures of the library become errors. -/
def send (network : Network σ) (c : ClientConfig) (request : Request) (state : σ) :
    Except ApiError Answer × σ :=
  let (answer, state) := network request state
  (answer.mapError (ApiError.ofFailure c.timeoutMs), state)

def Answer.received (answer : Answer) (c : ClientConfig) : Except ApiError Json.Bytes :=
  answer.body.mapError (ApiError.ofFailure c.timeoutMs)

/-- The receipt for the page that a form led to. The page itself is read only where it refuses. -/
def Answer.receipt (answer : Answer) (c : ClientConfig) : Except ApiError Receipt :=
  if isSuccess answer.status then
    .ok ⟨answer.status, answer.url.pathText, bookingId? answer.url.pathText⟩
  else (answer.received c).bind fun body => .error (ApiError.ofStatus answer.status body)

/-- Put a query to the clash authority, and count how it went. A query without a URL is not counted. -/
def check (network : Network σ) (c : ClientConfig) (query : ClashQuery) (stats : AuthorityStats)
    (state : σ) : Except ApiError (List ClashRecord) × AuthorityStats × σ :=
  match c.clashRequest query with
  | .error error => (.error error, stats, state)
  | .ok request =>
    let (answer, state) := send network c request state
    let result := answer.bind fun answer => (answer.received c).bind (readClashes answer.status)
    (result, stats.record result, state)

def sendForm (network : Network σ) (c : ClientConfig) (form : Submission) (state : σ) :
    Except ApiError Receipt × σ :=
  match c.formRequest form with
  | .error error => (.error error, state)
  | .ok request =>
    let (answer, state) := send network c request state
    (answer.bind fun answer => answer.receipt c, state)

def sendItem (network : Network σ) (c : ClientConfig) (request : Except ApiError Request)
    (state : σ) : Except ApiError CatalogItem × σ :=
  match request with
  | .error error => (.error error, state)
  | .ok request =>
    let (answer, state) := send network c request state
    (answer.bind fun answer => (answer.received c).bind (readItem answer.status), state)

end Http

end EquipmentBooking

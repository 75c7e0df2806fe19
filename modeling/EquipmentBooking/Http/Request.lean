import EquipmentBooking.ApiError
import EquipmentBooking.Json.Bytes
import EquipmentBooking.Time.Booked
import EquipmentBooking.Url.Edit

/-! Requests as the clients put them to the HTTP library, and what it gives back. What it does in
between, redirections among it, is its own affair. -/
namespace EquipmentBooking

namespace Http

inductive Method where
  | get
  | post
  deriving DecidableEq, Repr

/-- What goes along with the URL of a request: nothing, pairs for its query, the fields of a form, or the
text of a JSON value. -/
inductive Payload where
  | nothing
  | query (pairs : Pairs)
  | form (pairs : Pairs)
  | json (text : List Char)
  deriving DecidableEq, Repr

structure Request where
  method : Method
  url : Url
  payload : Payload
  userAgent : String
  bound? : Option UInt64
  deriving DecidableEq, Repr

/-- Why there is no answer, or no body of one. The library tells failures apart by these questions, of
which several can hold at once. -/
structure Failure where
  isTimeout : Bool := false
  isDecode : Bool := false
  isBuilder : Bool := false
  text : String
  deriving DecidableEq, Repr

/-- An answer, with the URL from which it came in the end. The body is asked for apart. -/
structure Answer where
  status : UInt16
  url : Url
  body : Except Failure Json.Bytes

/-- The HTTP library and all that it reaches, with a state. -/
abbrev Network (σ : Type) := Request → σ → Except Failure Answer × σ

def unreachable {σ : Type} : Network σ :=
  fun _ state => (.error { text := "connection failed" }, state)

namespace Request

variable (r : Request)

/-- The URL that is asked for. Without any pairs at all there is no query. -/
def asked : Url :=
  match r.payload with
  | .query pairs =>
    let url := r.url.appendQuery pairs
    if url.query = some [] then { url with query := none } else url
  | _ => r.url

/-- Path and query, as they stand in the first line of a request. -/
def target : String :=
  r.asked.target

def contentType : Option String :=
  match r.payload with
  | .form _ => some "application/x-www-form-urlencoded"
  | .json _ => some "application/json"
  | _ => none

def body : Json.Bytes :=
  match r.payload with
  | .form pairs => Text.Utf8.encode (Url.formEncodePairs pairs)
  | .json text => Text.Utf8.encode text
  | _ => []

end Request

end Http

/-- What a failure of the library is to the clients. A wait that took too long is one whatever else
went wrong. -/
def ApiError.ofFailure (timeoutMs : UInt64) (failure : Http.Failure) : ApiError :=
  if failure.isTimeout then .timeout timeoutMs
  else if failure.isDecode then .malformed failure.text
  else if failure.isBuilder then .client failure.text
  else .network failure.text

end EquipmentBooking

import EquipmentBooking.ApiError
import EquipmentBooking.Wire.Records

/-! What answers of the server mean. The status decides first: without a success status an answer is a
failure, whatever its body holds. A success with another body than was asked for is malformed. -/
namespace EquipmentBooking

open Json (RecordFormat Row)

def isSuccess (status : UInt16) : Bool :=
  200 ≤ status && status < 300

/-- The body in which the server accounts for a failure. -/
def failureFormat : RecordFormat where
  name := "FailureBody"
  members := [.required "error" .text, .required "message" .text]

namespace ApiError

/-- The error for an answer without a success status. The server's own account is preferred to the
body as plain text. -/
def ofStatus (status : UInt16) (body : Json.Bytes) : ApiError :=
  match Json.readWholeText failureFormat.read body with
  | .ok (error, message, ()) => .rejected status error message
  | .error _ =>
    .status status (String.ofList (Text.trimChars (Text.Utf8.decodeLenient body)))

def ofIssue (issue : Json.Issue) : ApiError :=
  .malformed issue.message

end ApiError

/-- The answer to a clash query: the records in order, `null` standing for none. -/
def readClashes (status : UInt16) (body : Json.Bytes) : Except ApiError (List ClashRecord) :=
  if isSuccess status then
    match Json.readWholeText (Json.readRecords ClashRecord.format) body with
    | .ok rows => .ok (rows.map ClashRecord.ofRow)
    | .error issue => .error (ApiError.ofIssue issue)
  else .error (ApiError.ofStatus status body)

def readItem (status : UInt16) (body : Json.Bytes) : Except ApiError CatalogItem :=
  if isSuccess status then
    match Json.readWholeText CatalogItem.format.read body with
    | .ok row => .ok (CatalogItem.ofRow row)
    | .error issue => .error (ApiError.ofIssue issue)
  else .error (ApiError.ofStatus status body)

end EquipmentBooking

import EquipmentBooking.Text.Numeral

namespace EquipmentBooking

/-- A failed exchange with the server. -/
inductive ApiError where
  /-- The server was not reached, or the connection broke. -/
  | network (detail : String)
  /-- No answer within the bound, in milliseconds. -/
  | timeout (bound : UInt64)
  /-- An answer with a failure status and an unstructured body. -/
  | status (code : UInt16) (message : String)
  /-- An answer with a failure status and the server's own account of the failure. -/
  | rejected (code : UInt16) (error message : String)
  /-- An answer with a success status that holds something else than was asked for. -/
  | malformed (detail : String)
  /-- The request was given up. -/
  | cancelled
  /-- The request could not be made. -/
  | client (detail : String)
  deriving DecidableEq, Repr

def ApiError.message : ApiError → String
  | network detail => "Network error: " ++ detail
  | timeout bound => "Request timeout after " ++ Text.Numeral.text bound.toNat ++ "ms"
  | status code message => "API error: " ++ Text.Numeral.text code.toNat ++ " - " ++ message
  | rejected code error message =>
    "Rejected by server (" ++ Text.Numeral.text code.toNat ++ "): " ++ error ++ " - " ++ message
  | malformed detail => "Malformed response: " ++ detail
  | cancelled => "Request cancelled"
  | client detail => "Client error: " ++ detail

end EquipmentBooking

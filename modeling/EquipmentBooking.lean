import EquipmentBooking.ClashQuery.Reading
import EquipmentBooking.Form.Quantity
import EquipmentBooking.Http.Clients
import EquipmentBooking.Roster.Rows
import EquipmentBooking.Workflow.History
import EquipmentBooking.Proofs.Form.Validation
import EquipmentBooking.Proofs.Workflow.Calls
import EquipmentBooking.Proofs.Workflow.Soundness
import EquipmentBooking.Proofs.Workflow.Releases
import EquipmentBooking.Proofs.Form.Submission
import EquipmentBooking.Proofs.Workflow.Capture
import EquipmentBooking.Proofs.Workflow.Trips
import EquipmentBooking.Proofs.Workflow.Courses
import EquipmentBooking.Proofs.Workflow.Race
import EquipmentBooking.Proofs.Workflow.Submitting
import EquipmentBooking.Proofs.Roster.Refinement
import EquipmentBooking.Proofs.Workflow.Refusals
import EquipmentBooking.Proofs.Workflow.Counters
import EquipmentBooking.Json.Layout
import EquipmentBooking.Proofs.Json.Extent
import EquipmentBooking.Proofs.Json.ValueExtent
import EquipmentBooking.Proofs.Json.RecordExtent
import EquipmentBooking.Proofs.Json.Listing
import EquipmentBooking.Proofs.Wire.Response
import EquipmentBooking.Proofs.Workflow.Answers
import EquipmentBooking.Proofs.Text.Utf8
import EquipmentBooking.Proofs.Url.FormEncoding
import EquipmentBooking.Proofs.Http.Requests
import EquipmentBooking.Proofs.Http.Forms
import EquipmentBooking.Proofs.Text.Numeral
import EquipmentBooking.Proofs.Text.Integer
import EquipmentBooking.Proofs.Form.Quantity
import EquipmentBooking.Proofs.Form.Receipt
import EquipmentBooking.Proofs.Clash.Columns
import EquipmentBooking.Proofs.Clash.Review
import EquipmentBooking.Proofs.Calendar.Days
import EquipmentBooking.Proofs.Calendar.Reading
import EquipmentBooking.Proofs.Time.Reading
import EquipmentBooking.Proofs.ClashQuery.Reading
import EquipmentBooking.Proofs.Calendar.Timestamp
import EquipmentBooking.Proofs.Json.Text
import EquipmentBooking.Proofs.Json.Scalar
import EquipmentBooking.Proofs.Json.Record
import EquipmentBooking.Proofs.Json.Range
import EquipmentBooking.Wire.Form
import EquipmentBooking.Proofs.Wire.RoundTrip
import EquipmentBooking.Calendar.Week
import EquipmentBooking.Time.Fields
import EquipmentBooking.Form.Checked
import EquipmentBooking.Proofs.Except
import EquipmentBooking.Proofs.Roster.Bounds
import EquipmentBooking.Proofs.Workflow.Bounds
import EquipmentBooking.Proofs.Calendar.Order
import EquipmentBooking.Proofs.Calendar.Week
import EquipmentBooking.Proofs.Time.Forms
import EquipmentBooking.Proofs.Time.Resolution
import EquipmentBooking.Proofs.Time.Limits
import EquipmentBooking.Proofs.Time.Weeks
import EquipmentBooking.Json.Grammar
import EquipmentBooking.Proofs.Json.Spelling
import EquipmentBooking.Proofs.Workflow.Validation
import EquipmentBooking.Json.Meaning
import EquipmentBooking.Proofs.Json.Reading
import EquipmentBooking.Proofs.Json.RecordReading
import EquipmentBooking.Proofs.Json.Writing
import EquipmentBooking.Proofs.Wire.Clashes
import EquipmentBooking.Proofs.Wire.Items
import EquipmentBooking.Proofs.Url.Path
import EquipmentBooking.Proofs.Url.PlainPath
import EquipmentBooking.Proofs.Url.Slashes
import EquipmentBooking.Proofs.Config
import EquipmentBooking.Proofs.Text.Lowercase
import EquipmentBooking.Proofs.Time.DayNames
import EquipmentBooking.Proofs.Clash.Stats
import EquipmentBooking.Proofs.Http.Checks
import EquipmentBooking.Proofs.Json.Unambiguous
import EquipmentBooking.Proofs.Json.Fields
import EquipmentBooking.Proofs.Wire.Updates

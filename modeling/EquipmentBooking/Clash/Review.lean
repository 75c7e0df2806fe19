import EquipmentBooking.Clash.Record
import EquipmentBooking.Fault

namespace EquipmentBooking

/-- A clash as shown. The window gives both times of day on the clocks of the record. -/
structure ReviewRow where
  equipmentName : String
  bookingId : UInt64
  bookingUser : String
  bookingActivity : String
  window : String
  youQuantity : UInt32
  clashQuantity : UInt32
  totalQuantity : UInt32
  netQuantity : Int64
  shortfall : Bool
  deriving DecidableEq, Repr

def ReviewRow.ofRecord (r : ClashRecord) : ReviewRow where
  equipmentName := r.equipmentName
  bookingId := r.bookingId
  bookingUser := r.bookingUser
  bookingActivity := r.bookingActivity
  window := r.bookingStarts.clock.text ++ " - " ++ r.bookingEnds.clock.text
  youQuantity := r.youQuantity
  clashQuantity := r.clashQuantity
  totalQuantity := r.totalQuantity
  netQuantity := r.netQuantity
  shortfall := decide (r.netQuantity.toInt < 0)

def ReviewRow.cells (row : ReviewRow) : List (List Char) :=
  [row.equipmentName.toList, '#' :: Text.Numeral.digits row.bookingId.toNat, row.bookingUser.toList,
    row.bookingActivity.toList, row.window.toList, Text.Numeral.digits row.youQuantity.toNat,
    Text.Numeral.digits row.clashQuantity.toNat,
    (Text.Numeral.signedText row.netQuantity.toInt).toList]

structure ClashReview where
  rows : List ReviewRow
  deriving DecidableEq, Repr

namespace ClashReview

def ofRecords (records : List ClashRecord) : ClashReview :=
  ⟨records.map ReviewRow.ofRecord⟩

def size (review : ClashReview) : Nat :=
  review.rows.length

def headings : List (List Char) :=
  ["Equipment", "Booking", "User", "Activity", "Time", "You", "Clash", "Net"].map String.toList

/-- The width of every column: the most characters of its heading and its cells. -/
def widths (rows : List (List (List Char))) : List Nat :=
  rows.foldl (fun widest cells => List.zipWith (fun w cell => max w cell.length) widest cells)
    (headings.map List.length)

/-- The widest column that can be padded. -/
def widestColumn : Nat := 65535

def pad (cell : List Char) (width : Nat) : List Char :=
  cell ++ List.replicate (width - cell.length) ' '

/-- A line of cells: padded, two blanks apart, without blanks at the end. -/
def line (columns : List Nat) (cells : List (List Char)) : List Char :=
  Text.trimEnd (List.intercalate [' ', ' '] (List.zipWith pad cells columns)) ++ ['\n']

/-- What stands in a column of a line, blanks included. Blanks are read behind the end of the line. -/
def cellAt (columns : List Nat) (column : Nat) (line : List Char) : List Char :=
  let width := columns.getD column 0
  pad ((line.drop ((columns.take column).foldr (· + ·) 0 + 2 * column)).take width) width

/-- The table: a line of headings, and a line for each clash. -/
def render (review : ClashReview) : Except Fault String :=
  let rows := review.rows.map ReviewRow.cells
  let columns := widths rows
  if columns.all fun width => width ≤ widestColumn then
    .ok (String.ofList ((headings :: rows).flatMap (line columns)))
  else .error .columnTooWide

end ClashReview

end EquipmentBooking

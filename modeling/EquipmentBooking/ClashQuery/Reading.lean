import EquipmentBooking.ClashQuery

/-! Reading a query from its named values, as the server does. Six names are those of the time fields,
and any other name is that of a quantity. The mark in front of an item's id keeps the two apart. -/
namespace EquipmentBooking

/-- The time fields among named values. Of a name that is repeated the first value counts. -/
def TypedTime.ofPairs (pairs : Pairs) : TypedTime where
  manual := pairs.lookup "manual" == some "true"
  date := pairs.lookup "date"
  weekCommencing := pairs.lookup "week_commencing"
  day := pairs.lookup "day"
  startTime := pairs.lookup "start_time"
  endTime := pairs.lookup "end_time"

def RosterKind.itemId? (kind : RosterKind) (key : String) : Option String :=
  let mark := kind.quantityMark.toList
  if mark.isPrefixOf key.toList then some (String.ofList (key.toList.drop mark.length)) else none

def RosterKind.quantities (kind : RosterKind) (pairs : Pairs) : List (String × UInt32) :=
  pairs.filterMap fun (key, value) =>
    match kind.itemId? key, Text.Numeral.readNatural (UInt32.size - 1) value.toList with
    | some itemId, .ok quantity => some (itemId, UInt32.ofNat quantity)
    | _, _ => none

/-- The lines of a roster that ask for given quantities. Their names are not known. -/
def Roster.entriesOf (quantities : List (String × UInt32)) : List RosterEntry :=
  quantities.mapIdx fun i (itemId, quantity) => ⟨i + 1, itemId, "", quantity, quantity⟩

/-- The query that named values state. -/
def ClashQuery.ofPairs (kind : RosterKind) (pairs : Pairs) :
    Except Fault (Except TimeIssue ClashQuery) :=
  ClashQuery.build (TypedTime.ofPairs pairs) kind (Roster.entriesOf (kind.quantities pairs))

theorem RosterKind.itemId?_quantityKey (kind : RosterKind) (itemId : String) :
    kind.itemId? (kind.quantityKey itemId) = some itemId := by
  simp [RosterKind.itemId?, RosterKind.quantityKey]

end EquipmentBooking

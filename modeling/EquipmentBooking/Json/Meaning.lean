import EquipmentBooking.Json.Grammar
import EquipmentBooking.Json.Record

/-! What JSON values mean where a value of some kind or a record belongs. This is said of values,
however they are written. -/
namespace EquipmentBooking.Json

namespace Value

/-- A number written with digits alone. -/
def IsNatural (v : Value) (n : Nat) : Prop :=
  ∃ digits, v = .number ⟨false, digits, none, none⟩ ∧ ofDigits digits = n

/-- A number written with digits alone or behind a minus sign, which does not stand in front of zero. -/
def IsInteger (v : Value) (i : Int) : Prop :=
  (∃ n : Nat, v.IsNatural n ∧ i = n) ∨
    ∃ digits, v = .number ⟨true, digits, none, none⟩ ∧ 0 < ofDigits digits ∧
      i = -(ofDigits digits : Int)

def IsMoment (v : Value) (t : Timestamp) : Prop :=
  ∃ s : String, v = .text s ∧ Timestamp.read s.toList = .ok t

end Value

/-- The value of a kind that a JSON value stands for. Numbers are within range by their types, but for
places, which have 64 bits. -/
def Scalar.Means : (kind : Scalar) → kind.Carrier → Value → Prop
  | text, x, v => v = .text x
  | optionalText, none, v => v = .null
  | optionalText, some x, v => v = .text x
  | flag, x, v => v = .flag x
  | count, x, v => v.IsNatural x.toNat
  | id, x, v => v.IsNatural x.toNat
  | place, x, v => v.IsNatural x ∧ x < UInt64.size
  | balance, x, v => v.IsInteger x.toInt
  | moment, x, v => v.IsMoment x

def valuesOf (name : String) (pairs : List (String × Value)) : List Value :=
  (pairs.filter fun pair => pair.1 = name).map Prod.snd

/-- The value of a member that the values with its name in an object stand for: the one there is, or, if
there is none, the one that the member has when it is not mentioned. -/
def Member.Means (m : Member) (x : m.kind.Carrier) : List Value → Prop
  | [] => m.unmentioned = some x
  | [v] => m.kind.Means x v
  | _ => False

/-- A member that must be there, be the record an object or a list. -/
def Member.IsRequired (m : Member) : Prop :=
  m.unmentioned = none ∧ m.cutOff = none

/-- The row that the members of an object stand for. Other members and the order make no difference. -/
def Row.InObject : (members : List Member) → Row members → List (String × Value) → Prop
  | [], _, _ => True
  | m :: rest, (x, row), pairs => m.Means x (valuesOf m.name pairs) ∧ Row.InObject rest row pairs

/-- The row that the elements of a list stand for, member by member. Where the list is over, the members
left have the values that stand for being cut off. -/
def Row.InList : (members : List Member) → Row members → List Value → Prop
  | [], _, elements => elements = []
  | m :: rest, (x, row), [] => m.cutOff = some x ∧ Row.InList rest row []
  | m :: rest, (x, row), v :: elements => m.kind.Means x v ∧ Row.InList rest row elements

def Row.table : (members : List Member) → Row members → List (String × (Value → Prop))
  | [], _ => []
  | m :: rest, (x, row) => (m.name, m.kind.Means x) :: Row.table rest row

/-- The row that a value stands for where a record belongs. -/
def RecordFormat.Means (f : RecordFormat) (row : Row f.members) : Value → Prop
  | .object pairs => Row.InObject f.members row pairs
  | .list elements => Row.InList f.members row elements
  | _ => False

end EquipmentBooking.Json
